import LongBridge.Python.Symbols
import LongBridge.Mapping.VendoredKit

namespace LongBridge.Mapping
open Effects

-- The fields with which either side keeps a plan from being executed.
def blockFields : List String := ["no_execute","risk_gate","no_order","execution_authorized","risk_flags"]

def Unmarked (fields : Fields) : Prop := ∀ key ∈ blockFields, fields.lookup key = none

-- What the mapper relies on: the plan builder marks nothing by itself, and weights
-- become values without a change to flags or diagnostics.
structure Plain (kit : Kit) : Prop where
  execution : ∀ {decision profile inputs annotations other plan},
    kit.valueTargetRuntimePlan decision profile inputs annotations (resolveLayout other) = .ok plan →
      Unmarked plan.execution.fields
  allocation : ∀ {decision profile inputs annotations other plan},
    kit.valueTargetRuntimePlan decision profile inputs annotations (resolveLayout other) = .ok plan →
      Unmarked plan.allocation.fields
  translated : ∀ {decision equity values}, kit.translateToValues decision equity = .ok values →
    values.riskFlags = decision.riskFlags ∧ values.diagnostics = decision.diagnostics

-- What a decision and the account must say for its targets to be executed.
structure Approved (kit : Kit) (request : Request) (decision : StrategyDecision) : Prop where
  flags : ∃ texts : List String, decision.riskFlags = .tuple (texts.map .str) ∧
    "no_execute" ∉ texts ∧ ∀ flag ∈ texts, startsWith flag "rejected:" = false
  gate : decision.diagnostics.get "risk_gate" = .str "APPROVE"
  orders : decision.diagnostics.get "no_order" ≠ .bool true
  authorized : decision.diagnostics.get "execution_authorized" ≠ .bool false
  target : kit.decisionTargetMode decision = .ok (some .value) ∨
    (kit.decisionTargetMode decision = .ok (some .weight) ∧ ∃ inputs equity,
      buildPortfolioInputs kit request (cashOnlyExecution request.runtimeMetadata) = .ok inputs ∧
      kit.weightTranslationEquity inputs (cashOnlyExecution request.runtimeMetadata) = .ok equity ∧
      equity.blockExecution = false)

theorem isBool_iff (value : PyVal) (expected : Bool) : Cycle.isBool value expected = true ↔ value = .bool expected := by
  cases value <;> simp [Cycle.isBool]

theorem isStr_iff (value : PyVal) (expected : String) : value.isStr expected = true ↔ value = .str expected := by
  cases value <;> simp [PyVal.isStr]

theorem flagsAreTexts_iff (flags : PyVal) :
    flagsAreTexts flags = true ↔ ∃ texts : List String, flags = .tuple (texts.map .str) := by
  constructor
  · intro checked
    cases flags with
    | tuple items =>
      simp only [flagsAreTexts,List.all_eq_true] at checked
      have same : ∀ item ∈ items, PyVal.str item.text = item := by
        intro item member
        have one := checked item member
        cases item <;> simp_all [PyVal.text]
      refine ⟨items.map PyVal.text,?_⟩
      rw [List.map_map]
      exact congrArg _ ((List.map_congr_left same).trans (List.map_id' items)).symm
    | _ => simp [flagsAreTexts] at checked
  · rintro ⟨texts,rfl⟩
    simp [flagsAreTexts]

-- The mapper's block test on flags that are texts.
def blocksBy (texts : List String) (diagnostics : Fields) : Bool :=
  texts.contains "no_execute" || texts.any (startsWith · "rejected:") ||
    Cycle.isBool (diagnostics.get "no_order") true || Cycle.isBool (diagnostics.get "execution_authorized") false ||
    upper (strip (diagnostics.get "risk_gate").textOrEmpty) == "REJECT"

theorem texts_of_strs (texts : List String) : (texts.map PyVal.str).map PyVal.text = texts := by
  rw [List.map_map]
  exact (List.map_congr_left fun text _ => rfl).trans (List.map_id' texts)

theorem decisionBlocks_texts {decision : StrategyDecision} {texts : List String}
    (flags : decision.riskFlags = .tuple (texts.map .str)) :
    decisionBlocksExecution decision = .ok (blocksBy texts decision.diagnostics) := by
  have rejected : ((texts.map PyVal.str).any fun flag => startsWith flag.text "rejected:") =
      texts.any (startsWith · "rejected:") := by rw [List.any_map]; rfl
  unfold decisionBlocksExecution blocksBy
  rw [flags]
  simp only [PyVal.iterate,bind,Except.bind,texts_of_strs,rejected]
  split_ifs <;> simp_all [pure,Except.pure]

theorem blocksBy_approved {texts : List String} {diagnostics : Fields}
    (gate : diagnostics.get "risk_gate" = .str "APPROVE") :
    blocksBy texts diagnostics = false ↔ ("no_execute" ∉ texts ∧ ∀ flag ∈ texts, startsWith flag "rejected:" = false) ∧
      diagnostics.get "no_order" ≠ .bool true ∧ diagnostics.get "execution_authorized" ≠ .bool false := by
  have approve : (upper (strip (PyVal.str "APPROVE").textOrEmpty) == "REJECT") = false := by decide
  have ordered := isBool_iff (diagnostics.get "no_order") true
  have authorized := isBool_iff (diagnostics.get "execution_authorized") false
  unfold blocksBy
  rw [gate,approve]
  simp only [Bool.or_eq_false_iff,and_true,List.any_eq_false,Bool.not_eq_true,← Bool.not_eq_true (List.contains _ _),
    List.contains_iff_mem]
  rw [← Bool.not_eq_true (Cycle.isBool _ true),← Bool.not_eq_true (Cycle.isBool _ false),ordered,authorized]
  tauto

theorem unmarked_set {fields : Fields} (unmarked : Unmarked fields) {key : String} (value : PyVal)
    (other : key ∉ blockFields) : Unmarked (fields.set key value) := by
  intro name member
  have unlike : name ≠ key := by rintro rfl; exact other member
  rw [Fields.lookup_set_other fields value unlike]
  exact unmarked name member

theorem attachListed_unmarked {names : List String} (diagnostics : Fields) {plan : RuntimePlan}
    (apart : ∀ name ∈ names, name ∉ blockFields) (unmarked : Unmarked plan.execution.fields) :
    Unmarked (attachListed names diagnostics plan).execution.fields := by
  unfold attachListed
  simp only
  generalize plan.execution.fields = fields at unmarked ⊢
  induction names generalizing fields with
  | nil => exact unmarked
  | cons name rest ih =>
    rw [List.foldl_cons]
    refine ih (fun other member => apart other (List.mem_cons_of_mem _ member)) _ ?_
    split
    · exact unmarked
    · exact unmarked_set unmarked _ (apart name (List.mem_cons_self ..))

theorem profileFields_unmarked {kit : Kit} {profile : String} {names : List String} {runtimeMetadata : Fields}
    {decision : StrategyDecision} {plan result : RuntimePlan}
    (attached : attachProfileFields kit profile names runtimeMetadata decision plan = .ok result)
    (apart : ∀ name ∈ names, name ∉ blockFields) (unmarked : Unmarked plan.execution.fields) :
    Unmarked result.execution.fields ∧ result.allocation = plan.allocation := by
  obtain ⟨own,_,same⟩ := bind_ok.mp attached
  rw [return_ok] at same
  subst same
  split
  · exact ⟨attachListed_unmarked _ apart unmarked,rfl⟩
  · exact ⟨unmarked,rfl⟩

theorem markFlags_other (flags : List PyVal) (execution : Fields) {key : String} (unlike : key ≠ "risk_flags") :
    (markFlags flags execution).lookup key = execution.lookup key := by
  unfold markFlags
  split
  · rfl
  · exact Fields.lookup_set_other _ _ unlike

theorem markGate_other (gate : PyVal) (execution : Fields) {key : String} (unlike : key ≠ "risk_gate") :
    (markGate gate execution).lookup key = execution.lookup key := by
  unfold markGate
  split
  · rfl
  · exact Fields.lookup_set_other _ _ unlike

theorem copyMarker_other (diagnostics execution : Fields) {marker key : String} (unlike : key ≠ marker) :
    (copyMarker diagnostics marker execution).lookup key = execution.lookup key := by
  unfold copyMarker
  split
  · exact Fields.lookup_set_other _ _ unlike
  · rfl

theorem markBlocked_other (blocked : Bool) (execution : Fields) {key : String} (unlike : key ≠ "no_execute") :
    (markBlocked blocked execution).lookup key = execution.lookup key := by
  unfold markBlocked
  split
  · exact Fields.lookup_set_other _ _ unlike
  · rfl

theorem markFlags_get {texts : List String} {execution : Fields} (absent : execution.lookup "risk_flags" = none) :
    (markFlags (texts.map .str) execution).get "risk_flags" =
      if texts.isEmpty then .none else .tuple (texts.map PyVal.str) := by
  have same : (texts.map PyVal.str).map (fun flag => PyVal.str flag.text) = texts.map PyVal.str := by
    rw [List.map_map]
    exact List.map_congr_left fun text _ => rfl
  unfold markFlags
  rw [same,List.isEmpty_map]
  split
  · rw [Fields.get,absent]; rfl
  · exact Fields.get_set_same ..

theorem markGate_isStr {gate : PyVal} {execution : Fields} (absent : execution.lookup "risk_gate" = none) :
    ((markGate gate execution).get "risk_gate").isStr "APPROVE" = gate.isStr "APPROVE" := by
  unfold markGate
  split
  · rename_i blank
    rw [Fields.get,absent]
    cases gate with
    | str text =>
      have empty : text = "" := by simpa [PyVal.isBlank,PyVal.text] using blank
      subst empty; rfl
    | _ => rfl
  · rw [Fields.get_set_same]

theorem copyMarker_get (diagnostics execution : Fields) {marker : String} (absent : execution.lookup marker = none) :
    (copyMarker diagnostics marker execution).get marker = diagnostics.get marker := by
  unfold copyMarker
  split
  · exact Fields.get_set_same ..
  · rename_i missing
    rw [Fields.has,Bool.not_eq_true,Option.isSome_eq_false_iff,Option.isNone_iff_eq_none] at missing
    rw [Fields.get,Fields.get,absent,missing]

theorem markBlocked_truthy {blocked : Bool} {execution : Fields} (absent : execution.lookup "no_execute" = none) :
    ((markBlocked blocked execution).get "no_execute").truthy = blocked := by
  unfold markBlocked
  split
  · rename_i marked
    rw [Fields.get_set_same,marked]; rfl
  · rename_i unset
    rw [Fields.get,absent]
    exact (Bool.not_eq_true _ ▸ unset).symm

theorem flagged_riskFlags {fields : Fields} {texts : List String} (flagged : fields.get "risk_flags" =
    if texts.isEmpty then .none else .tuple (texts.map PyVal.str)) : Cycle.riskFlags fields = .ok texts := by
  unfold Cycle.riskFlags
  rw [flagged]
  cases texts with
  | nil => rfl
  | cons flag rest =>
    have same := texts_of_strs (flag :: rest)
    rw [List.map_cons,List.map_cons] at same
    simp [PyVal.truthy,PyVal.iterate,bind,Except.bind,pure,Except.pure] at same ⊢
    exact same

-- The fields the mapper leaves, key by key.
structure Attached (texts : List String) (diagnostics fields : Fields) : Prop where
  noExecute : (fields.get "no_execute").truthy = blocksBy texts diagnostics
  gate : (fields.get "risk_gate").isStr "APPROVE" = (diagnostics.get "risk_gate").isStr "APPROVE"
  orders : fields.get "no_order" = diagnostics.get "no_order"
  authorized : fields.get "execution_authorized" = diagnostics.get "execution_authorized"
  flags : Cycle.riskFlags fields = .ok texts

theorem payloadBlocked_attached {texts : List String} {diagnostics fields : Fields}
    (attached : Attached texts diagnostics fields) (gate : (diagnostics.get "risk_gate").isStr "APPROVE" = true) :
    Cycle.payloadBlocked fields = .ok (blocksBy texts diagnostics) := by
  unfold Cycle.payloadBlocked
  rw [attached.noExecute,attached.gate,gate,attached.orders,attached.authorized,attached.flags]
  cases blocks : blocksBy texts diagnostics with
  | true => rfl
  | false =>
    simp only [blocksBy,Bool.or_eq_false_iff] at blocks
    simp [blocks.1.1.2,blocks.1.2,bind,Except.bind,pure,Except.pure]
    exact ⟨by simpa using blocks.1.1.1.1,by simpa using blocks.1.1.1.2⟩

theorem payloadBlocked_unmarked {fields : Fields} (unmarked : Unmarked fields) : Cycle.payloadBlocked fields = .ok false := by
  have absent : ∀ key ∈ blockFields, fields.get key = .none := fun key member => by
    rw [Fields.get,unmarked key member]; rfl
  unfold Cycle.payloadBlocked Cycle.riskFlags
  rw [absent "no_execute" (by decide),absent "no_order" (by decide),absent "execution_authorized" (by decide),
    absent "risk_flags" (by decide),Fields.has,unmarked "risk_gate" (by decide)]
  rfl

theorem attach_fields {normalized : StrategyDecision} {plan result : RuntimePlan} {texts : List String}
    (flags : normalized.riskFlags = .tuple (texts.map .str)) (unmarked : Unmarked plan.execution.fields)
    (attached : attachExecutionBlockFields normalized plan = .ok result) :
    Attached texts normalized.diagnostics result.execution.fields ∧ result.allocation = plan.allocation := by
  unfold attachExecutionBlockFields at attached
  rw [decisionBlocks_texts flags,flags] at attached
  simp only [PyVal.iterate,bind,Except.bind,pure,Except.pure,Except.ok.injEq] at attached
  subst attached
  have absent := fun key (member : key ∈ blockFields) => unmarked key member
  refine ⟨?_,rfl⟩
  constructor
  · refine markBlocked_truthy ?_
    rw [copyMarker_other _ _ (by decide),copyMarker_other _ _ (by decide),markGate_other _ _ (by decide),
      markFlags_other _ _ (by decide)]
    exact absent _ (by decide)
  · rw [Fields.get,markBlocked_other _ _ (by decide),copyMarker_other _ _ (by decide),copyMarker_other _ _ (by decide)]
    refine markGate_isStr ?_
    rw [markFlags_other _ _ (by decide)]
    exact absent _ (by decide)
  · rw [Fields.get,markBlocked_other _ _ (by decide),copyMarker_other _ _ (by decide)]
    refine copyMarker_get _ _ ?_
    rw [markGate_other _ _ (by decide),markFlags_other _ _ (by decide)]
    exact absent _ (by decide)
  · rw [Fields.get,markBlocked_other _ _ (by decide)]
    refine copyMarker_get _ _ ?_
    rw [copyMarker_other _ _ (by decide),markGate_other _ _ (by decide),markFlags_other _ _ (by decide)]
    exact absent _ (by decide)
  · refine flagged_riskFlags ?_
    rw [Fields.get,markBlocked_other _ _ (by decide),copyMarker_other _ _ (by decide),copyMarker_other _ _ (by decide),
      markGate_other _ _ (by decide)]
    exact markFlags_get (absent _ (by decide))

-- The block test and the gate of a decision, as the executor will find them again.
def stopped (texts : List String) (diagnostics : Fields) : Bool :=
  blocksBy texts diagnostics || !(diagnostics.get "risk_gate").isStr "APPROVE"

-- The executor reads back from the attached fields what the mapper's test found.
theorem attached_blocks {texts : List String} {diagnostics : Fields} {plan : Cycle.Plan}
    (fields : Attached texts diagnostics plan.execution.fields) (allocation : Unmarked plan.allocation.fields) :
    Cycle.executionIsBlocked plan plan.execution plan.allocation = .ok (stopped texts diagnostics) := by
  unfold Cycle.executionIsBlocked stopped
  rw [fields.gate]
  cases gate : (diagnostics.get "risk_gate").isStr "APPROVE" with
  | false => simp
  | true =>
    have own := payloadBlocked_attached fields gate
    have other := payloadBlocked_unmarked allocation
    cases blocks : blocksBy texts diagnostics <;>
      simp [anyOk,own,other,blocks,bind,Except.bind,pure,Except.pure]

theorem keptFlags_texts (texts kept : List String) :
    (texts.map PyVal.str).foldl (fun kept flag => if kept.any (·.same flag) then kept else kept ++ [flag])
      (kept.map PyVal.str) =
      (texts.foldl (fun kept text => if kept.contains text then kept else kept ++ [text]) kept).map PyVal.str := by
  induction texts generalizing kept with
  | nil => rfl
  | cons text rest ih =>
    have same : ((kept.map PyVal.str).any fun flag => flag.same (.str text)) = kept.contains text := by
      rw [List.any_map,List.contains_eq_any_beq]
      refine List.any_congr rfl fun flag => ?_
      simp [PyVal.same,Bool.beq_comm]
    rw [List.map_cons,List.foldl_cons,List.foldl_cons,same]
    split
    · exact ih kept
    · rw [← ih (kept ++ [text]),List.map_append]; rfl

theorem withNoExecute_texts {flags marked : PyVal} {texts : List String} (read : flags = .tuple (texts.map .str))
    (ran : withNoExecute flags = .ok marked) :
    ∃ more : List String, marked = .tuple (more.map .str) ∧ "no_execute" ∈ more := by
  subst read
  simp only [withNoExecute,PyVal.iterate,bind,Except.bind,pure,Except.pure,Except.ok.injEq] at ran
  refine ⟨distinct (texts ++ ["no_execute"]),?_,mem_distinct.mpr (List.mem_append_right _ (List.mem_cons_self ..))⟩
  have all := keptFlags_texts (texts ++ ["no_execute"]) []
  rw [List.map_append] at all
  exact ran.symm.trans (congrArg _ all)

theorem noExecute_blocks {texts : List String} (diagnostics : Fields) (marked : "no_execute" ∈ texts) :
    blocksBy texts diagnostics = true := by
  simp [blocksBy,marked]

theorem stopped_of_same {texts : List String} {one two : Fields} (same : ∀ key ∈ blockFields, one.get key = two.get key) :
    stopped texts one = stopped texts two := by
  unfold stopped blocksBy
  rw [same "no_order" (by decide),same "execution_authorized" (by decide),same "risk_gate" (by decide)]

theorem blockedDecision_stops {mode : Option TargetMode} {decision normalized : StrategyDecision} {inputs : PortfolioInputs}
    {runtimeMetadata : Fields} {found : Option Annotations} {texts : List String}
    (flags : decision.riskFlags = .tuple (texts.map .str))
    (ran : blockedDecision mode decision inputs runtimeMetadata = .ok (normalized,found)) :
    ∃ more : List String, normalized.riskFlags = .tuple (more.map .str) ∧ stopped more normalized.diagnostics = true := by
  unfold blockedDecision at ran
  split at ran
  · obtain ⟨riskFlags,marked,same⟩ := bind_ok.mp ran
    cases same
    obtain ⟨more,read,member⟩ := withNoExecute_texts flags marked
    exact ⟨more,read,by rw [stopped,noExecute_blocks _ member,Bool.true_or]⟩
  · obtain ⟨held,built,rest⟩ := bind_ok.mp ran
    obtain ⟨annotations,_,same⟩ := bind_ok.mp rest
    cases same
    obtain ⟨riskFlags,marked,equal⟩ := bind_ok.mp built
    cases equal
    obtain ⟨more,read,member⟩ := withNoExecute_texts flags marked
    exact ⟨more,read,by rw [stopped,noExecute_blocks _ member,Bool.true_or]⟩

theorem weightDecision_stops {kit : Kit} (plain : Plain kit) {decision normalized : StrategyDecision}
    {inputs : PortfolioInputs} {runtimeMetadata : Fields} {cashOnly : Bool} {found : Option Annotations}
    {texts : List String} (flags : decision.riskFlags = .tuple (texts.map .str))
    (ran : weightDecision kit decision inputs runtimeMetadata cashOnly = .ok (normalized,found)) :
    ∃ equity, kit.weightTranslationEquity inputs cashOnly = .ok equity ∧
      ∃ more : List String, normalized.riskFlags = .tuple (more.map .str) ∧
        stopped more normalized.diagnostics = (equity.blockExecution || stopped texts decision.diagnostics) := by
  obtain ⟨equity,resolved,rest⟩ := bind_ok.mp ran
  refine ⟨equity,resolved,?_⟩
  cases blocks : equity.blockExecution with
  | true =>
    simp only [blocks,if_true] at rest
    obtain ⟨emptied,built,more⟩ := bind_ok.mp rest
    obtain ⟨annotations,_,same⟩ := bind_ok.mp more
    cases same
    obtain ⟨riskFlags,marked,equal⟩ := bind_ok.mp built
    cases equal
    obtain ⟨more,read,member⟩ := withNoExecute_texts flags marked
    exact ⟨more,read,by rw [stopped,noExecute_blocks _ member,Bool.true_or,Bool.true_or]⟩
  | false =>
    simp only [blocks,Bool.false_eq_true,if_false] at rest
    obtain ⟨translated,values,more⟩ := bind_ok.mp rest
    obtain ⟨annotations,_,same⟩ := bind_ok.mp more
    cases same
    obtain ⟨sameFlags,sameDiagnostics⟩ := plain.translated values
    refine ⟨texts,?_,?_⟩
    · rw [sameFlags]
      split <;> exact flags
    · rw [Bool.false_or,sameDiagnostics]
      refine stopped_of_same fun key member => ?_
      split
      · have other : Fields.has [("cash_only_deleverage_mode",.bool true)] key = false := by
          revert key member; decide
        simp only [Fields.get_merge,other,Bool.false_eq_true,if_false]
      · rfl

-- The target a decision must have to keep its flags and its diagnostics.
def Targets (kit : Kit) (decision : StrategyDecision) (inputs : PortfolioInputs) (cashOnly : Bool) : Prop :=
  kit.decisionTargetMode decision = .ok (some .value) ∨
    (kit.decisionTargetMode decision = .ok (some .weight) ∧ ∃ equity,
      kit.weightTranslationEquity inputs cashOnly = .ok equity ∧ equity.blockExecution = false)

theorem normalized_stops {kit : Kit} (plain : Plain kit) {decision normalized : StrategyDecision}
    {inputs : PortfolioInputs} {runtimeMetadata : Fields} {cashOnly : Bool} {found : Option Annotations}
    {texts : List String} (flags : decision.riskFlags = .tuple (texts.map .str))
    (ran : normalizeToValueTargetDecision kit decision inputs runtimeMetadata cashOnly = .ok (normalized,found)) :
    ∃ more : List String, normalized.riskFlags = .tuple (more.map .str) ∧
      (stopped more normalized.diagnostics = false ↔
        stopped texts decision.diagnostics = false ∧ Targets kit decision inputs cashOnly) := by
  unfold normalizeToValueTargetDecision at ran
  rw [decisionBlocks_texts flags] at ran
  obtain ⟨mode,resolved,rest⟩ := bind_ok.mp ran
  unfold Targets
  rw [resolved]
  simp only [bind,Except.bind] at rest
  cases blocks : blocksBy texts decision.diagnostics with
  | true =>
    rw [blocks,if_pos rfl] at rest
    obtain ⟨more,read,stops⟩ := blockedDecision_stops flags rest
    refine ⟨more,read,?_⟩
    rw [stops,stopped,blocks]
    simp
  | false =>
    rw [blocks,if_neg Bool.false_ne_true] at rest
    cases mode with
    | none =>
      obtain ⟨held,built,last⟩ := bind_ok.mp rest
      obtain ⟨annotations,_,same⟩ := bind_ok.mp last
      cases same
      cases built
      exact ⟨[],rfl,by simp [stopped,Fields.get,PyVal.isStr]⟩
    | some mode =>
      cases mode with
      | value =>
        cases rest
        exact ⟨texts,flags,by simp⟩
      | weight =>
        obtain ⟨equity,answer,more,read,stops⟩ := weightDecision_stops plain flags rest
        exact ⟨more,read,by simp [stops,answer,and_comm]⟩

theorem attachFields_attached {kit : Kit} {request : Request} {normalized : StrategyDecision} {plan result : RuntimePlan}
    {texts : List String} (flags : normalized.riskFlags = .tuple (texts.map .str))
    (execution : Unmarked plan.execution.fields) (attached : attachFields kit request normalized plan = .ok result) :
    Attached texts normalized.diagnostics result.execution.fields ∧ result.allocation = plan.allocation := by
  obtain ⟨balances,_,rest⟩ := bind_ok.mp attached
  obtain ⟨tqqq,first,rest⟩ := bind_ok.mp rest
  obtain ⟨soxl,second,last⟩ := bind_ok.mp rest
  have regime : Unmarked (attachMarketRegimeControlExecutionFields request.runtimeMetadata normalized
      (attachSnapshotDiagnostics request.runtimeMetadata normalized
        { plan with cashByCurrency := balances })).execution.fields :=
    attachListed_unmarked _ (by decide) (attachListed_unmarked _ (by decide) execution)
  obtain ⟨tqqqUnmarked,tqqqSame⟩ := profileFields_unmarked first (by decide) regime
  obtain ⟨soxlUnmarked,soxlSame⟩ := profileFields_unmarked second (by decide) tqqqUnmarked
  obtain ⟨fields,same⟩ := attach_fields flags soxlUnmarked last
  refine ⟨fields,?_⟩
  rw [same,soxlSame,tqqqSame]
  rfl

theorem rejected_stops (diagnostics : Fields) : stopped ["rejected:invalid_risk_flags"] diagnostics = true := by
  have flag : startsWith "rejected:invalid_risk_flags" "rejected:" = true := by decide
  have rejects : blocksBy ["rejected:invalid_risk_flags"] diagnostics = true := by simp [blocksBy,flag]
  rw [stopped,rejects,Bool.true_or]

theorem checked_of_texts {decision : StrategyDecision} {texts : List String}
    (flags : decision.riskFlags = .tuple (texts.map .str)) : checkedDecision decision = decision :=
  if_pos ((flagsAreTexts_iff _).mpr ⟨texts,flags⟩)

theorem checked_flags (decision : StrategyDecision) : ∃ texts : List String,
    (checkedDecision decision).riskFlags = .tuple (texts.map .str) ∧
      (decision.riskFlags = .tuple (texts.map .str) ∨ stopped texts (checkedDecision decision).diagnostics = true) := by
  cases checked : flagsAreTexts decision.riskFlags with
  | true =>
    obtain ⟨texts,flags⟩ := (flagsAreTexts_iff _).mp checked
    exact ⟨texts,by rw [checked_of_texts flags,flags],.inl flags⟩
  | false =>
    refine ⟨["rejected:invalid_risk_flags"],?_,.inr (rejected_stops _)⟩
    rw [checkedDecision,checked]; rfl

theorem approved_of_texts {kit : Kit} {request : Request} {decision : StrategyDecision} {inputs : PortfolioInputs}
    {texts : List String} (flags : decision.riskFlags = .tuple (texts.map .str))
    (held : buildPortfolioInputs kit request (cashOnlyExecution request.runtimeMetadata) = .ok inputs) :
    (stopped texts decision.diagnostics = false ∧
      Targets kit decision inputs (cashOnlyExecution request.runtimeMetadata)) ↔ Approved kit request decision := by
  have injective : Function.Injective PyVal.str := fun one two same => PyVal.str.inj same
  constructor
  · rintro ⟨running,target⟩
    obtain ⟨clear,gated⟩ := Bool.or_eq_false_iff.mp running
    have gate := (isStr_iff _ _).mp ((Bool.not_eq_false' _).mp gated)
    obtain ⟨free,orders,authorized⟩ := (blocksBy_approved gate).mp clear
    refine ⟨⟨texts,flags,free⟩,gate,orders,authorized,target.imp_right ?_⟩
    rintro ⟨mode,equity,answer,runs⟩
    exact ⟨mode,inputs,equity,held,answer,runs⟩
  · rintro ⟨⟨others,same,free⟩,gate,orders,authorized,target⟩
    have equal : texts = others := by
      rw [flags,PyVal.tuple.injEq] at same
      exact (List.map_injective_iff.mpr injective) same
    subst equal
    refine ⟨?_,target.imp_right ?_⟩
    · rw [stopped,(blocksBy_approved gate).mpr ⟨free,orders,authorized⟩,gate]; decide
    · rintro ⟨mode,other,equity,read,answer,runs⟩
      rw [held,Except.ok.injEq] at read
      subst read
      exact ⟨mode,equity,answer,runs⟩

-- The executor runs exactly the plans of approved decisions, and it never raises on a mapped plan.
theorem mapped_plan_is_executable_exactly (kit : Kit) (plain : Plain kit) (request : Request)
    (decision : StrategyDecision) (plan : RuntimePlan) (mapped : mapStrategyDecisionToPlan kit request decision = .ok plan) :
    ∃ blocked, Cycle.executionIsBlocked plan.toPlan plan.execution plan.allocation = .ok blocked ∧
      (blocked = false ↔ Approved kit request decision) := by
  obtain ⟨profile,_,rest⟩ := bind_ok.mp mapped
  obtain ⟨inputs,held,rest⟩ := bind_ok.mp rest
  obtain ⟨⟨normalized,found⟩,normal,rest⟩ := bind_ok.mp rest
  obtain ⟨annotations,_,rest⟩ := bind_ok.mp rest
  obtain ⟨reserved,_,rest⟩ := bind_ok.mp rest
  obtain ⟨layoutProfile,_,rest⟩ := bind_ok.mp rest
  obtain ⟨built,planned,attached⟩ := bind_ok.mp rest
  obtain ⟨texts,flags,origin⟩ := checked_flags decision
  obtain ⟨more,read,stops⟩ := normalized_stops plain flags normal
  obtain ⟨fields,same⟩ := attachFields_attached read (plain.execution planned) attached
  have allocation : Unmarked plan.allocation.fields := by rw [same]; exact plain.allocation planned
  refine ⟨_,attached_blocks fields allocation,stops.trans ?_⟩
  rcases origin with own | malformed
  · rw [checked_of_texts own]
    exact approved_of_texts own held
  · constructor
    · rintro ⟨running,_⟩
      rw [malformed] at running; cases running
    · intro approved
      obtain ⟨others,same,_⟩ := approved.flags
      have unchanged := checked_of_texts same
      rw [unchanged] at flags malformed ⊢
      exact (approved_of_texts flags held).mpr approved

theorem payloadField_key {annotations : Annotations} {layout : Layout} {key : String} {entry : String × PyVal}
    (member : entry ∈ payloadField annotations layout key) : entry.1 = key := by
  unfold payloadField at member
  simp only at member
  split at member
  · split at member
    · cases member
    · cases List.mem_singleton.mp member; rfl
  · cases List.mem_singleton.mp member; rfl
  · split at member
    · cases member
    · cases List.mem_singleton.mp member; rfl

theorem lookup_none {fields : Fields} {key : String} (apart : ∀ entry ∈ fields, entry.1 ≠ key) :
    fields.lookup key = none := by
  rw [List.lookup_eq_none_iff]
  intro entry member
  simpa using fun same : key = entry.1 => apart entry member same.symm

theorem layout_unmarked (profile : String) : ∀ key ∈ blockFields, key ∉ (resolveLayout profile).executionFields := by
  unfold resolveLayout
  split <;> decide

theorem vendoredKit_plain : Plain vendoredKit := by
  constructor
  · intro decision profile inputs annotations other plan built key member
    simp only [vendoredKit,valueTargetRuntimePlan] at built
    split_ifs at built
    cases built
    refine lookup_none fun entry among same => ?_
    obtain ⟨name,listed,own⟩ := List.mem_flatMap.mp among
    have named := (payloadField_key own).symm.trans same
    rw [named] at listed
    exact layout_unmarked other key member (List.mem_filter.mp listed).1
  · intro decision profile inputs annotations other plan built key member
    simp only [vendoredKit,valueTargetRuntimePlan] at built
    split_ifs at built
    cases built
    refine lookup_none fun entry among same => ?_
    have marked : entry.1 ∉ blockFields := by
      simp only [List.mem_cons,List.not_mem_nil,or_false] at among
      rcases among with rfl | rfl <;> simp [blockFields]
    exact marked (same ▸ member)
  · intro decision equity values translated
    simp only [vendoredKit,translateToValues] at translated
    split_ifs at translated
    cases translated
    exact ⟨rfl,rfl⟩

def approvedDecision : StrategyDecision :=
  ⟨[⟨"SPY",none,some 400,none,none⟩],.tuple [],.tuple [.str "watch"],
    [("risk_gate",.str "APPROVE"),("trade_threshold_value",.int 10)]⟩

def cashRequest : Request :=
  ⟨none,some ⟨[],500,some 500,none,[]⟩,"soxl_soxx_trend_income",[]⟩

-- A flag that neither rejects nor forbids leaves the plan executable.
theorem approved_decision_is_executable : ∃ plan,
    mapStrategyDecisionToPlan vendoredKit cashRequest approvedDecision = .ok plan ∧
      ∃ blocked, Cycle.executionIsBlocked plan.toPlan plan.execution plan.allocation = .ok blocked ∧
        (blocked = false ↔ Approved vendoredKit cashRequest approvedDecision) :=
  ⟨_,rfl,mapped_plan_is_executable_exactly vendoredKit vendoredKit_plain cashRequest approvedDecision _ rfl⟩

end LongBridge.Mapping
