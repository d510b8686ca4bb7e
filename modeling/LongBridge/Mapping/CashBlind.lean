import LongBridge.Mapping.Executable
import LongBridge.Mapping.Frozen

namespace LongBridge.Mapping
open Effects

def annotationsIn (diagnostics : Fields) : Fields := (diagnostics.get "execution_annotations").asMapping.getD []

-- Diagnostics that differ in the investable cash of their execution annotations only.
structure Similar (one two : Fields) : Prop where
  outside : ∀ key, key ≠ "execution_annotations" → one.lookup key = two.lookup key
  kept : one.has "execution_annotations" = two.has "execution_annotations"
  inside : ∀ key, key ≠ "investable_cash" → (annotationsIn one).lookup key = (annotationsIn two).lookup key

structure Alike (one two : StrategyDecision) : Prop where
  positions : one.positions = two.positions
  budgets : one.budgets = two.budgets
  riskFlags : one.riskFlags = two.riskFlags
  diagnostics : Similar one.diagnostics two.diagnostics

def RuntimePlan.withCash (plan : RuntimePlan) (cash : ℚ) : RuntimePlan :=
  { plan with execution := { plan.execution with investableCash := cash } }

theorem similar_refl (fields : Fields) : Similar fields fields := ⟨fun _ _ => rfl,rfl,fun _ _ => rfl⟩

theorem Similar.get {one two : Fields} (similar : Similar one two) (key : String) (other : key ≠ "execution_annotations") :
    one.get key = two.get key := by rw [Fields.get,Fields.get,similar.outside key other]

theorem Similar.has {one two : Fields} (similar : Similar one two) (key : String) : one.has key = two.has key := by
  by_cases same : key = "execution_annotations"
  · subst same; exact similar.kept
  · rw [Fields.has,Fields.has,similar.outside key same]

theorem annotationsIn_merge (base extra : Fields) :
    annotationsIn (base.merge extra) = if extra.has "execution_annotations" then annotationsIn extra else annotationsIn base := by
  unfold annotationsIn
  rw [Fields.get_merge]
  split <;> rfl

theorem Similar.merge {base other extra more : Fields} (one : Similar base other) (two : Similar extra more) :
    Similar (base.merge extra) (other.merge more) := by
  constructor
  · intro key unlike
    rw [Fields.lookup_merge,Fields.lookup_merge,one.outside key unlike,two.outside key unlike]
  · have added := two.kept
    have held := one.kept
    unfold Fields.has at added held ⊢
    rw [Fields.lookup_merge,Fields.lookup_merge,Option.isSome_or,Option.isSome_or,added,held]
  · intro key unlike
    rw [annotationsIn_merge,annotationsIn_merge,two.kept]
    split
    · exact two.inside key unlike
    · exact one.inside key unlike

theorem Similar.annotations {metadata other diagnostics more : Fields} (one : Similar metadata other)
    (two : Similar diagnostics more) {key : String} (unlike : key ≠ "investable_cash") :
    (mergedExecutionAnnotations metadata diagnostics).lookup key =
      (mergedExecutionAnnotations other more).lookup key := by
  unfold mergedExecutionAnnotations
  rw [Fields.lookup_merge,Fields.lookup_merge]
  exact congrArg₂ _ (two.inside key unlike) (one.inside key unlike)

theorem Similar.annotated {metadata other : Fields} (one : Similar metadata other) {decision twin : StrategyDecision}
    (alike : Alike decision twin) {key : String} (outer : key ≠ "execution_annotations") (inner : key ≠ "investable_cash") :
    (annotatedDiagnostics metadata decision).get key = (annotatedDiagnostics other twin).get key := by
  have both := one.merge alike.diagnostics
  change Fields.get ((metadata.merge decision.diagnostics).merge (annotationsIn (metadata.merge decision.diagnostics))) key =
    Fields.get ((other.merge twin.diagnostics).merge (annotationsIn (other.merge twin.diagnostics))) key
  rw [Fields.get,Fields.get,Fields.lookup_merge (metadata.merge _),Fields.lookup_merge (other.merge _),
    both.inside key inner,both.outside key outer]

theorem attachListed_similar (names : List String) {diagnostics more : Fields}
    (same : ∀ name ∈ names, diagnostics.get name = more.get name) (plan : RuntimePlan) (cash : ℚ) :
    attachListed names more (plan.withCash cash) = (attachListed names diagnostics plan).withCash cash := by
  have fields : ∀ fields : Fields,
      names.foldl (fun kept name => if (more.get name).isBlank then kept else kept.set name (more.get name)) fields =
        names.foldl (fun kept name => if (diagnostics.get name).isBlank then kept else kept.set name (diagnostics.get name))
          fields := by
    intro fields
    induction names generalizing fields with
    | nil => rfl
    | cons name rest ih =>
      rw [List.foldl_cons,List.foldl_cons,same name (List.mem_cons_self ..)]
      exact ih (fun other member => same other (List.mem_cons_of_mem _ member)) _
  unfold attachListed RuntimePlan.withCash
  simp only [fields]

theorem attachProfileFields_similar {kit : Kit} {profile : String} {names : List String} {metadata other : Fields}
    {decision twin : StrategyDecision} {plan result : RuntimePlan} (cash : ℚ)
    (same : ∀ name ∈ names, (annotatedDiagnostics metadata decision).get name = (annotatedDiagnostics other twin).get name)
    (attached : attachProfileFields kit profile names metadata decision plan = .ok result) :
    attachProfileFields kit profile names other twin (plan.withCash cash) = .ok (result.withCash cash) := by
  obtain ⟨own,canonical,equal⟩ := bind_ok.mp attached
  rw [return_ok] at equal
  refine bind_ok.mpr ⟨own,canonical,return_ok.mpr ?_⟩
  rw [← equal]
  split
  · exact attachListed_similar names same plan cash
  · rfl

theorem decisionBlocks_alike {decision twin : StrategyDecision} (alike : Alike decision twin) :
    decisionBlocksExecution twin = decisionBlocksExecution decision := by
  unfold decisionBlocksExecution
  rw [alike.riskFlags,alike.diagnostics.get "no_order" (by decide),
    alike.diagnostics.get "execution_authorized" (by decide),alike.diagnostics.get "risk_gate" (by decide)]

theorem attachBlockFields_alike {decision twin : StrategyDecision} (alike : Alike decision twin) {plan result : RuntimePlan}
    (cash : ℚ) (attached : attachExecutionBlockFields decision plan = .ok result) :
    attachExecutionBlockFields twin (plan.withCash cash) = .ok (result.withCash cash) := by
  obtain ⟨flags,read,rest⟩ := bind_ok.mp attached
  obtain ⟨blocked,tested,equal⟩ := bind_ok.mp rest
  rw [return_ok] at equal
  rw [alike.riskFlags] at read
  rw [← decisionBlocks_alike alike] at tested
  refine bind_ok.mpr ⟨flags,read,bind_ok.mpr ⟨blocked,tested,return_ok.mpr ?_⟩⟩
  rw [← equal]
  unfold copyMarker
  rw [alike.diagnostics.get "no_order" (by decide),alike.diagnostics.has "no_order",
    alike.diagnostics.get "execution_authorized" (by decide),alike.diagnostics.has "execution_authorized",
    alike.diagnostics.get "risk_gate" (by decide)]
  rfl

structure SimilarRequests (one two : Request) : Prop where
  accountState : one.accountState = two.accountState
  snapshot : one.snapshot = two.snapshot
  strategyProfile : one.strategyProfile = two.strategyProfile
  runtimeMetadata : Similar one.runtimeMetadata two.runtimeMetadata

theorem attachFields_alike {kit : Kit} {request other : Request} (similar : SimilarRequests request other)
    {decision twin : StrategyDecision} (alike : Alike decision twin) {plan result : RuntimePlan} (cash : ℚ)
    (attached : attachFields kit request decision plan = .ok result) :
    attachFields kit other twin (plan.withCash cash) = .ok (result.withCash cash) := by
  obtain ⟨balances,read,rest⟩ := bind_ok.mp attached
  obtain ⟨tqqq,first,rest⟩ := bind_ok.mp rest
  obtain ⟨soxl,second,last⟩ := bind_ok.mp rest
  have inner : ∀ {names : List String}, (∀ name ∈ names, name ≠ "execution_annotations" ∧ name ≠ "investable_cash") →
      ∀ name ∈ names, (annotatedDiagnostics request.runtimeMetadata decision).get name =
        (annotatedDiagnostics other.runtimeMetadata twin).get name := fun apart name member =>
    similar.runtimeMetadata.annotated alike (apart name member).1 (apart name member).2
  have balanced : cashByCurrency other = .ok balances := by
    rw [← read,cashByCurrency,cashByCurrency,similar.accountState,similar.snapshot]
  refine bind_ok.mpr ⟨balances,balanced,bind_ok.mpr ⟨tqqq.withCash cash,?_,bind_ok.mpr ⟨soxl.withCash cash,?_,?_⟩⟩⟩
  · have diagnosed := attachListed_similar snapshotDiagnosticFields
      (fun name member => (similar.runtimeMetadata.merge alike.diagnostics).get name
        (by rintro rfl; revert member; decide)) { plan with cashByCurrency := balances } cash
    have regime := attachListed_similar marketRegimeControlExecutionFields (inner (by decide))
      (attachSnapshotDiagnostics request.runtimeMetadata decision { plan with cashByCurrency := balances }) cash
    have same := attachProfileFields_similar cash (inner (by decide)) first
    unfold attachTqqqRiskControlExecutionFields attachMarketRegimeControlExecutionFields attachSnapshotDiagnostics at *
    rw [← regime,← diagnosed] at same
    exact same
  · exact attachProfileFields_similar cash (inner (by decide)) second
  · exact attachBlockFields_alike alike cash last

-- What the mapper relies on when the investable cash of a stored decision changes: the
-- shared kit reads annotations field by field and builds plans from positions alone.
structure FieldByField (kit : Kit) : Prop where
  mode : ∀ {decision twin}, Alike decision twin → kit.decisionTargetMode twin = kit.decisionTargetMode decision
  values : ∀ {decision twin equity values}, Alike decision twin → kit.translateToValues decision equity = .ok values →
    ∃ others, kit.translateToValues twin equity = .ok others ∧ Alike values others
  plans : ∀ {decision twin profile inputs annotations layout}, Alike decision twin →
    kit.valueTargetRuntimePlan twin profile inputs annotations layout =
      kit.valueTargetRuntimePlan decision profile inputs annotations layout
  cash : ∀ {decision profile inputs annotations layout plan}, kit.valueTargetRuntimePlan decision profile inputs annotations
    layout = .ok plan → ∀ cash, kit.valueTargetRuntimePlan decision profile inputs
      { annotations with investableCash := some cash } layout = .ok (plan.withCash cash)
  annotations : ∀ {decision twin annotations} {one two : ℚ} {text more : String}, Alike decision twin →
    (annotationsIn decision.diagnostics).get "investable_cash" = .float (.finite one) text →
    (annotationsIn twin.diagnostics).get "investable_cash" = .float (.finite two) more →
    kit.executionAnnotations decision = .ok annotations → annotations.investableCash = some one ∧
      kit.executionAnnotations twin = .ok { annotations with investableCash := some two }

theorem weightAnnotations_alike {metadata other : Fields} (similar : Similar metadata other)
    {decision twin : StrategyDecision} (alike : Alike decision twin) (equity cash : ℚ) :
    buildWeightTranslationAnnotations twin equity cash other =
      buildWeightTranslationAnnotations decision equity cash metadata := by
  have both := similar.merge alike.diagnostics
  have inside : ∀ key, key ≠ "investable_cash" → (mergedExecutionAnnotations other (other.merge twin.diagnostics)).lookup key =
      (mergedExecutionAnnotations metadata (metadata.merge decision.diagnostics)).lookup key :=
    fun key unlike => (similar.annotations both unlike).symm
  have outside : ∀ key, key ≠ "execution_annotations" → (other.merge twin.diagnostics).get key =
      (metadata.merge decision.diagnostics).get key := fun key unlike => (both.get key unlike).symm
  have insideGet : ∀ key, key ≠ "investable_cash" → (mergedExecutionAnnotations other (other.merge twin.diagnostics)).get key =
      (mergedExecutionAnnotations metadata (metadata.merge decision.diagnostics)).get key := fun key unlike => by
    rw [Fields.get,Fields.get,inside key unlike]
  unfold buildWeightTranslationAnnotations weightNumbers weightAnnotations optionalFloat Fields.getOr
  simp only [List.map_cons,List.map_nil]
  rw [inside "signal_effective_after_trading_days" (by decide),insideGet "dashboard_text" (by decide),
    insideGet "signal_date" (by decide),insideGet "effective_date" (by decide),
    insideGet "execution_timing_contract" (by decide),insideGet "execution_calendar_source" (by decide)]
  rw [outside "benchmark_symbol" (by decide),outside "benchmark_price" (by decide),
    outside "long_trend_value" (by decide),outside "exit_line" (by decide),
    outside "signal_effective_after_trading_days" (by decide),outside "signal_description" (by decide),
    outside "signal_display" (by decide),outside "signal_message" (by decide),outside "status_description" (by decide),
    outside "market_status" (by decide),outside "canary_status" (by decide),outside "dashboard" (by decide),
    outside "signal_date" (by decide),outside "snapshot_as_of" (by decide),outside "effective_date" (by decide),
    outside "execution_timing_contract" (by decide),outside "execution_calendar_source" (by decide)]

theorem hold_alike {decision twin held : StrategyDecision} (alike : Alike decision twin) {inputs : PortfolioInputs}
    (built : buildHoldCurrentValueDecision inputs (some decision) = .ok held) :
    ∃ other, buildHoldCurrentValueDecision inputs (some twin) = .ok other ∧ Alike held other := by
  obtain ⟨riskFlags,marked,same⟩ := bind_ok.mp built
  cases same
  rw [alike.riskFlags] at marked
  exact ⟨_,bind_ok.mpr ⟨riskFlags,marked,rfl⟩,⟨rfl,alike.budgets,rfl,alike.diagnostics⟩⟩

theorem zeroEquity_alike {decision twin emptied : StrategyDecision} (alike : Alike decision twin)
    (built : buildZeroEquityValueDecision decision = .ok emptied) :
    ∃ other, buildZeroEquityValueDecision twin = .ok other ∧ Alike emptied other := by
  obtain ⟨riskFlags,marked,same⟩ := bind_ok.mp built
  cases same
  rw [alike.riskFlags] at marked
  refine ⟨_,bind_ok.mpr ⟨riskFlags,marked,rfl⟩,⟨?_,alike.budgets,rfl,alike.diagnostics.merge (similar_refl _)⟩⟩
  rw [alike.positions]

theorem blocked_alike {mode : Option TargetMode} {metadata other : Fields} (similar : Similar metadata other)
    {decision twin normalized : StrategyDecision} (alike : Alike decision twin) {inputs : PortfolioInputs}
    {found : Option Annotations} (ran : blockedDecision mode decision inputs metadata = .ok (normalized,found)) :
    ∃ result, blockedDecision mode twin inputs other = .ok (result,found) ∧ Alike normalized result := by
  unfold blockedDecision at ran ⊢
  by_cases value : mode = some .value
  · rw [if_pos value] at ran ⊢
    obtain ⟨riskFlags,marked,same⟩ := bind_ok.mp ran
    cases same
    rw [alike.riskFlags] at marked
    exact ⟨_,bind_ok.mpr ⟨riskFlags,marked,rfl⟩,⟨alike.positions,alike.budgets,rfl,alike.diagnostics⟩⟩
  · rw [if_neg value] at ran ⊢
    obtain ⟨held,built,rest⟩ := bind_ok.mp ran
    obtain ⟨annotations,weights,same⟩ := bind_ok.mp rest
    cases same
    rw [← weightAnnotations_alike similar alike] at weights
    obtain ⟨result,again,like⟩ := hold_alike alike built
    exact ⟨result,bind_ok.mpr ⟨result,again,bind_ok.mpr ⟨annotations,weights,rfl⟩⟩,like⟩

theorem weight_alike {kit : Kit} (shared : FieldByField kit) {metadata other : Fields} (similar : Similar metadata other)
    {decision twin normalized : StrategyDecision} (alike : Alike decision twin) {inputs : PortfolioInputs} {cashOnly : Bool}
    {found : Option Annotations} (ran : weightDecision kit decision inputs metadata cashOnly = .ok (normalized,found)) :
    ∃ result, weightDecision kit twin inputs other cashOnly = .ok (result,found) ∧ Alike normalized result := by
  obtain ⟨equity,resolved,rest⟩ := bind_ok.mp ran
  cases blocks : equity.blockExecution with
  | true =>
    simp only [blocks,if_true] at rest
    obtain ⟨emptied,built,more⟩ := bind_ok.mp rest
    obtain ⟨annotations,weights,same⟩ := bind_ok.mp more
    cases same
    rw [← weightAnnotations_alike similar alike] at weights
    obtain ⟨result,again,like⟩ := zeroEquity_alike alike built
    refine ⟨result,bind_ok.mpr ⟨equity,resolved,?_⟩,like⟩
    simp only [blocks,if_true]
    exact bind_ok.mpr ⟨result,again,bind_ok.mpr ⟨annotations,weights,rfl⟩⟩
  | false =>
    simp only [blocks,Bool.false_eq_true,if_false] at rest
    obtain ⟨translated,values,more⟩ := bind_ok.mp rest
    obtain ⟨annotations,weights,same⟩ := bind_ok.mp more
    cases same
    rw [← weightAnnotations_alike similar alike] at weights
    have marked : Alike
        (if equity.deleverageMode then { decision with
          diagnostics := decision.diagnostics.merge [("cash_only_deleverage_mode",.bool true)] } else decision)
        (if equity.deleverageMode then { twin with
          diagnostics := twin.diagnostics.merge [("cash_only_deleverage_mode",.bool true)] } else twin) := by
      split
      · exact ⟨alike.positions,alike.budgets,alike.riskFlags,alike.diagnostics.merge (similar_refl _)⟩
      · exact alike
    obtain ⟨others,read,like⟩ := shared.values marked values
    refine ⟨others,bind_ok.mpr ⟨equity,resolved,?_⟩,like⟩
    simp only [blocks,Bool.false_eq_true,if_false]
    exact bind_ok.mpr ⟨others,read,bind_ok.mpr ⟨annotations,weights,rfl⟩⟩

theorem open_alike {kit : Kit} (shared : FieldByField kit) {mode : Option TargetMode} {metadata other : Fields}
    (similar : Similar metadata other) {decision twin normalized : StrategyDecision} (alike : Alike decision twin)
    {inputs : PortfolioInputs} {cashOnly : Bool} {found : Option Annotations}
    (ran : openDecision kit mode decision inputs metadata cashOnly = .ok (normalized,found)) :
    ∃ result, openDecision kit mode twin inputs other cashOnly = .ok (result,found) ∧ Alike normalized result := by
  cases mode with
  | none =>
    obtain ⟨held,built,last⟩ := bind_ok.mp ran
    obtain ⟨annotations,weights,same⟩ := bind_ok.mp last
    cases same
    rw [← weightAnnotations_alike similar alike] at weights
    exact ⟨normalized,bind_ok.mpr ⟨normalized,built,bind_ok.mpr ⟨annotations,weights,rfl⟩⟩,⟨rfl,rfl,rfl,similar_refl _⟩⟩
  | some mode =>
    cases mode with
    | value => cases ran; exact ⟨twin,rfl,alike⟩
    | weight => exact weight_alike shared similar alike ran

theorem normalize_alike {kit : Kit} (shared : FieldByField kit) {metadata other : Fields} (similar : Similar metadata other)
    {decision twin normalized : StrategyDecision} (alike : Alike decision twin) {inputs : PortfolioInputs} {cashOnly : Bool}
    {found : Option Annotations}
    (ran : normalizeToValueTargetDecision kit decision inputs metadata cashOnly = .ok (normalized,found)) :
    ∃ result, normalizeToValueTargetDecision kit twin inputs other cashOnly = .ok (result,found) ∧ Alike normalized result := by
  obtain ⟨mode,resolved,rest⟩ := bind_ok.mp ran
  obtain ⟨blocked,tested,rest⟩ := bind_ok.mp rest
  rw [← shared.mode alike] at resolved
  rw [← decisionBlocks_alike alike] at tested
  cases blocked with
  | true =>
    obtain ⟨result,again,same⟩ := blocked_alike similar alike rest
    exact ⟨result,bind_ok.mpr ⟨mode,resolved,bind_ok.mpr ⟨true,tested,again⟩⟩,same⟩
  | false =>
    obtain ⟨result,again,same⟩ := open_alike shared similar alike rest
    exact ⟨result,bind_ok.mpr ⟨mode,resolved,bind_ok.mpr ⟨false,tested,again⟩⟩,same⟩

theorem checked_alike {decision twin : StrategyDecision} (alike : Alike decision twin) :
    Alike (checkedDecision decision) (checkedDecision twin) := by
  unfold checkedDecision
  rw [alike.riskFlags]
  split
  · exact alike
  · exact ⟨rfl,rfl,rfl,alike.diagnostics.merge (similar_refl _)⟩

-- Only value targets keep their own annotations and, with them, the stored investable cash.
theorem normalized_found {kit : Kit} {decision normalized : StrategyDecision} {inputs : PortfolioInputs}
    {metadata : Fields} {cashOnly : Bool} {found : Option Annotations}
    (ran : normalizeToValueTargetDecision kit decision inputs metadata cashOnly = .ok (normalized,found)) :
    (kit.decisionTargetMode decision = .ok (some .value) ∧ found = none ∧ normalized.positions = decision.positions ∧
      normalized.diagnostics = decision.diagnostics) ∨
    (kit.decisionTargetMode decision ≠ .ok (some .value) ∧ ∃ equity annotations, found = some annotations ∧
      buildWeightTranslationAnnotations decision equity inputs.liquidCash metadata = .ok annotations) := by
  obtain ⟨mode,resolved,rest⟩ := bind_ok.mp ran
  obtain ⟨blocked,_,rest⟩ := bind_ok.mp rest
  rw [resolved]
  cases blocked with
  | true =>
    unfold blockedDecision at rest
    simp only [if_true] at rest
    split at rest
    · rename_i value
      obtain ⟨riskFlags,_,same⟩ := bind_ok.mp rest
      cases same
      exact .inl ⟨congrArg _ value,rfl,rfl,rfl⟩
    · rename_i other
      obtain ⟨held,_,rest⟩ := bind_ok.mp rest
      obtain ⟨annotations,weights,same⟩ := bind_ok.mp rest
      cases same
      exact .inr ⟨fun same => other (Except.ok.inj same),inputs.totalEquity,annotations,rfl,weights⟩
  | false =>
    simp only [Bool.false_eq_true,if_false] at rest
    cases mode with
    | none =>
      obtain ⟨held,_,rest⟩ := bind_ok.mp rest
      obtain ⟨annotations,weights,same⟩ := bind_ok.mp rest
      cases same
      exact .inr ⟨by simp,inputs.totalEquity,annotations,rfl,weights⟩
    | some mode =>
      cases mode with
      | value => cases rest; exact .inl ⟨rfl,rfl,rfl,rfl⟩
      | weight =>
        refine .inr ⟨by simp,?_⟩
        obtain ⟨equity,_,rest⟩ := bind_ok.mp rest
        split at rest
        · obtain ⟨emptied,_,rest⟩ := bind_ok.mp rest
          obtain ⟨annotations,weights,same⟩ := bind_ok.mp rest
          cases same
          exact ⟨inputs.totalEquity,annotations,rfl,weights⟩
        · obtain ⟨translated,_,rest⟩ := bind_ok.mp rest
          obtain ⟨annotations,weights,same⟩ := bind_ok.mp rest
          cases same
          exact ⟨equity.totalEquity,annotations,rfl,weights⟩

theorem annotationsIn_merged (diagnostics merged : Fields) :
    annotationsIn (diagnostics.merge [("execution_annotations",.dict merged)]) = merged := by
  rw [annotationsIn_merge]; rfl

-- The investable cash a stored decision states, among the annotations it is mapped with.
def StatesCash (metadata diagnostics : Fields) (cash : ℚ) : Prop :=
  ∃ text, (mergedExecutionAnnotations metadata (metadata.merge diagnostics)).get "investable_cash" =
    .float (.finite cash) text

theorem valueAnnotations_alike {kit : Kit} (shared : FieldByField kit) {metadata other : Fields}
    (similar : Similar metadata other) {decision twin : StrategyDecision} (alike : Alike decision twin) {one two : ℚ}
    (first : StatesCash metadata decision.diagnostics one) (second : StatesCash other twin.diagnostics two)
    {inputs : PortfolioInputs} {annotations : Annotations}
    (ran : valueAnnotations kit decision inputs metadata = .ok annotations) :
    annotations.investableCash = some one ∧
      valueAnnotations kit twin inputs other = .ok { annotations with investableCash := some two } := by
  obtain ⟨read,stated,same⟩ := bind_ok.mp ran
  rw [return_ok] at same
  obtain ⟨text,held⟩ := first
  obtain ⟨more,heldToo⟩ := second
  have both := similar.merge alike.diagnostics
  have merged : Alike
      { decision with diagnostics := (metadata.merge decision.diagnostics).merge [("execution_annotations",
        .dict (mergedExecutionAnnotations metadata (metadata.merge decision.diagnostics)))] }
      { twin with diagnostics := (other.merge twin.diagnostics).merge [("execution_annotations",
        .dict (mergedExecutionAnnotations other (other.merge twin.diagnostics)))] } := by
    refine ⟨alike.positions,alike.budgets,alike.riskFlags,both.merge ⟨?_,rfl,fun key unlike => similar.annotations both unlike⟩⟩
    intro key unlike
    have miss : (key == "execution_annotations") = false := by simpa using unlike
    simp only [List.lookup_cons,miss]
  have cash := shared.annotations merged (by rw [annotationsIn_merged]; exact held)
    (by rw [annotationsIn_merged]; exact heldToo) stated
  subst same
  rw [cash.1]
  refine ⟨rfl,bind_ok.mpr ⟨_,cash.2,return_ok.mpr ?_⟩⟩
  rfl

-- The values one mapping goes through.
structure Stages where
  profile : String
  inputs : PortfolioInputs
  normalized : StrategyDecision
  found : Option Annotations
  annotations : Annotations
  platform : ℚ
  layoutProfile : String
  built : RuntimePlan

def Stages.reserve (stages : Stages) : ℚ := max stages.annotations.reservedCash stages.platform

-- The fresh cash above the reserve
def Stages.free (stages : Stages) : ℚ := max 0 (stages.inputs.liquidCash - stages.reserve)

def Stages.reserved (stages : Stages) : Annotations :=
  { stages.annotations with
    reservedCash := stages.reserve
    investableCash := some (min (max 0 (stages.annotations.investableCash.getD
      (max 0 (stages.inputs.liquidCash - stages.annotations.reservedCash)))) stages.free) }

structure Mapped (kit : Kit) (request : Request) (decision : StrategyDecision) (plan : RuntimePlan)
    (stages : Stages) : Prop where
  profile : kit.canonicalProfile request.strategyProfile = .ok stages.profile
  inputs : buildPortfolioInputs kit request (cashOnlyExecution request.runtimeMetadata) = .ok stages.inputs
  normalized : normalizeToValueTargetDecision kit (checkedDecision decision) stages.inputs request.runtimeMetadata
    (cashOnlyExecution request.runtimeMetadata) = .ok (stages.normalized,stages.found)
  annotations : resolveAnnotations kit stages.normalized stages.found stages.inputs request.runtimeMetadata =
    .ok stages.annotations
  platform : resolvePlatformReservedCash stages.inputs.totalEquity request.runtimeMetadata = .ok stages.platform
  layoutProfile : kit.canonicalProfile stages.profile = .ok stages.layoutProfile
  built : kit.valueTargetRuntimePlan stages.normalized stages.profile stages.inputs stages.reserved
    (resolveLayout stages.layoutProfile) = .ok stages.built
  attached : attachFields kit request stages.normalized stages.built = .ok plan

theorem mapped_stages {kit : Kit} {request : Request} {decision : StrategyDecision} {plan : RuntimePlan} :
    mapStrategyDecisionToPlan kit request decision = .ok plan ↔ ∃ stages, Mapped kit request decision plan stages := by
  constructor
  · intro mapped
    obtain ⟨profile,canonical,rest⟩ := bind_ok.mp mapped
    obtain ⟨inputs,held,rest⟩ := bind_ok.mp rest
    obtain ⟨⟨normalized,found⟩,normal,rest⟩ := bind_ok.mp rest
    obtain ⟨annotations,resolved,rest⟩ := bind_ok.mp rest
    obtain ⟨reserved,applied,rest⟩ := bind_ok.mp rest
    obtain ⟨layoutProfile,again,rest⟩ := bind_ok.mp rest
    obtain ⟨built,planned,attached⟩ := bind_ok.mp rest
    obtain ⟨platform,policy,same⟩ := bind_ok.mp applied
    rw [return_ok] at same
    subst same
    exact ⟨⟨profile,inputs,normalized,found,annotations,platform,layoutProfile,built⟩,
      canonical,held,normal,resolved,policy,again,planned,attached⟩
  · rintro ⟨stages,mapped⟩
    refine bind_ok.mpr ⟨_,mapped.profile,bind_ok.mpr ⟨_,mapped.inputs,bind_ok.mpr ⟨_,mapped.normalized,?_⟩⟩⟩
    refine bind_ok.mpr ⟨_,mapped.annotations,bind_ok.mpr ⟨stages.reserved,?_,?_⟩⟩
    · exact bind_ok.mpr ⟨_,mapped.platform,rfl⟩
    · exact bind_ok.mpr ⟨_,mapped.layoutProfile,bind_ok.mpr ⟨_,mapped.built,mapped.attached⟩⟩

theorem built_cash {kit : Kit} (shared : FieldByField kit) {decision : StrategyDecision} {profile : String}
    {inputs : PortfolioInputs} {annotations : Annotations} {layout : Layout} {plan : RuntimePlan} {cash : ℚ}
    (built : kit.valueTargetRuntimePlan decision profile inputs annotations layout = .ok plan)
    (stated : annotations.investableCash = some cash) : plan = plan.withCash cash := by
  have again := shared.cash built cash
  rw [← stated,built] at again
  exact Except.ok.inj again

theorem attached_own {kit : Kit} {request : Request} {decision : StrategyDecision} {built plan : RuntimePlan}
    (attached : attachFields kit request decision built = .ok plan) {cash : ℚ} (own : built = built.withCash cash) :
    plan = plan.withCash cash := by
  have again := attachFields_alike ⟨rfl,rfl,rfl,similar_refl _⟩ ⟨rfl,rfl,rfl,similar_refl _⟩ cash attached
  rw [← own,attached] at again
  exact Except.ok.inj again

section Twins

variable {kit : Kit} {request other : Request} {decision twin : StrategyDecision} {plan : RuntimePlan} {stages : Stages}

theorem cashOnly_similar {one two : Fields} (similar : Similar one two) : cashOnlyExecution two = cashOnlyExecution one := by
  rw [cashOnlyExecution,cashOnlyExecution,similar.get "longbridge_execution_policy" (by decide)]

theorem platform_similar {one two : Fields} (similar : Similar one two) (totalEquity : ℚ) :
    resolvePlatformReservedCash totalEquity two = resolvePlatformReservedCash totalEquity one := by
  rw [resolvePlatformReservedCash,resolvePlatformReservedCash,similar.get "longbridge_execution_policy" (by decide)]

-- Without value targets the stored cash is not even read.
theorem twin_other (shared : FieldByField kit) (similar : SimilarRequests request other) (alike : Alike decision twin)
    (mapped : Mapped kit request decision plan stages) {annotations : Annotations} (found : stages.found = some annotations) :
    mapStrategyDecisionToPlan kit other twin = .ok plan := by
  obtain ⟨normalized,normal,like⟩ := normalize_alike shared similar.runtimeMetadata (checked_alike alike) mapped.normalized
  obtain ⟨cash,own⟩ : ∃ cash, stages.built = stages.built.withCash cash := ⟨_,built_cash shared mapped.built rfl⟩
  have attached := attachFields_alike similar like cash mapped.attached
  rw [← own,← attached_own mapped.attached own] at attached
  have resolved := mapped.annotations
  rw [found] at resolved normal
  refine mapped_stages.mpr ⟨{ stages with normalized := normalized },?_⟩
  constructor
  · rw [← similar.strategyProfile]; exact mapped.profile
  · rw [buildPortfolioInputs,← similar.accountState,← similar.snapshot,cashOnly_similar similar.runtimeMetadata]
    exact mapped.inputs
  · rw [cashOnly_similar similar.runtimeMetadata,found]; exact normal
  · rw [found]; exact resolved
  · rw [platform_similar similar.runtimeMetadata]; exact mapped.platform
  · exact mapped.layoutProfile
  · exact (shared.plans like).trans mapped.built
  · exact attached

-- With value targets the investable cash is the stored one, cut off at the free cash.
theorem twin_value (shared : FieldByField kit) (similar : SimilarRequests request other) (alike : Alike decision twin)
    (mapped : Mapped kit request decision plan stages) (found : stages.found = none) {one two : ℚ}
    (first : StatesCash request.runtimeMetadata stages.normalized.diagnostics one)
    (second : ∀ normalized, Alike stages.normalized normalized →
      normalizeToValueTargetDecision kit (checkedDecision twin) stages.inputs other.runtimeMetadata
        (cashOnlyExecution request.runtimeMetadata) = .ok (normalized,none) →
      StatesCash other.runtimeMetadata normalized.diagnostics two) :
    plan.execution.investableCash = min (max 0 one) stages.free ∧
      mapStrategyDecisionToPlan kit other twin = .ok (plan.withCash (min (max 0 two) stages.free)) := by
  obtain ⟨normalized,normal,like⟩ := normalize_alike shared similar.runtimeMetadata (checked_alike alike) mapped.normalized
  have resolved := mapped.annotations
  rw [found] at resolved normal
  obtain ⟨stated,again⟩ := valueAnnotations_alike shared similar.runtimeMetadata like first (second normalized like normal) resolved
  constructor
  · have own := attached_own mapped.attached (built_cash shared mapped.built rfl)
    rw [own,stated]; rfl
  · refine mapped_stages.mpr ⟨{ stages with
      normalized := normalized
      annotations := { stages.annotations with investableCash := some two }
      built := stages.built.withCash (min (max 0 two) stages.free) },?_⟩
    constructor
    · rw [← similar.strategyProfile]; exact mapped.profile
    · rw [buildPortfolioInputs,← similar.accountState,← similar.snapshot,cashOnly_similar similar.runtimeMetadata]
      exact mapped.inputs
    · rw [cashOnly_similar similar.runtimeMetadata,found]; exact normal
    · rw [found]; exact again
    · rw [platform_similar similar.runtimeMetadata]; exact mapped.platform
    · exact mapped.layoutProfile
    · exact (shared.plans like).trans (shared.cash mapped.built _)
    · exact attachFields_alike similar like _ mapped.attached

end Twins

end LongBridge.Mapping
