import LongBridge.Mapping.Carried
import LongBridge.Mapping.Stored

namespace LongBridge.Mapping
open Effects

def timingKeys : List String := ["signal_date","effective_date","execution_timing_contract"]

def timingText (annotations : Annotations) (key : String) : String :=
  (([("signal_date",annotations.signalDate),("effective_date",annotations.effectiveDate),
    ("execution_timing_contract",annotations.executionTimingContract)].lookup key).getD none).getD ""

theorem timingText_signal (annotations : Annotations) :
    timingText annotations "signal_date" = annotations.signalDate.getD "" := rfl

theorem timingText_effective (annotations : Annotations) :
    timingText annotations "effective_date" = annotations.effectiveDate.getD "" := rfl

theorem timingText_contract (annotations : Annotations) :
    timingText annotations "execution_timing_contract" = annotations.executionTimingContract.getD "" := rfl

-- What the mapper relies on when it maps a stored decision: each annotation is read under
-- its own key, and the plan builder copies what it is given.
structure Copies (kit : Kit) : Prop where
  readsReserve : ∀ {decision annotations} {value : ℚ} {text : String}, kit.executionAnnotations decision = .ok annotations →
    (annotationsIn decision.diagnostics).get "reserved_cash" = .float (.finite value) text → annotations.reservedCash = value
  readsTiming : ∀ {decision annotations key text}, kit.executionAnnotations decision = .ok annotations → key ∈ timingKeys →
    (annotationsIn decision.diagnostics).get key = .str text → strip (timingText annotations key) = strip text
  undiagnosed : ∀ {decision profile inputs annotations other plan},
    kit.valueTargetRuntimePlan decision profile inputs annotations (resolveLayout other) = .ok plan →
      ∀ key ∈ snapshotDiagnosticFields, plan.execution.fields.lookup key = none
  reserve : ∀ {decision profile inputs annotations other plan},
    kit.valueTargetRuntimePlan decision profile inputs annotations (resolveLayout other) = .ok plan →
      plan.execution.reservedCash = annotations.reservedCash
  timing : ∀ {decision profile inputs annotations other plan},
    kit.valueTargetRuntimePlan decision profile inputs annotations (resolveLayout other) = .ok plan →
      ∀ key ∈ timingKeys, (plan.execution.fields.get key).textOrEmpty = strip (timingText annotations key)
  targets : ∀ {decision profile inputs annotations other plan position},
    kit.valueTargetRuntimePlan decision profile inputs annotations (resolveLayout other) = .ok plan →
      position ∈ decision.positions → (∀ rival ∈ decision.positions, rival.symbol = position.symbol → rival = position) →
        plan.allocation.targets.lookup position.symbol = position.targetValue ∧
        (position.symbol ∈ plan.allocation.riskSymbols ↔ isRisk position.role = true) ∧
        (position.symbol ∈ plan.allocation.incomeSymbols ↔ isIncome position.role = true) ∧
        (position.symbol ∈ plan.allocation.safeHavenSymbols ↔ isSafeHaven position.role = true)

-- The keys a stored decision brings along; the risk gate adds others.
def carriedKeys : List String :=
  ["execution_annotations","no_order","execution_authorized","snapshot_as_of"] ++ timingKeys ++ snapshotDiagnosticFields

-- What the adapter relies on of the risk package: it adds diagnostics of its own, and it
-- looks at no stored cash.
structure Additive (step : StrategyDecision → Except PyExc StrategyDecision) : Prop where
  carries : ∀ {decision gated}, step decision = .ok gated → ∀ key ∈ carriedKeys,
    gated.diagnostics.lookup key = decision.diagnostics.lookup key
  blind : ∀ {decision twin gated}, Alike decision twin → step decision = .ok gated →
    ∃ other, step twin = .ok other ∧ Alike gated other

structure AdditiveGates (adapter : Adapter) : Prop where
  enrich : ∀ unrealized losses, Additive fun decision => adapter.enrichDecisionRiskDiagnostics decision unrealized losses
  gate : ∀ snapshot, Additive (riskDecision adapter snapshot)

theorem gated_additive {adapter : Adapter} (gates : AdditiveGates adapter) (snapshot : Snapshot) :
    Additive (gatedDecision adapter snapshot) := by
  constructor
  · intro decision gated ran key carried
    obtain ⟨diagnostics,_,rest⟩ := bind_ok.mp ran
    obtain ⟨enriched,first,second⟩ := bind_ok.mp rest
    exact ((gates.gate snapshot).carries second key carried).trans ((gates.enrich _ _).carries first key carried)
  · intro decision twin gated alike ran
    obtain ⟨diagnostics,read,rest⟩ := bind_ok.mp ran
    obtain ⟨enriched,first,second⟩ := bind_ok.mp rest
    obtain ⟨other,again,like⟩ := (gates.enrich _ _).blind alike first
    obtain ⟨last,ended,same⟩ := (gates.gate snapshot).blind like second
    exact ⟨last,bind_ok.mpr ⟨diagnostics,read,bind_ok.mpr ⟨other,again,ended⟩⟩,same⟩

-- Two stored executions that differ in their investable cash only.
structure OtherCash (one two : Fields) : Prop where
  lookups : ∀ key, key ≠ "investable_cash" → one.lookup key = two.lookup key

theorem frozenAnnotations_get {execution annotations : Fields} (read : frozenAnnotations execution = .ok annotations)
    {key : String} (unlike : key ≠ "signal_effective_after_trading_days") :
    annotations.lookup key = execution.lookup key := by
  unfold frozenAnnotations at read
  split at read
  · obtain ⟨days,_,same⟩ := bind_ok.mp read
    cases same
    exact Fields.lookup_set_other _ _ unlike
  · cases read; rfl

theorem frozenAnnotations_other {one two annotations : Fields} (other : OtherCash one two)
    (read : frozenAnnotations one = .ok annotations) :
    ∃ more, frozenAnnotations two = .ok more ∧ OtherCash annotations more := by
  have same := other.lookups "signal_effective_after_trading_days" (by decide)
  unfold frozenAnnotations Fields.has Fields.get at read ⊢
  rw [← same]
  split at read
  · rename_i counted
    obtain ⟨days,converted,equal⟩ := bind_ok.mp read
    cases equal
    rw [if_pos counted]
    refine ⟨_,bind_ok.mpr ⟨days,converted,rfl⟩,⟨fun key unlike => ?_⟩⟩
    by_cases own : key = "signal_effective_after_trading_days"
    · subst own; rw [Fields.lookup_set_same,Fields.lookup_set_same]
    · rw [Fields.lookup_set_other _ _ own,Fields.lookup_set_other _ _ own,other.lookups key unlike]
  · rename_i missing
    cases read
    rw [if_neg missing]
    exact ⟨two,rfl,other⟩

theorem copyMarker_lookup {diagnostics execution : Fields} {marker : String} (absent : execution.lookup marker = none) :
    (copyMarker diagnostics marker execution).lookup marker = diagnostics.lookup marker := by
  unfold copyMarker
  split
  · rename_i present
    rw [Fields.lookup_set_same,Fields.get]
    obtain ⟨value,found⟩ := Option.isSome_iff_exists.mp present
    rw [found]; rfl
  · rename_i missing
    rw [Fields.has,Bool.not_eq_true,Option.isSome_eq_false_iff,Option.isNone_iff_eq_none] at missing
    rw [absent,missing]

theorem frozenDiagnostics_annotations (execution annotations : Fields) :
    (frozenDiagnostics execution annotations).lookup "execution_annotations" = some (.dict annotations) := by
  rw [frozenDiagnostics,copyMarker_other _ _ (by decide),copyMarker_other _ _ (by decide)]; rfl

theorem frozenDiagnostics_marker (execution annotations : Fields) {marker : String}
    (listed : marker ∈ ["no_order","execution_authorized"]) :
    (frozenDiagnostics execution annotations).lookup marker = execution.lookup marker := by
  have start : ∀ key, key ≠ "execution_annotations" → List.lookup key [("execution_annotations",PyVal.dict annotations)] =
      none := by
    intro key unlike
    have miss : (key == "execution_annotations") = false := by simpa using unlike
    rw [List.lookup_cons,miss]; rfl
  simp only [List.mem_cons,List.not_mem_nil,or_false] at listed
  rcases listed with rfl | rfl
  · rw [frozenDiagnostics,copyMarker_other _ _ (by decide)]
    exact copyMarker_lookup (start _ (by decide))
  · refine copyMarker_lookup ?_
    rw [copyMarker_other _ _ (by decide)]
    exact start _ (by decide)

theorem frozenDiagnostics_none (execution annotations : Fields) {key : String}
    (unlisted : key ∉ ["execution_annotations","no_order","execution_authorized"]) :
    (frozenDiagnostics execution annotations).lookup key = none := by
  simp only [List.mem_cons,List.not_mem_nil,or_false,not_or] at unlisted
  have miss : (key == "execution_annotations") = false := by simpa using unlisted.1
  rw [frozenDiagnostics,copyMarker_other _ _ unlisted.2.2,copyMarker_other _ _ unlisted.2.1,List.lookup_cons,miss]; rfl

theorem annotationsIn_frozen (execution annotations : Fields) :
    annotationsIn (frozenDiagnostics execution annotations) = annotations := by
  rw [annotationsIn,Fields.get,frozenDiagnostics_annotations]; rfl

theorem frozenDiagnostics_similar {one two annotations more : Fields} (execution : OtherCash one two)
    (inner : OtherCash annotations more) :
    Similar (frozenDiagnostics one annotations) (frozenDiagnostics two more) := by
  constructor
  · intro key unlike
    by_cases marker : key ∈ ["no_order","execution_authorized"]
    · rw [frozenDiagnostics_marker _ _ marker,frozenDiagnostics_marker _ _ marker]
      refine execution.lookups key ?_
      rintro rfl
      revert marker; decide
    · have unlisted : key ∉ ["execution_annotations","no_order","execution_authorized"] :=
        List.not_mem_cons_of_ne_of_not_mem unlike marker
      rw [frozenDiagnostics_none _ _ unlisted,frozenDiagnostics_none _ _ unlisted]
  · rw [Fields.has,Fields.has,frozenDiagnostics_annotations,frozenDiagnostics_annotations]; rfl
  · intro key unlike
    rw [annotationsIn_frozen,annotationsIn_frozen,inner.lookups key unlike]

theorem frozenMetadata_similar (adapter : Adapter) {annotations more : Fields} (inner : OtherCash annotations more) :
    Similar (frozenMetadata adapter annotations) (frozenMetadata adapter more) := by
  constructor
  · intro key unlike
    have miss : (key == "execution_annotations") = false := by simpa using unlike
    rw [frozenMetadata,frozenMetadata,List.lookup_cons,List.lookup_cons,miss]
  · rfl
  · intro key unlike
    exact inner.lookups key unlike

theorem frozenDecision_alike {allocation one two annotations more roles : Fields} (execution : OtherCash one two)
    (inner : OtherCash annotations more) {decision : StrategyDecision}
    (frozen : frozenDecision allocation one annotations roles = .ok decision) :
    ∃ twin, frozenDecision allocation two more roles = .ok twin ∧ Alike decision twin := by
  obtain ⟨targets,read,rest⟩ := bind_ok.mp frozen
  obtain ⟨positions,mapped,same⟩ := bind_ok.mp rest
  cases same
  exact ⟨_,bind_ok.mpr ⟨targets,read,bind_ok.mpr ⟨positions,mapped,rfl⟩⟩,
    ⟨rfl,rfl,rfl,frozenDiagnostics_similar execution inner⟩⟩

structure LikeStages (one two : FrozenStage) : Prop where
  stamped : one.stamped = two.stamped
  annotations : OtherCash one.annotations two.annotations
  gated : Alike one.gated two.gated

theorem frozenStage_other {adapter : Adapter} (gates : AdditiveGates adapter) {allocation one two : Fields}
    {snapshot : Snapshot} (execution : OtherCash one two) {stage : FrozenStage}
    (frozen : frozenStage adapter allocation one snapshot = .ok stage) :
    ∃ twin, frozenStage adapter allocation two snapshot = .ok twin ∧ LikeStages stage twin := by
  obtain ⟨stamped,stamps,rest⟩ := bind_ok.mp frozen
  obtain ⟨roles,named,rest⟩ := bind_ok.mp rest
  obtain ⟨annotations,read,rest⟩ := bind_ok.mp rest
  obtain ⟨decision,built,rest⟩ := bind_ok.mp rest
  obtain ⟨gated,ran,same⟩ := bind_ok.mp rest
  cases same
  obtain ⟨more,readToo,inner⟩ := frozenAnnotations_other execution read
  obtain ⟨twin,builtToo,alike⟩ := frozenDecision_alike execution inner built
  obtain ⟨other,ranToo,like⟩ := (gated_additive gates stamped).blind alike ran
  exact ⟨_,bind_ok.mpr ⟨stamped,stamps,bind_ok.mpr ⟨roles,named,bind_ok.mpr ⟨more,readToo,
    bind_ok.mpr ⟨twin,builtToo,bind_ok.mpr ⟨other,ranToo,rfl⟩⟩⟩⟩⟩,⟨rfl,inner,like⟩⟩

-- What the stage holds of the stored execution.
structure StageOf (execution : Fields) (stage : FrozenStage) : Prop where
  annotations : ∀ key, key ≠ "signal_effective_after_trading_days" → stage.annotations.lookup key = execution.lookup key
  carried : ∀ key ∈ carriedKeys, stage.gated.diagnostics.lookup key =
    (frozenDiagnostics execution stage.annotations).lookup key

theorem frozenStage_of {adapter : Adapter} (gates : AdditiveGates adapter) {allocation execution : Fields}
    {snapshot : Snapshot} {stage : FrozenStage} (frozen : frozenStage adapter allocation execution snapshot = .ok stage) :
    StageOf execution stage := by
  obtain ⟨stamped,_,rest⟩ := bind_ok.mp frozen
  obtain ⟨roles,_,rest⟩ := bind_ok.mp rest
  obtain ⟨annotations,read,rest⟩ := bind_ok.mp rest
  obtain ⟨decision,built,rest⟩ := bind_ok.mp rest
  obtain ⟨gated,ran,same⟩ := bind_ok.mp rest
  cases same
  constructor
  · exact fun key unlike => frozenAnnotations_get read unlike
  · intro key listed
    obtain ⟨targets,_,more⟩ := bind_ok.mp built
    obtain ⟨positions,_,equal⟩ := bind_ok.mp more
    cases equal
    exact (gated_additive gates stamped).carries ran key listed

section Freezing

variable {floatText : ℚ → String} {execution : Cycle.Execution} {stored again : Fields} {cash : ℚ}

theorem frozen_reserve (frozen : frozenExecution floatText execution = .ok stored) :
    stored.lookup "reserved_cash" = some (.float (.finite execution.reservedCash) (floatText execution.reservedCash)) :=
  lookup_amount_copied frozen rfl

theorem frozen_cash (frozen : frozenExecution floatText execution = .ok stored) :
    stored.lookup "investable_cash" = some (.float (.finite execution.investableCash) (floatText execution.investableCash)) :=
  lookup_amount_copied frozen rfl

theorem frozen_timing (frozen : frozenExecution floatText execution = .ok stored) {key text : String}
    (listed : key ∈ timingKeys) (held : execution.fields.lookup key = some (.str text)) :
    stored.lookup key = some (.str text) := by
  refine lookup_text_copied frozen ?_
  simp only [timingKeys,List.mem_cons,List.not_mem_nil,or_false] at listed
  rcases listed with rfl | rfl | rfl <;> exact held

theorem frozen_other (frozen : frozenExecution floatText execution = .ok stored)
    (changed : frozenExecution floatText { execution with investableCash := cash } = .ok again) :
    OtherCash stored again := by
  constructor
  intro key unlike
  refine lookup_copied_same frozen changed ?_
  have miss : (key == "investable_cash") = false := by simpa using unlike
  simp only [executionEntries,List.cons_append,List.nil_append,List.lookup_cons,miss]

end Freezing

-- What the plan builder leaves in a plan: timing texts without blanks around them, and
-- one role for every target.
structure Storable (plan : Cycle.Plan) : Prop where
  timing : ∀ key ∈ timingKeys, ∃ text, plan.execution.fields.lookup key = some (.str text) ∧ strip text = text
  roles : ∀ entry ∈ Strategy.normalizedTargets plan.allocation.targets, OneRole plan.allocation entry.1

-- The risk gate leaves the target of a symbol as it was stored.
def Leaves (adapter : Adapter) (stage : FrozenStage) (symbol : String) : Prop :=
  adapter.kit.decisionTargetMode (checkedDecision stage.gated) = .ok (some .value) ∧
    ∀ position : PositionTarget, position.symbol = symbol →
      (position ∈ (checkedDecision stage.gated).positions ↔ position ∈ stage.decision.positions)

structure KeepsDecision (adapter : Adapter) (kit : Strategy.Kit) (stored : Cycle.Plan) (execution : Fields)
    (snapshot : Snapshot) (stage : FrozenStage) (plan : RuntimePlan) : Prop where
  targets : ∀ entry ∈ Strategy.normalizedTargets stored.allocation.targets, Leaves adapter stage entry.1 →
    plan.allocation.targets.lookup entry.1 = some entry.2 ∧
    (entry.1 ∈ plan.allocation.riskSymbols ↔ entry.1 ∈ Strategy.normalizedSymbols stored.allocation.riskSymbols) ∧
    (entry.1 ∈ plan.allocation.incomeSymbols ↔ entry.1 ∈ Strategy.normalizedSymbols stored.allocation.incomeSymbols) ∧
    (entry.1 ∈ plan.allocation.safeHavenSymbols ↔ entry.1 ∈ Strategy.normalizedSymbols stored.allocation.safeHavenSymbols)
  timing : ∀ key ∈ timingKeys, (plan.execution.fields.get key).textOrEmpty = (execution.get key).textOrEmpty
  smallAccount : Cycle.isTruthy (execution.get "small_account_warning") = true →
    Cycle.isTruthy (plan.execution.fields.get "small_account_warning") = true
  orders : execution.get "no_order" = .bool true → plan.execution.fields.get "no_order" = .bool true
  authorized : execution.get "execution_authorized" = .bool false →
    plan.execution.fields.get "execution_authorized" = .bool false
  reserve : stored.execution.reservedCash ≤ plan.execution.reservedCash
  signalDay : ∀ cash again,
    frozenExecution kit.cycle.gate.floatText { stored.execution with investableCash := cash } = .ok again →
      resolveFrozenRebalancePlan adapter (Strategy.frozenAllocation kit stored.allocation) again snapshot = .ok plan

-- When a stored decision survives: it warns of no small account, and the fresh cash does not
-- exceed the reserve (or, without value targets, the platform reserves as much by itself).
structure Survives (adapter : Adapter) (stored : Cycle.Plan) (execution : Fields) (stage : FrozenStage) : Prop where
  smallAccount : Cycle.isTruthy (execution.get "small_account_warning") = false
  cash : ∀ inputs platform,
    adapter.kit.inputsFromSnapshot stage.stamped (cashOnlyExecution (frozenMetadata adapter stage.annotations)) = .ok inputs →
    resolvePlatformReservedCash inputs.totalEquity (frozenMetadata adapter stage.annotations) = .ok platform →
      (adapter.kit.decisionTargetMode (checkedDecision stage.gated) = .ok (some .value) →
        inputs.liquidCash ≤ max stored.execution.reservedCash platform) ∧
      (adapter.kit.decisionTargetMode (checkedDecision stage.gated) ≠ .ok (some .value) →
        stored.execution.reservedCash ≤ platform)

theorem checked_lookup (decision : StrategyDecision) {key : String} (unlike : key ∉ ["risk_gate","reason"]) :
    (checkedDecision decision).diagnostics.lookup key = decision.diagnostics.lookup key := by
  simp only [List.mem_cons,List.not_mem_nil,or_false,not_or] at unlike
  unfold checkedDecision
  split
  · rfl
  · have gate : (key == "risk_gate") = false := by simpa using unlike.1
    have reason : (key == "reason") = false := by simpa using unlike.2
    rw [Fields.lookup_merge,List.lookup_cons,gate,List.lookup_cons,reason]; rfl

theorem frozenMetadata_none (adapter : Adapter) (annotations : Fields) {key : String}
    (unlike : key ∉ ["execution_annotations","longbridge_execution_policy"]) :
    (frozenMetadata adapter annotations).lookup key = none := by
  simp only [List.mem_cons,List.not_mem_nil,or_false,not_or] at unlike
  have one : (key == "execution_annotations") = false := by simpa using unlike.1
  have two : (key == "longbridge_execution_policy") = false := by simpa using unlike.2
  unfold frozenMetadata
  rw [List.lookup_cons,one]
  cases adapter.executionPolicy with
  | none => rfl
  | some policy => rw [List.lookup_cons,two]; rfl

theorem firstText_text (text : String) {others : List PyVal} (blank : ∀ other ∈ others, other = .none) :
    (firstText (.str text :: others)).getD "" = strip text := by
  have nothing : others.find? PyVal.truthy = none := by
    rw [List.find?_eq_none]
    intro other member
    rw [blank other member]; decide
  unfold firstText
  rw [List.find?_cons]
  by_cases empty : text = ""
  · subst empty
    have falsy : (PyVal.str "").truthy = false := by decide
    rw [falsy,nothing]; decide
  · have truthy : (PyVal.str text).truthy = true := by simpa [PyVal.truthy] using empty
    rw [truthy]
    change (if strip text = "" then none else some (strip text)).getD "" = strip text
    by_cases bare : strip text = ""
    · rw [if_pos bare,bare]; rfl
    · rw [if_neg bare]; rfl

section WeightTiming

variable (annotations diagnostics : Fields) (equity cash : ℚ) (numbers : WeightNumbers)

theorem weightAnnotations_signal : (weightAnnotations annotations diagnostics equity cash numbers).signalDate =
    firstText [annotations.get "signal_date",diagnostics.get "signal_date",diagnostics.get "snapshot_as_of"] := by
  simp only [weightAnnotations]

theorem weightAnnotations_effective : (weightAnnotations annotations diagnostics equity cash numbers).effectiveDate =
    firstText [annotations.get "effective_date",diagnostics.get "effective_date"] := by
  simp only [weightAnnotations]

theorem weightAnnotations_contract :
    (weightAnnotations annotations diagnostics equity cash numbers).executionTimingContract =
      firstText [annotations.get "execution_timing_contract",diagnostics.get "execution_timing_contract"] := by
  simp only [weightAnnotations]

end WeightTiming

theorem weightAnnotations_fields {decision : StrategyDecision} {equity cash : ℚ} {metadata : Fields}
    {annotations : Annotations} (ran : buildWeightTranslationAnnotations decision equity cash metadata = .ok annotations) :
    ∃ numbers, annotations = weightAnnotations (mergedExecutionAnnotations metadata (metadata.merge decision.diagnostics))
      (metadata.merge decision.diagnostics) equity cash numbers := by
  obtain ⟨numbers,_,same⟩ := bind_ok.mp ran
  exact ⟨numbers,(return_ok.mp same).symm⟩

section Survival

variable {adapter : Adapter} {execution : Fields} {stage : FrozenStage} {plan : RuntimePlan} {stages : Stages}

theorem checked_carried (held : StageOf execution stage) {key : String} (listed : key ∈ carriedKeys) :
    (checkedDecision stage.gated).diagnostics.lookup key =
      (frozenDiagnostics execution stage.annotations).lookup key := by
  rw [checked_lookup _ (by revert key; decide)]
  exact held.carried key listed

theorem merged_lookup (adapter : Adapter) (annotations : Fields) {diagnostics : Fields}
    (own : diagnostics.lookup "execution_annotations" = some (.dict annotations)) (key : String) :
    (mergedExecutionAnnotations (frozenMetadata adapter annotations)
      ((frozenMetadata adapter annotations).merge diagnostics)).lookup key = annotations.lookup key := by
  have given : annotationsIn (frozenMetadata adapter annotations) = annotations := rfl
  have taken : annotationsIn ((frozenMetadata adapter annotations).merge diagnostics) = annotations := by
    rw [annotationsIn_merge,Fields.has,own]
    unfold annotationsIn Fields.get
    rw [own]; rfl
  change (Fields.merge (annotationsIn (frozenMetadata adapter annotations))
    (annotationsIn ((frozenMetadata adapter annotations).merge diagnostics))).lookup key = _
  rw [given,taken,Fields.lookup_merge]
  cases annotations.lookup key <;> rfl

theorem checked_annotations (held : StageOf execution stage) :
    (checkedDecision stage.gated).diagnostics.lookup "execution_annotations" = some (.dict stage.annotations) := by
  rw [checked_carried held (by decide),frozenDiagnostics_annotations]

-- The annotations a stored decision is mapped with.
theorem stage_annotations (copies : Copies adapter.kit) (held : StageOf execution stage)
    (mapped : Mapped adapter.kit (frozenRequest adapter stage.annotations stage.stamped) stage.gated plan stages) :
    (adapter.kit.decisionTargetMode (checkedDecision stage.gated) = .ok (some .value) ∧ stages.found = none ∧
      stages.normalized.positions = (checkedDecision stage.gated).positions ∧
      stages.normalized.diagnostics = (checkedDecision stage.gated).diagnostics ∧
      (∀ value text, execution.lookup "reserved_cash" = some (.float (.finite value) text) →
        stages.annotations.reservedCash = value) ∧
      ∀ key ∈ timingKeys, ∀ text, execution.lookup key = some (.str text) →
        strip (timingText stages.annotations key) = strip text) ∨
    (adapter.kit.decisionTargetMode (checkedDecision stage.gated) ≠ .ok (some .value) ∧
      stages.found = some stages.annotations ∧ stages.annotations.reservedCash = 0 ∧
      ∀ key ∈ timingKeys, ∀ text, execution.lookup key = some (.str text) →
        strip (timingText stages.annotations key) = strip text) := by
  have resolved := mapped.annotations
  rcases normalized_found mapped.normalized with ⟨mode,found,positions,diagnostics⟩ | ⟨mode,equity,annotations,found,weights⟩
  · rw [found] at resolved
    obtain ⟨read,stated,same⟩ := bind_ok.mp resolved
    rw [return_ok] at same
    have inside : ∀ key, (annotationsIn (((frozenMetadata adapter stage.annotations).merge stages.normalized.diagnostics).merge
        [("execution_annotations",.dict (mergedExecutionAnnotations (frozenMetadata adapter stage.annotations)
          ((frozenMetadata adapter stage.annotations).merge stages.normalized.diagnostics)))])).lookup key =
        stage.annotations.lookup key := fun key => by
      rw [annotationsIn_merged]
      exact merged_lookup adapter stage.annotations (by rw [diagnostics]; exact checked_annotations held) key
    refine .inl ⟨mode,found,positions,diagnostics,?_,?_⟩
    · intro value text stored
      rw [← same]
      change read.reservedCash = value
      have found := (inside "reserved_cash").trans ((held.annotations _ (by decide)).trans stored)
      exact copies.readsReserve stated (congrArg (·.getD .none) found)
    · intro key listed text stored
      rw [← same]
      change strip (timingText read key) = strip text
      have other : key ≠ "signal_effective_after_trading_days" := by rintro rfl; revert listed; decide
      have found := (inside key).trans ((held.annotations key other).trans stored)
      exact copies.readsTiming stated listed (congrArg (·.getD .none) found)
  · rw [found] at resolved
    cases resolved
    obtain ⟨numbers,fields⟩ := weightAnnotations_fields weights
    have none : ∀ key ∈ "snapshot_as_of" :: timingKeys, ((frozenMetadata adapter stage.annotations).merge
        (checkedDecision stage.gated).diagnostics).get key = .none := by
      intro key listed
      rw [Fields.get,Fields.lookup_merge,checked_carried held (by revert key; decide),
        frozenDiagnostics_none _ _ (by revert key; decide),frozenMetadata_none _ _ (by revert key; decide)]
      rfl
    refine .inr ⟨mode,found,by rw [fields]; rfl,?_⟩
    intro key listed text stored
    have other : key ≠ "signal_effective_after_trading_days" := by rintro rfl; revert listed; decide
    have inside : (mergedExecutionAnnotations (frozenMetadata adapter stage.annotations)
        ((frozenMetadata adapter stage.annotations).merge (checkedDecision stage.gated).diagnostics)).get key = .str text := by
      rw [Fields.get,merged_lookup adapter _ (checked_annotations held),held.annotations key other,stored]
      rfl
    have stripped : ∀ others : List PyVal, (∀ value ∈ others, value = .none) →
        strip ((firstText (.str text :: others)).getD "") = strip text := fun others blank => by
      rw [firstText_text text blank,strip_idem]
    rw [fields]
    simp only [timingKeys,List.mem_cons,List.not_mem_nil,or_false] at listed
    rcases listed with rfl | rfl | rfl
    · rw [timingText_signal,weightAnnotations_signal,frozenRequest,inside]
      refine stripped _ fun value member => ?_
      simp only [List.mem_cons,List.not_mem_nil,or_false] at member
      rcases member with rfl | rfl
      · exact none _ (by decide)
      · exact none _ (by decide)
    · rw [timingText_effective,weightAnnotations_effective,frozenRequest,inside]
      refine stripped _ fun value member => ?_
      rw [List.mem_singleton.mp member]
      exact none _ (by decide)
    · rw [timingText_contract,weightAnnotations_contract,frozenRequest,inside]
      refine stripped _ fun value member => ?_
      rw [List.mem_singleton.mp member]
      exact none _ (by decide)

end Survival

end LongBridge.Mapping
