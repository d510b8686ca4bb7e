import LongBridge.Cycle.Submissions
import LongBridge.Mapping.VendoredLaws

namespace LongBridge.Mapping
open Effects

theorem reserved_timing (stages : Stages) (key : String) : timingText stages.reserved key = timingText stages.annotations key :=
  rfl

-- The platform's own reserve is never negative.
theorem platform_nonneg {totalEquity : ℚ} {metadata : Fields} {platform : ℚ}
    (resolved : resolvePlatformReservedCash totalEquity metadata = .ok platform) : 0 ≤ platform := by
  unfold resolvePlatformReservedCash at resolved
  split at resolved
  · cases resolved; exact le_refl 0
  · obtain ⟨floor,_,rest⟩ := bind_ok.mp resolved
    obtain ⟨ratio,_,rest⟩ := bind_ok.mp rest
    obtain ⟨reserved,held,same⟩ := bind_ok.mp rest
    rw [return_ok] at same
    subst same
    refine le_max_of_le_left ?_
    cases floor with
    | finite value => cases held; exact le_max_left ..
    | inf negative =>
      cases negative with
      | true => cases held; exact le_refl 0
      | false => cases held
    | nan => cases held; exact le_refl 0

theorem timingKeys_apart : ∀ key ∈ timingKeys, key ∉ snapshotDiagnosticFields ∧
    key ∉ marketRegimeControlExecutionFields ++ tqqqRiskControlExecutionFields ++ soxlRiskControlExecutionFields ++
      blockFields := by decide

section Survival

variable {adapter : Adapter} {kit : Strategy.Kit} {stored : Cycle.Plan} {execution : Fields} {snapshot : Snapshot}
  {stage : FrozenStage} {plan : RuntimePlan} {stages : Stages}

theorem kept_timing (copies : Copies adapter.kit) (storable : Storable stored)
    (frozen : frozenExecution kit.cycle.gate.floatText stored.execution = .ok execution) (held : StageOf execution stage)
    (mapped : Mapped adapter.kit (frozenRequest adapter stage.annotations stage.stamped) stage.gated plan stages) :
    ∀ key ∈ timingKeys, (plan.execution.fields.get key).textOrEmpty = (execution.get key).textOrEmpty := by
  intro key listed
  obtain ⟨text,own,stripped⟩ := storable.timing key listed
  have read := frozen_timing frozen listed own
  have timed : strip (timingText stages.annotations key) = strip text := by
    rcases stage_annotations copies held mapped with ⟨_,_,_,_,_,timed⟩ | ⟨_,_,_,timed⟩
    · exact timed key listed text read
    · exact timed key listed text read
  obtain ⟨diagnosed,controlled⟩ := timingKeys_apart key listed
  have carried := (attachFields_lookup mapped.attached key (.inl diagnosed) controlled).1
  have built := copies.timing mapped.built key listed
  rw [Fields.get,carried]
  rw [Fields.get] at built
  rw [built,reserved_timing,timed,stripped,Fields.get,read]
  exact (PyVal.textOrEmpty_str text).symm

theorem lost_smallAccount (plain : Plain adapter.kit) (copies : Copies adapter.kit) (held : StageOf execution stage)
    (mapped : Mapped adapter.kit (frozenRequest adapter stage.annotations stage.stamped) stage.gated plan stages) :
    plan.execution.fields.get "small_account_warning" = .none := by
  have absent : stages.normalized.diagnostics.lookup "small_account_warning" = none := by
    rcases normalized_diagnostics plain mapped.normalized with ⟨empty,_⟩ | same
    · rw [empty]; rfl
    · rw [same _ (by decide),checked_carried held (by decide),frozenDiagnostics_none _ _ (by decide)]
  have blank : (((frozenRequest adapter stage.annotations stage.stamped).runtimeMetadata.merge
      stages.normalized.diagnostics).get "small_account_warning").isBlank = true := by
    rw [Fields.get,Fields.lookup_merge,absent,frozenRequest,frozenMetadata_none _ _ (by decide)]
    rfl
  have carried := (attachFields_lookup mapped.attached "small_account_warning" (.inr blank) (by decide)).1
  rw [Fields.get,carried,copies.undiagnosed mapped.built _ (by decide)]
  rfl

theorem kept_markers (plain : Plain adapter.kit) (held : StageOf execution stage)
    (mapped : Mapped adapter.kit (frozenRequest adapter stage.annotations stage.stamped) stage.gated plan stages) :
    (execution.get "no_order" = .bool true → plan.execution.fields.get "no_order" = .bool true) ∧
      (execution.get "execution_authorized" = .bool false →
        plan.execution.fields.get "execution_authorized" = .bool false) := by
  obtain ⟨texts,flags,_⟩ := checked_flags stage.gated
  obtain ⟨more,read,_⟩ := normalized_stops plain flags mapped.normalized
  obtain ⟨fields,_⟩ := attachFields_attached read (plain.execution mapped.built) mapped.attached
  obtain ⟨ordered,authorized⟩ := marker_carried plain mapped.normalized flags
  have same : ∀ marker ∈ ["no_order","execution_authorized"],
      (checkedDecision stage.gated).diagnostics.get marker = execution.get marker := fun marker listed => by
    rw [Fields.get,Fields.get,checked_carried held (by revert marker; decide),frozenDiagnostics_marker _ _ listed]
  rw [fields.orders,fields.authorized,← same "no_order" (by decide),← same "execution_authorized" (by decide)]
  exact ⟨ordered,authorized⟩

-- The reserve of the plan, with value targets and without.
theorem plan_reserve (copies : Copies adapter.kit)
    (frozen : frozenExecution kit.cycle.gate.floatText stored.execution = .ok execution) (held : StageOf execution stage)
    (mapped : Mapped adapter.kit (frozenRequest adapter stage.annotations stage.stamped) stage.gated plan stages) :
    plan.execution.reservedCash = stages.reserve ∧
      (adapter.kit.decisionTargetMode (checkedDecision stage.gated) = .ok (some .value) →
        stages.reserve = max stored.execution.reservedCash stages.platform) ∧
      (adapter.kit.decisionTargetMode (checkedDecision stage.gated) ≠ .ok (some .value) →
        stages.reserve = stages.platform) := by
  have carried := (attachFields_lookup mapped.attached "signal_date" (.inl (by decide)) (by decide)).2
  refine ⟨carried.trans (copies.reserve mapped.built),?_,?_⟩
  · intro value
    rcases stage_annotations copies held mapped with ⟨_,_,_,_,reserve,_⟩ | ⟨other,_⟩
    · rw [Stages.reserve,reserve _ _ (frozen_reserve frozen)]
    · exact absurd value other
  · intro other
    rcases stage_annotations copies held mapped with ⟨value,_⟩ | ⟨_,_,reserve,_⟩
    · exact absurd value other
    · rw [Stages.reserve,reserve,max_eq_right (platform_nonneg mapped.platform)]

theorem frozenStage_decision {allocation : Fields} (staged : frozenStage adapter allocation execution snapshot = .ok stage) :
    ∃ roles, frozenRoles allocation = .ok roles ∧
      frozenDecision allocation execution stage.annotations roles = .ok stage.decision := by
  obtain ⟨stamped,_,rest⟩ := bind_ok.mp staged
  obtain ⟨roles,named,rest⟩ := bind_ok.mp rest
  obtain ⟨annotations,_,rest⟩ := bind_ok.mp rest
  obtain ⟨decision,built,rest⟩ := bind_ok.mp rest
  obtain ⟨gated,_,same⟩ := bind_ok.mp rest
  cases same
  exact ⟨roles,named,built⟩

-- The role a stored symbol is read back with is the one list it stands in.
theorem storedRole_iff {roles : Fields} {symbol : String}
    (named : frozenRoles (Strategy.frozenAllocation kit stored.allocation) = .ok roles) (one : OneRole stored.allocation symbol) :
    (isRisk (roleText (roles.get symbol)) = true ↔ symbol ∈ Strategy.normalizedSymbols stored.allocation.riskSymbols) ∧
    (isIncome (roleText (roles.get symbol)) = true ↔ symbol ∈ Strategy.normalizedSymbols stored.allocation.incomeSymbols) ∧
    (isSafeHaven (roleText (roles.get symbol)) = true ↔
      symbol ∈ Strategy.normalizedSymbols stored.allocation.safeHavenSymbols) := by
  rw [frozenRoles_lookup named symbol]
  by_cases safe : symbol ∈ Strategy.normalizedSymbols stored.allocation.safeHavenSymbols
  · obtain ⟨risk,income⟩ := one.safeHaven safe
    simp [safe,risk,income,isRisk,isIncome,isSafeHaven]
  · by_cases income : symbol ∈ Strategy.normalizedSymbols stored.allocation.incomeSymbols
    · have risk := one.income income
      simp [safe,risk,income,isRisk,isIncome,isSafeHaven]
    · have risk := (one.placed.resolve_right (not_or.mpr ⟨income,safe⟩))
      simp [safe,risk,income,isRisk,isIncome,isSafeHaven]

theorem kept_targets (copies : Copies adapter.kit) (storable : Storable stored) (held : StageOf execution stage)
    (staged : frozenStage adapter (Strategy.frozenAllocation kit stored.allocation) execution snapshot = .ok stage)
    (mapped : Mapped adapter.kit (frozenRequest adapter stage.annotations stage.stamped) stage.gated plan stages)
    (sameAllocation : plan.allocation = stages.built.allocation) :
    ∀ entry ∈ Strategy.normalizedTargets stored.allocation.targets, Leaves adapter stage entry.1 →
      plan.allocation.targets.lookup entry.1 = some entry.2 ∧
      (entry.1 ∈ plan.allocation.riskSymbols ↔ entry.1 ∈ Strategy.normalizedSymbols stored.allocation.riskSymbols) ∧
      (entry.1 ∈ plan.allocation.incomeSymbols ↔ entry.1 ∈ Strategy.normalizedSymbols stored.allocation.incomeSymbols) ∧
      (entry.1 ∈ plan.allocation.safeHavenSymbols ↔
        entry.1 ∈ Strategy.normalizedSymbols stored.allocation.safeHavenSymbols) := by
  rintro entry listed ⟨mode,leaves⟩
  obtain ⟨roles,named,built⟩ := frozenStage_decision staged
  have positions : stages.normalized.positions = (checkedDecision stage.gated).positions := by
    rcases stage_annotations copies held mapped with ⟨_,_,same,_⟩ | ⟨other,_⟩
    · exact same
    · exact absurd mode other
  have own : storedPosition roles entry ∈ stages.normalized.positions := by
    rw [positions,leaves _ rfl,frozenDecision_positions built]
    exact ⟨entry,listed,rfl⟩
  have alone : ∀ rival ∈ stages.normalized.positions, rival.symbol = (storedPosition roles entry).symbol →
      rival = storedPosition roles entry := by
    intro rival member same
    rw [positions,leaves rival same,frozenDecision_positions built] at member
    obtain ⟨other,among,rfl⟩ := member
    have equal := List.inj_on_of_nodup_map (normalizedTargets_keys stored.allocation.targets).1 among listed same
    rw [equal]
  obtain ⟨target,risk,income,safe⟩ := copies.targets mapped.built own alone
  obtain ⟨isRisky,earns,shelters⟩ := storedRole_iff named (storable.roles entry listed)
  rw [sameAllocation]
  exact ⟨target,risk.trans isRisky,income.trans earns,safe.trans shelters⟩

theorem statesCash_of {annotations diagnostics : Fields} {cash : ℚ} {text : String}
    (own : diagnostics.lookup "execution_annotations" = some (.dict annotations))
    (stated : annotations.lookup "investable_cash" = some (.float (.finite cash) text)) :
    StatesCash (frozenMetadata adapter annotations) diagnostics cash :=
  ⟨text,by rw [Fields.get,merged_lookup adapter _ own,stated]; rfl⟩

-- The same decision stored with other cash: without value targets nothing changes.
theorem other_cash (gates : AdditiveGates adapter) (field : FieldByField adapter.kit) {cash : ℚ} {again : Fields}
    (frozen : frozenExecution kit.cycle.gate.floatText stored.execution = .ok execution) (held : StageOf execution stage)
    (staged : frozenStage adapter (Strategy.frozenAllocation kit stored.allocation) execution snapshot = .ok stage)
    (mapped : Mapped adapter.kit (frozenRequest adapter stage.annotations stage.stamped) stage.gated plan stages)
    (changed : frozenExecution kit.cycle.gate.floatText { stored.execution with investableCash := cash } = .ok again) :
    (adapter.kit.decisionTargetMode (checkedDecision stage.gated) = .ok (some .value) →
      plan.execution.investableCash = min (max 0 stored.execution.investableCash) stages.free ∧
        resolveFrozenRebalancePlan adapter (Strategy.frozenAllocation kit stored.allocation) again snapshot =
          .ok (plan.withCash (min (max 0 cash) stages.free))) ∧
    (adapter.kit.decisionTargetMode (checkedDecision stage.gated) ≠ .ok (some .value) →
      resolveFrozenRebalancePlan adapter (Strategy.frozenAllocation kit stored.allocation) again snapshot = .ok plan) := by
  obtain ⟨twin,stagedToo,like⟩ := frozenStage_other gates (frozen_other frozen changed) staged
  have heldToo := frozenStage_of gates stagedToo
  have similar : SimilarRequests (frozenRequest adapter stage.annotations stage.stamped)
      (frozenRequest adapter twin.annotations twin.stamped) :=
    ⟨rfl,congrArg some like.stamped,rfl,frozenMetadata_similar adapter like.annotations⟩
  have found := normalized_found mapped.normalized
  constructor
  · intro mode
    rcases found with ⟨_,none,_,diagnostics⟩ | ⟨other,_⟩
    · have first : StatesCash (frozenMetadata adapter stage.annotations) stages.normalized.diagnostics
          stored.execution.investableCash :=
        statesCash_of (by rw [diagnostics]; exact checked_annotations held)
          ((held.annotations _ (by decide)).trans (frozen_cash frozen))
      have second : ∀ normalized, Alike stages.normalized normalized →
          normalizeToValueTargetDecision adapter.kit (checkedDecision twin.gated) stages.inputs
            (frozenMetadata adapter twin.annotations) (cashOnlyExecution (frozenMetadata adapter stage.annotations)) =
              .ok (normalized,Option.none) →
          StatesCash (frozenMetadata adapter twin.annotations) normalized.diagnostics cash := by
        intro normalized _ ran
        rcases normalized_found ran with ⟨_,_,_,same⟩ | ⟨_,_,_,some,_⟩
        · exact statesCash_of (by rw [same]; exact checked_annotations heldToo)
            ((heldToo.annotations _ (by decide)).trans (frozen_cash changed))
        · cases some
      obtain ⟨own,next⟩ := twin_value field similar like.gated mapped none first second
      exact ⟨own,bind_ok.mpr ⟨twin,stagedToo,next⟩⟩
    · exact absurd mode other
  · intro mode
    rcases found with ⟨value,_⟩ | ⟨_,_,annotations,some,_⟩
    · exact absurd value mode
    · exact bind_ok.mpr ⟨twin,stagedToo,twin_other field similar like.gated mapped some⟩

end Survival

theorem falsy_none : Cycle.isTruthy .none = false := by decide

-- A frozen decision survives its new mapping exactly when nothing restrains it that the
-- mapper drops and no fresh cash is left for the stored cash to cut off.
theorem frozen_decision_survives_exactly (adapter : Adapter) (gates : AdditiveGates adapter) (plain : Plain adapter.kit)
    (copies : Copies adapter.kit) (field : FieldByField adapter.kit) (kit : Strategy.Kit) (stored : Cycle.Plan)
    (storable : Storable stored) (execution : Fields)
    (frozen : frozenExecution kit.cycle.gate.floatText stored.execution = .ok execution) (snapshot : Snapshot)
    (stage : FrozenStage)
    (staged : frozenStage adapter (Strategy.frozenAllocation kit stored.allocation) execution snapshot = .ok stage)
    (plan : RuntimePlan)
    (resolved : resolveFrozenRebalancePlan adapter (Strategy.frozenAllocation kit stored.allocation) execution snapshot =
      .ok plan) :
    KeepsDecision adapter kit stored execution snapshot stage plan ↔ Survives adapter stored execution stage := by
  obtain ⟨again,stagedAgain,mapping⟩ := bind_ok.mp resolved
  rw [staged,Except.ok.injEq] at stagedAgain
  subst stagedAgain
  obtain ⟨stages,mapped⟩ := mapped_stages.mp mapping
  have held := frozenStage_of gates staged
  obtain ⟨reserve,withTargets,without⟩ := plan_reserve copies frozen held mapped
  have lost := lost_smallAccount plain copies held mapped
  have inputs : adapter.kit.inputsFromSnapshot stage.stamped (cashOnlyExecution (frozenMetadata adapter stage.annotations)) =
      .ok stages.inputs := mapped.inputs
  have platform : resolvePlatformReservedCash stages.inputs.totalEquity (frozenMetadata adapter stage.annotations) =
      .ok stages.platform := mapped.platform
  constructor
  · intro keeps
    constructor
    · by_contra warned
      have carried := keeps.smallAccount (by simpa using warned)
      rw [lost,falsy_none] at carried
      cases carried
    · intro facts amount read policy
      rw [inputs,Except.ok.injEq] at read
      subst read
      rw [platform,Except.ok.injEq] at policy
      subst policy
      constructor
      · intro mode
        -- stored with no cash and with all the free cash, the plan must be the same
        obtain ⟨none,first⟩ := frozenExecution_cash frozen 0
        obtain ⟨all,second⟩ := frozenExecution_cash frozen stages.free
        have zero := ((other_cash gates field frozen held staged mapped first).1 mode).2
        have full := ((other_cash gates field frozen held staged mapped second).1 mode).2
        rw [keeps.signalDay 0 none first,Except.ok.injEq] at zero
        rw [keeps.signalDay stages.free all second,Except.ok.injEq] at full
        have nonneg : 0 ≤ stages.free := le_max_left ..
        have equal : min (max 0 0) stages.free = min (max 0 stages.free) stages.free := by
          rw [zero] at full
          exact congrArg (fun plan : RuntimePlan => plan.execution.investableCash) full
        rw [max_self,min_eq_left nonneg,max_eq_right nonneg,min_self] at equal
        have free : stages.inputs.liquidCash - stages.reserve ≤ 0 := by
          calc stages.inputs.liquidCash - stages.reserve ≤ stages.free := le_max_right ..
            _ = 0 := equal.symm
        rw [← withTargets mode]
        linarith
      · intro mode
        rw [← without mode,← reserve]
        exact keeps.reserve
  · intro survives
    obtain ⟨valued,valueless⟩ := survives.cash _ _ inputs platform
    obtain ⟨ordered,authorized⟩ := kept_markers plain held mapped
    obtain ⟨texts,flags,_⟩ := checked_flags stage.gated
    obtain ⟨more,read,_⟩ := normalized_stops plain flags mapped.normalized
    obtain ⟨_,sameAllocation⟩ := attachFields_attached read (plain.execution mapped.built) mapped.attached
    refine ⟨kept_targets copies storable held staged mapped sameAllocation,kept_timing copies storable frozen held mapped,
      ?_,ordered,authorized,?_,?_⟩
    · intro warned
      rw [survives.smallAccount] at warned
      cases warned
    · rw [reserve]
      by_cases mode : adapter.kit.decisionTargetMode (checkedDecision stage.gated) = .ok (some .value)
      · rw [withTargets mode]; exact le_max_left ..
      · rw [without mode]; exact valueless mode
    · intro cash other changed
      obtain ⟨value,unvalued⟩ := other_cash gates field frozen held staged mapped changed
      by_cases mode : adapter.kit.decisionTargetMode (checkedDecision stage.gated) = .ok (some .value)
      · have free : stages.free = 0 := by
          refine max_eq_left ?_
          rw [withTargets mode]
          linarith [valued mode]
        obtain ⟨own,next⟩ := value mode
        rw [free,min_eq_right (le_max_left ..)] at own next
        rw [next,← own]; rfl
      · exact unvalued mode

-- A gate that approves, over an account without risk diagnostics.
def approvingAdapter : Adapter where
  kit := vendoredKit
  strategyProfile := "soxl_soxx_trend_income"
  executionPolicy := none
  executionMaterials := []
  usesEvidenceExecution := false
  stampPortfolioRiskMetadata snapshot := .ok snapshot
  extractPortfolioRiskDiagnostics _ := .ok []
  enrichDecisionRiskDiagnostics decision unrealized losses := .ok { decision with
    diagnostics := decision.diagnostics.merge [("unrealized_pnl_pct",unrealized),("consecutive_losses",losses)] }
  buildCapitalBaseCapabilities _ := .ok []
  typedExecutionCandidate _ := .none
  assessWithEvidence decision _ _ := .ok decision
  applyRiskGate decision _ _ _ _ := .ok { decision with
    diagnostics := decision.diagnostics.merge [("risk_gate",.str "APPROVE")] }

theorem merge_additive {extra : Fields} (own : ∀ key ∈ carriedKeys, extra.lookup key = none) :
    Additive fun decision => .ok { decision with diagnostics := decision.diagnostics.merge extra } := by
  constructor
  · intro decision gated ran key carried
    cases ran
    rw [Fields.lookup_merge,own key carried]; rfl
  · intro decision twin gated alike ran
    cases ran
    exact ⟨_,rfl,alike.positions,alike.budgets,alike.riskFlags,alike.diagnostics.merge (similar_refl _)⟩

theorem approvingAdapter_gates : AdditiveGates approvingAdapter := by
  constructor
  · intro unrealized losses
    refine merge_additive fun key carried => ?_
    have apart : key ≠ "unrealized_pnl_pct" ∧ key ≠ "consecutive_losses" := by revert key; decide
    rw [List.lookup_cons,List.lookup_cons,beq_false_of_ne apart.1,beq_false_of_ne apart.2]; rfl
  · intro snapshot
    refine merge_additive fun key carried => ?_
    have apart : key ≠ "risk_gate" := by revert key; decide
    rw [List.lookup_cons,beq_false_of_ne apart]; rfl

def frozenKit : Strategy.Kit where
  cycle := Cycle.testedKit
  sha256 text := text
  canonicalJson _ := ""
  jsonCopy execution := frozenExecution Cycle.testedKit.gate.floatText execution
  fromDecision _ := .error ⟨"ValueError","no command here"⟩
  strategyReleaseIdentity release := .ok release
  releaseBindingIsValid _ _ := .ok true
  buildExecutionMarkerKey _ := ""
  nextXnysSessionDate date := .ok date

-- One share-sized target, stored with the given restraints and signal-day cash.
def storedPlan (restraints : Fields) (investableCash : ℚ) : Cycle.Plan where
  portfolio := ⟨[],[],[],0,"",[],[]⟩
  execution := ⟨10,10,investableCash,50,[("signal_date",.str "2026-09-09"),("effective_date",.str "2026-09-10"),
    ("execution_timing_contract",.str "next_trading_day")] ++ restraints⟩
  allocation := ⟨["SPY"],["SPY"],[],[],[("SPY",400)],[],[],[],[],[],[("target_mode",.str "value")]⟩

theorem storedPlan_storable (restraints : Fields) (investableCash : ℚ) : Storable (storedPlan restraints investableCash) := by
  constructor
  · intro key listed
    simp only [timingKeys,List.mem_cons,List.not_mem_nil,or_false] at listed
    rcases listed with rfl | rfl | rfl
    · exact ⟨"2026-09-09",rfl,by decide⟩
    · exact ⟨"2026-09-10",rfl,by decide⟩
    · exact ⟨"next_trading_day",rfl,by decide⟩
  · intro entry listed
    have targets : Strategy.normalizedTargets (storedPlan restraints investableCash).allocation.targets = [("SPY",400)] := rfl
    rw [targets] at listed
    rw [List.mem_singleton.mp listed]
    refine OneRole.mk (.inl (show "SPY" ∈ ["SPY"] by decide)) ?_ ?_
    · intro member; cases member
    · intro member; cases member

def laterSnapshot (buyingPower : ℚ) : Snapshot := ⟨[⟨"SPY",1,400⟩],400 + buyingPower,some buyingPower,none,[]⟩

-- A decision stored without a warning, in an account whose cash is all reserved.
theorem reserved_decision_survives : ∃ execution stage plan,
    frozenExecution frozenKit.cycle.gate.floatText (storedPlan [("no_order",.bool true)] 0).execution = .ok execution ∧
    frozenStage approvingAdapter (Strategy.frozenAllocation frozenKit (storedPlan [("no_order",.bool true)] 0).allocation)
      execution (laterSnapshot 40) = .ok stage ∧
    resolveFrozenRebalancePlan approvingAdapter
      (Strategy.frozenAllocation frozenKit (storedPlan [("no_order",.bool true)] 0).allocation) execution
      (laterSnapshot 40) = .ok plan ∧
    KeepsDecision approvingAdapter frozenKit (storedPlan [("no_order",.bool true)] 0) execution (laterSnapshot 40) stage
      plan := by
  refine ⟨_,_,_,rfl,rfl,rfl,(frozen_decision_survives_exactly approvingAdapter approvingAdapter_gates vendoredKit_plain
    vendoredKit_copies vendoredKit_fieldByField frozenKit (storedPlan [("no_order",.bool true)] 0) (storedPlan_storable _ _)
    _ rfl (laterSnapshot 40) _ rfl _ rfl).mpr ⟨by decide,?_⟩⟩
  intro inputs platform read _
  cases read
  refine ⟨fun _ => le_max_of_le_left (by decide +kernel),fun unvalued => absurd ?_ unvalued⟩
  rfl

-- The warning of a stored decision is gone when it is mapped again, and the cash of the
-- signal day still caps the cash of the effective day.
theorem stored_warning_is_dropped : ∃ execution again stage plan later,
    frozenExecution frozenKit.cycle.gate.floatText (storedPlan [("small_account_warning",.bool true)] 0).execution =
      .ok execution ∧
    frozenExecution frozenKit.cycle.gate.floatText (storedPlan [("small_account_warning",.bool true)] 500).execution =
      .ok again ∧
    frozenStage approvingAdapter
      (Strategy.frozenAllocation frozenKit (storedPlan [("small_account_warning",.bool true)] 0).allocation) execution
      (laterSnapshot 550) = .ok stage ∧
    resolveFrozenRebalancePlan approvingAdapter
      (Strategy.frozenAllocation frozenKit (storedPlan [("small_account_warning",.bool true)] 0).allocation) execution
      (laterSnapshot 550) = .ok plan ∧
    resolveFrozenRebalancePlan approvingAdapter
      (Strategy.frozenAllocation frozenKit (storedPlan [("small_account_warning",.bool true)] 0).allocation) again
      (laterSnapshot 550) = .ok later ∧
    plan.execution.fields.get "small_account_warning" = .none ∧
    plan.execution.investableCash = 0 ∧ later.execution.investableCash = 500 ∧
    ¬KeepsDecision approvingAdapter frozenKit (storedPlan [("small_account_warning",.bool true)] 0) execution
      (laterSnapshot 550) stage plan := by
  refine ⟨_,_,_,_,_,rfl,rfl,rfl,rfl,rfl,rfl,by decide +kernel,by decide +kernel,fun keeps => ?_⟩
  exact absurd (keeps.smallAccount (by decide)) (by decide)

end LongBridge.Mapping
