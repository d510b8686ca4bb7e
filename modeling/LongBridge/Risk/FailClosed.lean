import LongBridge.Risk.Capabilities

namespace LongBridge.RuntimeRisk
open Reporting

variable {Limits Hold : Type} {contracts : Contracts Limits Hold} {runtime : Runtime} {capabilities : Capabilities Limits Hold}
  {policy binding : Fields} {target : RuntimeTarget} {metadata : PyVal} {limits : Limits} {revision : Option String}

section entries
variable {key other : String} {value : Capability Limits Hold}

theorem lookup_attach : (attach key value capabilities).lookup key = some value := by
  induction capabilities with
  | nil => simp [attach]
  | cons entry rest ih =>
    obtain ⟨name,old⟩ := entry
    by_cases same : name = key
    · simp [attach,same]
    · have miss : (key == name) = false := by simpa using Ne.symm same
      simp [attach,same,List.lookup_cons,miss,ih]

theorem lookup_attach_other (unlike : other ≠ key) : (attach key value capabilities).lookup other = capabilities.lookup other := by
  induction capabilities with
  | nil =>
    have miss : (other == key) = false := by simpa using unlike
    simp [attach,List.lookup_cons,miss]
  | cons entry rest ih =>
    obtain ⟨name,old⟩ := entry
    by_cases same : name = key
    · have miss : (other == name) = false := by simpa [same] using unlike
      simp only [attach,same,beq_self_eq_true,if_true,List.lookup_cons]
      rw [same] at miss
      rw [miss]
    · simp [attach,same,List.lookup_cons,ih]

end entries

-- The binding of the policy, field by field.
structure Agrees (runtime : Runtime) (target : RuntimeTarget) (metadata : PyVal) (policy binding : Fields) (revision : Option String) :
    Prop where
  account_named : accountScope target ≠ ""
  service_named : runtimeScope target ≠ ""
  account_hashed : accountHash metadata ≠ ""
  account_scope : stripped (binding.get "account_scope") = accountScope target
  runtime_scope : stripped (binding.get "runtime_scope") = runtimeScope target
  account_hash : stripped (binding.get "account_hash") = accountHash metadata
  strategy_profile : stripped (binding.get "strategy_profile") = runtime.profile
  released : target.strategyRevision.map stripped = some (stripped (binding.get "ues_revision"))
  installed : revision = some (stripped (binding.get "ues_revision"))
  execution_mode : lower (stripped (binding.get "execution_mode")) = target.executionMode
  cash_only : isTrue (binding.get "cash_only_execution") = true
  cash_only_set : isTrue runtime.settings.cashOnlyExecution = true
  reserve_configured : (binding.get "reserved_cash_ratio").same (runtime.mergedRuntimeConfig.get "cash_reserve_ratio") = true
  reserve_set : (binding.get "reserved_cash_ratio").same runtime.settings.reservedCashRatio = true
  reserve : (binding.get "reserved_cash_ratio").same reservedRatio = true
  options : isFalse (binding.get "options_enabled") = true
  options_set : ∀ key ∈ optionSettings, isFalse (runtime.mergedRuntimeConfig.get key) = true
  exit_mapping : isMapping (policy.get "exit_parameters") = true
  exit_configured : isNone (runtime.mergedRuntimeConfig.get "trend_exit_buffer") = false
  exit_buffer : (runtime.mergedRuntimeConfig.get "trend_exit_buffer").same exitBuffer = true
  exit_parameters : (policy.get "exit_parameters").same (exitParametersOf exitBuffer) = true
  exit_parameters_set : (policy.get "exit_parameters").same (exitParametersOf (runtime.mergedRuntimeConfig.get "trend_exit_buffer")) = true

theorem bindingMismatch_false :
    bindingMismatch runtime target metadata policy binding revision = false ↔ Agrees runtime target metadata policy binding revision := by
  unfold bindingMismatch
  simp only [Bool.or_eq_false_iff,beq_eq_false_iff_ne,bne_eq_false_iff_eq,Bool.not_eq_false',List.any_eq_false,Bool.not_eq_true',
    Bool.not_eq_false,Option.isNone_eq_false_iff]
  constructor
  · intro agreed
    obtain ⟨⟨⟨⟨⟨⟨⟨⟨⟨⟨⟨⟨⟨⟨⟨⟨⟨⟨⟨⟨⟨⟨⟨a,b⟩,c⟩,d⟩,e⟩,f⟩,g⟩,h⟩,i⟩,j⟩,k⟩,l⟩,m⟩,n⟩,o⟩,p⟩,q⟩,r⟩,s⟩,t⟩,u⟩,v⟩,w⟩,x⟩ := agreed
    exact ⟨a,b,c,e,f,g,h,i.symm,k,l,m,n,o,p,q,r,s,t,u,v,w,x⟩
  · intro agrees
    have released : target.strategyRevision.isSome = true := by
      cases stated : target.strategyRevision with
      | none =>
        have given := agrees.released
        rw [stated] at given
        cases given
      | some _ => rfl
    refine ⟨⟨⟨⟨⟨⟨⟨⟨⟨⟨⟨⟨⟨⟨⟨⟨⟨⟨⟨⟨⟨⟨⟨agrees.account_named,agrees.service_named⟩,agrees.account_hashed⟩,released⟩,agrees.account_scope⟩,
      agrees.runtime_scope⟩,agrees.account_hash⟩,agrees.strategy_profile⟩,agrees.released.symm⟩,?_⟩,agrees.installed⟩,
      agrees.execution_mode⟩,agrees.cash_only⟩,agrees.cash_only_set⟩,agrees.reserve_configured⟩,agrees.reserve_set⟩,agrees.reserve⟩,
      agrees.options⟩,agrees.options_set⟩,agrees.exit_mapping⟩,agrees.exit_configured⟩,agrees.exit_buffer⟩,agrees.exit_parameters⟩,
      agrees.exit_parameters_set⟩
    rw [agrees.installed]
    rfl

-- The commit that the installed distribution states; none where it is absent or malformed.
def installedCommit (installed : Installed) : Option String :=
  match readRevision installed with
  | .ok stated => statedRevision stated
  | .error _ => none

-- The limits are built from what the policy states.
structure LimitsStated (policy : Fields) (arguments : LimitsArguments) : Prop where
  allowed_symbols : (policy.get "allowed_symbols").iterate = .ok arguments.allowedSymbols
  product_leverage_factors : arguments.productLeverageFactors = policy.get "product_leverage_factors"
  nominal_caps : arguments.nominalCaps = policy.get "nominal_caps"
  total_nominal_exposure_cap : arguments.totalNominalExposureCap = policy.get "total_nominal_exposure_cap"
  total_effective_exposure_cap : arguments.totalEffectiveExposureCap = policy.get "total_effective_exposure_cap"
  max_positions : arguments.maxPositions = policy.get "max_positions"
  max_daily_loss_usd : arguments.maxDailyLossUsd = policy.lookup "max_daily_loss_usd"

structure HoldStated (raw : Fields) (arguments : HoldArguments) : Prop where
  enabled : raw.lookup "enabled" = some arguments.enabled
  hold_below_nav : raw.lookup "hold_below_nav" = some arguments.holdBelowNav
  require_cash_only : arguments.requireCashOnly = (raw.lookup "require_cash_only").getD (.bool true)

-- The policy is a mapping with the right keys, and what it is to be bound to is there.
structure Asked (runtime : Runtime) (capabilities : Capabilities Limits Hold) (policy binding : Fields) (target : RuntimeTarget)
    (metadata : PyVal) : Prop where
  stated : runtime.settings.trustedRuntimeRiskPolicy = .dict policy
  deployed : runtime.settings.runtimeTarget = some target
  observed : runtime.snapshotMetadata = some metadata
  based : bindingGiven capabilities = true
  required : ∀ key ∈ expectedPolicyKeys, policy.has key = true
  allowed : ∀ entry ∈ policy, entry.1 ∈ expectedPolicyKeys ++ optionalPolicyKeys
  bound : policy.get "binding" = .dict binding
  bindingRequired : ∀ key ∈ expectedBindingKeys, binding.has key = true
  bindingAllowed : ∀ entry ∈ binding, entry.1 ∈ expectedBindingKeys

-- Everything but the hold policy is there and fits.
structure Ready (contracts : Contracts Limits Hold) (runtime : Runtime) (capabilities : Capabilities Limits Hold)
    (revision : Option String) (policy binding : Fields) (target : RuntimeTarget) (metadata : PyVal) (limits : Limits) : Prop
    extends Asked runtime capabilities policy binding target metadata where
  agrees : Agrees runtime target metadata policy binding revision
  accepted : ∃ arguments, LimitsStated policy arguments ∧ contracts.runtimeRiskLimits arguments = .ok limits

-- Absent, null, or a mapping that the hold policy accepts.
def HoldFits (contracts : Contracts Limits Hold) (policy : Fields) : Prop :=
  policy.get "small_account_hold" = .none ∨ ∃ raw arguments hold, policy.get "small_account_hold" = .dict raw ∧
    HoldStated raw arguments ∧ contracts.smallAccountRiskHoldPolicy arguments = .ok hold

-- What is rejected carries no limits.
def Unavailable (capabilities : Capabilities Limits Hold) (outcome : Except PyExc (Capabilities Limits Hold × String)) : Prop :=
  ∃ reason, reason ≠ verifiedStatus ∧ outcome = unavailable capabilities reason

theorem iterate_raises {value : PyVal} {exc : PyExc} (raised : value.iterate = .error exc) : exc.kind = "TypeError" := by
  unfold PyVal.iterate at raised
  split at raised <;> cases raised
  rfl

theorem limitsOf_raises (lawful : contracts.Lawful) {exc : PyExc} (raised : limitsOf contracts policy = .error exc) :
    exc.kind = "TypeError" ∨ exc.kind = "ValueError" := by
  unfold limitsOf at raised
  cases listed : (policy.get "allowed_symbols").iterate with
  | error found =>
    rw [listed] at raised
    cases raised
    exact .inl (iterate_raises listed)
  | ok symbols =>
    rw [listed] at raised
    exact lawful.limits_raises _ _ raised

theorem holdOf_raises (lawful : contracts.Lawful) {raw : Fields} {exc : PyExc} (raised : holdOf contracts raw = .error exc) :
    exc.kind ∈ ["KeyError","TypeError","ValueError"] := by
  have missing : ∀ key exc, item raw key = .error exc → exc.kind = "KeyError" := by
    intro key exc failed
    unfold item at failed
    split at failed <;> cases failed
    rfl
  unfold holdOf at raised
  cases enabled : item raw "enabled" with
  | error found =>
    rw [enabled] at raised
    cases raised
    simp [missing _ _ enabled]
  | ok value =>
    rw [enabled] at raised
    simp only [bind,Except.bind] at raised
    cases nav : item raw "hold_below_nav" with
    | error found =>
      rw [nav] at raised
      cases raised
      simp [missing _ _ nav]
    | ok below =>
      rw [nav] at raised
      cases lawful.hold_raises _ _ raised with
      | inl type => simp [type]
      | inr invalid => simp [invalid]

theorem limitsOf_iff : limitsOf contracts policy = .ok limits ↔
    ∃ arguments, LimitsStated policy arguments ∧ contracts.runtimeRiskLimits arguments = .ok limits := by
  unfold limitsOf
  constructor
  · intro built
    cases listed : (policy.get "allowed_symbols").iterate with
    | error exc =>
      rw [listed] at built
      cases built
    | ok symbols =>
      rw [listed] at built
      exact ⟨_,⟨listed,rfl,rfl,rfl,rfl,rfl,rfl⟩,built⟩
  · intro found
    obtain ⟨arguments,stated,accepted⟩ := found
    obtain ⟨symbols,factors,nominal,totalNominal,totalEffective,positions,loss⟩ := arguments
    obtain ⟨listed,rfl,rfl,rfl,rfl,rfl,rfl⟩ := stated
    rw [listed]
    exact accepted

theorem item_iff {fields : Fields} {key : String} {value : PyVal} : item fields key = .ok value ↔ fields.lookup key = some value := by
  unfold item
  cases fields.lookup key <;> simp

theorem holdOf_iff {raw : Fields} {hold : Hold} : holdOf contracts raw = .ok hold ↔
    ∃ arguments, HoldStated raw arguments ∧ contracts.smallAccountRiskHoldPolicy arguments = .ok hold := by
  unfold holdOf
  constructor
  · intro built
    cases enabled : item raw "enabled" with
    | error exc =>
      rw [enabled] at built
      cases built
    | ok flag =>
      cases nav : item raw "hold_below_nav" with
      | error exc =>
        rw [enabled,nav] at built
        cases built
      | ok below =>
        rw [enabled,nav] at built
        exact ⟨_,⟨item_iff.mp enabled,item_iff.mp nav,rfl⟩,built⟩
  · intro found
    obtain ⟨arguments,stated,accepted⟩ := found
    obtain ⟨flag,below,cashOnly⟩ := arguments
    obtain ⟨enabled,nav,rfl⟩ := stated
    rw [item_iff.mpr enabled,item_iff.mpr nav]
    exact accepted

theorem keysInclude_iff {fields : Fields} {names : List String} : keysInclude fields names = true ↔ ∀ key ∈ names, fields.has key = true := by
  unfold keysInclude
  rw [List.all_eq_true]

theorem keysAmong_iff {fields : Fields} {names : List String} : keysAmong fields names = true ↔ ∀ entry ∈ fields, entry.1 ∈ names := by
  unfold keysAmong
  rw [List.all_eq_true]
  simp

section asking
variable {called : Except PyExc (Option String)}

-- One side or the other: rejected before the installed revision is asked for, or asked for.
theorem bindLimits_asks (stated : runtime.settings.trustedRuntimeRiskPolicy = .dict policy)
    (deployed : runtime.settings.runtimeTarget = some target) (observed : runtime.snapshotMetadata = some metadata)
    (based : bindingGiven capabilities = true) :
    (Unavailable capabilities (bindLimits called contracts runtime capabilities policy target metadata) ∧
      ∀ binding, ¬Asked runtime capabilities policy binding target metadata) ∨
    ∃ binding, Asked runtime capabilities policy binding target metadata ∧
      bindLimits called contracts runtime capabilities policy target metadata =
        called.bind (verifyLimits contracts runtime capabilities policy target metadata binding) := by
  unfold bindLimits
  by_cases keys : keysInclude policy expectedPolicyKeys = true ∧ keysAmong policy (expectedPolicyKeys ++ optionalPolicyKeys) = true
  · obtain ⟨required,allowed⟩ := keys
    rw [if_neg (by simp [required,allowed])]
    split
    · rename_i binding bound
      by_cases bindingKeys : keysInclude binding expectedBindingKeys = true ∧ keysAmong binding expectedBindingKeys = true
      · obtain ⟨bindingRequired,bindingAllowed⟩ := bindingKeys
        rw [if_neg (by simp [bindingRequired,bindingAllowed])]
        exact .inr ⟨binding,⟨stated,deployed,observed,based,keysInclude_iff.mp required,keysAmong_iff.mp allowed,bound,
          keysInclude_iff.mp bindingRequired,keysAmong_iff.mp bindingAllowed⟩,rfl⟩
      · have rejected : (!(keysInclude binding expectedBindingKeys && keysAmong binding expectedBindingKeys)) = true := by
          rw [Bool.not_eq_true',Bool.eq_false_iff]
          intro both
          exact bindingKeys (Bool.and_eq_true_iff.mp both)
        rw [if_pos rejected]
        refine .inl ⟨⟨_,by decide,rfl⟩,?_⟩
        intro other asked
        cases bound.symm.trans asked.bound
        exact bindingKeys ⟨keysInclude_iff.mpr asked.bindingRequired,keysAmong_iff.mpr asked.bindingAllowed⟩
    · rename_i unbound
      refine .inl ⟨⟨_,by decide,rfl⟩,?_⟩
      intro binding asked
      exact unbound _ asked.bound
  · have rejected : (!keysInclude policy expectedPolicyKeys || !keysAmong policy (expectedPolicyKeys ++ optionalPolicyKeys)) = true := by
      simpa [or_iff_not_imp_left] using keys
    rw [if_pos rejected]
    refine .inl ⟨⟨_,by decide,rfl⟩,?_⟩
    intro binding asked
    exact keys ⟨keysInclude_iff.mpr asked.required,keysAmong_iff.mpr asked.allowed⟩

theorem buildCapabilitiesWith_asks (soxl : runtime.profile = soxlProfile) :
    (Unavailable capabilities (buildCapabilitiesWith called contracts runtime capabilities) ∧
      ∀ policy binding target metadata, ¬Asked runtime capabilities policy binding target metadata) ∨
    ∃ policy binding target metadata, Asked runtime capabilities policy binding target metadata ∧
      buildCapabilitiesWith called contracts runtime capabilities =
        called.bind (verifyLimits contracts runtime capabilities policy target metadata binding) := by
  unfold buildCapabilitiesWith
  rw [if_neg (not_not_intro soxl)]
  split
  · rename_i policy stated
    split
    · rename_i target metadata deployed observed based
      cases @bindLimits_asks _ _ contracts runtime capabilities policy target metadata called stated deployed observed based with
      | inl rejected =>
        obtain ⟨closed,unasked⟩ := rejected
        refine .inl ⟨closed,?_⟩
        intro policy' binding target' metadata' asked
        cases stated.symm.trans asked.stated
        cases deployed.symm.trans asked.deployed
        cases observed.symm.trans asked.observed
        exact unasked _ asked
      | inr found =>
        obtain ⟨binding,asked,same⟩ := found
        exact .inr ⟨policy,binding,target,metadata,asked,same⟩
    · rename_i missing
      refine .inl ⟨⟨_,by decide,rfl⟩,?_⟩
      intro policy' binding target metadata asked
      exact missing target metadata asked.deployed asked.observed asked.based
  · rename_i unmapped
    refine .inl ⟨⟨_,by decide,rfl⟩,?_⟩
    intro policy binding target metadata asked
    exact unmapped _ asked.stated

end asking

theorem asked_same (asked : Asked runtime capabilities policy binding target metadata) {policy' binding' : Fields} {target' : RuntimeTarget}
    {metadata' : PyVal} (other : Asked runtime capabilities policy' binding' target' metadata') :
    policy' = policy ∧ binding' = binding ∧ target' = target ∧ metadata' = metadata := by
  cases asked.stated.symm.trans other.stated
  cases asked.bound.symm.trans other.bound
  cases asked.deployed.symm.trans other.deployed
  cases asked.observed.symm.trans other.observed
  exact ⟨rfl,rfl,rfl,rfl⟩

-- With an installed revision: rejected, or ready for the hold policy.
theorem verifyLimits_cases (lawful : contracts.Lawful) (asked : Asked runtime capabilities policy binding target metadata) :
    (Unavailable capabilities (verifyLimits contracts runtime capabilities policy target metadata binding revision) ∧
      ∀ policy binding target metadata limits, ¬Ready contracts runtime capabilities revision policy binding target metadata limits) ∨
    ∃ limits, Ready contracts runtime capabilities revision policy binding target metadata limits ∧
      verifyLimits contracts runtime capabilities policy target metadata binding revision =
        attachHold contracts runtime capabilities policy limits := by
  unfold verifyLimits
  by_cases mismatch : bindingMismatch runtime target metadata policy binding revision = true
  · rw [if_pos mismatch]
    refine .inl ⟨⟨_,by decide,rfl⟩,?_⟩
    intro _ _ _ _ _ ready
    obtain ⟨rfl,rfl,rfl,rfl⟩ := asked_same asked ready.toAsked
    rw [bindingMismatch_false.mpr ready.agrees] at mismatch
    cases mismatch
  · rw [if_neg mismatch]
    have agrees := bindingMismatch_false.mp (Bool.eq_false_iff.mpr mismatch)
    cases accepted : limitsOf contracts policy with
    | error exc =>
      dsimp only
      rw [if_pos (limitsOf_raises lawful accepted)]
      refine .inl ⟨⟨_,by decide,rfl⟩,?_⟩
      intro _ _ _ _ _ ready
      obtain ⟨rfl,rfl,rfl,rfl⟩ := asked_same asked ready.toAsked
      cases accepted.symm.trans (limitsOf_iff.mpr ready.accepted)
    | ok limits => exact .inr ⟨limits,⟨asked,agrees,limitsOf_iff.mp accepted⟩,rfl⟩

-- What every outcome has to be: verified exactly when all of it fits the installed revision, with every
-- restraint of a verified policy carried and no limits carried otherwise.
structure Sound (contracts : Contracts Limits Hold) (runtime : Runtime) (capabilities : Capabilities Limits Hold)
    (revision : Option String) (carried : Capabilities Limits Hold) (status : String) : Prop where
  verified_iff : status = verifiedStatus ↔ ∃ policy binding target metadata limits,
    Ready contracts runtime capabilities revision policy binding target metadata limits ∧ HoldFits contracts policy
  limits_carried : status = verifiedStatus → ∃ policy arguments limits, runtime.settings.trustedRuntimeRiskPolicy = .dict policy ∧
    LimitsStated policy arguments ∧ contracts.runtimeRiskLimits arguments = .ok limits ∧
      carried.lookup "runtime_risk_limits" = some (.limits limits)
  hold_carried : status = verifiedStatus → ∀ policy : Fields, runtime.settings.trustedRuntimeRiskPolicy = .dict policy →
    policy.get "small_account_hold" ≠ .none → ∃ raw arguments hold, policy.get "small_account_hold" = .dict raw ∧
      HoldStated raw arguments ∧ contracts.smallAccountRiskHoldPolicy arguments = .ok hold ∧
        carried.lookup "small_account_hold_policy" = some (.hold hold)
  closed : status ≠ verifiedStatus → ∀ limits, carried.lookup "runtime_risk_limits" ≠ some (.limits limits)

theorem unavailable_sound {reason : String} (rejected : reason ≠ verifiedStatus)
    (misfit : ∀ policy binding target metadata limits, Ready contracts runtime capabilities revision policy binding target metadata limits →
      ¬HoldFits contracts policy) :
    Sound contracts runtime capabilities revision (attach "runtime_risk_limits" .unaccepted capabilities) reason where
  verified_iff := by
    constructor
    · intro same
      exact absurd same rejected
    · intro found
      obtain ⟨policy,binding,target,metadata,limits,ready,fits⟩ := found
      exact absurd fits (misfit _ _ _ _ _ ready)
  limits_carried same := absurd same rejected
  hold_carried same := absurd same rejected
  closed := by
    intro _ limits held
    rw [lookup_attach] at held
    cases held

theorem payload_limits {flag : PyVal} : (attach "cash_only_execution" (.value flag)
    (attach "runtime_risk_limits" (.limits limits) capabilities)).lookup "runtime_risk_limits" = some (.limits limits) := by
  rw [lookup_attach_other (by decide),lookup_attach]

section attaching

theorem parse_rejected (lawful : contracts.Lawful) {raw : Fields} {exc : PyExc} (failed : holdOf contracts raw = .error exc) :
    parseSmallAccountHoldPolicy contracts (.dict raw) = .ok none := by
  unfold parseSmallAccountHoldPolicy
  dsimp only
  rw [failed]
  exact if_pos (List.contains_iff_mem.mpr (holdOf_raises lawful failed))

theorem parse_accepted {raw : Fields} {hold : Hold} (accepted : holdOf contracts raw = .ok hold) :
    parseSmallAccountHoldPolicy contracts (.dict raw) = .ok (some hold) := by
  unfold parseSmallAccountHoldPolicy
  dsimp only
  rw [accepted]

-- A hold policy that is not stated is not attached.
theorem attachHold_unstated (ready : Ready contracts runtime capabilities revision policy binding target metadata limits)
    (unstated : policy.get "small_account_hold" = .none) :
    ∃ carried, attachHold contracts runtime capabilities policy limits = .ok (carried,verifiedStatus) ∧
      Sound contracts runtime capabilities revision carried verifiedStatus := by
  obtain ⟨arguments,stated,accepted⟩ := ready.accepted
  unfold attachHold
  rw [unstated]
  refine ⟨_,rfl,?_⟩
  constructor
  · exact ⟨fun _ => ⟨_,_,_,_,_,ready,.inl unstated⟩,fun _ => rfl⟩
  · intro _
    exact ⟨policy,arguments,limits,ready.stated,stated,accepted,payload_limits⟩
  · intro _ other same present
    cases ready.stated.symm.trans same
    exact absurd unstated present
  · intro unverified
    exact absurd rfl unverified

theorem attachHold_mapping (lawful : contracts.Lawful)
    (ready : Ready contracts runtime capabilities revision policy binding target metadata limits)
    {raw : Fields} (mapping : policy.get "small_account_hold" = .dict raw) :
    ∃ carried status, attachHold contracts runtime capabilities policy limits = .ok (carried,status) ∧
      Sound contracts runtime capabilities revision carried status := by
  unfold attachHold
  rw [mapping]
  cases parsed : holdOf contracts raw with
  | error exc =>
    rw [parse_rejected lawful parsed]
    refine ⟨_,_,rfl,unavailable_sound (by decide) ?_⟩
    intro policy' binding' target' metadata' limits' other fits
    obtain ⟨rfl,_,_,_⟩ := asked_same ready.toAsked other.toAsked
    cases fits with
    | inl unstated => cases mapping.symm.trans unstated
    | inr valid =>
      obtain ⟨raw',arguments,hold,same,stated,accepted⟩ := valid
      cases mapping.symm.trans same
      cases parsed.symm.trans (holdOf_iff.mpr ⟨arguments,stated,accepted⟩)
  | ok hold =>
    obtain ⟨arguments,limitsStated,accepted⟩ := ready.accepted
    obtain ⟨holding,holdStated,held⟩ := holdOf_iff.mp parsed
    rw [parse_accepted parsed]
    simp only [bind,Except.bind]
    rw [if_neg (by simp [ready.agrees.cash_only_set])]
    refine ⟨_,_,rfl,?_⟩
    constructor
    · exact ⟨fun _ => ⟨_,_,_,_,_,ready,.inr ⟨raw,holding,hold,mapping,holdStated,held⟩⟩,fun _ => rfl⟩
    · intro _
      refine ⟨policy,arguments,limits,ready.stated,limitsStated,accepted,?_⟩
      rw [lookup_attach_other (by decide)]
      exact payload_limits
    · intro _ other same present
      cases ready.stated.symm.trans same
      exact ⟨raw,holding,hold,mapping,holdStated,held,lookup_attach⟩
    · intro unverified
      exact absurd rfl unverified

-- Any other shape is taken for an absent one.
theorem attachHold_odd (ready : Ready contracts runtime capabilities revision policy binding target metadata limits)
    (odd : isMapping (policy.get "small_account_hold") = false) (present : policy.get "small_account_hold" ≠ .none) :
    ∃ carried, attachHold contracts runtime capabilities policy limits = .ok (carried,verifiedStatus) ∧
      ¬Sound contracts runtime capabilities revision carried verifiedStatus := by
  have ignored : parseSmallAccountHoldPolicy contracts (policy.get "small_account_hold") = .ok none := by
    unfold parseSmallAccountHoldPolicy
    split
    · rename_i raw mapping
      rw [mapping] at odd
      cases odd
    · rfl
  unfold attachHold
  rw [ignored,odd]
  refine ⟨_,rfl,?_⟩
  intro sound
  obtain ⟨raw,_,_,mapping,_⟩ := sound.hold_carried rfl policy ready.stated present
  rw [mapping] at odd
  cases odd

end attaching

-- Whatever revision a helper in its place returns, the capabilities are sound unless everything else fits
-- and a small account hold is stated that is neither null nor a mapping.
theorem returned_sound_iff (lawful : contracts.Lawful) (soxl : runtime.profile = soxlProfile) :
    (∃ carried status, buildCapabilitiesWith (.ok revision) contracts runtime capabilities = .ok (carried,status) ∧
      Sound contracts runtime capabilities revision carried status) ↔
    ¬∃ policy binding target metadata limits, Ready contracts runtime capabilities revision policy binding target metadata limits ∧
      policy.get "small_account_hold" ≠ .none ∧ isMapping (policy.get "small_account_hold") = false := by
  have closed : ∀ outcome : Except PyExc (Capabilities Limits Hold × String), Unavailable capabilities outcome →
      (∀ policy binding target metadata limits, ¬Ready contracts runtime capabilities revision policy binding target metadata limits) →
      ((∃ carried status, outcome = .ok (carried,status) ∧ Sound contracts runtime capabilities revision carried status) ↔
        ¬∃ policy binding target metadata limits, Ready contracts runtime capabilities revision policy binding target metadata limits ∧
          policy.get "small_account_hold" ≠ .none ∧ isMapping (policy.get "small_account_hold") = false) := by
    intro outcome rejected unready
    obtain ⟨reason,unverified,same⟩ := rejected
    constructor
    · intro _ found
      obtain ⟨_,_,_,_,_,ready,_⟩ := found
      exact unready _ _ _ _ _ ready
    · intro _
      refine ⟨_,_,same,unavailable_sound unverified ?_⟩
      intro _ _ _ _ _ ready
      exact absurd ready (unready _ _ _ _ _)
  cases @buildCapabilitiesWith_asks _ _ contracts runtime capabilities (.ok revision) soxl with
  | inl rejected =>
    apply closed _ rejected.1
    intro _ _ _ _ _ ready
    exact rejected.2 _ _ _ _ ready.toAsked
  | inr found =>
    obtain ⟨policy,binding,target,metadata,asked,same⟩ := found
    rw [same]
    change (∃ carried status, verifyLimits contracts runtime capabilities policy target metadata binding revision = .ok (carried,status) ∧
      Sound contracts runtime capabilities revision carried status) ↔ _
    cases @verifyLimits_cases _ _ contracts runtime capabilities policy binding target metadata revision lawful asked with
    | inl rejected => exact closed _ rejected.1 rejected.2
    | inr found =>
      obtain ⟨limits,ready,same⟩ := found
      rw [same]
      constructor
      · intro sound odd
        obtain ⟨_,_,_,_,_,other,present,unmapped⟩ := odd
        obtain ⟨rfl,_,_,_⟩ := asked_same ready.toAsked other.toAsked
        obtain ⟨carried,outcome,unsound⟩ := attachHold_odd ready unmapped present
        obtain ⟨carried',status,outcome',held⟩ := sound
        cases outcome.symm.trans outcome'
        exact unsound held
      · intro even
        by_cases unstated : policy.get "small_account_hold" = .none
        · obtain ⟨carried,outcome,sound⟩ := attachHold_unstated ready unstated
          exact ⟨_,_,outcome,sound⟩
        · cases shape : isMapping (policy.get "small_account_hold") with
          | false => exact absurd ⟨_,_,_,_,_,ready,unstated,shape⟩ even
          | true =>
            have mapping : ∃ raw, policy.get "small_account_hold" = .dict raw := by
              unfold isMapping at shape
              split at shape
              · exact ⟨_,by assumption⟩
              · cases shape
            obtain ⟨raw,mapped⟩ := mapping
            exact attachHold_mapping lawful ready mapped

def unbound : PyExc := ⟨"NameError","name 'importlib_metadata' is not defined"⟩

-- The handler has no clause for a name that the module does not bind.
theorem installedUesRevision_unbound (installed : Installed) : installedUesRevision installed = .error unbound := by
  have missing : global "importlib_metadata" = .error unbound := by decide +kernel
  unfold installedUesRevision
  rw [missing]
  exact if_neg (by decide)

-- The capabilities of the profile are sound exactly where they are rejected before the installed revision
-- is asked for.
theorem capabilities_sound_iff (soxl : runtime.profile = soxlProfile) :
    (∃ carried status, buildRuntimeRiskCapabilities contracts runtime capabilities = .ok (carried,status) ∧
      Sound contracts runtime capabilities (installedCommit runtime.installed) carried status) ↔
    ¬∃ policy binding target metadata, Asked runtime capabilities policy binding target metadata := by
  unfold buildRuntimeRiskCapabilities
  rw [installedUesRevision_unbound]
  cases @buildCapabilitiesWith_asks _ _ contracts runtime capabilities (.error unbound) soxl with
  | inl rejected =>
    obtain ⟨⟨reason,unverified,same⟩,unasked⟩ := rejected
    constructor
    · intro _ found
      obtain ⟨_,_,_,_,asked⟩ := found
      exact unasked _ _ _ _ asked
    · intro _
      refine ⟨_,_,same,unavailable_sound unverified ?_⟩
      intro _ _ _ _ _ ready
      exact absurd ready.toAsked (unasked _ _ _ _)
  | inr found =>
    obtain ⟨policy,binding,target,metadata,asked,same⟩ := found
    constructor
    · intro returned _
      obtain ⟨_,_,outcome,_⟩ := returned
      cases same.symm.trans outcome
    · intro unasked
      exact absurd ⟨_,_,_,_,asked⟩ unasked

section fixed

-- A deployed policy, and the runtime that it is bound to.
def fixedBinding : Fields :=
  [("account_scope",.str "SG"),("runtime_scope",.str "sg-service"),("account_hash",.str "SG"),
    ("strategy_profile",.str "soxl_soxx_trend_income"),("ues_revision",.str "rev"),("execution_mode",.str "live"),
    ("cash_only_execution",.bool true),("reserved_cash_ratio",reservedRatio),("options_enabled",.bool false)]

def policyWith (binding : Fields) : Fields :=
  [("binding",.dict binding),("allowed_symbols",.list [.str "SOXL"]),("product_leverage_factors",.dict [("SOXL",.int 3)]),
    ("nominal_caps",.dict [("SOXL",.int 1)]),("total_nominal_exposure_cap",.int 1),("total_effective_exposure_cap",.int 3),
    ("max_positions",.int 8),("exit_parameters",exitParametersOf exitBuffer)]

def fixedPolicy : Fields := policyWith fixedBinding

-- A binding with a field too many.
def regionPolicy : Fields := policyWith (fixedBinding ++ [("account_region",.str "SG")])

-- The hold policy as a list.
def listedHold : Fields := fixedPolicy ++ [("small_account_hold",.list [.bool true,.int 500])]

def fixedTarget : RuntimeTarget := ⟨.str "SG",.str "sg-service",.none,"live",some (.str "rev")⟩

def fixedInstalled : Installed where
  directUrl := .ok (some "url")
  loads _ := .ok (.dict [("vcs_info",.dict [("commit_id",.str "rev")])])

def fixedRuntime (policy : Fields) : Runtime where
  profile := soxlProfile
  settings := ⟨.dict policy,some fixedTarget,.bool true,reservedRatio⟩
  mergedRuntimeConfig :=
    [("cash_reserve_ratio",reservedRatio),("trend_exit_buffer",exitBuffer),("option_overlay_enabled",.bool false),
      ("option_growth_overlay_enabled",.bool false),("option_income_overlay_enabled",.bool false)]
  snapshotMetadata := some (.dict [("account_hash",.str "SG")])
  installed := fixedInstalled

def fixedContracts : Contracts LimitsArguments HoldArguments where
  runtimeRiskLimits arguments := .ok arguments
  smallAccountRiskHoldPolicy arguments := .ok arguments
  requireCashOnly arguments := isTrue arguments.requireCashOnly

def fixedCapabilities : Capabilities LimitsArguments HoldArguments := [("capital_base_binding",.value (.bool true))]

theorem fixed_agrees : Agrees (fixedRuntime fixedPolicy) fixedTarget (.dict [("account_hash",.str "SG")]) fixedPolicy fixedBinding
    (installedCommit fixedInstalled) := by
  apply bindingMismatch_false.mp
  decide +kernel

-- All of it fits the installed revision, and the name that is not bound is raised.
theorem fitting_policy_raises :
    (∃ limits, Ready fixedContracts (fixedRuntime fixedPolicy) fixedCapabilities (installedCommit fixedInstalled) fixedPolicy fixedBinding
      fixedTarget (.dict [("account_hash",.str "SG")]) limits) ∧ HoldFits fixedContracts fixedPolicy ∧
    buildRuntimeRiskCapabilities fixedContracts (fixedRuntime fixedPolicy) fixedCapabilities = .error unbound ∧
    ¬∃ carried status, buildRuntimeRiskCapabilities fixedContracts (fixedRuntime fixedPolicy) fixedCapabilities = .ok (carried,status) ∧
      Sound fixedContracts (fixedRuntime fixedPolicy) fixedCapabilities (installedCommit fixedInstalled) carried status := by
  have raised : buildRuntimeRiskCapabilities fixedContracts (fixedRuntime fixedPolicy) fixedCapabilities = .error unbound := by
    unfold buildRuntimeRiskCapabilities
    rw [installedUesRevision_unbound]
    rfl
  refine ⟨⟨_,⟨rfl,rfl,rfl,rfl,?_,?_,rfl,?_,?_⟩,fixed_agrees,limitsOf_iff.mp rfl⟩,.inl rfl,raised,?_⟩
  · apply keysInclude_iff.mp
    decide +kernel
  · apply keysAmong_iff.mp
    decide +kernel
  · apply keysInclude_iff.mp
    decide +kernel
  · apply keysAmong_iff.mp
    decide +kernel
  · intro returned
    obtain ⟨_,_,outcome,_⟩ := returned
    cases raised.symm.trans outcome

-- The binding with a field too many is rejected before.
theorem region_binding_is_rejected : ∃ carried status,
    buildRuntimeRiskCapabilities fixedContracts (fixedRuntime regionPolicy) fixedCapabilities = .ok (carried,status) ∧
      Sound fixedContracts (fixedRuntime regionPolicy) fixedCapabilities (installedCommit fixedInstalled) carried status := by
  apply (capabilities_sound_iff rfl).mpr
  intro found
  obtain ⟨policy,binding,_,_,asked⟩ := found
  cases asked.stated
  cases asked.bound
  have among := asked.bindingAllowed ("account_region",.str "SG") (List.mem_append_right _ (List.mem_singleton.mpr rfl))
  exact absurd among (by decide)

-- With the revision in place, a hold policy written as a list is dropped and the limits are verified.
example : (buildCapabilitiesWith (.ok (some "rev")) fixedContracts (fixedRuntime listedHold) fixedCapabilities).map (·.2) =
    .ok verifiedStatus := by
  decide +kernel

end fixed

end LongBridge.RuntimeRisk
