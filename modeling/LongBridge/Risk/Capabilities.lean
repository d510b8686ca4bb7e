import LongBridge.Python.Equality
import LongBridge.Reporting.Monitors

namespace LongBridge.RuntimeRisk
open Reporting

-- The direct_url.json of the strategies' distribution, and json.loads.
structure Installed where
  directUrl : Except PyExc (Option String)
  loads : String → Except PyExc PyVal

def handledKinds : List String :=
  ["ImportError","PackageNotFoundError","OSError","TypeError","ValueError","JSONDecodeError","UnicodeDecodeError","AttributeError"]

-- What the module imports and what it defines. `importlib_metadata` is not among them.
def moduleNames : List String :=
  ["annotations","os","json","dataclass","field","replace","datetime","timezone","Path","Any","Callable","Mapping",
    "load_feature_snapshot_guarded","CapitalBaseBinding","CapitalScope","CapitalValuationBasis","build_capital_base_snapshot",
    "validate_capital_base","PortfolioSnapshot","FeatureSnapshotRuntimeSettings","evaluate_feature_snapshot_strategy","StrategyDecision",
    "StrategyEntrypoint","StrategyRuntimeAdapter","apply_runtime_policy_to_runtime_config","build_execution_timing_metadata",
    "build_strategy_context_from_available_inputs","RuntimeRiskLimits","SmallAccountRiskHoldPolicy","PlatformRuntimeSettings",
    "load_strategy_entrypoint_for_profile","load_strategy_runtime_adapter_for_profile","V7_LONGTERM_COMPOUNDING_PROFILE",
    "_FEATURE_SNAPSHOT_INPUT","_SOXL_PROFILE","_parse_small_account_hold_policy","_installed_ues_revision","DCA_PROFILES",
    "IBIT_ZSCORE_EXIT_PROFILE","StrategyEvaluationResult","LoadedStrategyRuntime","_default_runtime_settings",
    "_build_runtime_overrides","_apply_dca_runtime_overrides","_apply_ibit_zscore_exit_runtime_overrides","load_strategy_runtime"]

-- A name that is not local is looked up among them.
def global (name : String) : Except PyExc Unit :=
  if moduleNames.contains name then .ok () else .error ⟨"NameError","name '" ++ name ++ "' is not defined"⟩

-- `value.get(key, default)`
def getOr (value : PyVal) (key : String) (default : PyVal) : Except PyExc PyVal :=
  match value with
  | .dict entries => .ok ((entries.lookup key).getD default)
  | _ => .error ⟨"AttributeError","object has no attribute get"⟩

-- From the distribution on, the body of the try statement.
def readRevision (installed : Installed) : Except PyExc PyVal := do
  let rawDirectUrl ← installed.directUrl
  match rawDirectUrl with
  | none | some "" => return .none
  | some text =>
    let payload ← installed.loads text
    let vcsInfo ← getOr payload "vcs_info" (.dict [])
    getOr vcsInfo "commit_id" .none

def statedRevision : PyVal → Option String
  | .str revision => if strip revision = "" then none else some (strip revision)
  | _ => none

-- `_installed_ues_revision`
def installedUesRevision (installed : Installed) : Except PyExc (Option String) :=
  match (do global "importlib_metadata"; readRevision installed) with
  | .error exc => if handledKinds.contains exc.kind then .ok none else .error exc
  | .ok revision => .ok (statedRevision revision)

structure LimitsArguments where
  allowedSymbols : List PyVal
  productLeverageFactors : PyVal
  nominalCaps : PyVal
  totalNominalExposureCap : PyVal
  totalEffectiveExposureCap : PyVal
  maxPositions : PyVal
  maxDailyLossUsd : Option PyVal

structure HoldArguments where
  enabled : PyVal
  holdBelowNav : PyVal
  requireCashOnly : PyVal

-- The constructors of the limits and of the hold policy.
structure Contracts (Limits Hold : Type) where
  runtimeRiskLimits : LimitsArguments → Except PyExc Limits
  smallAccountRiskHoldPolicy : HoldArguments → Except PyExc Hold
  requireCashOnly : Hold → Bool

structure Contracts.Lawful {Limits Hold : Type} (contracts : Contracts Limits Hold) : Prop where
  limits_raises : ∀ arguments exc, contracts.runtimeRiskLimits arguments = .error exc → exc.kind = "TypeError" ∨ exc.kind = "ValueError"
  hold_raises : ∀ arguments exc, contracts.smallAccountRiskHoldPolicy arguments = .error exc →
    exc.kind = "TypeError" ∨ exc.kind = "ValueError"

structure RuntimeTarget where
  accountScope : PyVal
  serviceName : PyVal
  deploymentSelector : PyVal
  executionMode : String
  strategyRevision : Option PyVal

structure Settings where
  trustedRuntimeRiskPolicy : PyVal
  runtimeTarget : Option RuntimeTarget
  cashOnlyExecution : PyVal
  reservedCashRatio : PyVal

-- A loaded strategy, the metadata of its portfolio snapshot, and what is installed.
structure Runtime where
  profile : String
  settings : Settings
  mergedRuntimeConfig : Fields
  snapshotMetadata : Option PyVal
  installed : Installed

inductive Capability (Limits Hold : Type) where
  | value (value : PyVal)
  | limits (limits : Limits)
  | hold (policy : Hold)
  | unaccepted

variable {Limits Hold : Type}

abbrev Capabilities (Limits Hold : Type) := List (String × Capability Limits Hold)

-- `{**capabilities, key: value}`
def attach (key : String) (value : Capability Limits Hold) : Capabilities Limits Hold → Capabilities Limits Hold
  | [] => [(key,value)]
  | (name,old) :: rest => if name == key then (name,value) :: rest else (name,old) :: attach key value rest

def soxlProfile : String := "soxl_soxx_trend_income"

def expectedPolicyKeys : List String :=
  ["binding","allowed_symbols","product_leverage_factors","nominal_caps","total_nominal_exposure_cap","total_effective_exposure_cap",
    "max_positions","exit_parameters"]

def optionalPolicyKeys : List String := ["small_account_hold","max_daily_loss_usd"]

def expectedBindingKeys : List String :=
  ["account_scope","runtime_scope","account_hash","strategy_profile","ues_revision","execution_mode","cash_only_execution",
    "reserved_cash_ratio","options_enabled"]

def optionSettings : List String := ["option_overlay_enabled","option_growth_overlay_enabled","option_income_overlay_enabled"]

def keysAmong (fields : Fields) (names : List String) : Bool := fields.all fun entry => names.contains entry.1

def keysInclude (fields : Fields) (names : List String) : Bool := names.all fields.has

-- `str(value).strip()`
def stripped (value : PyVal) : String := strip value.text

def accountScope (target : RuntimeTarget) : String := strip target.accountScope.textOrEmpty

def runtimeScope (target : RuntimeTarget) : String :=
  strip (if target.serviceName.truthy then target.serviceName else target.deploymentSelector).textOrEmpty

def accountHash : PyVal → String
  | .dict metadata => strip (Fields.get metadata "account_hash").textOrEmpty
  | _ => ""

def reservedRatio : PyVal := .float (.finite (3 / 100)) "0.03"

def exitBuffer : PyVal := .float (.finite (2 / 100)) "0.02"

def exitParametersOf (buffer : PyVal) : PyVal := .dict [("trend_exit_buffer",buffer)]

def isMapping : PyVal → Bool
  | .dict _ => true
  | _ => false

-- The one large condition, in its order.
def bindingMismatch (runtime : Runtime) (target : RuntimeTarget) (metadata : PyVal) (policy binding : Fields)
    (actualUesRevision : Option String) : Bool :=
  accountScope target == "" || runtimeScope target == "" || accountHash metadata == "" || target.strategyRevision.isNone ||
  stripped (binding.get "account_scope") != accountScope target ||
  stripped (binding.get "runtime_scope") != runtimeScope target ||
  stripped (binding.get "account_hash") != accountHash metadata ||
  stripped (binding.get "strategy_profile") != runtime.profile ||
  some (stripped (binding.get "ues_revision")) != target.strategyRevision.map stripped ||
  actualUesRevision.isNone || actualUesRevision != some (stripped (binding.get "ues_revision")) ||
  lower (stripped (binding.get "execution_mode")) != target.executionMode ||
  !isTrue (binding.get "cash_only_execution") || !isTrue runtime.settings.cashOnlyExecution ||
  !(binding.get "reserved_cash_ratio").same (runtime.mergedRuntimeConfig.get "cash_reserve_ratio") ||
  !(binding.get "reserved_cash_ratio").same runtime.settings.reservedCashRatio ||
  !(binding.get "reserved_cash_ratio").same reservedRatio ||
  !isFalse (binding.get "options_enabled") ||
  optionSettings.any (fun key => !isFalse (runtime.mergedRuntimeConfig.get key)) ||
  !isMapping (policy.get "exit_parameters") ||
  isNone (runtime.mergedRuntimeConfig.get "trend_exit_buffer") ||
  !(runtime.mergedRuntimeConfig.get "trend_exit_buffer").same exitBuffer ||
  !(policy.get "exit_parameters").same (exitParametersOf exitBuffer) ||
  !(policy.get "exit_parameters").same (exitParametersOf (runtime.mergedRuntimeConfig.get "trend_exit_buffer"))

def limitsOf (contracts : Contracts Limits Hold) (policy : Fields) : Except PyExc Limits := do
  let allowedSymbols ← (policy.get "allowed_symbols").iterate
  contracts.runtimeRiskLimits
    { allowedSymbols
      productLeverageFactors := policy.get "product_leverage_factors"
      nominalCaps := policy.get "nominal_caps"
      totalNominalExposureCap := policy.get "total_nominal_exposure_cap"
      totalEffectiveExposureCap := policy.get "total_effective_exposure_cap"
      maxPositions := policy.get "max_positions"
      maxDailyLossUsd := policy.lookup "max_daily_loss_usd" }

-- `raw["enabled"]`
def item (fields : Fields) (key : String) : Except PyExc PyVal :=
  match fields.lookup key with
  | some value => .ok value
  | none => .error ⟨"KeyError",key⟩

def holdOf (contracts : Contracts Limits Hold) (raw : Fields) : Except PyExc Hold := do
  let enabled ← item raw "enabled"
  let holdBelowNav ← item raw "hold_below_nav"
  contracts.smallAccountRiskHoldPolicy ⟨enabled,holdBelowNav,(raw.lookup "require_cash_only").getD (.bool true)⟩

-- `_parse_small_account_hold_policy`
def parseSmallAccountHoldPolicy (contracts : Contracts Limits Hold) : PyVal → Except PyExc (Option Hold)
  | .dict raw => match holdOf contracts raw with
    | .ok policy => .ok (some policy)
    | .error exc => if ["KeyError","TypeError","ValueError"].contains exc.kind then .ok none else .error exc
  | _ => .ok none

def unavailable (capabilities : Capabilities Limits Hold) (reason : String) : Except PyExc (Capabilities Limits Hold × String) :=
  .ok (attach "runtime_risk_limits" .unaccepted capabilities,reason)

def verifiedStatus : String := "verified:runtime_risk_limits"

def attachHold (contracts : Contracts Limits Hold) (runtime : Runtime) (capabilities : Capabilities Limits Hold) (policy : Fields)
    (limits : Limits) : Except PyExc (Capabilities Limits Hold × String) := do
  let payload := attach "cash_only_execution" (.value (.bool runtime.settings.cashOnlyExecution.truthy))
    (attach "runtime_risk_limits" (.limits limits) capabilities)
  let holdPolicy ← parseSmallAccountHoldPolicy contracts (policy.get "small_account_hold")
  match holdPolicy with
  | none =>
    if isMapping (policy.get "small_account_hold") then unavailable capabilities "unavailable:invalid_small_account_hold"
    else return (payload,verifiedStatus)
  | some hold =>
    if contracts.requireCashOnly hold && !isTrue runtime.settings.cashOnlyExecution then
      unavailable capabilities "unavailable:small_account_hold_cash_only"
    else return (attach "small_account_hold_policy" (.hold hold) payload,verifiedStatus)

-- From the installed revision on.
def verifyLimits (contracts : Contracts Limits Hold) (runtime : Runtime) (capabilities : Capabilities Limits Hold) (policy : Fields)
    (target : RuntimeTarget) (metadata : PyVal) (binding : Fields) (actualUesRevision : Option String) :
    Except PyExc (Capabilities Limits Hold × String) :=
  if bindingMismatch runtime target metadata policy binding actualUesRevision then
    unavailable capabilities "unavailable:runtime_binding_mismatch"
  else match limitsOf contracts policy with
  | .error exc =>
    if exc.kind = "TypeError" ∨ exc.kind = "ValueError" then unavailable capabilities "unavailable:invalid_runtime_risk_limits"
    else .error exc
  | .ok limits => attachHold contracts runtime capabilities policy limits

def bindLimits (revision : Except PyExc (Option String)) (contracts : Contracts Limits Hold) (runtime : Runtime)
    (capabilities : Capabilities Limits Hold) (policy : Fields) (target : RuntimeTarget) (metadata : PyVal) :
    Except PyExc (Capabilities Limits Hold × String) :=
  if !keysInclude policy expectedPolicyKeys || !keysAmong policy (expectedPolicyKeys ++ optionalPolicyKeys) then
    unavailable capabilities "unavailable:invalid_runtime_risk_policy"
  else match policy.get "binding" with
  | .dict binding =>
    if !(keysInclude binding expectedBindingKeys && keysAmong binding expectedBindingKeys) then
      unavailable capabilities "unavailable:invalid_runtime_binding"
    else revision.bind (verifyLimits contracts runtime capabilities policy target metadata binding)
  | _ => unavailable capabilities "unavailable:invalid_runtime_risk_policy"

-- The capital base binding is there and is not null.
def bindingGiven (capabilities : Capabilities Limits Hold) : Bool :=
  match capabilities.lookup "capital_base_binding" with
  | none | some (.value .none) => false
  | _ => true

-- With what the call of `_installed_ues_revision` gives. The tests put a function of their own in its place.
def buildCapabilitiesWith (revision : Except PyExc (Option String)) (contracts : Contracts Limits Hold) (runtime : Runtime)
    (capabilities : Capabilities Limits Hold) : Except PyExc (Capabilities Limits Hold × String) :=
  if runtime.profile ≠ soxlProfile then .ok (capabilities,"unavailable:profile_not_supported")
  else match runtime.settings.trustedRuntimeRiskPolicy with
  | .dict policy => match runtime.settings.runtimeTarget,runtime.snapshotMetadata,bindingGiven capabilities with
    | some target,some metadata,true => bindLimits revision contracts runtime capabilities policy target metadata
    | _,_,_ => unavailable capabilities "unavailable:runtime_binding"
  | _ => unavailable capabilities "unavailable:runtime_risk_policy"

-- `_build_runtime_risk_capabilities`
def buildRuntimeRiskCapabilities (contracts : Contracts Limits Hold) (runtime : Runtime) (capabilities : Capabilities Limits Hold) :
    Except PyExc (Capabilities Limits Hold × String) :=
  buildCapabilitiesWith (installedUesRevision runtime.installed) contracts runtime capabilities

end LongBridge.RuntimeRisk
