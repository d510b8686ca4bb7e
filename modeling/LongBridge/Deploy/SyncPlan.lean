import Mathlib.Data.List.Sort
import LongBridge.Effects.Fallible
import LongBridge.Python.Conversions
import LongBridge.Python.Equality
import LongBridge.Python.Json

namespace LongBridge.Deploy
open Effects

-- Environment variables, and the variables of a plan in the order they were set.
abbrev Texts := List (String × String)

namespace Texts

def set : Texts → String → String → Texts
  | [],key,value => [(key,value)]
  | (name,old) :: rest,key,value =>
    if name == key then (name,value) :: rest else (name,old) :: set rest key value

-- `str(env.get(name, "") or "").strip()`
def stripped (env : Texts) (name : String) : String := strip ((env.lookup name).getD "")

end Texts

def targetsEnv : String := "CLOUD_RUN_SERVICE_TARGETS_JSON"

def platformConfigEnv : String := "PLATFORM_CONFIG_JSON"

def sharedTargetFallbackEnv : List String :=
  ["GLOBAL_TELEGRAM_CHAT_ID","NOTIFY_LANG","EXECUTION_REPORT_GCS_URI","LIFECYCLE_PERFORMANCE_BUCKET","GOOGLE_CLOUD_PROJECT",
    "LONGBRIDGE_MARKET","LONGBRIDGE_MARKET_CALENDAR","LONGBRIDGE_MARKET_TIMEZONE","LONGBRIDGE_SYMBOL_SUFFIX",
    "LONGBRIDGE_TRADING_CURRENCY","LONGBRIDGE_STRATEGY_PLUGIN_MOUNTS_JSON","LONGBRIDGE_PHYSICAL_ACCOUNT_ID"]

def requiredEnv : List String := ["GLOBAL_TELEGRAM_CHAT_ID","NOTIFY_LANG","ACCOUNT_PREFIX"]

def platformGenericEnv : List String :=
  ["LONGBRIDGE_DRY_RUN_ONLY","LONGBRIDGE_PHYSICAL_ACCOUNT_ID","LONGBRIDGE_MARKET","LONGBRIDGE_MARKET_CALENDAR",
    "LONGBRIDGE_MARKET_TIMEZONE","LONGBRIDGE_SYMBOL_SUFFIX","LONGBRIDGE_TRADING_CURRENCY","LONGBRIDGE_FEATURE_SNAPSHOT_PATH",
    "LONGBRIDGE_FEATURE_SNAPSHOT_MANIFEST_PATH","LONGBRIDGE_FEATURE_SNAPSHOT_FALLBACK_MODE",
    "LONGBRIDGE_FEATURE_SNAPSHOT_FALLBACK_CACHE_DIR","LONGBRIDGE_FEATURE_SNAPSHOT_MAX_STALE_DAYS",
    "LONGBRIDGE_STRATEGY_CONFIG_PATH","LONGBRIDGE_STRATEGY_PLUGIN_MOUNTS_JSON","LONGBRIDGE_MIN_RESERVED_CASH_USD",
    "LONGBRIDGE_RESERVED_CASH_RATIO","LONGBRIDGE_CASH_ONLY_EXECUTION","LONGBRIDGE_SAFE_HAVEN_CASH_SUBSTITUTE_THRESHOLD_USD",
    "LONGBRIDGE_MARKET_SIGNAL_HANDOFF_INDEX_URI","LONGBRIDGE_MARKET_SIGNAL_HANDOFF_MANIFEST_URI",
    "LONGBRIDGE_MARKET_SIGNAL_CONSUMPTION_AUDIT_URI","LONGBRIDGE_MARKET_SIGNAL_CACHE_DIR","LONGBRIDGE_MARKET_SIGNAL_REQUIRED",
    "LONGBRIDGE_MARKET_SIGNAL_FALLBACK_MODE","LONGBRIDGE_MARKET_SIGNAL_MAX_STALE_DAYS","CASH_ONLY_EXECUTION",
    "RUNTIME_TARGET_ENABLED","EXECUTION_REPORT_GCS_URI","LIFECYCLE_PERFORMANCE_BUCKET","GOOGLE_CLOUD_PROJECT",
    "LONGBRIDGE_DURABLE_EXECUTION_COMMAND_PAPER_ENABLED","LONGBRIDGE_DURABLE_EXECUTION_COMMAND_PAPER_CONSUMER_ENABLED",
    "LONGBRIDGE_EXECUTION_COMMAND_CLOUD_URI"]

def paperOnlyDurableCommandEnv : List String :=
  ["LONGBRIDGE_DURABLE_EXECUTION_COMMAND_PAPER_ENABLED","LONGBRIDGE_DURABLE_EXECUTION_COMMAND_PAPER_CONSUMER_ENABLED"]

def optionalTargetEnv : List String := platformGenericEnv ++
  ["INCOME_LAYER_ENABLED","INCOME_LAYER_START_USD","INCOME_LAYER_MAX_RATIO","INCOME_THRESHOLD_USD","QQQI_INCOME_RATIO",
    "SPYI_INCOME_RATIO","OPTION_OVERLAY_ENABLED","OPTION_GROWTH_OVERLAY_ENABLED","OPTION_INCOME_OVERLAY_ENABLED",
    "OPTION_INCOME_OVERLAY_RECIPE","OPTION_INCOME_OVERLAY_START_USD","OPTION_INCOME_OVERLAY_NAV_RISK_RATIO",
    "OPTION_GROWTH_OVERLAY_RECIPE","OPTION_GROWTH_OVERLAY_START_USD","OPTION_GROWTH_OVERLAY_NAV_BUDGET_RATIO","DCA_MODE",
    "DCA_BASE_INVESTMENT_USD","IBIT_ZSCORE_EXIT_ENABLED","IBIT_ZSCORE_EXIT_MODE","IBIT_ZSCORE_EXIT_PARKING_SYMBOL",
    "IBIT_ZSCORE_EXIT_RISK_REDUCED_EXPOSURE","IBIT_ZSCORE_EXIT_RISK_OFF_EXPOSURE","IBIT_ZSCORE_EXIT_ALLOW_OUTSIDE_EXECUTION_WINDOW"]

structure SchedulerTime where
  key : String
  env : String
  fallback : String

-- SCHEDULER_TIME_ENV with SCHEDULER_TIME_DEFAULTS
def schedulerTimes : List SchedulerTime :=
  [⟨"main_time","CLOUD_SCHEDULER_MAIN_TIME","45 15"⟩,⟨"probe_time","CLOUD_SCHEDULER_PROBE_TIME","35 9,15"⟩,
    ⟨"precheck_time","CLOUD_SCHEDULER_PRECHECK_TIME","45 9"⟩]

-- json.loads and compact json.dumps with sorted keys, the strategy registry, the file a
-- path names, and the configuration that is found where the environment states none.
structure Kit where
  loads : String → Except PyExc PyVal
  dumps : PyVal → String
  canonicalProfile : String → Except PyExc String
  statusRows : List (String × Fields)
  fileText : String → Option String
  defaultConfig : Except PyExc PyVal

def valueError (text : String) : PyExc := ⟨"ValueError",text⟩

def typeError : PyExc := ⟨"TypeError","argument is not iterable"⟩

def attributeError : PyExc := ⟨"AttributeError","get"⟩

def coerceMapping : PyVal → Except PyExc Fields
  | .dict fields => .ok fields
  | _ => .error (valueError "Expected a JSON object")

-- `_coerce_mapping(value or {})`
def optionalMapping (value : PyVal) : Except PyExc Fields := if value.truthy then coerceMapping value else .ok []

def targetField (target defaults : Fields) (name : String) : Except PyExc PyVal := do
  let own ← optionalMapping (target.get "env")
  let shared ← optionalMapping (defaults.get "env")
  return ([target,own,defaults,shared].findSome? fun source => source.lookup name).getD .none

def isEmptyValue : PyVal → Bool
  | .none => true
  | .str text => strip text == ""
  | _ => false

def firstNonEmpty (values : List PyVal) : PyVal := (values.find? fun value => !isEmptyValue value).getD .none

def textOrNone (text : String) : Option String := if strip text = "" then none else some (strip text)

def coerceEnvValue (kit : Kit) : PyVal → Option String
  | .none => none
  | .bool value => some (if value then "true" else "false")
  | .dict entries => some (kit.dumps (.dict entries))
  | .list items => some (kit.dumps (.list items))
  | .tuple items => some (kit.dumps (.tuple items))
  | value => textOrNone value.text

def textValue : Option String → PyVal
  | some text => .str text
  | none => .none

def isNone : PyVal → Bool
  | .none => true
  | _ => false

-- What an environment variable adds where a target states nothing.
def fallbackValue (env : Texts) (name : String) (allowed : Bool) (raw : PyVal) : PyVal :=
  if isNone raw && allowed then textValue (textOrNone (env.stripped name)) else raw

def targetEnvValue (kit : Kit) (target defaults : Fields) (env : Texts) (name : String) (perServiceMode allowSharedFallback : Bool) :
    Except PyExc (Option String) := do
  let exact ← targetField target defaults name
  let lowered ← targetField target defaults (lower name)
  return coerceEnvValue kit
    (fallbackValue env name (!perServiceMode || allowSharedFallback) (firstNonEmpty [exact,lowered]))

def configuredService (target defaults : Fields) : Except PyExc PyVal := do
  let service ← targetField target defaults "service"
  let serviceName ← targetField target defaults "service_name"
  let cloudRunService ← targetField target defaults "cloud_run_service"
  return firstNonEmpty [service,serviceName,cloudRunService]

-- The runtime target a target states for itself.
def ownRuntimeTarget (target defaults : Fields) : Except PyExc PyVal := do
  let mapping ← targetField target defaults "runtime_target"
  let text ← targetField target defaults "runtime_target_json"
  return firstNonEmpty [mapping,text]

-- Whether the environment's RUNTIME_TARGET_JSON stands in for a target's own.
def takesEnvironment (env : Texts) (perServiceMode : Bool) (configured : PyVal) : Bool :=
  perServiceMode && env.stripped "RUNTIME_TARGET_JSON" != "" &&
    strip configured.textOrEmpty == env.stripped "CLOUD_RUN_SERVICE"

def legacyTarget (env : Texts) (perServiceMode : Bool) (raw : PyVal) : PyVal :=
  if isNone raw && !perServiceMode then textValue (textOrNone (env.stripped "RUNTIME_TARGET_JSON")) else raw

def decodeTarget (kit : Kit) : PyVal → Except PyExc Fields
  | .none => .error (valueError (targetsEnv ++ ".targets[].runtime_target is required in per-service mode"))
  | .dict fields => .ok fields
  | .str text => do
    match ← kit.loads text with
    | .dict fields => return fields
    | _ => .error (valueError "runtime_target_json must decode to a JSON object")
  | _ => .error (valueError "runtime_target must be a JSON object or JSON object string")

def rawRuntimeTarget (target defaults : Fields) (env : Texts) (perServiceMode : Bool) : Except PyExc PyVal := do
  let configured ← configuredService target defaults
  if takesEnvironment env perServiceMode configured then return .str (env.stripped "RUNTIME_TARGET_JSON")
  else do
    let own ← ownRuntimeTarget target defaults
    return legacyTarget env perServiceMode own

def resolveRuntimeTarget (kit : Kit) (target defaults : Fields) (env : Texts) (perServiceMode : Bool) : Except PyExc Fields := do
  let raw ← rawRuntimeTarget target defaults env perServiceMode
  decodeTarget kit raw

-- `key in value`
def containsKey (value : PyVal) (key : String) : Except PyExc Bool :=
  match value with
  | .dict entries => .ok (Fields.has entries key)
  | .list items => .ok (items.any fun item => item.isStr key)
  | .tuple items => .ok (items.any fun item => item.isStr key)
  | .str text => .ok ((text.splitOn key).length != 1)
  | _ => .error typeError

-- `value[key]` where `key in value`
def member (value : PyVal) (key : String) : Except PyExc PyVal := do
  if ← containsKey value key then
    match value with
    | .dict entries => return Fields.get entries key
    | _ => .error ⟨"TypeError","indices must be integers"⟩
  else return .none

def boolText (value : PyVal) : String :=
  match value with
  | .bool _ => lower value.text
  | value => value.text

def copyDefault (source : PyVal) (text : PyVal → String) (defaults : Texts) (entry : String × String) : Except PyExc Texts := do
  let value ← member source entry.1
  return if isNone value then defaults else defaults.set entry.2 (text value)

-- A feature that is there is copied even where it is None.
def copyFeature (features : PyVal) (defaults : Texts) (entry : String × String) : Except PyExc Texts := do
  let value ← member features entry.1
  let present ← containsKey features entry.1
  return if present then defaults.set entry.2 (lower value.text) else defaults

def incomeAllocations : PyVal → Fields
  | .dict income => match Fields.get income "allocations" with
    | .dict allocations => allocations
    | _ => []
  | _ => []

def copyAllocation (allocations : Fields) (defaults : Texts) (symbol : String) : Texts :=
  let weight := allocations.get symbol
  if isNone weight then defaults else defaults.set (symbol ++ "_INCOME_RATIO") weight.text

def deriveDefaults (config : Fields) : Except PyExc Texts := do
  let features := config.getOr "features" (.dict [])
  let income := config.getOr "income_layer_defaults" (.dict [])
  let options := config.getOr "option_overlay_defaults" (.dict [])
  let dca := config.getOr "dca_defaults" (.dict [])
  let withFeatures ← [("income_layer","INCOME_LAYER_ENABLED"),("option_overlay","OPTION_OVERLAY_ENABLED")].foldlM
    (copyFeature features) []
  let withIncome ← [("start_usd","INCOME_LAYER_START_USD"),("max_ratio","INCOME_LAYER_MAX_RATIO")].foldlM
    (copyDefault income PyVal.text) withFeatures
  let withAllocations := ["QQQI","SPYI"].foldl (copyAllocation (incomeAllocations income)) withIncome
  let withOptions ← [("growth_enabled","OPTION_GROWTH_OVERLAY_ENABLED"),("income_enabled","OPTION_INCOME_OVERLAY_ENABLED"),
    ("income_recipe","OPTION_INCOME_OVERLAY_RECIPE"),("income_start_usd","OPTION_INCOME_OVERLAY_START_USD"),
    ("nav_risk_ratio","OPTION_INCOME_OVERLAY_NAV_RISK_RATIO"),("growth_recipe","OPTION_GROWTH_OVERLAY_RECIPE"),
    ("growth_start_usd","OPTION_GROWTH_OVERLAY_START_USD"),("nav_budget_ratio","OPTION_GROWTH_OVERLAY_NAV_BUDGET_RATIO")].foldlM
    (copyDefault options boolText) withAllocations
  [("default_mode","DCA_MODE"),("default_base_investment_usd","DCA_BASE_INVESTMENT_USD")].foldlM (copyDefault dca PyVal.text) withOptions

-- `_derive_strategy_env_defaults`
def deriveStrategyEnvDefaults (config : PyVal) : Except PyExc Texts :=
  if config.truthy then
    match config with
    | .dict fields => deriveDefaults fields
    | _ => .error attributeError
  else .ok []

-- `mapping.get(key, {})` of a value that has to be a mapping
def platformSection (value : PyVal) (key : String) : Except PyExc PyVal :=
  match value with
  | .dict fields => .ok (Fields.getOr fields key (.dict []))
  | _ => .error attributeError

def strategyConfig (platformConfig : PyVal) (profile : String) : Except PyExc PyVal := do
  let strategies ← if platformConfig.truthy then platformSection platformConfig "strategies" else .ok (.dict [])
  platformSection strategies profile

def overridesOf (runtimeTarget : Fields) : Option Fields :=
  match runtimeTarget.get "overrides" with
  | .dict overrides => some overrides
  | _ => none

def withOverrides (kit : Kit) (defaults : Texts) (overrides : Option Fields) : Texts :=
  (overrides.getD []).foldl (fun known entry => known.set (upper entry.1) ((coerceEnvValue kit entry.2).getD "")) defaults

-- `[a-z](?:[a-z0-9-]{0,47}[a-z0-9])?`
def isServiceName (text : String) : Bool :=
  text.length ≤ 49 && (text.toList.head?.any Char.isLower) &&
    (text.toList.getLast?.any fun char => char.isLower || char.isDigit) &&
    text.toList.all fun char => char.isLower || char.isDigit || char == '-'

def exactServiceName (service : PyVal) : Except PyExc String :=
  if !service.truthy then .error (valueError "Each Cloud Run sync target requires service/service_name")
  else match service with
    | .str text => if isServiceName text then .ok text else .error (valueError "Cloud Run exact service name is invalid")
    | _ => .error (valueError "Cloud Run exact service name is invalid")

def checkRuntimeService (name : String) : PyVal → Except PyExc Unit
  | .none => .ok ()
  | .str text =>
    if !isServiceName text then .error (valueError "Cloud Run exact runtime service name is invalid")
    else if text ≠ name then .error (valueError "Cloud Run exact service identity does not match")
    else .ok ()
  | _ => .error (valueError "Cloud Run exact runtime service name is invalid")

def eligibleStatus (kit : Kit) (name raw profile : String) : Except PyExc Fields :=
  match kit.statusRows.lookup profile with
  | some status =>
    if (status.get "eligible").truthy && (status.get "enabled").truthy then .ok status
    else .error (valueError ("STRATEGY_PROFILE=" ++ (PyVal.str raw).repr ++ " is not eligible/enabled for " ++ name ++ ": " ++
      (PyVal.dict status).text))
  | none => .error (valueError ("Unsupported STRATEGY_PROFILE=" ++ (PyVal.str raw).repr ++ " for " ++ name ++ "; supported: " ++
      ", ".intercalate ((kit.statusRows.map Prod.fst).insertionSort (· ≤ ·))))

def isOn (text : String) : Bool := ["1","true","yes","on"].contains (lower (strip text))

def isOff (text : String) : Bool := ["0","false","no","off"].contains (lower (strip text))

-- `_runtime_target_enabled`
def runtimeTargetEnabled (values : Texts) : Except PyExc Bool :=
  let raw := (values.lookup "RUNTIME_TARGET_ENABLED").getD ""
  if strip raw = "" then .ok true
  else if isOn raw then .ok true
  else if isOff raw then .ok false
  else .error (valueError "RUNTIME_TARGET_ENABLED must be true or false")

-- `_is_explicit_paper_dry_run_target`
def isExplicitPaperDryRunTarget (kit : Kit) (runtimeTarget : Fields) (values : Texts) : Bool :=
  let raw := (values.lookup "LONGBRIDGE_DRY_RUN_ONLY").or (coerceEnvValue kit (runtimeTarget.get "dry_run_only"))
  isOn (raw.getD "") && lower (strip (runtimeTarget.get "execution_mode").textOrEmpty) == "paper"

-- What the loops over the variables share; the mode says whether targets are listed one by one.
structure Scope where
  kit : Kit
  target : Fields
  defaults : Fields
  env : Texts
  perServiceMode : Bool
  serviceName : String
  runtimeTarget : Fields
  strategyDefaults : Texts

namespace Scope

def value (scope : Scope) (name : String) (allowSharedFallback : Bool) : Except PyExc (Option String) :=
  targetEnvValue scope.kit scope.target scope.defaults scope.env name scope.perServiceMode allowSharedFallback

def accountPrefix (scope : Scope) : Option String :=
  coerceEnvValue scope.kit (firstNonEmpty [scope.runtimeTarget.get "account_scope",scope.runtimeTarget.get "deployment_selector"])

end Scope

def requiredValue (scope : Scope) (name : String) : Except PyExc (Option String) := do
  let value ← scope.value name (sharedTargetFallbackEnv.contains name)
  return if name = "ACCOUNT_PREFIX" then value.or scope.accountPrefix else value

-- One variable of REQUIRED_ENV: its value, or its name among the missing ones.
def addRequired (scope : Scope) (state : Texts × List String) (name : String) : Except PyExc (Texts × List String) := do
  let value ← requiredValue scope name
  return match value with
    | some text => (state.1.set name text,state.2)
    | none => (state.1,state.2 ++ [scope.serviceName ++ ":" ++ name])

-- The environment's own switch for the service it names.
def switchedValue (scope : Scope) (name : String) (value : Option String) : Option String :=
  if name = "RUNTIME_TARGET_ENABLED" ∧ scope.serviceName = scope.env.stripped "CLOUD_RUN_SERVICE" then
    (coerceEnvValue scope.kit (textValue (scope.env.lookup name))).or value
  else value

def dryRunValue (scope : Scope) (name : String) : Option String :=
  if name = "LONGBRIDGE_DRY_RUN_ONLY" then coerceEnvValue scope.kit (scope.runtimeTarget.get "dry_run_only") else none

-- `overrides.get(name) or overrides.get(name.lower())`
def overrideValue (scope : Scope) (name : String) : Option String :=
  match overridesOf scope.runtimeTarget with
  | some overrides =>
    let exact := overrides.get name
    coerceEnvValue scope.kit (if exact.truthy then exact else overrides.get (lower name))
  | none => none

def enabledDefault (name : String) : Option String := if name = "RUNTIME_TARGET_ENABLED" then some "true" else none

-- `lb:<LONGPORT_SECRET_NAME>`, the account where none is stated
def accountValue (scope : Scope) (values : Texts) (name : String) : Except PyExc (Option String) := do
  if name = "LONGBRIDGE_PHYSICAL_ACCOUNT_ID" then
    let secret ← scope.value "LONGPORT_SECRET_NAME" true
    let named := firstNonEmpty [textValue (values.lookup "LONGPORT_SECRET_NAME"),textValue secret,
      textValue (scope.env.lookup "LONGPORT_SECRET_NAME")]
    return if named.truthy then some ("lb:" ++ named.text) else none
  else return none

def optionalValue (scope : Scope) (values : Texts) (name : String) : Except PyExc (Option String) := do
  let explicit ← scope.value name (sharedTargetFallbackEnv.contains name)
  let stated := (((switchedValue scope name explicit).or (dryRunValue scope name)).or (scope.strategyDefaults.lookup name)).or
    ((overrideValue scope name).or (enabledDefault name))
  match stated with
  | some text => return some text
  | none => accountValue scope values name

-- One variable of OPTIONAL_TARGET_ENV: set, or to be removed from the service.
def addOptional (scope : Scope) (paper : Bool) (state : Texts × List String) (name : String) : Except PyExc (Texts × List String) := do
  let value ← optionalValue scope state.1 name
  return if paperOnlyDurableCommandEnv.contains name && !paper then (state.1,state.2 ++ [name])
    else match value with
      | some text => (state.1.set name text,state.2)
      | none => if name = "LONGBRIDGE_PHYSICAL_ACCOUNT_ID" then state else (state.1,state.2 ++ [name])

def isUnset (values : Texts) (name : String) : Bool := (values.lookup name).getD "" == ""

-- `_validate_profile_inputs`
def missingInputs (name : String) (values : Texts) (status : Fields) : List String :=
  let policy := if (status.get "config_source_policy").truthy then (status.get "config_source_policy").text else "none"
  (if (status.get "requires_snapshot_artifacts").truthy && isUnset values "LONGBRIDGE_FEATURE_SNAPSHOT_PATH"
    then [name ++ ":LONGBRIDGE_FEATURE_SNAPSHOT_PATH"] else []) ++
  (if (status.get "requires_snapshot_manifest_path").truthy && isUnset values "LONGBRIDGE_FEATURE_SNAPSHOT_MANIFEST_PATH"
    then [name ++ ":LONGBRIDGE_FEATURE_SNAPSHOT_MANIFEST_PATH"] else []) ++
  (if (status.get "requires_strategy_config_path").truthy && policy == "env_only" && isUnset values "LONGBRIDGE_STRATEGY_CONFIG_PATH"
    then [name ++ ":LONGBRIDGE_STRATEGY_CONFIG_PATH"] else [])

def checkMissing (missing : List String) : Except PyExc Unit :=
  if missing = [] then .ok ()
  else .error (valueError ("Cloud Run env sync target values are missing:\n" ++
    "\n".intercalate (missing.map fun item => "  - " ++ item)))

-- `text.split()`
def words (text : String) : List String := ((text.toList.splitOnP isSpace).filter (· ≠ [])).map String.ofList

-- `_validate_scheduler_time`
def validateSchedulerTime (name value : String) : Except PyExc String :=
  match words value with
  | [_,_,day,_,weekday] =>
    if day ≠ "*" ∧ weekday ≠ "*" then
      .error (valueError (name ++ " cannot constrain both day-of-month and day-of-week; " ++
        "Cloud Scheduler applies OR semantics to those fields"))
    else .ok value
  | _ => .ok value

def runtimeScheduler (runtimeTarget : Fields) : Fields :=
  match runtimeTarget.get "scheduler" with
  | .dict fields => fields
  | _ => []

def timezoneOf (scheduler : Fields) (values : Texts) : String :=
  let stated := scheduler.get "timezone"
  let text := strip (if stated.truthy then stated.text else (values.lookup "LONGBRIDGE_MARKET_TIMEZONE").getD "")
  if text ≠ "" then text
  else if upper (strip ((values.lookup "LONGBRIDGE_MARKET").getD "")) = "HK" then "Asia/Hong_Kong" else "America/New_York"

def schedulerTime (scope : Scope) (time : SchedulerTime) : Except PyExc (String × String) := do
  let configured ← scope.value time.env true
  let stated := (runtimeScheduler scope.runtimeTarget).get time.key
  let text ← validateSchedulerTime time.key (if stated.truthy then stated.text else configured.getD time.fallback)
  return (time.key,text)

-- `_build_scheduler_plan`
def buildSchedulerPlan (scope : Scope) (values : Texts) : Except PyExc Texts := do
  let times ← schedulerTimes.mapM (schedulerTime scope)
  return ("timezone",timezoneOf (runtimeScheduler scope.runtimeTarget) values) :: times

structure TagPreflight where
  contractVersion : String
  headroom : ℤ
  tagStatus : String
  trafficAuthority : Bool

def tagPreflight (name : String) : TagPreflight :=
  let headroom : ℤ := 46 - name.length
  ⟨"cloud-run-tags/v1",headroom,if 0 < headroom then "AVAILABLE" else "TAG_IMPOSSIBLE",false⟩

structure TargetPlan where
  serviceName : String
  tags : TagPreflight
  strategyProfile : String
  env : Texts
  scheduler : Texts
  removeEnvVars : List String

-- The variables of the plan and those to remove.
def planVariables (scope : Scope) (status : Fields) (profile : String) : Except PyExc (Texts × List String) := do
  let (required,missing) ← requiredEnv.foldlM (addRequired scope) ([],[])
  let named := (required.set "STRATEGY_PROFILE" profile).set "RUNTIME_TARGET_JSON" (scope.kit.dumps (.dict scope.runtimeTarget))
  let (values,removed) ← optionalTargetEnv.foldlM
    (addOptional scope (isExplicitPaperDryRunTarget scope.kit scope.runtimeTarget named)) (named,[])
  let enabled ← runtimeTargetEnabled values
  checkMissing (missing ++ if enabled then missingInputs scope.serviceName values status else [])
  return (values,removed)

def completePlan (scope : Scope) (status : Fields) (profile : String) : Except PyExc TargetPlan := do
  let (values,removed) ← planVariables scope status profile
  let scheduler ← buildSchedulerPlan scope values
  return ⟨scope.serviceName,tagPreflight scope.serviceName,profile,values,scheduler,
    ((distinct removed).filter fun name => (values.lookup name).isNone).insertionSort (· ≤ ·)⟩

def buildTargetPlan (kit : Kit) (target defaults : Fields) (env : Texts) (perServiceMode : Bool) (platformConfig : PyVal) :
    Except PyExc TargetPlan := do
  let configured ← configuredService target defaults
  let runtimeTarget ← resolveRuntimeTarget kit target defaults env perServiceMode
  let name ← exactServiceName (if isNone configured then runtimeTarget.get "service_name" else configured)
  checkRuntimeService name (runtimeTarget.get "service_name")
  let raw := strip (runtimeTarget.get "strategy_profile").textOrEmpty
  require (raw ≠ "") (valueError ("Target " ++ name ++ " runtime_target.strategy_profile is required"))
  let profile ← kit.canonicalProfile raw
  let status ← eligibleStatus kit name raw profile
  let config ← strategyConfig platformConfig profile
  let derived ← deriveStrategyEnvDefaults config
  let completed := (runtimeTarget.set "service_name" (.str name)).set "strategy_profile" (.str profile)
  completePlan ⟨kit,target,defaults,env,perServiceMode,name,completed,withOverrides kit derived (overridesOf completed)⟩ status profile

def isComma (char : Char) : Bool := char == ',' || char == ';' || char == '\n'

def splitServices (text : String) : List String :=
  ((text.toList.splitOnP isComma).map fun item => strip (String.ofList item)).filter (· ≠ "")

structure Inventory where
  entries : List Fields
  defaults : Fields
  perServiceMode : Bool

def legacyInventory (env : Texts) : Inventory :=
  let services := env.stripped "CLOUD_RUN_SERVICES"
  ⟨(splitServices (if services = "" then env.stripped "CLOUD_RUN_SERVICE" else services)).map fun service =>
    [("service",.str service)],[],false⟩

def listedTargets (entries : PyVal) (defaults : Fields) : Except PyExc Inventory :=
  match entries with
  | .list items => do
    let targets ← items.mapM coerceMapping
    return ⟨targets,defaults,true⟩
  | _ => .error (valueError (targetsEnv ++ " must be a JSON array or object with targets"))

def inventoryOf : PyVal → Except PyExc Inventory
  | .dict payload => do
    let defaults ← optionalMapping (Fields.get payload "defaults")
    listedTargets (Fields.get payload "targets") defaults
  | payload => listedTargets payload []

-- `_load_target_entries`
def loadTargetEntries (kit : Kit) (env : Texts) : Except PyExc Inventory := do
  let raw := env.stripped targetsEnv
  if raw = "" then return legacyInventory env
  else do
    let payload ← kit.loads raw
    inventoryOf payload

def configFile (kit : Kit) (raw : String) : Except PyExc PyVal :=
  match kit.fileText raw with
  | some text => kit.loads text
  | none => .error ⟨"FileNotFoundError","PLATFORM_CONFIG_JSON file not found: " ++ raw⟩

-- `_load_platform_config`
def loadPlatformConfig (kit : Kit) (env : Texts) : Except PyExc PyVal :=
  let raw := env.stripped platformConfigEnv
  if raw = "" then kit.defaultConfig
  else match kit.loads raw with
    | .ok config => .ok config
    | .error exc => if exc.kind = "JSONDecodeError" then configFile kit raw else .error exc

structure SyncPlan where
  perService : Bool
  targets : List TargetPlan

def buildSyncPlan (kit : Kit) (env : Texts) : Except PyExc SyncPlan := do
  let platformConfig ← loadPlatformConfig kit env
  let inventory ← loadTargetEntries kit env
  let planned ← inventory.entries.mapM fun target =>
    buildTargetPlan kit target inventory.defaults env inventory.perServiceMode platformConfig
  require (planned.length ≠ 0) (valueError (targetsEnv ++ ", CLOUD_RUN_SERVICES, or CLOUD_RUN_SERVICE is required"))
  return ⟨inventory.perServiceMode,planned⟩

end LongBridge.Deploy
