import LongBridge.Notifications.Archived

namespace LongBridge.Heartbeat
open Effects Notifications

-- `os.environ.get`
abbrev HeartbeatEnv := String → Option String

def isSeparator (char : Char) : Bool := char == ',' || char == ';' || char == '\n'

-- `_split_values`
def splitValues (raw : Option String) : List String :=
  (((raw.getD "").toList.splitOnP isSeparator).map fun part => strip (String.ofList part)).filter (· ≠ "")

-- `_env_bool`
def envBool (env : HeartbeatEnv) (name : String) (default : Bool) : Bool :=
  let value := lower (strip ((env name).getD ""))
  if value = "" then default else ["1","true","yes","y","on"].contains value

def defaultAcceptStatuses : List String := ["ok","skipped","success","completed","no_action"]

def defaultRejectStatuses : List String := ["error","failed","failure","cancelled","canceled","timed_out"]

def defaultAcceptStages : List String :=
  ["DRY_RUN_COMPLETED","FUNDING_BLOCKED","NO_ACTION","ORDERS_PLANNED","PARTIAL_SUBMITTED","RECONCILED","SUBMITTED","COMPLETED"]

def defaultRejectStages : List String := ["ERROR","EXECUTION_BLOCKED","FAILED","FAILURE"]

-- The values that are configured under a name, or the ones that stand for them
def configuredValues (env : HeartbeatEnv) (name : String) (defaults : List String) (fold : String → String) : List String :=
  let stated := splitValues (env name)
  (if stated = [] then defaults else stated).map fold

-- `_report_errors`
def reportErrors (payload : Fields) : List PyVal :=
  match payload.get "errors" with
  | .list (first :: others) => first :: others
  | _ =>
    let single := if (payload.get "error").truthy then [payload.get "error"] else []
    match payload.get "error_summary" with
    | .dict summary => match Fields.get summary "errors" with
      | .list (first :: others) => first :: others
      | _ => single
    | _ => single

-- `payload.get(key) or payload.get("summary", {}).get(key) or ""`; a summary that is no mapping has no `get`.
def statedOrSummarised (payload : Fields) (key : String) : Except PyExc String :=
  if (payload.get key).truthy then .ok (strip (payload.get key).textOrEmpty)
  else match payload.lookup "summary" with
    | none => .ok ""
    | some (.dict summary) => .ok (strip (Fields.get summary key).textOrEmpty)
    | some _ => .error ⟨"AttributeError","object has no attribute 'get'"⟩

-- `_report_status`
def reportStatus (payload : Fields) : Except PyExc (String × String) := do
  let status ← statedOrSummarised payload "status"
  let stage ← statedOrSummarised payload "stage"
  return (status,stage)

def scopeFailure (scope : Fields) : String :=
  let unacknowledged := match scope.get "notification_delivery_summary" with
    | .dict delivery => isBool (Fields.get delivery "all_acknowledged") false
    | _ => false
  if unacknowledged then "notification delivery not acknowledged"
  else if (scope.get "notification_error").truthy && !isBool (scope.get "notification_suppressed") true then "notification delivery failed"
  else ""

-- `_report_notification_failure`
def reportNotificationFailure (payload : Fields) : String :=
  let own := scopeFailure payload
  match payload.get "summary" with
  | .dict summary => if own ≠ "" then own else scopeFailure summary
  | _ => own

def endsWith (text tail : String) : Bool := tail.toList.isSuffixOf text.toList

def orDash (text : String) : String := if text = "" then "-" else text

def statusText (status stage : String) : String := "status=" ++ orDash status ++ " stage=" ++ orDash stage

-- `_is_accepted_report`
def isAcceptedReport (env : HeartbeatEnv) (payload : Fields) : Except PyExc (Bool × String) := do
  let acceptedStatuses := configuredValues env "RUNTIME_HEARTBEAT_ACCEPT_STATUSES" defaultAcceptStatuses lower
  let rejectStatuses := configuredValues env "RUNTIME_HEARTBEAT_REJECT_STATUSES" defaultRejectStatuses lower
  let acceptedStages := configuredValues env "RUNTIME_HEARTBEAT_ACCEPT_STAGES" defaultAcceptStages upper
  let rejectStages := configuredValues env "RUNTIME_HEARTBEAT_REJECT_STAGES" defaultRejectStages upper
  let allowErrors := envBool env "RUNTIME_HEARTBEAT_ACCEPT_REPORTS_WITH_ERRORS" false
  let (status,stage) ← reportStatus payload
  let statusKey := lower status
  let stageKey := upper stage
  let executionStatus := match payload.get "summary" with
    | .dict summary => lower (strip (Fields.get summary "execution_status").textOrEmpty)
    | _ => ""
  let errors := reportErrors payload
  let notificationFailure := reportNotificationFailure payload
  return if ["blocked","error","failed","failure"].contains executionStatus || endsWith executionStatus "_blocked" then
      (false,"rejected execution_status=" ++ executionStatus)
    else if errors ≠ [] ∧ allowErrors = false then (false,"errors=" ++ toString errors.length ++ " " ++ statusText status stage)
    else if notificationFailure ≠ "" then (false,notificationFailure)
    else if rejectStatuses.contains statusKey || rejectStages.contains stageKey then (false,"rejected " ++ statusText status stage)
    else if statusKey ≠ "" ∧ acceptedStatuses.contains statusKey then (true,"status=" ++ status)
    else if stageKey ≠ "" ∧ acceptedStages.contains stageKey then (true,"stage=" ++ stage)
    else if statusKey = "" ∧ stageKey = "" ∧ errors = [] ∧ envBool env "RUNTIME_HEARTBEAT_REQUIRE_STATUS" false = false then
      (true,"report exists")
    else (false,"unaccepted " ++ statusText status stage)

-- `_payload_service_name`
def payloadServiceName (payload : Fields) : String :=
  let service := payload.get "service_name"
  let stated := match payload.get "runtime_target" with
    | .dict runtimeTarget => if service.truthy then service else Fields.get runtimeTarget "service_name"
    | _ => service
  strip stated.textOrEmpty

-- `_payload_account_scope`
def payloadAccountScope (payload : Fields) : String :=
  match ["account_scope","account_group","account_region"].find? fun key => (payload.get key).truthy with
  | some key => strip (payload.get key).text
  | none => ""

-- A required target: the key the shared kit gives it, and the service it names
structure RequiredTarget where
  key : String
  service : String

-- `_payload_matches`; `matchPayloadTarget` is the shared kit's: the key of the target, or a reason why there is none.
def payloadMatches (env : HeartbeatEnv) (matchPayloadTarget : Fields → String × String) (requiredServices : List String)
    (requiredTargets : List RequiredTarget) (payload : Fields) : Bool × String × String :=
  let expectedPlatform := lower (strip ((env "RUNTIME_HEARTBEAT_REPORT_PLATFORM").getD ""))
  let platform := lower (strip (payload.get "platform").textOrEmpty)
  let expectedScope := lower (strip ((env "RUNTIME_HEARTBEAT_ACCOUNT_SCOPE").getD ""))
  let accountScope := lower (payloadAccountScope payload)
  let serviceName := payloadServiceName payload
  if expectedPlatform ≠ "" ∧ platform ≠ expectedPlatform then (false,"","platform=" ++ orDash platform)
  else if expectedScope ≠ "" ∧ accountScope ≠ expectedScope then (false,"","account_scope=" ++ orDash accountScope)
  else if requiredServices ≠ [] ∧ serviceName ∉ requiredServices then (false,serviceName,"service_name=" ++ orDash serviceName)
  else if requiredTargets ≠ [] then
    let (matchedTarget,reason) := matchPayloadTarget payload
    if matchedTarget ≠ "" then (true,matchedTarget,reason)
    else if (requiredTargets.map fun target => strip target.service).contains serviceName then (false,serviceName,reason)
    else (true,serviceName,"matched filters")
  else (true,serviceName,"matched filters")

-- `_report_activity_label`
def reportActivityLabel (payload : Fields) : String :=
  let scope := match payload.get "summary" with
    | .dict summary => summary
    | _ => payload
  let executionStatus := lower (strip (Fields.get scope "execution_status").textOrEmpty)
  let actionDone := Fields.get scope "action_done"
  let submissionDone := Fields.get scope "broker_submission_done"
  if ["no_action","skipped","outside_market_hours"].contains executionStatus then "no trade"
  else if isBool actionDone true || isBool submissionDone true then "rebalance action recorded"
  else if isBool actionDone false && isBool submissionDone false then "no trade"
  else "run completed"

end LongBridge.Heartbeat
