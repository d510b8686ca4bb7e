import LongBridge.Effects.Fallible
import LongBridge.Guard.Dedupe
import LongBridge.Python.Conversions
import LongBridge.Python.Json
import LongBridge.Python.Urls
import LongBridge.Reporting.Monitors

namespace LongBridge.Guard
open Effects

-- An entry as Cloud Logging writes it; a part that it does not have is None.
structure LogEntry where
  resourceType : String
  labels : Fields
  timestamp : PyVal
  severity : PyVal
  status : PyVal
  requestUrl : PyVal
  textPayload : PyVal
  message : PyVal
  jsonPayload : PyVal
  protoPayload : PyVal
  insertId : PyVal
  logName : PyVal

-- What the guard is run with: its environment, the texts of quant_platform_kit, the digest,
-- the test of `urlsplit` and the start of the revision that serves, once it is known.
structure GuardSettings where
  ignoreCapacityWarnings : Bool
  ignorePreReadyLogs : Bool
  requireSuccess : Bool
  checkScheduler : Bool
  jobPattern : Option (String → Bool)
  since : ℤ
  region : String → String
  notice : String → String → String
  digest : String → String
  netlocValid : String → Bool
  querySuffix : String
  revisionStart : String → Option ℤ

def errorSeverities : List String := ["ERROR","CRITICAL","ALERT","EMERGENCY"]

def failureWords : List String :=
  ["DEADLINE_EXCEEDED","INTERNAL_ERROR","PERMISSION_DENIED","UNAUTHENTICATED","URL_ERROR","URL_UNREACHABLE"]

def schedulerCloudRunDedup : ℤ := 120 * secondSpan

-- `word in text`
def holds (text word : String) : Bool := text.toList.tails.any fun rest => word.toList.isPrefixOf rest

def parseTimestamp (value : PyVal) : Option ℤ :=
  let text := strip value.textOrEmpty
  if text = "" then none
  else if Reporting.endsWith text "Z" then parse (String.ofList text.toList.dropLast ++ "+00:00")
  else parse text

-- `_status`: what int() does not read is no status.
def status (entry : LogEntry) : Except PyExc (Option ℤ) :=
  match entry.status.readInt with
  | .ok value => .ok (some value)
  | .error error => if ["TypeError","ValueError"].contains error.kind then .ok none else .error error

def dumped (value : PyVal) : Except PyExc String := do
  let sorted ← value.jsonSorted
  return sorted.jsonText ", " ": "

def entryText (entry : LogEntry) : Except PyExc String := do
  let plain := [entry.textPayload,entry.message].filterMap fun value => if value.truthy then some value.text else none
  let structured ← ([entry.jsonPayload,entry.protoPayload].filter PyVal.truthy).mapM dumped
  return " ".intercalate (plain ++ structured)

-- `urllib.parse.urlparse(url).path`: the parameters of the last part are not in it.
def requestPath (settings : GuardSettings) (entry : LogEntry) : Except PyExc String :=
  let url := strip entry.requestUrl.textOrEmpty
  if url = "" then .ok ""
  else do
    let parts ← urlsplit settings.netlocValid url
    let last := afterLast '/' parts.path.toList
    return String.ofList (parts.path.toList.take (parts.path.toList.length - last.length) ++ last.takeWhile (· != ';'))

def isIgnorableMonitorDispatchCapacityWarning (settings : GuardSettings) (entry : LogEntry) : Except PyExc Bool :=
  if !settings.ignoreCapacityWarnings then .ok false
  else do
    let status ← status entry
    if status ≠ some 429 then return false
    else
      let path ← requestPath settings entry
      if path ≠ "/monitor-dispatch" then return false
      else
        let text ← entryText entry
        return holds (upper text) "NO AVAILABLE INSTANCE"

def isFailure (settings : GuardSettings) (entry : LogEntry) : Except PyExc Bool := do
  let ignorable ← isIgnorableMonitorDispatchCapacityWarning settings entry
  if ignorable then return false
  else
    let status ← status entry
    let text ← entryText entry
    return errorSeverities.contains (upper entry.severity.textOrEmpty) || status.any (400 ≤ ·) || failureWords.any (holds (upper text))

def isSuccess (entry : LogEntry) : Except PyExc Bool := do
  let status ← status entry
  return status.any fun status => 200 ≤ status && status < 400

-- `event_id`; the digest is cut to 24 places.
def eventId (settings : GuardSettings) (entry : LogEntry) : String :=
  let insertId := strip entry.insertId.textOrEmpty
  let basis := if insertId ≠ "" then "insert:" ++ insertId
    else (PyVal.dict [("logName",entry.logName),("resource",.dict (sortedByKey entry.labels)),("severity",entry.severity),
      ("timestamp",entry.timestamp)]).jsonText ", " ": "
  String.ofList ((settings.digest basis).toList.take 24)

def serviceJobAliases (service : String) : List String :=
  let name := strip service
  if name = "" then []
  else if Reporting.endsWith name "-service" then
    distinct [name,String.ofList (name.toList.take (name.toList.length - "-service".toList.length))]
  else [name]

def schedulerJobNames (service : String) : List String :=
  distinct ((serviceJobAliases service).flatMap fun name => [name ++ "-scheduler",name ++ "-probe-scheduler",name ++ "-precheck-scheduler"])

def lastSegment (name : String) : String := String.ofList (afterLast '/' name.toList)

def jobMatchesService (jobName service : String) : Bool := (schedulerJobNames service).contains (lastSegment (strip jobName))

def entryJobName (entry : LogEntry) : String :=
  if (entry.labels.get "job_id").truthy then (entry.labels.get "job_id").text else (entry.labels.get "job_name").textOrEmpty

-- `_scheduler_job_pattern_for_services`: the pattern names these jobs and no other.
def jobCandidates (services : List String) : List String := distinct (services.flatMap schedulerJobNames)

def schedulerPattern (settings : GuardSettings) (services : List String) : Option (String → Bool) :=
  match settings.jobPattern with
  | some pattern => some pattern
  | none => if jobCandidates services = [] then none else some (jobCandidates services).contains

-- A filter of `gcloud logging read`, and the entries that it admits.
structure LogFilter where
  resourceType : String
  serviceName : Option String
  location : Option String
  since : ℤ

namespace LogFilter

def admits (filter : LogFilter) (entry : LogEntry) : Bool :=
  entry.resourceType == filter.resourceType && filter.serviceName.all (fun name => (entry.labels.get "service_name").isStr name) &&
    filter.location.all (fun name => (entry.labels.get "location").isStr name) &&
    (parseTimestamp entry.timestamp).any fun time => filter.since ≤ time

end LogFilter

def cloudRunLogFilter (settings : GuardSettings) (service : String) (since : ℤ) : LogFilter :=
  ⟨"cloud_run_revision",some service,if settings.region service = "" then none else some (settings.region service),since⟩

def schedulerLogFilter (since : ℤ) : LogFilter := ⟨"cloud_scheduler_job",none,none,since⟩

-- `_cloud_run_log_since`, and the choice of `main` whether it is asked
def cloudRunLogSince (settings : GuardSettings) (service : String) : ℤ :=
  if settings.ignorePreReadyLogs then
    match settings.revisionStart service with
    | some start => if settings.since < start then start else settings.since
    | none => settings.since
  else settings.since

-- What one call of gcloud gave.
inductive GcloudOutput where
  | blank
  | invalid
  | entries (entries : List LogEntry)
  | other

structure GcloudResult where
  succeeded : Bool
  output : GcloudOutput
  detail : String

def retryableMarkers : List String :=
  ["http 429","http 500","http 502","http 503","http 504","\"code\": 429","\"code\": 500","\"code\": 502","\"code\": 503",
    "\"code\": 504","internal error","unavailable","timed out","network connectivity","connection reset","rate limit"]

def isRetryableLogQueryError (detail : String) : Bool :=
  let normalized := lower detail
  !(holds normalized "403" || holds normalized "permission_denied") && retryableMarkers.any (holds normalized)

def runtimeError (text : String) : PyExc := ⟨"RuntimeError",text⟩

-- The attempts of `_run_gcloud_logging` that are left, the next of them first.
def runGcloudLogging (suffix : String) : List GcloudResult → Except PyExc (List LogEntry)
  | [] => .error (runtimeError ("gcloud logging read failed" ++ suffix))
  | result :: rest =>
    if result.succeeded then
      match result.output with
      | .blank | .other => .ok []
      | .invalid => .error (runtimeError "gcloud returned invalid JSON")
      | .entries entries => .ok entries
    else
      let detail := if strip result.detail = "" then "gcloud logging read failed" else strip result.detail
      if rest ≠ [] ∧ isRetryableLogQueryError (strip result.detail) then runGcloudLogging suffix rest
      else .error (runtimeError (detail ++ suffix))

-- A query, by the results that its attempts would have
def loggingQuery (settings : GuardSettings) (gcloud : LogFilter → List GcloudResult) (filter : LogFilter) : Except PyExc (List LogEntry) :=
  runGcloudLogging settings.querySuffix (gcloud filter)

-- What has been collected from the services.
structure Collected where
  issues : List String
  events : List String
  failures : List (String × List LogEntry)
  sinces : List (String × ℤ)
  unsuccessful : List String

-- One round of the loop over the services
def collectService (settings : GuardSettings) (gcloud : LogFilter → List GcloudResult) (collected : Collected) (service : String) :
    Except PyExc Collected :=
  let since := cloudRunLogSince settings service
  let sinces := collected.sinces ++ [(service,since)]
  match loggingQuery settings gcloud (cloudRunLogFilter settings service since) with
  | .error _ => .ok { collected with sinces, issues := collected.issues ++ [settings.notice "runtime_guard_cloud_run_log_query_failed" service] }
  | .ok entries => do
    let failures ← selectOk (isFailure settings) entries
    let successes ← selectOk isSuccess entries
    return {
      sinces
      failures := collected.failures ++ [(service,failures)]
      unsuccessful := if successes = [] then collected.unsuccessful ++ [service] else collected.unsuccessful
      issues := if failures = [] then collected.issues
        else collected.issues ++ [settings.notice "runtime_guard_cloud_run_failure_logs" service]
      events := if failures = [] then collected.events else collected.events ++ failures.map (eventId settings) }

-- `max(matches) if matches else fallback`
def schedulerEntrySince (entry : LogEntry) (sinces : List (String × ℤ)) (fallback : ℤ) : ℤ :=
  match (sinces.filter fun service => jobMatchesService (entryJobName entry) service.1).map Prod.snd with
  | [] => fallback
  | first :: rest => rest.foldl max first

def isDuplicateSchedulerFailure (entry : LogEntry) (failures : List (String × List LogEntry)) : Bool :=
  match parseTimestamp entry.timestamp with
  | none => false
  | some time => entryJobName entry != "" && failures.any fun service => jobMatchesService (entryJobName entry) service.1 &&
      service.2.any fun failure => (parseTimestamp failure.timestamp).any fun other => |time - other| ≤ schedulerCloudRunDedup

def isStale (settings : GuardSettings) (collected : Collected) (entry : LogEntry) : Bool :=
  (parseTimestamp entry.timestamp).any fun time => time < schedulerEntrySince entry collected.sinces settings.since

def collectScheduler (settings : GuardSettings) (gcloud : LogFilter → List GcloudResult) (pattern : String → Bool)
    (collected : Collected) : Except PyExc Collected :=
  match loggingQuery settings gcloud (schedulerLogFilter settings.since) with
  | .error _ => .ok { collected with issues := collected.issues ++ [settings.notice "runtime_guard_scheduler_log_query_failed" ""] }
  | .ok entries => do
    let failing ← selectOk (isFailure settings) (entries.filter fun entry => pattern (lastSegment (entryJobName entry)))
    let failures := failing.filter fun entry => !isStale settings collected entry && !isDuplicateSchedulerFailure entry collected.failures
    if failures = [] then return collected
    else
      return { collected with
        issues := collected.issues ++ [settings.notice "runtime_guard_scheduler_failure_logs" ""]
        events := collected.events ++ failures.map (eventId settings) }

-- What `main` collects, from the issues that the configuration has already raised on.
def collect (settings : GuardSettings) (gcloud : LogFilter → List GcloudResult) (services configuration : List String) :
    Except PyExc Collected := do
  let collected ← services.foldlM (collectService settings gcloud) ⟨configuration,[],[],[],[]⟩
  let missing := if settings.requireSuccess then collected.unsuccessful.map (settings.notice "runtime_guard_no_successful_request") else []
  let collected := { collected with issues := collected.issues ++ missing }
  if settings.checkScheduler then
    match schedulerPattern settings services with
    | some pattern => collectScheduler settings gcloud pattern collected
    | none => return collected
  else return collected

-- `main`: the collection, and what becomes of the alert
def guardMain (settings : GuardSettings) (dedupe : Settings) (name : String) (gcloud : LogFilter → List GcloudResult)
    (services configuration : List String) (file : Option DedupeState) (now : Reading) (answers : List Bool) :
    Except PyExc (Record × Option DedupeState) := do
  let collected ← collect settings gcloud services configuration
  return main dedupe name file ⟨now,collected.issues,collected.events,answers⟩

end LongBridge.Guard
