import Mathlib.Data.List.Sort
import LongBridge.Effects.Fallible
import LongBridge.Effects.Script
import LongBridge.Python.Conversions
import LongBridge.Python.Equality
import LongBridge.Python.Json
import LongBridge.Python.Times
import LongBridge.Python.Urls

namespace LongBridge.Stop
open Effects

def region : String := "asia-east2"

def service : String := "longbridge-quant-hk-service"

def repository : String := "QuantStrategyLab/LongBridgePlatform"

def identityFields : List String :=
  ["platform_id","deployment_selector","account_selector","account_scope","service_name"]

def requestFields : List String := ["target_id","github","runtime_target"]

def correlationFields : List String := ["request_id","source_revision","source_identity_sha256"]

def safeInteger : ℤ := 2 ^ 53 - 1

def stopError (category : String) : PyExc := ⟨"StopError",category⟩

def requestRejected : PyExc := stopError "stop_request_rejected"

def sourceUnverified : PyExc := stopError "stop_source_unverified"

def readbackUnverified : PyExc := stopError "stop_readback_unverified"

-- json.loads, the check of a netloc, str(uuid.UUID(text)) where the text is a UUID,
-- and the digest of the canonical JSON of a value.
structure Kit where
  loads : String → Except PyExc PyVal
  netlocValid : String → Bool
  uuidText : String → Option String
  sha256 : PyVal → Except PyExc String

inductive Moment where
  | aware (instant : ℤ)
  | invalid

structure ResultPath where
  name : String
  symlink : Bool
  special : Bool

structure Frame where
  kit : Kit
  project : String
  environment : List (String × String)
  resultPath : Option ResultPath
  now : Option Moment

structure Correlation where
  requestId : String
  sourceRevision : ℤ
  sourceIdentitySha256 : String

structure Producer where
  runId : String
  headSha : String

-- A checked request: whose service it stops, and with a correlation who reports it and where.
structure Admitted where
  identity : Fields
  report : Option (Correlation × Producer × ResultPath)

section values
variable (error : PyExc)

def asDict : PyVal → Except PyExc Fields
  | .dict fields => .ok fields
  | _ => .error error

def asList : PyVal → Except PyExc (List PyVal)
  | .list items => .ok items
  | _ => .error error

def asText : PyVal → Except PyExc String
  | .str text => .ok text
  | _ => .error error

-- An exception of any kind becomes this one.
def orError {α : Type} : Except PyExc α → Except PyExc α
  | .ok value => .ok value
  | .error _ => .error error

end values

def isLowerHex (length : ℕ) (text : String) : Bool :=
  text.length == length && text.toList.all fun char => char.isDigit || ('a' ≤ char && char ≤ 'f')

-- `[a-z][a-z0-9-]{4,28}[a-z0-9]`
def isProject (text : String) : Bool :=
  6 ≤ text.length && text.length ≤ 30 && (text.toList.head?.any Char.isLower) &&
    (text.toList.getLast?.any fun char => char.isLower || char.isDigit) &&
    text.toList.all fun char => char.isLower || char.isDigit || char == '-'

-- `[1-9][0-9]*`
def isRunId (text : String) : Bool := (text.toList.head?.any (· != '0')) && text.toList.all Char.isDigit

def hasExactly (fields : Fields) (keys : List String) : Bool :=
  keys.all fields.has && fields.all fun entry => keys.contains entry.1

-- `_correlation`
def correlationOf (kit : Kit) (value : PyVal) : Except PyExc Correlation := do
  let fields ← asDict requestRejected value
  require (hasExactly fields correlationFields = true) requestRejected
  let requestId ← asText requestRejected (fields.get "request_id")
  let sha ← asText requestRejected (fields.get "source_identity_sha256")
  require (kit.uuidText requestId = some requestId ∧ isLowerHex 64 sha = true) requestRejected
  match fields.get "source_revision" with
  | .int revision =>
    require (0 ≤ revision ∧ revision ≤ safeInteger) requestRejected
    return ⟨requestId,revision,sha⟩
  | _ => .error requestRejected

-- `_producer`
def producerOf (environment : List (String × String)) : Except PyExc Producer :=
  match environment.lookup "GITHUB_RUN_ID",environment.lookup "GITHUB_SHA" with
  | some runId,some headSha =>
    if environment.lookup "GITHUB_REPOSITORY" = some repository ∧ environment.lookup "GITHUB_RUN_ATTEMPT" = some "1" ∧
        isRunId runId = true ∧ isLowerHex 40 headSha = true then .ok ⟨runId,headSha⟩
    else .error requestRejected
  | _,_ => .error requestRejected

def githubTarget : PyVal :=
  .dict [("repository",.str repository),("variable_scope",.str "environment"),("environment",.str "longbridge-hk")]

def isFilledText : PyVal → Bool
  | .str text => strip text != ""
  | _ => false

def declaredTarget (frame : Frame) : Except PyExc Fields :=
  match frame.environment.lookup "RUNTIME_TARGET_JSON" with
  | some text => do
    let declared ← orError requestRejected (frame.kit.loads text)
    asDict requestRejected declared
  | none => .error requestRejected

def optionalCorrelation (kit : Kit) (fields : Fields) : Except PyExc (Option Correlation) :=
  if fields.has "correlation" then (correlationOf kit (fields.get "correlation")).map some else .ok none

-- `_identity`
def identityOf (frame : Frame) (request : PyVal) : Except PyExc (Fields × Option Correlation) := do
  let fields ← asDict requestRejected request
  require (hasExactly (fields.filter fun entry => entry.1 != "correlation") requestFields = true ∧
    (fields.get "target_id").isStr "longbridge/hk" = true ∧ (fields.get "github").same githubTarget = true ∧
    frame.environment.lookup "RUNTIME_TARGET_ENABLED" = some "false") requestRejected
  let correlation ← optionalCorrelation frame.kit fields
  let declared ← declaredTarget frame
  let identity ← asDict requestRejected (fields.get "runtime_target")
  let accounts ← asList requestRejected (identity.get "account_selector")
  let names ← accounts.mapM (asText requestRejected)
  require (hasExactly identity identityFields = true ∧
    (identityFields.all fun key => (identity.get key).same (declared.get key)) = true ∧
    (identity.get "platform_id").isStr "longbridge" = true ∧ (identity.get "service_name").isStr service = true ∧
    (identity.get "account_scope").isStr "HK" = true ∧ isFilledText (identity.get "deployment_selector") = true ∧
    accounts ≠ [] ∧ accounts.all isFilledText = true ∧ names.Nodup) requestRejected
  return (identity,correlation)

def usablePath : Option ResultPath → Except PyExc ResultPath
  | some path => if path.symlink || path.special then .error requestRejected else .ok path
  | none => .error requestRejected

def reportOf (frame : Frame) : Option Correlation → Except PyExc (Option (Correlation × Producer × ResultPath))
  | none => .ok none
  | some correlation => do
    let producer ← producerOf frame.environment
    let path ← usablePath frame.resultPath
    return some (correlation,producer,path)

-- The checks `execute_stop` makes before it touches anything.
def admission (frame : Frame) (request : PyVal) : Except PyExc Admitted := do
  require (isProject frame.project = true) requestRejected
  let (identity,correlation) ← identityOf frame request
  let report ← reportOf frame correlation
  return ⟨identity,report⟩

inductive Command where
  | describeService
  | describeRevision (revision : String)
  | listJobs
  | updateEnvironment
  | pauseJob (name : String)
  deriving DecidableEq

-- What is given to gcloud before the project and the output format.
def Command.arguments : Command → List String
  | .describeService => ["run","services","describe",service,"--region=" ++ region]
  | .describeRevision revision => ["run","revisions","describe",revision,"--region=" ++ region]
  | .listJobs => ["scheduler","jobs","list","--location=" ++ region]
  | .updateEnvironment => ["run","services","update",service,"--region=" ++ region,
      "--update-env-vars=RUNTIME_TARGET_ENABLED=false"]
  | .pauseJob name => ["scheduler","jobs","pause",name,"--location=" ++ region]

def Command.writes : Command → Bool
  | .updateEnvironment => true
  | .pauseJob _ => true
  | _ => false

structure CommandResult where
  returncode : ℤ
  stdout : String

inductive Call where
  | gcloud (command : Command)
  | now
  | replaceResult (payload : Fields)

def Result : Call → Type
  | .gcloud _ => CommandResult
  | .now => ℤ
  | .replaceResult _ => Unit

structure JobRow where
  name : String
  state : String
  uri : String
  deriving DecidableEq

structure Snapshot where
  container : Fields
  jobs : List JobRow
  url : String
  revision : String

-- A snapshot with what it was taken from: the service's URL and all jobs of the region.
structure Observation where
  snapshot : Snapshot
  url : Url
  listed : List Fields

abbrev ports : Ports := ⟨Call,Result,Observation⟩

-- The local state tells whether a result file stands at the result path.
abbrev Step := Script ports PyExc Bool

abbrev Happening := Event ports PyExc

def ask (request : Call) : Step (Result request) := Script.invoke (P := ports) request

def cloudErrors : List String :=
  ["ValueError","JSONDecodeError","UnicodeDecodeError","OSError","FileNotFoundError","PermissionError","SubprocessError","TimeoutExpired"]

def cloudError (command : Command) : PyExc :=
  if command.writes then stopError "stop_write_unverified" else sourceUnverified

def commandOutput (kit : Kit) (result : CommandResult) : Except PyExc PyVal :=
  if result.returncode ≠ 0 then .error ⟨"ValueError",""⟩
  else kit.loads (if result.stdout = "" then "\x7b\x7d" else result.stdout)

def commandDocument (kit : Kit) (command : Command) (answer : Except PyExc CommandResult) : Except PyExc PyVal :=
  match answer >>= commandOutput kit with
  | .ok document => .ok document
  | .error exc => .error (if cloudErrors.contains exc.kind then cloudError command else exc)

def cloud (kit : Kit) (command : Command) : Step PyVal := do
  let answer ← (ask (.gcloud command)).attempt
  Script.fromExcept (commandDocument kit command answer)

def envName (entry : Fields) : String :=
  match entry.get "name" with
  | .str name => name
  | _ => ""

def namedEntry (value : PyVal) : Except PyExc Fields := do
  let entry ← asDict sourceUnverified value
  let _ ← asText sourceUnverified (entry.get "name")
  return entry

-- `_container`: the one container, its environment sorted by name.
def containerOf (raw : PyVal) : Except PyExc Fields := do
  let spec ← asDict sourceUnverified raw
  let containers ← asList sourceUnverified (spec.get "containers")
  match containers with
  | [.dict container] =>
    let values ← asList sourceUnverified (Fields.getOr container "env" (.list []))
    let entries ← values.mapM namedEntry
    require (entries.map envName).Nodup sourceUnverified
    return Fields.set container "env" (.list ((entries.insertionSort fun one two => envName one ≤ envName two).map .dict))
  | _ => .error sourceUnverified

def envOf (container : Fields) : List PyVal :=
  match container.get "env" with
  | .list items => items
  | _ => []

def entryValue (name : String) : PyVal → Option PyVal
  | .dict entry => if (Fields.get entry "name").isStr name then some (Fields.get entry "value") else none
  | _ => none

-- `values[name]`
def envValue (container : Fields) (name : String) : PyVal := ((envOf container).findSome? (entryValue name)).getD .none

def exceedsZero (value : PyVal) : Except PyExc Bool :=
  match value.number with
  | some (.finite number) => .ok (decide (0 < number))
  | some (.inf negative) => .ok !negative
  | some .nan => .ok false
  | none => .error sourceUnverified

-- `[a-z][a-z0-9-]*`
def isRevision (text : String) : Bool :=
  (text.toList.head?.any Char.isLower) && text.toList.all fun char => char.isLower || char.isDigit || char == '-'

def statusOf (described : Fields) : Except PyExc Fields := asDict sourceUnverified (described.get "status")

-- The one revision that serves all traffic, where it is also the latest.
def servingRevision (described : Fields) : Except PyExc String := do
  let status ← statusOf described
  let rows ← asList sourceUnverified (status.getOr "traffic" (.list []))
  let traffic ← rows.mapM (asDict sourceUnverified)
  let serving ← traffic.filterM fun row => exceedsZero (row.getOr "percent" (.int 0))
  let metadata ← asDict sourceUnverified (described.get "metadata")
  match serving with
  | [row] =>
    let revision ← asText sourceUnverified (row.get "revisionName")
    require ((metadata.get "name").isStr service = true ∧ (row.get "percent").same (.int 100) = true ∧
      (status.get "latestCreatedRevisionName").same (status.get "latestReadyRevisionName") = true ∧
      (PyVal.str revision).same (status.get "latestReadyRevisionName") = true ∧ isRevision revision = true) sourceUnverified
    return revision
  | _ => .error sourceUnverified

def templateSpec (described : Fields) : Except PyExc PyVal := do
  let spec ← asDict sourceUnverified (described.get "spec")
  let template ← asDict sourceUnverified (spec.get "template")
  return template.get "spec"

-- The container of the serving revision, where the template has the same and it is the target's.
def servingContainer (kit : Kit) (identity described revised : Fields) : Except PyExc Fields := do
  let container ← containerOf (revised.get "spec")
  let spec ← templateSpec described
  let template ← containerOf spec
  require ((PyVal.dict template).same (.dict container) = true) sourceUnverified
  let text ← asText sourceUnverified (envValue container "RUNTIME_TARGET_JSON")
  let declared ← orError sourceUnverified (kit.loads text)
  let target ← asDict sourceUnverified declared
  let enabled := envValue container "RUNTIME_TARGET_ENABLED"
  require ((identity.all fun entry => (target.get entry.1).same entry.2) = true ∧
    (enabled.isStr "true" || enabled.isStr "false") = true) sourceUnverified
  return container

def serviceUrl (kit : Kit) (described : Fields) : Except PyExc Url := do
  let status ← statusOf described
  let url ← orError sourceUnverified (urlsplitOf kit.netlocValid (status.get "url"))
  require (url.scheme = "https" ∧ url.hostname.isSome = true ∧ url.statesUser = false ∧ url.query = "" ∧
    url.fragment = "") sourceUnverified
  return url

def jobUri (kit : Kit) (job : Fields) : Except PyExc Url := do
  let target ← asDict sourceUnverified (job.getOr "httpTarget" (.dict []))
  orError sourceUnverified (urlsplitOf kit.netlocValid (target.getOr "uri" (.str "")))

-- `projects/{PROJECT}/locations/{REGION}/jobs/[A-Za-z0-9_-]+`
def isJobName (project name : String) : Bool :=
  let lead := "projects/" ++ project ++ "/locations/" ++ region ++ "/jobs/"
  let rest := name.toList.drop lead.length
  startsWith name lead && !rest.isEmpty && rest.all fun char => char.isAlphanum || char == '_' || char == '-'

def jobRow (project : String) (uri : Url) (job : Fields) : Except PyExc JobRow := do
  let name ← asText sourceUnverified (job.getOr "name" (.str ""))
  let state ← asText sourceUnverified (job.get "state")
  require (isJobName project name = true ∧ (state = "ENABLED" ∨ state = "PAUSED")) sourceUnverified
  return ⟨name,state,uri.geturl⟩

def selectJob (kit : Kit) (project : String) (url : Url) (job : Fields) : Except PyExc (Option JobRow) := do
  let uri ← jobUri kit job
  if uri.scheme = "https" ∧ uri.netloc = url.netloc then (jobRow project uri job).map some else return none

def selectJobs (kit : Kit) (project : String) (url : Url) (listed : List Fields) : Except PyExc (List JobRow) := do
  let found ← listed.mapM (selectJob kit project url)
  let selected := found.filterMap id
  require (selected ≠ [] ∧ (selected.map JobRow.name).Nodup) sourceUnverified
  return selected.insertionSort fun one two => one.name ≤ two.name

def listedJobs (document : PyVal) : Except PyExc (List Fields) := do
  let items ← asList sourceUnverified document
  items.mapM (asDict sourceUnverified)

-- The reads of `snapshot`.
def readObservation (frame : Frame) (identity : Fields) : Step Observation := do
  let answered ← cloud frame.kit .describeService
  let described ← Script.fromExcept (asDict sourceUnverified answered)
  let revision ← Script.fromExcept (servingRevision described)
  let revisedAnswer ← cloud frame.kit (.describeRevision revision)
  let revised ← Script.fromExcept (asDict sourceUnverified revisedAnswer)
  let container ← Script.fromExcept (servingContainer frame.kit identity described revised)
  let url ← Script.fromExcept (serviceUrl frame.kit described)
  let document ← cloud frame.kit .listJobs
  let listed ← Script.fromExcept (listedJobs document)
  let jobs ← Script.fromExcept (selectJobs frame.kit frame.project url listed)
  return ⟨⟨container,jobs,url.geturl,revision⟩,url,listed⟩

def sourceErrors : List String := ["ValueError","TypeError","KeyError","AttributeError"]

def sourceChecked : Except PyExc Observation → Except PyExc Observation
  | .ok observation => .ok observation
  | .error exc => .error (if sourceErrors.contains exc.kind then sourceUnverified else exc)

def snapshot (frame : Frame) (identity : Fields) : Step Snapshot := do
  let read ← (readObservation frame identity).attempt
  let observation ← Script.fromExcept (sourceChecked read)
  Script.mark observation
  return observation.snapshot

def sameContainer (one two : Fields) : Bool := (PyVal.dict one).same (.dict two)

def Snapshot.same (one two : Snapshot) : Bool :=
  sameContainer one.container two.container && one.jobs == two.jobs && one.url == two.url && one.revision == two.revision

def stopEntry : PyVal → PyVal
  | .dict entry =>
    .dict (if (Fields.get entry "name").isStr "RUNTIME_TARGET_ENABLED" then Fields.set entry "value" (.str "false") else entry)
  | value => value

-- `expected`: the container with the target switched off.
def switchedOff (container : Fields) : Fields := container.set "env" (.list ((envOf container).map stopEntry))

def targetEnabled (container : Fields) : PyVal := envValue container "RUNTIME_TARGET_ENABLED"

def isReadback (before after : Snapshot) (jobs : List JobRow) : Bool :=
  sameContainer after.container (switchedOff before.container) && after.url == before.url && after.jobs == jobs

def checkReadback (before after : Snapshot) (jobs : List JobRow) : Except PyExc Unit :=
  if isReadback before after jobs then .ok () else .error readbackUnverified

def switchOff (frame : Frame) (identity : Fields) (before : Snapshot) : Step Unit :=
  if (targetEnabled before.container).isStr "true" then do
    let _ ← cloud frame.kit .updateEnvironment
    let after ← snapshot frame identity
    Script.fromExcept (checkReadback before after before.jobs)
  else pure ()

def pauseJob (kit : Kit) (job : JobRow) : Step Unit :=
  if job.state = "ENABLED" then do
    let _ ← cloud kit (.pauseJob job.name)
    return ()
  else pure ()

def pauseJobs (kit : Kit) : List JobRow → Step Unit
  | [] => pure ()
  | job :: rest => do
    pauseJob kit job
    pauseJobs kit rest

def paused (jobs : List JobRow) : List JobRow := jobs.map fun job => { job with state := "PAUSED" }

def momentNow : Option Moment → Step Moment
  | some moment => pure moment
  | none => do
    let instant ← ask .now
    return .aware instant

-- `_observed_at`
def observedAt : Moment → Except PyExc String
  | .aware instant => .ok (dateText (utcOrdinal instant) ++ "T" ++
      String.ofList { utcClock instant with micro := 0 }.text ++ "Z")
  | .invalid => .error requestRejected

def jobValue (job : JobRow) : PyVal := .dict [("name",.str job.name),("state",.str job.state),("uri",.str job.uri)]

def producerValue (producer : Producer) : PyVal :=
  .dict [("repository",.str repository),("workflow_path",.str ".github/workflows/stop-hk-runtime.yml"),
    ("run_id",.str producer.runId),("run_attempt",.int 1),("head_sha",.str producer.headSha)]

def readbackValue (frame : Frame) (after : Snapshot) (digest : String) : PyVal :=
  .dict [("project",.str frame.project),("region",.str region),("service",.str service),
    ("revision_name",.str after.revision),("runtime_enabled",.bool false),("scheduler_state",.str "paused"),
    ("scheduler_count",.int after.jobs.length),("scheduler_set_sha256",.str digest),("complete",.bool true)]

def resultPayload (frame : Frame) (identity : Fields) (correlation : Correlation) (producer : Producer)
    (after : Snapshot) (moment : Moment) : Except PyExc Fields := do
  let identitySha ← frame.kit.sha256 (.dict (identityFields.map fun key => (key,identity.get key)))
  let observed ← observedAt moment
  let jobsSha ← frame.kit.sha256 (.list (after.jobs.map jobValue))
  return [("schema_version",.str "qsl_hk_stop_result.v1"),("request_id",.str correlation.requestId),
    ("source_revision",.int correlation.sourceRevision),("source_identity_sha256",.str correlation.sourceIdentitySha256),
    ("target_id",.str "longbridge/hk"),("runtime_identity_sha256",.str identitySha),("producer",producerValue producer),
    ("observed_at",.str observed),("readback",readbackValue frame after jobsSha),("no_order",.bool true),
    ("in_flight_state",.str "unknown"),("retirement_complete",.bool false)]

def osErrors : List String := ["OSError","FileNotFoundError","PermissionError","NotADirectoryError","IsADirectoryError"]

-- What is left of `_write_result`: the file takes the place of the old one, or nothing changes.
def wroteResult (written : Except PyExc Unit) : Step Unit :=
  match written with
  | .ok _ => Script.modify fun _ => true
  | .error exc =>
    if osErrors.contains exc.kind then do
      Script.modify fun _ => false
      Script.raise requestRejected
    else Script.raise exc

def writeResult (path : ResultPath) (payload : Fields) : Step Unit := do
  Script.fromExcept (require (path.name = "result.json") requestRejected)
  let written ← (ask (.replaceResult payload)).attempt
  wroteResult written

def allPaused (jobs : List JobRow) : Bool := !jobs.isEmpty && jobs.all fun job => job.state == "PAUSED"

def reportStop (frame : Frame) (identity : Fields) (after : Snapshot) :
    Option (Correlation × Producer × ResultPath) → Step Unit
  | none => pure ()
  | some (correlation,producer,path) => do
    Script.fromExcept (require (allPaused after.jobs = true) readbackUnverified)
    let moment ← momentNow frame.now
    let payload ← Script.fromExcept (resultPayload frame identity correlation producer after moment)
    writeResult path payload

def stopSummary : Fields :=
  [("platform_applied",.bool true),("runtime_enabled",.bool false),("scheduler_state",.str "paused"),
    ("in_flight_state",.str "unknown"),("retirement_complete",.bool false),("no_order",.bool true)]

def checkUnchanged (before again : Snapshot) : Except PyExc Unit :=
  if again.same before then .ok () else .error (stopError "stop_source_changed")

def stopTarget (frame : Frame) (admitted : Admitted) : Step Fields := do
  let before ← snapshot frame admitted.identity
  let again ← snapshot frame admitted.identity
  Script.fromExcept (checkUnchanged before again)
  switchOff frame admitted.identity before
  pauseJobs frame.kit before.jobs
  let after ← snapshot frame admitted.identity
  Script.fromExcept (checkReadback before after (paused before.jobs))
  reportStop frame admitted.identity after admitted.report
  return stopSummary

-- An old result is removed before the first call.
def clearResult (admitted : Admitted) : Step Unit :=
  if admitted.report.isSome then Script.modify fun _ => false else pure ()

def executeStop (frame : Frame) (request : PyVal) : Step Fields := do
  let admitted ← Script.fromExcept (admission frame request)
  clearResult admitted
  stopTarget frame admitted

end LongBridge.Stop
