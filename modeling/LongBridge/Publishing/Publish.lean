import LongBridge.Effects.Script
import LongBridge.Notifications.Candidates
import LongBridge.Projection.Records
import LongBridge.Python.Dates
import LongBridge.Schedule.Cron

namespace LongBridge.Publishing
open Effects Projection
open Notifications (setEntry)
open Schedule (splitMarks)

-- `blob.updated`: reading it may raise, and so may its conversion to UTC where it names a zone.
inductive Stamp where
  | unread (error : PyExc)
  | unusable
  | outOfRange (error : PyExc)
  | updated (instant : ℤ)

structure Blob where
  name : String
  stamp : Stamp

-- What `list_blobs` returns: the blobs it yields, and the failure it may end with.
structure Listing where
  blobs : List Blob
  failure : Option PyExc

structure Response where
  statusCode : Option ℤ
  isRedirect : Bool
  payload : Except PyExc PyVal

-- A download is of the first `maxReportBytes` bytes; none is an answer that is no bytes.
-- The projection, its handoff and the private result are written by calls of their own.
inductive StorageCall where
  | monotonic
  | listBlobs (bucket glob : String)
  | openBlob (bucket name : String)
  | size (bucket name : String)
  | download (bucket name : String)
  | upload (bucket name body : String)
  | post (url token : String) (data : List UInt8)
  | handoff (bucket name uri : String)
  | writeResult (uri businessDate targetKey completeness : String)

abbrev StorageCall.Result : StorageCall → Type
  | .monotonic => ℚ
  | .listBlobs _ _ => Listing
  | .size _ _ => Option ℤ
  | .download _ _ => Option (List UInt8)
  | .post _ _ _ => Response
  | _ => Unit

-- One report as `project_listed_reports` builds it. No record reads the time of the object.
structure Report where
  payload : Fields
  objectUri : String
  objectUpdatedAt : ℤ

def Report.item (report : Report) : Fields := [("payload",.dict report.payload),("object_uri",.str report.objectUri)]

-- What is handed to the projection.
structure Handed where
  reports : List Report
  readErrors : List String

abbrev storagePorts : Ports where
  Call := StorageCall
  Result := StorageCall.Result
  Mark := Handed

abbrev Storing (α : Type) := Script storagePorts PyExc Unit α

def askStorage (call : StorageCall) : Storing call.Result := @Script.invoke storagePorts PyExc Unit call

-- `_Rejected` and `_KnownFailure`
def rejected (reason : String) : PyExc := ⟨"_Rejected",reason⟩

def knownFailure (code : String) : PyExc := ⟨"_KnownFailure",code⟩

def maxReportBytes : ℕ := 1048576

def maxListBytes : ℕ := 262144

def maxListScan : ℕ := 256

def listTimeoutSeconds : ℚ := 20

def syncMaxBodyBytes : ℕ := 64 * 1024

def syncPath : String := "/api/runtime-daily/sync"

def syncTargetKey : String := "longbridge-quant-paper-service|russell_top50_leader_rotation|paper"

-- The projection as far as the publisher reads it.
structure Projected where
  completeness : String
  readErrors : List String
  records : List Record

-- The tests of `urlsplit`, the decoder and the encoder of json, and what the projection takes as given for the
-- time of the observation. The text shows the targets and reports as well, and the lower-case scope of the target.
structure PublishKit where
  netlocValid : String → Bool
  loads : List UInt8 → Except PyExc PyVal
  projection : Kit
  dumps : List Fields → List Report → Projected → String

-- What the environment, the deployment and the scheduler admit, before anything is listed.
structure PublishRequest where
  globs : List String
  since : ℤ
  limit : ℕ
  observedAt : ℤ
  observationVersion : String
  targets : List Fields
  schedulerError : Option String
  storePrefix : String
  syncEnabled : Bool
  url : String
  token : String
  handoffEnabled : Bool
  keepsResult : Bool

-- Status, business date and the status of the sync
structure Published where
  status : String
  businessDate : String
  sync : String
  deriving DecidableEq

def blobUri (bucket name : String) : String := "gs://" ++ bucket ++ "/" ++ name

-- `_gs_object`
def gsObject (netlocValid : String → Bool) (pattern : String) : Except PyExc (Option (String × String)) := do
  let parsed ← urlsplit netlocValid pattern
  if parsed.scheme ≠ "gs" ∨ parsed.netloc = "" ∨ parsed.path = "" ∨ parsed.path = "/" then return none
  else return some (parsed.netloc,String.ofList (parsed.path.toList.dropWhile (· == '/')))

section listing

structure Scan where
  found : List (String × ℤ)
  scanned : ℕ
  scannedBytes : ℕ

def Scan.start : Scan := ⟨[],0,0⟩

def Scan.full (scan : Scan) : Bool := maxListScan ≤ scan.scanned || maxListBytes < scan.scannedBytes

def Blob.listBytes (blob : Blob) : ℕ := blob.name.utf8ByteSize + 64

def Scan.count (scan : Scan) (blob : Blob) : Scan :=
  { scan with scanned := scan.scanned + 1, scannedBytes := scan.scannedBytes + blob.listBytes }

-- How the loop over the blobs of one glob ends; the flag says that a blob had no name or no time.
inductive ScanEnd where
  | ended (incomplete : Bool)
  | truncated (incomplete : Bool)
  | failed

variable (kit : PublishKit) (request : PublishRequest) (deadline : ℚ)

-- The blob that is left is one without a name or a time, one from before the lookback, or one that is found.
def Scan.note (scan : Scan) (bucket : String) (blob : Blob) : Except PyExc (Bool × Scan) :=
  match blob.stamp with
  | .unread error => .error error
  | stamp =>
    if blob.name = "" then .ok (true,scan.count blob)
    else match stamp with
      | .outOfRange error => .error error
      | .updated instant =>
        if instant < request.since then .ok (false,scan.count blob)
        else .ok (false,{ scan.count blob with found := setEntry (blobUri bucket blob.name) instant scan.found })
      | _ => .ok (true,scan.count blob)

def scanBlobs (bucket : String) (failure : Option PyExc) : List Blob → Bool → Scan → Storing (ScanEnd × Scan)
  | [],incomplete,scan => match failure with
    | some _ => pure (.failed,scan)
    | none => pure (.ended incomplete,scan)
  | blob :: rest,incomplete,scan => do
    match ← (askStorage .monotonic).attempt with
    | .error _ => pure (.failed,scan)
    | .ok now =>
      if deadline < now ∨ scan.full = true then pure (.truncated incomplete,scan)
      else match scan.note request bucket blob with
        | .error _ => pure (.failed,scan.count blob)
        | .ok (unusable,scan) => scanBlobs bucket failure rest (incomplete || unusable) scan

def incompleteError (incomplete : Bool) : List String := if incomplete then ["listing incomplete"] else []

-- The loop over the globs; the flag says that it stopped before the end.
def listGlobs : List String → List String → Scan → Storing (List String × Bool × Scan)
  | [],errors,scan => pure (errors,false,scan)
  | pattern :: rest,errors,scan => do
    if scan.full then pure (errors,true,scan)
    else
      let now ← askStorage .monotonic
      if deadline < now then pure (errors,true,scan)
      else match ← Script.fromExcept (gsObject kit.netlocValid pattern) with
        | none => listGlobs rest (errors ++ ["list_failed"]) scan
        | some (bucket,glob) => match ← (askStorage (.listBlobs bucket glob)).attempt with
          | .error _ => listGlobs rest (errors ++ ["list_failed"]) scan
          | .ok listing => do
            let (ended,scan) ← scanBlobs request deadline bucket listing.failure listing.blobs false scan
            match ended with
            | .failed => listGlobs rest (errors ++ ["list_failed"]) scan
            | .truncated incomplete => pure (errors ++ incompleteError incomplete,true,scan)
            | .ended incomplete => listGlobs rest (errors ++ incompleteError incomplete) scan

-- `_list_bounded`; the sort is stable and the newest objects come first.
def listBounded : Storing (List (String × ℤ) × List String) := do
  let start ← askStorage .monotonic
  let (errors,truncated,scan) ← listGlobs kit request (start + listTimeoutSeconds) request.globs [] Scan.start
  let ordered := scan.found.insertionSort fun one two => two.2 ≤ one.2
  let cut := truncated || request.limit < ordered.length
  return (ordered.take request.limit,errors ++ if cut then ["listing truncated"] else [])

end listing

section reading

variable (kit : PublishKit)

-- Of what `json.loads` may raise, what is caught
def isDecodeError (error : PyExc) : Bool := ["UnicodeDecodeError","UnicodeError","JSONDecodeError"].contains error.kind

-- The blob states a size of more bytes than these.
def statesMore (size : Option ℤ) (length : ℕ) : Bool := size.any fun size => (length : ℤ) < size

def readTruncated (size : Option ℤ) (payload : List UInt8) : Bool :=
  maxReportBytes < payload.length ||
    (payload.length = maxReportBytes && (size.isNone || statesMore size payload.length)) || statesMore size payload.length

-- The end of `_read_bounded`: the payload as a dict, or the error
def parsePayload (payload : List UInt8) : Except PyExc (Except String Fields) :=
  match kit.loads payload with
  | .error error => if isDecodeError error then .ok (.error "read_failed") else .error error
  | .ok (.dict parsed) => .ok (.ok parsed)
  | .ok _ => .ok (.error "read_failed")

-- `_read_bounded`
def readBounded (uri : String) : Storing (Except String Fields) := do
  match ← Script.fromExcept (gsObject kit.netlocValid uri) with
  | none => pure (.error "read_failed")
  | some (bucket,name) => do
    let _ ← askStorage (.openBlob bucket name)
    match ← (askStorage (.size bucket name)).attempt with
    | .error _ => pure (.error "read_failed")
    | .ok size =>
      if statesMore size maxReportBytes then pure (.error "read_truncated")
      else match ← (askStorage (.download bucket name)).attempt with
        | .ok (some payload) =>
          if readTruncated size payload then pure (.error "read_truncated")
          else Script.fromExcept (parsePayload kit payload)
        | _ => pure (.error "read_failed")

structure Reads where
  kept : List (String × ℤ)
  cached : List (String × Fields)
  errors : List String

def Reads.add (reads : Reads) (uri : String) (updatedAt : ℤ) : Except String Fields → Reads
  | .error error => { reads with errors := reads.errors ++ [error] }
  | .ok payload => { reads with kept := reads.kept ++ [(uri,updatedAt)], cached := setEntry uri payload reads.cached }

def readObjects : List (String × ℤ) → Reads → Storing Reads
  | [],reads => pure reads
  | (uri,updatedAt) :: rest,reads => do
    let read ← readBounded kit uri
    readObjects rest (reads.add uri updatedAt read)

end reading

section projecting

variable (kit : PublishKit) (request : PublishRequest)

-- The loop of `project_listed_reports` over a reader that does not raise
def handOver (readPayload : String → Option Fields) : List (String × ℤ) → Handed → Handed
  | [],handed => handed
  | (uri,updatedAt) :: rest,handed => match readPayload uri with
    | none => handOver readPayload rest { handed with readErrors := handed.readErrors ++ [uri ++ ": unreadable"] }
    | some payload => handOver readPayload rest { handed with reports := handed.reports ++ [⟨payload,uri,updatedAt⟩] }

def nonBlank (errors : List String) : List String := errors.filter fun error => strip error ≠ ""

def Reads.handed (reads : Reads) : Handed := handOver (reads.cached.lookup ·) reads.kept ⟨[],nonBlank reads.errors⟩

-- `project_daily_runtime`, with the completeness of the whole
def projectHanded (handed : Handed) : Projected :=
  let records := projectDailyRuntime kit.projection request.targets (handed.reports.map Report.item) request.observedAt handed.readErrors
  let errors := nonBlank handed.readErrors
  let lacking := !errors.isEmpty || records.any (fun record => record.completeness != "complete") || request.targets.isEmpty
  ⟨if lacking then "incomplete" else "complete",errors,records⟩

end projecting

section publishing

variable (kit : PublishKit) (request : PublishRequest)

-- `_object_uri`: bucket and name
def objectUri (storePrefix businessDate version : String) : String × String :=
  let (bucket,_,base) := partitionAt '/' (storePrefix.toList.drop "gs://".length)
  (String.ofList bucket,String.ofList base ++ "/longbridge/paper/" ++ businessDate ++ "/" ++ version ++ ".json")

def alreadyRecorded (error : PyExc) : Bool := error.kind == "PreconditionFailed"

def writeFailure (denied unknown : String) (error : PyExc) : PyExc :=
  if error.kind = "Forbidden" then knownFailure denied else knownFailure unknown

-- `_upload`: the URI of the object, none where there is one already
def uploadProjection (businessDate body : String) : Storing (Option String) := do
  let (bucket,name) := objectUri request.storePrefix businessDate request.observationVersion
  let _ ← askStorage (.openBlob bucket name)
  match ← (askStorage (.upload bucket name body)).attempt with
  | .ok _ => pure (some (blobUri bucket name))
  | .error error =>
    if alreadyRecorded error then pure none
    else Script.raise (writeFailure "storage_write_permission_denied" "write_unknown" error)

def isBool (value : PyVal) (held : Bool) : Bool :=
  match value with
  | .bool stated => stated == held
  | _ => false

def isText (value : PyVal) (test : String → Bool) : Bool :=
  match value with
  | .str text => test text
  | _ => false

-- What the sync makes of the answer
def syncStatus (response : Response) (businessDate targetKey : String) : String :=
  match response.statusCode with
  | none => "unknown"
  | some code =>
    if response.isRedirect || (300 ≤ code && code < 500) then "rejected"
    else if code < 200 || 300 ≤ code then "unknown"
    else match response.payload with
      | .ok (.dict payload) =>
        if isBool (Fields.get payload "ok") false then "rejected"
        else if isBool (Fields.get payload "ok") true && isBool (Fields.get payload "stored") true &&
            isText (Fields.get payload "business_date") (· == businessDate) && isText (Fields.get payload "target_key") (· == targetKey) &&
            isText (Fields.get payload "account_key") (· != "") then "recorded"
        else "unknown"
      | _ => "unknown"

def isHostChar (char : Char) : Bool := char.isLower || char.isDigit

-- A label of a host name: at most 63 letters, digits and inner dashes
def isHostLabel (label : List Char) : Bool :=
  label.head?.any isHostChar && label.getLast?.any isHostChar && label.all (fun char => isHostChar char || char == '-') && label.length ≤ 63

-- `_HTTPS_HOST`
def isHttpsHost (host : String) : Bool :=
  let labels := splitMarks '.' host.toList
  2 ≤ labels.length && labels.all isHostLabel

-- `_runtime_daily_sync_url`; every error of it is the same rejection.
def runtimeDailySyncUrl (netlocValid : String → Bool) (value : String) : Option String := do
  let parsed ← (urlsplit netlocValid (strip value)).toOption
  let port ← parsed.port.toOption
  let host := parsed.hostname.getD ""
  if parsed.scheme ≠ "https" ∨ parsed.statesUser = true ∨ port.isSome = true ∨ parsed.query ≠ "" ∨ parsed.fragment ≠ "" ∨
    parsed.path ≠ syncPath ∨ isHttpsHost host = false then none
  else some ("https://" ++ host ++ syncPath)

-- `_sync_runtime_daily`
def syncRuntimeDaily (body businessDate targetKey : String) : Storing String := do
  if !request.syncEnabled then pure "disabled"
  else if targetKey ≠ syncTargetKey then pure "rejected"
  else match runtimeDailySyncUrl kit.netlocValid request.url with
    | none => pure "rejected"
    | some url =>
      if request.token = "" ∨ request.token ≠ strip request.token then pure "rejected"
      else
        let encoded := body.toUTF8.toList
        if syncMaxBodyBytes < encoded.length then pure "rejected"
        else match ← (askStorage (.post url request.token encoded)).attempt with
          | .error _ => pure "unknown"
          | .ok response => pure (syncStatus response businessDate targetKey)

-- `_publish_handoff`: the first handoff of the day names the object.
def publishHandoff (businessDate uri : String) : Storing Unit := do
  if request.handoffEnabled then
    let (bucket,name) := objectUri request.storePrefix businessDate "handoff"
    match ← (askStorage (.handoff bucket name uri)).attempt with
    | .ok _ => pure ()
    | .error error =>
      if alreadyRecorded error then pure ()
      else Script.raise (writeFailure "handoff_write_permission_denied" "handoff_write_unknown" error)

-- What the publishers do once there is one record
def publishRecord (keepsResult : Bool) (target : Fields) (record : Record) (handed : Handed) (projected : Projected) : Storing Published := do
  match (kit.projection.schedule target).businessDate with
  | none => Script.raise (knownFailure "schedule_unavailable")
  | some date => do
    let businessDate := dateText date
    if keepsResult && record.targetKey = "" then Script.raise (rejected "private_result_target_invalid")
    else match ← uploadProjection request businessDate (kit.dumps request.targets handed.reports projected) with
      | none => pure ⟨"already_recorded",businessDate,"skipped_existing"⟩
      | some uri => do
        let sync ← syncRuntimeDaily kit request (kit.dumps request.targets handed.reports projected) businessDate record.targetKey
        publishHandoff request businessDate uri
        if keepsResult then askStorage (.writeResult uri businessDate record.targetKey projected.completeness)
        return ⟨"recorded",businessDate,sync⟩

-- Listing, reading, projection and publication
def publishListed (keepsResult : Bool) : Storing Published := do
  let (objects,errors) ← listBounded kit request
  let reads ← readObjects kit objects ⟨[],[],errors ++ request.schedulerError.toList⟩
  Script.mark reads.handed
  let projected := projectHanded kit request reads.handed
  match request.targets,projected.records with
  | [target],[record] => publishRecord kit request keepsResult target record reads.handed projected
  | _,_ => Script.raise (rejected "target_not_unique")

-- `publish` without the one shot, once the target is admitted
def publish : Storing Published := publishListed kit request request.keepsResult

-- `publish_verified`: an unproven schedule is not published, and there is no private result.
def publishVerified : Storing Published :=
  match request.schedulerError with
  | some _ => Script.raise (knownFailure "schedule_unevaluable")
  | none => publishListed kit request false

end publishing

end LongBridge.Publishing
