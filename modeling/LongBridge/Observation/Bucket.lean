import LongBridge.Effects.Serve
import LongBridge.Observation.Collecting

namespace LongBridge.Observation
open Effects

-- What a job asks of the outside in the end: an upload writes only where there is no object yet.
inductive BucketCall where
  | reload (key : String)
  | download (key : String)
  | upload (key : String) (body : PyVal)
  | fetch
  | clock
  | send (message : String)

-- `blob.size` may be None.
def BucketCall.Result : BucketCall → Type
  | .reload _ => Option ℕ
  | .download _ | .fetch => PyVal
  | .upload .. => Unit
  | .clock => ℤ
  | .send _ => Bool

def bucketPorts : Ports where
  Call := BucketCall
  Result := BucketCall.Result
  Mark := Empty

abbrev BucketRun (α : Type) := Script bucketPorts PyExc Unit α

def askBucket (call : BucketCall) : BucketRun call.Result := @Script.invoke bucketPorts PyExc Unit call

def storeLimit : ℕ := 1024 * 1024

def storageUnavailable : PyExc := observationError "storage_unavailable"

def sizeAllowed : Option ℕ → Bool
  | some size => decide (size ≤ storeLimit)
  | none => false

def readBlob (key : String) : BucketRun PyVal := do
  let size : Option ℕ ← askBucket (.reload key)
  if sizeAllowed size then askBucket (.download key) else Script.raise (observationError "stored_record_invalid")

-- `Store.get`: any failure but a missing object is a failure of the storage.
def getObject (key : String) : BucketRun PyVal := do
  let read ← (readBlob key).attempt
  match read with
  | .ok value => return value
  | .error exc => if exc.kind = "NotFound" then return .none else Script.raise storageUnavailable

mutual

def hasNan : PyVal → Bool
  | .float (.finite _) _ => false
  | .float _ _ => true
  | .list items => hasNanItem items
  | .tuple items => hasNanItem items
  | .dict entries => hasNanEntry entries
  | _ => false

def hasNanItem : List PyVal → Bool
  | [] => false
  | item :: rest => hasNan item || hasNanItem rest

def hasNanEntry : List (String × PyVal) → Bool
  | [] => false
  | (_,value) :: rest => hasNan value || hasNanEntry rest

end

-- `json.dumps(value, sort_keys=True, allow_nan=False)`, as it is read back; `weigh` is the length of the text.
def bodyOf (weigh : PyVal → ℕ) (value : PyVal) : Except PyExc PyVal :=
  if hasNan value then .error ⟨"ValueError","Out of range float values are not JSON compliant"⟩
  else do
    let body ← value.jsonSorted
    if storeLimit < weigh body then .error (observationError "record_too_large") else .ok body

def isMissing : PyVal → Bool
  | .none => true
  | _ => false

-- The write was refused, for there is an object.
def afterRefusal (key : String) : BucketRun Bool := do
  let existing ← getObject key
  if isMissing existing then Script.raise storageUnavailable else return false

-- An accepted write with a lost response is not tried again.
def afterFailure (key : String) (value : PyVal) : BucketRun Bool := do
  let existing ← getObject key
  if existing.same value then return true else Script.raise storageUnavailable

-- `Store.create`
def createObject (weigh : PyVal → ℕ) (key : String) (value : PyVal) : BucketRun Bool := do
  let body ← Script.fromExcept (bodyOf weigh value)
  let written ← (askBucket (.upload key body)).attempt
  match written with
  | .ok _ => return true
  | .error exc => if exc.kind = "PreconditionFailed" then afterRefusal key else afterFailure key value

def serveObservation (weigh : PyVal → ℕ) : (call : ObservationCall) → BucketRun call.Result
  | .get key => getObject key
  | .create key value => createObject weigh key value
  | .fetch => askBucket .fetch
  | .clock => askBucket .clock
  | .send message => askBucket (.send message)

-- A job over the bucket
def overBucket (weigh : PyVal → ℕ) {α : Type} (job : ObservationRun α) : BucketRun α :=
  job.serving () (serveObservation weigh)

end LongBridge.Observation
