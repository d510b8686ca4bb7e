import LongBridge.Observation.Bucket
import LongBridge.Observation.Doings

namespace LongBridge.Observation
open Effects

-- What a job knows of its requests: bodies it has downloaded and uploaded, keys that were taken when it
-- asked, keys that were free, and what a job knows of its own doing besides.
structure Requests where
  clock : ℤ
  steady : Bool
  seen : List (String × PyVal)
  written : List (String × PyVal)
  taken : List String
  gone : List String
  fetched : Bool
  told : List (String × Bool)

namespace Requests

def fresh (now : ℤ) : Requests := ⟨now,true,[],[],[],[],false,[]⟩

def sees (requests : Requests) (key : String) (body : PyVal) : Requests := { requests with seen := (key,body) :: requests.seen }

def writes (requests : Requests) (key : String) (body : PyVal) : Requests := { requests with written := (key,body) :: requests.written }

def misses (requests : Requests) (key : String) (exc : PyExc) : Requests :=
  if exc.kind = "NotFound" then { requests with gone := key :: requests.gone } else requests

def fails (requests : Requests) (key : String) (exc : PyExc) : Requests :=
  if exc.kind = "PreconditionFailed" then { requests with taken := key :: requests.taken } else requests

def ticked (requests : Requests) (time : ℤ) : Requests :=
  { requests with clock := time, steady := requests.steady && decide (requests.clock ≤ time) }

def fetches (requests : Requests) : Requests := { requests with fetched := true }

def tells (requests : Requests) (message : String) (heard : Bool) : Requests := { requests with told := (message,heard) :: requests.told }

-- The object is in the bucket, by what this job has seen.
def Holds (requests : Requests) (key : String) : Prop := key ∈ requests.taken ∨ ∃ body, (key,body) ∈ requests.written ∨ (key,body) ∈ requests.seen

-- There was no object, or an empty one.
def Lacks (requests : Requests) (key : String) : Prop := key ∈ requests.gone ∨ ∃ body : PyVal, body.truthy = false ∧ (key,body) ∈ requests.seen

-- The value is in the bucket, by its own upload or by what was read after a lost response.
def Owns (requests : Requests) (key : String) (value : PyVal) : Prop :=
  ∃ body : PyVal, (value.jsonSorted = .ok body ∧ (key,body) ∈ requests.written) ∨ (body.same value = true ∧ (key,body) ∈ requests.seen)

end Requests

def requested (requests : Requests) : (call : BucketCall) → Except PyExc call.Result → Requests
  | .reload key,.error exc => requests.misses key exc
  | .download key,.ok body => requests.sees key body
  | .download key,.error exc => requests.misses key exc
  | .upload key body,.ok _ => requests.writes key body
  | .upload key _,.error exc => requests.fails key exc
  | .clock,.ok time => requests.ticked time
  | .fetch,_ => requests.fetches
  | .send message,.ok heard => requests.tells message heard
  | .send message,.error _ => requests.tells message false
  | _,_ => requests

def isBucketTime : (call : BucketCall) → Except PyExc call.Result → Prop
  | .clock,.ok time => (show ℤ from time) < lastInstant
  | _,_ => True

-- A job whose requests upload, fetch and tell only what it may
def onBucket (creating : Requests → String → PyVal → Prop) (fetching : Requests → Prop) (telling : Requests → String → Prop) :
    Discipline bucketPorts PyExc Requests where
  allow requests call := match call with
    | .upload key body => ∃ value, value.jsonSorted = .ok body ∧ creating requests key value
    | .fetch => fetching requests
    | .send message => telling requests message
    | _ => True
  possible _ call answer := isBucketTime call answer
  move := requested

section store
variable {creating : Requests → String → PyVal → Prop} {fetching : Requests → Prop} {telling : Requests → String → Prop} {requests : Requests}
  {held : Bool} {key : String} {value : PyVal}

-- What a request to the store leaves
structure Grown (before after : Requests) : Prop where
  seen : ∀ entry ∈ before.seen, entry ∈ after.seen
  written : ∀ entry ∈ before.written, entry ∈ after.written
  taken : ∀ key ∈ before.taken, key ∈ after.taken
  gone : ∀ key ∈ before.gone, key ∈ after.gone
  clock : after.clock = before.clock
  steady : after.steady = before.steady
  fetched : after.fetched = before.fetched
  told : after.told = before.told

theorem Grown.refl (requests : Requests) : Grown requests requests :=
  ⟨fun _ member => member,fun _ member => member,fun _ member => member,fun _ member => member,rfl,rfl,rfl,rfl⟩

theorem Grown.trans {one two three : Requests} (first : Grown one two) (second : Grown two three) : Grown one three :=
  ⟨fun entry member => second.seen entry (first.seen entry member),fun entry member => second.written entry (first.written entry member),
    fun key member => second.taken key (first.taken key member),fun key member => second.gone key (first.gone key member),
    second.clock.trans first.clock,second.steady.trans first.steady,second.fetched.trans first.fetched,second.told.trans first.told⟩

theorem grown_sees : Grown requests (requests.sees key value) :=
  ⟨fun _ member => List.mem_cons_of_mem _ member,fun _ member => member,fun _ member => member,fun _ member => member,rfl,rfl,rfl,rfl⟩

theorem grown_writes : Grown requests (requests.writes key value) :=
  ⟨fun _ member => member,fun _ member => List.mem_cons_of_mem _ member,fun _ member => member,fun _ member => member,rfl,rfl,rfl,rfl⟩

theorem grown_misses {exc : PyExc} : Grown requests (requests.misses key exc) := by
  unfold Requests.misses
  split
  · exact ⟨fun _ member => member,fun _ member => member,fun _ member => member,fun _ member => List.mem_cons_of_mem _ member,rfl,rfl,rfl,rfl⟩
  · exact Grown.refl _

theorem grown_fails {exc : PyExc} : Grown requests (requests.fails key exc) := by
  unfold Requests.fails
  split
  · exact ⟨fun _ member => member,fun _ member => member,fun _ member => List.mem_cons_of_mem _ member,fun _ member => member,rfl,rfl,rfl,rfl⟩
  · exact Grown.refl _

-- What a read found
def Found (requests : Requests) (key : String) (value : PyVal) : Prop := (value = .none ∧ key ∈ requests.gone) ∨ (key,value) ∈ requests.seen

def ReadBlob (before : Requests) (key : String) (after : Requests) : Except PyExc PyVal → Prop
  | .ok value => Grown before after ∧ (key,value) ∈ after.seen
  | .error exc => Grown before after ∧ (exc.kind = "NotFound" → key ∈ after.gone)

theorem missed_gone {exc : PyExc} (kind : exc.kind = "NotFound") : key ∈ (requests.misses key exc).gone := by
  rw [Requests.misses,if_pos kind]
  exact List.mem_cons_self

theorem readBlob_promises : (readBlob key).Promises (onBucket creating fetching telling) (fun after result _ => ReadBlob requests key after result)
    requests held () := by
  refine promises_bind.mpr (promises_invoke.mpr ⟨trivial,fun answer _ => ?_⟩)
  cases answer with
  | error exc => exact ⟨grown_misses,missed_gone⟩
  | ok size =>
    show (if sizeAllowed size then askBucket (.download key) else Script.raise (observationError "stored_record_invalid")).Promises _ _ requests held ()
    split
    · refine promises_invoke.mpr ⟨trivial,fun answer _ => ?_⟩
      cases answer with
      | error exc => exact ⟨grown_misses,missed_gone⟩
      | ok body => exact ⟨grown_sees,List.mem_cons_self⟩
    · exact ⟨Grown.refl _,fun kind => absurd kind (by decide)⟩

def GotObject (before : Requests) (key : String) (after : Requests) : Except PyExc PyVal → Prop
  | .ok value => Grown before after ∧ Found after key value
  | .error _ => Grown before after

theorem getObject_promises : (getObject key).Promises (onBucket creating fetching telling) (fun after result _ => GotObject requests key after result)
    requests held () := by
  refine promises_bind.mpr (promises_attempt.mpr (promises_mono ?_ readBlob_promises))
  intro after result locals reached
  cases result with
  | ok value => exact ⟨reached.1,.inr reached.2⟩
  | error exc =>
    show (if exc.kind = "NotFound" then pure PyVal.none else Script.raise storageUnavailable).Promises _ _ after held locals
    split
    · rename_i kind
      exact ⟨reached.1,.inl ⟨rfl,reached.2 kind⟩⟩
    · exact reached.1

def MadeObject (before : Requests) (key : String) (value : PyVal) (after : Requests) : Except PyExc Bool → Prop
  | .ok true => Grown before after ∧ after.Owns key value
  | .ok false => Grown before after ∧ after.Holds key
  | .error _ => Grown before after

theorem afterRefusal_promises {before : Requests} (grown : Grown before requests) : (afterRefusal key).Promises (onBucket creating fetching telling)
    (fun after result _ => MadeObject before key value after result) requests held () := by
  refine promises_bind.mpr (promises_mono ?_ getObject_promises)
  intro after result locals reached
  cases result with
  | error exc => exact grown.trans reached
  | ok existing =>
    show (if isMissing existing then Script.raise storageUnavailable else pure false).Promises _ _ after held locals
    split
    · exact grown.trans reached.1
    · rename_i there
      refine ⟨grown.trans reached.1,?_⟩
      rcases reached.2 with ⟨rfl,_⟩ | seen
      · exact absurd rfl there
      · exact .inr ⟨existing,.inr seen⟩

theorem none_same {value : PyVal} (same : PyVal.none.same value = true) : value = .none := by
  cases value with
  | none => rfl
  | _ => cases same

theorem afterFailure_promises {before : Requests} (grown : Grown before requests) (some : value ≠ .none) :
    (afterFailure key value).Promises (onBucket creating fetching telling) (fun after result _ => MadeObject before key value after result) requests held () := by
  refine promises_bind.mpr (promises_mono ?_ getObject_promises)
  intro after result locals reached
  cases result with
  | error exc => exact grown.trans reached
  | ok existing =>
    show (if existing.same value then pure true else Script.raise storageUnavailable).Promises _ _ after held locals
    split
    · rename_i same
      refine ⟨grown.trans reached.1,?_⟩
      rcases reached.2 with ⟨rfl,_⟩ | seen
      · exact absurd (none_same same) some
      · exact ⟨existing,.inr ⟨same,seen⟩⟩
    · exact grown.trans reached.1

theorem createObject_promises {weigh : PyVal → ℕ} (some : value ≠ .none) (may : creating requests key value) : (createObject weigh key value).Promises
    (onBucket creating fetching telling) (fun after result _ => MadeObject requests key value after result) requests held () := by
  refine promises_bind.mpr (promises_fromExcept.mpr ?_)
  cases made : bodyOf weigh value with
  | error exc => exact Grown.refl _
  | ok body =>
    have sorted : value.jsonSorted = .ok body := by
      unfold bodyOf at made
      split at made
      · cases made
      · obtain ⟨copy,sorted,kept⟩ := bind_ok.mp made
        split at kept
        · cases kept
        · cases kept
          exact sorted
    refine promises_bind.mpr (promises_attempt.mpr (promises_invoke.mpr ⟨⟨value,sorted,may⟩,fun answer _ => ?_⟩))
    cases answer with
    | ok written => exact ⟨grown_writes,body,.inl ⟨sorted,List.mem_cons_self⟩⟩
    | error exc =>
      show (if exc.kind = "PreconditionFailed" then afterRefusal key else afterFailure key value).Promises _ _ (requests.fails key exc) held ()
      split
      · exact afterRefusal_promises grown_fails
      · exact afterFailure_promises grown_fails some

end store

section serving
variable {may : Doing → String → PyVal → Prop} {mayFetch : Doing → Prop} {mayTell : Doing → String → Prop}
  {creating : Requests → String → PyVal → Prop} {fetching : Requests → Prop} {telling : Requests → String → Prop} {doing : Doing} {requests : Requests}

-- What a job knows of its doing, its requests know.
structure Serves (doing : Doing) (requests : Requests) : Prop where
  clock : doing.clock = requests.clock
  steady : doing.steady = requests.steady
  known : ∀ entry ∈ doing.known, entry ∈ requests.seen
  present : ∀ key ∈ doing.present, requests.Holds key
  missing : ∀ key ∈ doing.missing, requests.Lacks key
  owned : ∀ entry ∈ doing.owned, requests.Owns entry.1 entry.2
  fetched : doing.fetched = requests.fetched
  told : doing.told = requests.told

theorem Requests.Holds.grown {before after : Requests} {key : String} (grown : Grown before after) (held : before.Holds key) : after.Holds key := by
  rcases held with taken | ⟨body,written | seen⟩
  · exact .inl (grown.taken _ taken)
  · exact .inr ⟨body,.inl (grown.written _ written)⟩
  · exact .inr ⟨body,.inr (grown.seen _ seen)⟩

theorem Requests.Lacks.grown {before after : Requests} {key : String} (grown : Grown before after) (lacks : before.Lacks key) : after.Lacks key := by
  rcases lacks with gone | ⟨body,falsy,seen⟩
  · exact .inl (grown.gone _ gone)
  · exact .inr ⟨body,falsy,grown.seen _ seen⟩

theorem Requests.Owns.grown {before after : Requests} {key : String} {value : PyVal} (grown : Grown before after) (owns : before.Owns key value) :
    after.Owns key value := by
  rcases owns with ⟨body,⟨sorted,written⟩ | ⟨same,seen⟩⟩
  · exact ⟨body,.inl ⟨sorted,grown.written _ written⟩⟩
  · exact ⟨body,.inr ⟨same,grown.seen _ seen⟩⟩

theorem Requests.Owns.holds {key : String} {value : PyVal} (owns : requests.Owns key value) : requests.Holds key := by
  rcases owns with ⟨body,⟨_,written⟩ | ⟨_,seen⟩⟩
  · exact .inr ⟨body,.inl written⟩
  · exact .inr ⟨body,.inr seen⟩

theorem Serves.grown {after : Requests} (serves : Serves doing requests) (grown : Grown requests after) : Serves doing after :=
  ⟨serves.clock.trans grown.clock.symm,serves.steady.trans grown.steady.symm,fun entry member => grown.seen entry (serves.known entry member),
    fun key member => (serves.present key member).grown grown,fun key member => (serves.missing key member).grown grown,
    fun entry member => (serves.owned entry member).grown grown,serves.fetched.trans grown.fetched.symm,serves.told.trans grown.told.symm⟩

theorem serves_read {key : String} {value : PyVal} (serves : Serves doing requests) (found : Found requests key value) : Serves (doing.read key value) requests := by
  unfold Doing.read
  split
  · rename_i truthy
    have seen : (key,value) ∈ requests.seen := by
      rcases found with ⟨rfl,_⟩ | seen
      · cases truthy
      · exact seen
    refine { serves with known := ?_, present := ?_ }
    · intro entry member
      rcases List.mem_cons.mp member with rfl | old
      · exact seen
      · exact serves.known entry old
    · intro other member
      rcases List.mem_cons.mp member with rfl | old
      · exact .inr ⟨value,.inr seen⟩
      · exact serves.present other old
  · rename_i falsy
    refine { serves with missing := ?_ }
    intro other member
    rcases List.mem_cons.mp member with rfl | old
    · rcases found with ⟨_,gone⟩ | seen
      · exact .inl gone
      · exact .inr ⟨value,eq_false_of_ne_true falsy,seen⟩
    · exact serves.missing other old

theorem serves_created {key : String} {value : PyVal} {wrote : Bool} (serves : Serves doing requests) (holds : requests.Holds key)
    (owns : wrote = true → requests.Owns key value) : Serves (doing.created key value wrote) requests := by
  refine { serves with present := ?_, owned := ?_ }
  · intro other member
    rcases List.mem_cons.mp member with rfl | old
    · exact holds
    · exact serves.present other old
  · intro entry member
    cases wrote with
    | false => exact serves.owned entry member
    | true =>
      rcases List.mem_cons.mp member with rfl | old
      · exact owns rfl
      · exact serves.owned entry old

theorem serves_told {message : String} {heard : Bool} (serves : Serves doing requests) : Serves (doing.tells message heard) (requests.tells message heard) :=
  ⟨serves.clock,serves.steady,serves.known,serves.present,serves.missing,serves.owned,serves.fetched,congrArg _ serves.told⟩

theorem serves_fetched (serves : Serves doing requests) : Serves doing.fetches requests.fetches :=
  ⟨serves.clock,serves.steady,serves.known,serves.present,serves.missing,serves.owned,rfl,serves.told⟩

theorem serves_ticked {time : ℤ} (serves : Serves doing requests) : Serves (doing.ticked time) (requests.ticked time) := by
  refine ⟨rfl,?_,serves.known,serves.present,serves.missing,serves.owned,serves.fetched,serves.told⟩
  show (doing.steady && decide (doing.clock ≤ time)) = (requests.steady && decide (requests.clock ≤ time))
  rw [serves.clock,serves.steady]

-- Permissions above that are permissions below
structure Permits (may : Doing → String → PyVal → Prop) (mayFetch : Doing → Prop) (mayTell : Doing → String → Prop)
    (creating : Requests → String → PyVal → Prop) (fetching : Requests → Prop) (telling : Requests → String → Prop) : Prop where
  creates : ∀ doing requests key value, Serves doing requests → may doing key value → creating requests key value
  fetches : ∀ doing requests, Serves doing requests → mayFetch doing → fetching requests
  tells : ∀ doing requests message, Serves doing requests → mayTell doing message → telling requests message

theorem serveObservation_promises {weigh : PyVal → ℕ} (permits : Permits may mayFetch mayTell creating fetching telling) (doing : Doing)
    (requests : Requests) (call : ObservationCall) (held : Bool) (shared : Unit) (serves : Serves doing requests)
    (allowed : (oneJob may mayFetch mayTell).allow doing call) :
    (serveObservation weigh call).Promises (onBucket creating fetching telling)
      (fun after answer _ => (oneJob may mayFetch mayTell).possible doing call answer ∧ Serves (done doing call answer) after) requests held shared := by
  cases call with
  | get key =>
    refine promises_mono ?_ getObject_promises
    intro after result locals reached
    cases result with
    | ok value => exact ⟨trivial,serves_read (serves.grown reached.1) reached.2⟩
    | error exc => exact ⟨trivial,serves.grown reached⟩
  | create key value =>
    refine promises_mono ?_ (createObject_promises allowed.1 (permits.creates doing requests key value serves allowed.2))
    intro after result locals reached
    cases result with
    | error exc => exact ⟨trivial,serves.grown reached⟩
    | ok wrote =>
      cases wrote with
      | true => exact ⟨trivial,serves_created (serves.grown reached.1) reached.2.holds fun _ => reached.2⟩
      | false => exact ⟨trivial,serves_created (serves.grown reached.1) reached.2 nofun⟩
  | fetch =>
    refine promises_invoke.mpr ⟨permits.fetches doing requests serves allowed,fun answer _ => ?_⟩
    cases answer <;> exact ⟨trivial,serves_fetched serves⟩
  | clock =>
    refine promises_invoke.mpr ⟨trivial,fun answer possible => ?_⟩
    cases answer with
    | error exc => exact ⟨trivial,serves⟩
    | ok time => exact ⟨possible,serves_ticked serves⟩
  | send message =>
    refine promises_invoke.mpr ⟨permits.tells doing requests message serves allowed,fun answer _ => ?_⟩
    cases answer <;> exact ⟨trivial,serves_told serves⟩

-- What a job promises, it promises over the bucket.
theorem overBucket_promises {weigh : PyVal → ℕ} (permits : Permits may mayFetch mayTell creating fetching telling) {α : Type} {job : ObservationRun α}
    {ends : Doing → Except PyExc α → Unit → Prop} {held : Bool} (serves : Serves doing requests)
    (promises : job.Promises (oneJob may mayFetch mayTell) ends doing held ()) :
    (overBucket weigh job).Promises (onBucket creating fetching telling)
      (fun after result _ => ∃ doing locals, ends doing result locals ∧ Serves doing after) requests held () :=
  promises_serving (serveObservation_promises permits) promises serves

theorem serves_fresh (now : ℤ) : Serves (.fresh now) (.fresh now) :=
  ⟨rfl,rfl,(fun _ member => nomatch member),(fun _ member => nomatch member),(fun _ member => nomatch member),(fun _ member => nomatch member),rfl,rfl⟩

end serving

end LongBridge.Observation
