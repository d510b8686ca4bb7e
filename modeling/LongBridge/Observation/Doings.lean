import LongBridge.Effects.Conforming
import LongBridge.Observation.Collecting

namespace LongBridge.Observation
open Effects

-- What a job knows of its own doing: the clock it read last and whether that never went back, objects it
-- has read, keys it has seen taken or free, what it has created, whether it has fetched, and what it has
-- told with which answer.
structure Doing where
  clock : ℤ
  steady : Bool
  known : List (String × PyVal)
  present : List String
  missing : List String
  owned : List (String × PyVal)
  fetched : Bool
  told : List (String × Bool)

namespace Doing

def fresh (now : ℤ) : Doing := ⟨now,true,[],[],[],[],false,[]⟩

def read (doing : Doing) (key : String) (value : PyVal) : Doing :=
  if value.truthy then { doing with known := (key,value) :: doing.known, present := key :: doing.present }
  else { doing with missing := key :: doing.missing }

def created (doing : Doing) (key : String) (value : PyVal) (wrote : Bool) : Doing :=
  { doing with present := key :: doing.present, owned := if wrote then (key,value) :: doing.owned else doing.owned }

def ticked (doing : Doing) (time : ℤ) : Doing := { doing with clock := time, steady := doing.steady && decide (doing.clock ≤ time) }

def fetches (doing : Doing) : Doing := { doing with fetched := true }

def tells (doing : Doing) (message : String) (heard : Bool) : Doing := { doing with told := (message,heard) :: doing.told }

end Doing

def done (doing : Doing) : (call : ObservationCall) → Except PyExc call.Result → Doing
  | .get key,.ok value => doing.read key value
  | .create key value,.ok wrote => doing.created key value wrote
  | .clock,.ok time => doing.ticked time
  | .fetch,_ => doing.fetches
  | .send message,.ok heard => doing.tells message heard
  | .send message,.error _ => doing.tells message false
  | _,_ => doing

-- A clock answers a time that there is.
def isTime : (call : ObservationCall) → Except PyExc call.Result → Prop
  | .clock,.ok time => (show ℤ from time) < lastInstant
  | _,_ => True

-- A job that creates, fetches and tells only what it may
def oneJob (creating : Doing → String → PyVal → Prop) (fetching : Doing → Prop) (telling : Doing → String → Prop) :
    Discipline observationPorts PyExc Doing where
  allow doing call := match call with
    | .create key value => value ≠ .none ∧ creating doing key value
    | .fetch => fetching doing
    | .send message => telling doing message
    | _ => True
  possible _ call answer := isTime call answer
  move := done

section learning
variable {creating : Doing → String → PyVal → Prop} {fetching : Doing → Prop} {telling : Doing → String → Prop} {doing : Doing} {held : Bool}

abbrev Anything : Doing → PyExc → Unit → Prop := fun _ _ _ => True

abbrev Free {α : Type} : Doing → Except PyExc α → Unit → Prop := Outcome (fun _ _ _ => True) Anything

-- What a job has learnt stays.
structure Learnt (before after : Doing) : Prop where
  present : ∀ key ∈ before.present, key ∈ after.present
  missing : ∀ key ∈ before.missing, key ∈ after.missing
  owned : ∀ entry ∈ before.owned, entry ∈ after.owned
  steady : after.steady = true → before.steady = true ∧ before.clock ≤ after.clock

theorem Learnt.refl (doing : Doing) : Learnt doing doing :=
  ⟨fun _ member => member,fun _ member => member,fun _ member => member,fun held => ⟨held,le_refl _⟩⟩

theorem Learnt.trans (one two three : Doing) (first : Learnt one two) (second : Learnt two three) : Learnt one three :=
  ⟨fun key member => second.present key (first.present key member),fun key member => second.missing key (first.missing key member),
    fun entry member => second.owned entry (first.owned entry member),
    fun held => ⟨(first.steady (second.steady held).1).1,(first.steady (second.steady held).1).2.trans (second.steady held).2⟩⟩

theorem ticked_steady {time : ℤ} (held : (doing.ticked time).steady = true) : doing.steady = true ∧ doing.clock ≤ time := by
  obtain ⟨steady,later⟩ := Bool.and_eq_true_iff.mp held
  exact ⟨steady,of_decide_eq_true later⟩

theorem done_learns (doing : Doing) (call : ObservationCall) (answer : Except PyExc call.Result) : Learnt doing (done doing call answer) := by
  have kept : ∀ held : doing.steady = true, doing.steady = true ∧ doing.clock ≤ doing.clock := fun held => ⟨held,le_refl _⟩
  cases answer with
  | error raised =>
    cases call with
    | fetch => exact ⟨fun _ member => member,fun _ member => member,fun _ member => member,kept⟩
    | send message => exact ⟨fun _ member => member,fun _ member => member,fun _ member => member,kept⟩
    | _ => exact Learnt.refl _
  | ok value =>
    cases call with
    | get key =>
      show Learnt doing (doing.read key value)
      unfold Doing.read
      split
      · exact ⟨fun _ member => List.mem_cons_of_mem _ member,fun _ member => member,fun _ member => member,kept⟩
      · exact ⟨fun _ member => member,fun _ member => List.mem_cons_of_mem _ member,fun _ member => member,kept⟩
    | create key content =>
      refine ⟨fun _ member => List.mem_cons_of_mem _ member,fun _ member => member,fun entry member => ?_,kept⟩
      cases value with
      | true => exact List.mem_cons_of_mem _ member
      | false => exact member
    | fetch => exact ⟨fun _ member => member,fun _ member => member,fun _ member => member,kept⟩
    | send message => exact ⟨fun _ member => member,fun _ member => member,fun _ member => member,kept⟩
    | clock => exact ⟨fun _ member => member,fun _ member => member,fun _ member => member,ticked_steady⟩

theorem learns {α : Type} {script : ObservationRun α} {good : Doing → α → Unit → Prop}
    (promises : script.Promises (oneJob creating fetching telling) (Outcome good Anything) doing held ()) :
    script.Promises (oneJob creating fetching telling) (Outcome (fun after value locals => good after value locals ∧ Learnt doing after) Anything)
      doing held () := by
  refine promises_mono ?_ (promises_grows Learnt.refl Learnt.trans (fun doing call answer _ _ => done_learns doing call answer) promises)
  intro after result locals reached
  cases result with
  | error raised => trivial
  | ok value => exact reached

-- A part of a job that may not fetch has not fetched.
theorem quietly {α : Type} {script : ObservationRun α} {good : Doing → α → Unit → Prop}
    (promises : script.Promises (oneJob creating (fun _ => False) telling) (Outcome good Anything) doing held ()) :
    script.Promises (oneJob creating fetching telling)
      (Outcome (fun after value locals => good after value locals ∧ Learnt doing after ∧ after.fetched = doing.fetched) Anything) doing held () := by
  have allow : ∀ doing call, (oneJob creating (fun _ => False) telling).allow doing call → (oneJob creating fetching telling).allow doing call := by
    intro doing call allowed
    cases call with
    | fetch => cases allowed
    | _ => exact allowed
  have step : ∀ doing call answer, (oneJob creating (fun _ => False) telling).allow doing call →
      (oneJob creating (fun _ => False) telling).possible doing call answer → (done doing call answer).fetched = doing.fetched := by
    intro doing call answer allowed _
    cases call with
    | fetch => cases allowed
    | get key =>
      cases answer with
      | error raised => rfl
      | ok value =>
        show (doing.read key value).fetched = _
        unfold Doing.read
        split <;> rfl
    | _ => cases answer <;> rfl
  have tries := promises_grows (R := fun before after : Doing => after.fetched = before.fetched) (fun _ => rfl)
    (fun _ _ _ first second => Eq.trans second first) step (learns promises)
  refine conforms_allows allow (fun _ _ _ possible => possible) rfl (promises_mono ?_ tries)
  intro after result locals reached
  cases result with
  | error raised => trivial
  | ok value => exact ⟨reached.1.1,reached.1.2,reached.2⟩

theorem get_promises (key : String) : (askObservation (.get key)).Promises (oneJob creating fetching telling)
    (Outcome (fun after value _ => after = doing.read key value) Anything) doing held () := by
  refine promises_invoke.mpr ⟨trivial,fun answer possible => ?_⟩
  cases answer with
  | error raised => trivial
  | ok value => exact rfl

theorem create_promises {key : String} {fields : Fields} (may : creating doing key (.dict fields)) :
    (askObservation (.create key (.dict fields))).Promises (oneJob creating fetching telling)
      (Outcome (fun after wrote _ => after = doing.created key (.dict fields) wrote) Anything) doing held () := by
  refine promises_invoke.mpr ⟨⟨nofun,may⟩,fun answer possible => ?_⟩
  cases answer with
  | error raised => trivial
  | ok wrote => exact rfl

theorem storeObject_promises {key : String} {fields : Fields} (may : creating doing key (.dict fields)) :
    (storeObject key (.dict fields)).Promises (oneJob creating fetching telling)
      (Outcome (fun after _ _ => ∃ wrote, after = doing.created key (.dict fields) wrote) Anything) doing held () := by
  refine promises_then (create_promises may) ?_ (fun _ _ _ _ => trivial)
  intro after wrote locals reached
  exact ⟨wrote,reached⟩

theorem read_known {key : String} {value : PyVal} (truthy : value.truthy = true) : (key,value) ∈ (doing.read key value).known := by
  rw [Doing.read,if_pos truthy]
  exact List.mem_cons_self

theorem read_present {key : String} {value : PyVal} (truthy : value.truthy = true) : key ∈ (doing.read key value).present := by
  rw [Doing.read,if_pos truthy]
  exact List.mem_cons_self

theorem read_missing {key : String} {value : PyVal} (falsy : value.truthy = false) : key ∈ (doing.read key value).missing := by
  rw [Doing.read,if_neg (by rw [falsy]; decide)]
  exact List.mem_cons_self

end learning

end LongBridge.Observation
