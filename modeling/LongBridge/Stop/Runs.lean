import LongBridge.Effects.Invariant
import LongBridge.Stop.Service

namespace LongBridge.Stop
open Effects

variable {kit : Kit} {frame : Frame} {identity : Fields} {held before after : Bool} {α β : Type}

def observations (events : List Happening) : List Observation :=
  events.filterMap fun
    | .marked observation => some observation
    | _ => none

def write? : Happening → Option Command
  | .answered _ (.gcloud command) _ => if command.writes then some command else none
  | _ => none

-- The writes a run issued, whatever came of them.
def writesOf (events : List Happening) : List Command := events.filterMap write?

-- A write that is not known to have been done.
def unknownWrite (kit : Kit) : Happening → Bool
  | .answered _ (.gcloud command) answer => command.writes && !(commandDocument kit command answer).isOk
  | _ => false

def plain (event : Happening) : Bool :=
  match event with
  | .marked _ => false
  | event => (write? event).isNone

theorem unknownWrite_writes {event : Happening} (unknown : unknownWrite kit event = true) : (write? event).isNone = false := by
  cases event with
  | answered _ call answer =>
    cases call with
    | gcloud command =>
      have writes : command.writes = true := (Bool.and_eq_true _ _ ▸ unknown : _ ∧ _).1
      simp [write?,writes]
    | now => cases unknown
    | replaceResult => cases unknown
  | fault => cases unknown
  | marked => cases unknown

theorem plain_quiet {event : Happening} (quiet : plain event = true) : (write? event).isNone = true := by
  cases event with
  | marked => cases quiet
  | answered => exact quiet
  | fault => rfl

theorem writesOf_append (first second : List Happening) : writesOf (first ++ second) = writesOf first ++ writesOf second :=
  List.filterMap_append

theorem writesOf_quiet {events : List Happening} (quiet : ∀ event ∈ events, (write? event).isNone = true) : writesOf events = [] := by
  refine List.filterMap_eq_nil_iff.mpr ?_
  intro event member
  exact Option.isNone_iff_eq_none.mp (quiet event member)

theorem observations_append (first second : List Happening) :
    observations (first ++ second) = observations first ++ observations second := List.filterMap_append

theorem observations_plain {events : List Happening} (quiet : ∀ event ∈ events, plain event = true) : observations events = [] := by
  refine List.filterMap_eq_nil_iff.mpr ?_
  intro event member
  cases event with
  | marked => cases quiet _ member
  | answered => rfl
  | fault => rfl

section reads

-- What a part that only reads may do: the result file stays as it was.
def Reads (allowed : Happening → Bool) (before : Bool) (events : List Happening) (after : Bool) : Prop :=
  after = before ∧ ∀ event ∈ events, allowed event = true

theorem reads_composes (allowed : Happening → Bool) : Composes (Reads allowed) where
  refl _ := ⟨rfl,by intro event member; cases member⟩
  trans one two := ⟨two.1.trans one.1,fun event member => (List.mem_append.mp member).elim (one.2 event) (two.2 event)⟩

def quietly (event : Happening) : Bool := (write? event).isNone

theorem reads_fromExcept {value : Except PyExc α} : Keeps (Reads plain) held (Script.fromExcept value) := by
  refine keeps_fromExcept (reads_composes plain) ?_
  intro before error
  exact ⟨rfl,by simp [plain,write?]⟩

theorem reads_cloud {command : Command} (reading : command.writes = false) : Keeps (Reads plain) held (cloud kit command) := by
  refine keeps_bind (reads_composes plain) (keeps_attempt (keeps_invoke ?_)) fun _ => reads_fromExcept
  intro before answer
  exact ⟨rfl,by simp [plain,write?,reading]⟩

theorem reads_readObservation : Keeps (Reads plain) held (readObservation frame identity) := by
  have composes := reads_composes plain
  unfold readObservation
  refine keeps_bind composes (reads_cloud rfl) fun _ => keeps_bind composes reads_fromExcept fun _ => ?_
  refine keeps_bind composes reads_fromExcept fun _ => keeps_bind composes (reads_cloud rfl) fun _ => ?_
  refine keeps_bind composes reads_fromExcept fun _ => keeps_bind composes reads_fromExcept fun _ => ?_
  refine keeps_bind composes reads_fromExcept fun _ => keeps_bind composes (reads_cloud rfl) fun _ => ?_
  refine keeps_bind composes reads_fromExcept fun _ => keeps_bind composes reads_fromExcept fun _ => ?_
  exact keeps_pure composes _

end reads

section returns

-- What holds of every value a function returns.
def Returns (good : α → Prop) (script : Step α) : Prop :=
  ∀ {held before events value after}, script.Steps held before events (.ok value) after → good value

theorem returns_bind {good : β → Prop} {script : Step α} {rest : α → Step β} (later : ∀ value, Returns good (rest value)) :
    Returns good (script >>= rest) := by
  intro held before events value after steps
  rcases steps_bind.mp steps with ⟨_,_,middle,_,_,_,ended⟩ | ⟨_,same,_⟩
  · exact later middle ended
  · cases same

theorem returns_fromExcept_bind {good : β → Prop} {value : Except PyExc α} {rest : α → Step β}
    (later : ∀ found, value = .ok found → Returns good (rest found)) : Returns good (Script.fromExcept value >>= rest) := by
  intro held before events result after steps
  rcases steps_bind.mp steps with ⟨_,_,middle,_,_,found,ended⟩ | ⟨_,same,_⟩
  · exact later middle (steps_fromExcept.mp found).1.symm ended
  · cases same

theorem returns_pure {good : α → Prop} {value : α} (holds : good value) : Returns good (pure value : Step α) := by
  intro held before events result after steps
  obtain ⟨_,same,_⟩ := steps_pure.mp steps
  cases same; exact holds

end returns

-- What a snapshot owes to what it was taken from.
structure Sound (frame : Frame) (observation : Observation) : Prop where
  sorted : ∃ entries : List Fields, observation.snapshot.container.lookup "env" = some (.list (entries.map .dict))
  switch : (targetEnabled observation.snapshot.container).isStr "true" = true ∨
    (targetEnabled observation.snapshot.container).isStr "false" = true
  selected : selectJobs frame.kit frame.project observation.url observation.listed = .ok observation.snapshot.jobs

theorem containerOf_env {raw : PyVal} {container : Fields} (found : containerOf raw = .ok container) :
    ∃ entries : List Fields, container.lookup "env" = some (.list (entries.map .dict)) := by
  unfold containerOf at found
  obtain ⟨spec,_,found⟩ := bind_ok.mp found
  obtain ⟨containers,_,found⟩ := bind_ok.mp found
  split at found
  · obtain ⟨values,_,found⟩ := bind_ok.mp found
    obtain ⟨entries,_,found⟩ := bind_ok.mp found
    obtain ⟨_,_,found⟩ := bind_ok.mp found
    cases return_ok.mp found
    exact ⟨_,Fields.lookup_set_same ..⟩
  · cases found

theorem servingContainer_sound {described revised container : Fields}
    (found : servingContainer kit identity described revised = .ok container) :
    (∃ entries : List Fields, container.lookup "env" = some (.list (entries.map .dict))) ∧
    ((targetEnabled container).isStr "true" = true ∨ (targetEnabled container).isStr "false" = true) := by
  unfold servingContainer at found
  obtain ⟨sorted,made,found⟩ := bind_ok.mp found
  obtain ⟨spec,_,found⟩ := bind_ok.mp found
  obtain ⟨template,_,found⟩ := bind_ok.mp found
  obtain ⟨_,_,found⟩ := bind_ok.mp found
  obtain ⟨text,_,found⟩ := bind_ok.mp found
  obtain ⟨declared,_,found⟩ := bind_ok.mp found
  obtain ⟨target,_,found⟩ := bind_ok.mp found
  obtain ⟨_,checked,found⟩ := bind_ok.mp found
  cases return_ok.mp found
  exact ⟨containerOf_env made,by simpa [targetEnabled] using (require_ok.mp checked).2⟩

theorem readObservation_sound : Returns (Sound frame) (readObservation frame identity) := by
  unfold readObservation
  refine returns_bind fun _ => returns_bind fun _ => returns_bind fun _ => returns_bind fun _ => returns_bind fun _ => ?_
  refine returns_fromExcept_bind fun container served => returns_bind fun _ => returns_bind fun _ => returns_bind fun _ => ?_
  refine returns_fromExcept_bind fun jobs selected => returns_pure ?_
  obtain ⟨sorted,switch⟩ := servingContainer_sound served
  exact ⟨sorted,switch,selected⟩

-- One snapshot: three reads, and what they showed.
theorem snapshot_run {events : List Happening} {result : Except PyExc Snapshot}
    (steps : (snapshot frame identity).Steps held before events result after) :
    Reads quietly before events after ∧ ∀ value, result = .ok value →
      ∃ observation, observations events = [observation] ∧ observation.snapshot = value ∧ Sound frame observation := by
  unfold snapshot at steps
  have loud : ∀ {one : List Happening}, (∀ event ∈ one, plain event = true) → ∀ event ∈ one, quietly event = true :=
    fun quiet event member => plain_quiet (quiet event member)
  rcases steps_bind.mp steps with ⟨one,two,read,middle,rfl,ran,rest⟩ | ⟨_,_,ran⟩
  · obtain ⟨same,quiet⟩ := keeps_attempt reads_readObservation _ _ _ _ ran
    subst same
    obtain ⟨reply,heldRead,reading⟩ := steps_attempt.mp ran
    cases heldRead
    rcases steps_bind.mp rest with ⟨three,four,observation,_,rfl,checked,noted⟩ | ⟨error,rfl,failed⟩
    · obtain ⟨shown,rfl,rfl⟩ := steps_fromExcept.mp checked
      obtain ⟨tail,rfl,ended⟩ := steps_mark_bind.mp noted
      obtain ⟨rfl,rfl,rfl⟩ := steps_pure.mp ended
      have found : read = .ok observation := by
        cases read with
        | ok value => exact shown.symm
        | error error => cases shown
      subst found
      refine ⟨⟨rfl,?_⟩,?_⟩
      · intro event member
        rcases List.mem_append.mp member with early | late
        · exact loud quiet event early
        · cases List.mem_singleton.mp late; rfl
      · intro value same
        cases same
        refine ⟨observation,?_,rfl,readObservation_sound reading⟩
        rw [observations_append,observations_plain quiet]; rfl
    · obtain ⟨same,noted⟩ := reads_fromExcept _ _ _ _ failed
      refine ⟨⟨same,?_⟩,fun _ other => by cases other⟩
      intro event member
      exact (List.mem_append.mp member).elim (loud quiet event) (loud noted event)
  · obtain ⟨_,same,_⟩ := steps_attempt.mp ran
    cases same

end LongBridge.Stop
