import LongBridge.Stop.Runs

namespace LongBridge.Stop
open Effects

variable {kit : Kit} {frame : Frame} {identity : Fields} {held before after : Bool} {α β : Type}

-- The writes of a run against the writes it was to issue: they are issued in
-- this order, and one whose outcome is unknown is the last.
structure Wrote (kit : Kit) (plan : List Command) (events : List Happening) (finished : Bool) : Prop where
  within : writesOf events <+: plan
  done : finished = true → writesOf events = plan ∧ ∀ event ∈ events, unknownWrite kit event = false
  cautious : ∀ earlier event later, events = earlier ++ event :: later → unknownWrite kit event = true →
    writesOf later = []

def Plans (kit : Kit) (plan : List Command) (script : Step α) : Prop :=
  ∀ held before events result after, script.Steps held before events result after → Wrote kit plan events result.isOk

theorem wrote_quiet {events : List Happening} {finished : Bool} (quiet : ∀ event ∈ events, quietly event = true) :
    Wrote kit [] events finished := by
  have known : ∀ event ∈ events, unknownWrite kit event = false := by
    intro event member
    cases unknown : unknownWrite kit event with
    | false => rfl
    | true =>
      have loud := unknownWrite_writes unknown
      have silent := quiet event member
      rw [quietly,loud] at silent
      cases silent
  refine ⟨by simp [writesOf_quiet quiet],fun _ => ⟨writesOf_quiet quiet,known⟩,?_⟩
  intro earlier event later split unknown
  have sure := known event (by rw [split]; simp)
  rw [unknown] at sure
  cases sure

theorem wrote_append {first second : List Command} {one two : List Happening} {finished : Bool}
    (early : Wrote kit first one true) (late : Wrote kit second two finished) :
    Wrote kit (first ++ second) (one ++ two) finished := by
  obtain ⟨all,known⟩ := early.done rfl
  constructor
  · rw [writesOf_append,all]
    exact (List.prefix_append_right_inj first).mpr late.within
  · intro ended
    obtain ⟨rest,sure⟩ := late.done ended
    refine ⟨by rw [writesOf_append,all,rest],?_⟩
    intro event member
    exact (List.mem_append.mp member).elim (known event) (sure event)
  · intro earlier event later split unknown
    rcases List.append_eq_append_iff.mp split with ⟨more,rfl,rest⟩ | ⟨more,whole,rest⟩
    · exact late.cautious more event later rest unknown
    · cases more with
      | nil =>
        rw [List.nil_append] at rest
        exact late.cautious [] event later (by rw [← rest]; rfl) unknown
      | cons head more =>
        cases (List.cons.inj rest).1
        have sure := known event (by rw [whole]; simp)
        rw [unknown] at sure
        cases sure

theorem wrote_cut {first : List Command} (second : List Command) {events : List Happening}
    (early : Wrote kit first events false) : Wrote kit (first ++ second) events false where
  within := early.within.trans (List.prefix_append first second)
  done := by intro ended; cases ended
  cautious := early.cautious

theorem plans_bind {first second : List Command} {script : Step α} {rest : α → Step β} (early : Plans kit first script)
    (late : ∀ value, Plans kit second (rest value)) : Plans kit (first ++ second) (script >>= rest) := by
  intro held before events result after steps
  rcases steps_bind.mp steps with ⟨one,two,value,middle,rfl,ran,ended⟩ | ⟨error,rfl,ran⟩
  · exact wrote_append (early _ _ _ _ _ ran) (late value _ _ _ _ _ ended)
  · exact wrote_cut second (early _ _ _ _ _ ran)

theorem plans_quiet {script : Step α} (quiet : ∀ held, Keeps (Reads quietly) held script) : Plans kit [] script := by
  intro held before events result after steps
  exact wrote_quiet (quiet held _ _ _ _ steps).2

theorem plans_before {plan : List Command} {script : Step α} {rest : α → Step β} (early : Plans kit [] script)
    (late : ∀ value, Plans kit plan (rest value)) : Plans kit plan (script >>= rest) := plans_bind early late

theorem plans_after {plan : List Command} {script : Step α} {rest : α → Step β} (early : Plans kit plan script)
    (late : ∀ value, Plans kit [] (rest value)) : Plans kit plan (script >>= rest) := by
  have both := plans_bind early late
  rwa [List.append_nil] at both

theorem quietly_fromExcept {value : Except PyExc α} : Keeps (Reads quietly) held (Script.fromExcept value) := by
  refine keeps_fromExcept (reads_composes quietly) ?_
  intro before error
  exact ⟨rfl,by simp [quietly,write?]⟩

theorem quietly_snapshot : Keeps (Reads quietly) held (snapshot frame identity) := by
  intro before events result after steps
  exact (snapshot_run steps).1

theorem plans_pure (value : α) : Plans kit [] (pure value : Step α) :=
  plans_quiet fun _ => keeps_pure (reads_composes quietly) value

theorem writesOf_later {earlier later : List Happening} {event : Happening}
    (silent : writesOf (earlier ++ event :: later) = []) : writesOf later = [] := by
  refine List.filterMap_eq_nil_iff.mpr ?_
  intro found member
  exact List.filterMap_eq_nil_iff.mp silent found (by simp [member])

-- One write: it is done, or the run ends with its error.
theorem plans_cloud {command : Command} (writes : command.writes = true) : Plans kit [command] (cloud kit command) := by
  intro held before events result after steps
  obtain ⟨answer,tail,rfl,ended⟩ := steps_attempt_invoke_bind.mp steps
  obtain ⟨shown,_,followed⟩ := steps_fromExcept.mp ended
  have written : write? (.answered true (.gcloud command) answer) = some command := by simp [write?,writes]
  have named : unknownWrite kit (.answered true (.gcloud command) answer) = !result.isOk := by
    rw [shown]; simp [unknownWrite,writes]
  have silent : writesOf tail = [] := by
    rw [followed]; split <;> rfl
  have all : writesOf (.answered true (.gcloud command) answer :: tail) = [command] := by
    rw [writesOf,List.filterMap_cons_some written]
    exact congrArg _ silent
  refine ⟨by simp [all],?_,?_⟩
  · intro finished
    refine ⟨all,?_⟩
    intro event member
    rcases List.mem_cons.mp member with rfl | late
    · rw [named,finished]; rfl
    · rw [followed] at late
      split at late
      · cases late
      · cases List.mem_singleton.mp late; rfl
  · intro earlier event later split unknown
    cases earlier with
    | nil => rw [← (List.cons.inj split).2]; exact silent
    | cons head rest =>
      have rest : tail = _ ++ event :: later := (List.cons.inj split).2
      rw [rest] at silent
      exact writesOf_later silent

def updateOf (before : Snapshot) : List Command :=
  if (targetEnabled before.container).isStr "true" then [.updateEnvironment] else []

def pausesOf (jobs : List JobRow) : List Command :=
  (jobs.filter fun job => job.state = "ENABLED").map fun job => .pauseJob job.name

-- What a first look calls for.
def planOf (before : Snapshot) : List Command := updateOf before ++ pausesOf before.jobs

theorem plans_switchOff {seen : Snapshot} : Plans frame.kit (updateOf seen) (switchOff frame identity seen) := by
  unfold switchOff updateOf
  split
  · refine plans_after (plans_cloud rfl) fun _ => plans_quiet fun held => ?_
    exact keeps_bind (reads_composes quietly) quietly_snapshot fun _ => quietly_fromExcept
  · exact plans_pure _

theorem plans_pauseJobs {jobs : List JobRow} : Plans kit (pausesOf jobs) (pauseJobs kit jobs) := by
  induction jobs with
  | nil => exact plans_pure _
  | cons job rest ih =>
    have one : Plans kit (pausesOf [job]) (pauseJob kit job) := by
      unfold pauseJob pausesOf
      by_cases enabled : job.state = "ENABLED"
      · simp only [enabled,if_true,decide_true,List.filter_cons_of_pos,List.filter_nil,List.map_cons,List.map_nil]
        exact plans_after (plans_cloud rfl) fun _ => plans_pure _
      · simp only [enabled,if_false,decide_false,Bool.false_eq_true,not_false_eq_true,List.filter_cons_of_neg,List.filter_nil,List.map_nil]
        exact plans_pure _
    have both := plans_bind one fun _ => ih
    have joined : pausesOf (job :: rest) = pausesOf [job] ++ pausesOf rest := by
      rw [pausesOf,pausesOf,pausesOf,← List.map_append,← List.filter_append]; rfl
    rw [joined]
    exact both

end LongBridge.Stop
