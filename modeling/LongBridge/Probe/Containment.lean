import LongBridge.Effects.Fallible
import LongBridge.Probe.Scheduler

namespace LongBridge.Probe
open Effects

def isPause : Happening → Bool
  | .answered _ (.act .pause) _ => true
  | _ => false

def isResume : Happening → Bool
  | .answered _ (.act .resume) _ => true
  | _ => false

def readback : Happening → Option (Except PyExc JobResponse)
  | .answered _ .readJob answer => some answer
  | _ => none

-- The resume request got no definite answer.
def unanswered (answer : Except PyExc Response) : Prop :=
  ∀ response, answer = .ok response → actionOutcome .resume response = .error (unknownAction .resume)

-- A readback that shows no job of this name.
def unreadable (config : Config) (read : Except PyExc JobResponse) : Prop :=
  ∀ response job, read = .ok response → namedJob config response ≠ .ok job

-- The last readback showed the job paused and otherwise as it was found.
def RestoredAtEnd (config : Config) (original : Fields) (events : List Happening) : Prop :=
  ∃ front flag response job, events = front ++ [.answered flag .readJob (.ok response)] ∧
    namedJob config response = .ok job ∧ restoredAs original job = true

def PausedAfterResume (events : List Happening) : Prop :=
  ∃ front flag answer back, events = front ++ .answered flag (.act .resume) answer :: back ∧ back.any isPause = true

structure Contained (config : Config) (original : Fields) (events : List Happening) (result : Except PyExc (Option Selected))
    (final : Job) : Prop where
  restored : ∀ selected, result = .ok selected → RestoredAtEnd config original events
  paused : final.resumed = true → PausedAfterResume events

-- The scheduler applied a resume nobody confirmed, and the one readback after it shows nothing.
structure LostResume (config : Config) (events : List Happening) (final : Job) : Prop where
  applied : final.resumed = true
  unconfirmed : ∃ flag answer, (.answered flag (.act .resume) answer : Happening) ∈ events ∧ unanswered answer
  unread : ∃ read, events.findSome? readback = some read ∧ unreadable config read

section runs
variable {config : Config} {original : Fields} {held : Bool} {events : List Happening} {before after : Unit}

-- One request, and after it nothing but the exception that reports it.
theorem schedulerAction_run {action : Action} {result : Except PyExc Unit}
    (steps : (schedulerAction action).Steps held before events result after) :
    ∃ answer tail, events = .answered true (.act action) answer :: tail ∧
      (∀ event ∈ tail, ∃ error, event = .fault held error) ∧
      ((∃ response, answer = .ok response ∧ result = actionOutcome action response) ∨
        (∃ error, answer = .error error) ∧ result = .error (unknownAction action)) := by
  obtain ⟨answer,tail,rfl,ended⟩ := steps_attempt_invoke_bind.mp steps
  refine ⟨answer,tail,rfl,?_⟩
  cases answer with
  | error error =>
    obtain ⟨rfl,rfl,_⟩ := steps_raise.mp ended
    exact ⟨by simp,.inr ⟨⟨error,rfl⟩,rfl⟩⟩
  | ok response =>
    obtain ⟨rfl,_,same⟩ := steps_fromExcept.mp ended
    refine ⟨?_,.inl ⟨response,rfl,rfl⟩⟩
    rw [same]
    split <;> simp

theorem readSchedulerJob_run {result : Except PyExc Fields}
    (steps : (readSchedulerJob config).Steps held before events result after) :
    ∃ answer tail, events = .answered held .readJob answer :: tail ∧
      (∀ event ∈ tail, ∃ error, event = .fault held error) ∧
      ((∃ error, result = .error error) ∧ unreadable config answer ∨
        ∃ response job, answer = .ok response ∧ namedJob config response = .ok job ∧ result = .ok job ∧ tail = []) := by
  rcases steps_invoke_bind.mp steps with ⟨response,tail,rfl,ended⟩ | ⟨error,rfl,rfl,_⟩
  · obtain ⟨rfl,_,same⟩ := steps_fromExcept.mp ended
    refine ⟨.ok response,tail,rfl,by rw [same]; split <;> simp,?_⟩
    cases named : namedJob config response with
    | ok job => exact .inr ⟨response,job,rfl,named,rfl,by rw [same,named]⟩
    | error error =>
      refine .inl ⟨⟨error,rfl⟩,fun other job equal found => ?_⟩
      cases equal
      rw [named] at found; cases found
  · exact ⟨.error error,[],rfl,by simp,.inl ⟨⟨error,rfl⟩,fun other job equal => by cases equal⟩⟩

theorem verifyRestored_ok {error : String} {read : Except PyExc Fields} (verified : verifyRestored original error read = .ok ()) :
    ∃ job, read = .ok job ∧ restoredAs original job = true := by
  unfold verifyRestored at verified
  split at verified
  · cases verified
  · rename_i job
    split at verified
    · cases verified
    · rename_i found
      exact ⟨job,rfl,by simpa using found⟩

-- A clean-up sends its pause first, and returns only after a readback that shows the job as it was.
theorem pauseAndVerify_run {result : Except PyExc Unit}
    (steps : (pauseAndVerify config original).Steps held before events result after) :
    events.any isPause = true ∧ (∀ event ∈ events, isResume event = false) ∧
      (result = .ok () → RestoredAtEnd config original events) := by
  rcases steps_bind.mp steps with ⟨one,two,paused,middle,rfl,first,going⟩ | ⟨error,rfl,wrong⟩
  · obtain ⟨reply,_,pausing⟩ := steps_attempt.mp first
    obtain ⟨answer,tail,rfl,faults,_⟩ := schedulerAction_run pausing
    have quiet : ∀ event ∈ tail, isResume event = false := by
      intro event member
      obtain ⟨error,rfl⟩ := faults event member
      rfl
    rcases steps_bind.mp going with ⟨three,four,read,last,rfl,second,ended⟩ | ⟨error,rfl,wrong⟩
    · obtain ⟨shown,same,reading⟩ := steps_attempt.mp second
      cases same
      obtain ⟨found,rest,rfl,others,told⟩ := readSchedulerJob_run reading
      obtain ⟨rfl,_,left⟩ := steps_fromExcept.mp ended
      have silent : ∀ event ∈ rest, isResume event = false := by
        intro event member
        obtain ⟨error,rfl⟩ := others event member
        rfl
      refine ⟨by simp [isPause],?_,fun verified => ?_⟩
      · have none_ : ∀ event ∈ four, isResume event = false := by
          rw [left]; split <;> simp [isResume]
        intro event member
        simp only [List.cons_append,List.mem_cons,List.mem_append] at member
        rcases member with rfl | among | rfl | among | among
        · rfl
        · exact quiet event among
        · rfl
        · exact silent event among
        · exact none_ event among
      · obtain ⟨job,rfl,restored⟩ := verifyRestored_ok verified
        rw [verified] at left
        rcases told with ⟨⟨error,wrong⟩,_⟩ | ⟨response,shown,rfl,named,same,rfl⟩
        · cases wrong
        · cases same
          exact ⟨_,_,response,job,by rw [left,List.append_nil],named,restored⟩
    · obtain ⟨_,same,_⟩ := steps_attempt.mp wrong; cases same
  · obtain ⟨_,same,_⟩ := steps_attempt.mp wrong; cases same

theorem restored_append {front : List Happening} (restored : RestoredAtEnd config original events) :
    RestoredAtEnd config original (front ++ events) := by
  obtain ⟨lead,flag,response,job,rfl,named,same⟩ := restored
  exact ⟨front ++ lead,flag,response,job,(List.append_assoc ..).symm,named,same⟩

def notResume (event : Happening) : Bool := !isResume event

theorem notResume_call {request : Call} (other : ∀ answer : Except PyExc (Result request),
    isResume (.answered held request answer : Happening) = false) : Keeps (Only notResume) held (ask request) := by
  refine keeps_invoke (fun _ answer event member => ?_)
  obtain rfl := List.mem_singleton.mp member
  simp [notResume,other answer]

theorem notResume_raise {error : PyExc} : Keeps (Only notResume) held (Script.raise error : Step α) := by
  refine keeps_raise (fun _ event member => ?_)
  obtain rfl := List.mem_singleton.mp member
  rfl

theorem notResume_fromExcept (value : Except PyExc α) : Keeps (Only notResume) held (Script.fromExcept value : Step α) := by
  refine keeps_fromExcept (only_composes notResume) (fun _ error event member => ?_)
  obtain rfl := List.mem_singleton.mp member
  rfl

theorem notResume_probe (deadline : ℚ) : Keeps (Only notResume) held (probe deadline) := by
  have composes := only_composes (σ := Unit) notResume
  have within_ : Keeps (Only notResume) held (withinDeadline deadline) :=
    keeps_bind composes (notResume_call (fun _ => rfl)) (fun _ => keeps_ite notResume_raise (keeps_pure composes _))
  refine keeps_bind composes within_ (fun _ => keeps_bind composes ?_ (fun startedAt => keeps_bind composes ?_ (fun ran => ?_)))
  · refine keeps_bind composes (notResume_call (fun _ => rfl)) (fun value => ?_)
    cases value with
    | aware microseconds => exact keeps_pure composes _
    | invalid => exact notResume_raise
  · exact keeps_attempt (keeps_bind composes (notResume_call (fun _ => rfl)) (fun _ => notResume_fromExcept _))
  · cases ran with
    | error exc => exact notResume_raise
    | ok _ => exact keeps_bind composes within_ (fun _ => notResume_call (fun _ => rfl))

-- What the clean-up around a body owes: a pause on every exit, and a restored job behind every return.
theorem withPause_run {body : Step α} {result : Except PyExc α} (silent : Keeps (Only notResume) true body)
    (steps : (withPause config original body).Steps held before events result after) :
    events.any isPause = true ∧ (∀ event ∈ events, isResume event = false) ∧
      ((∃ value, result = .ok value) → RestoredAtEnd config original events) := by
  rcases steps_bind.mp steps with ⟨one,two,reply,middle,rfl,first,going⟩ | ⟨error,rfl,wrong⟩
  · obtain ⟨_,same,ran⟩ := steps_attempt.mp first
    have quiet : ∀ event ∈ one, isResume event = false := fun event member => by
      simpa [notResume] using silent _ _ _ _ ran event member
    rcases steps_bind.mp going with ⟨three,four,_,last,rfl,cleaning,ended⟩ | ⟨error,rfl,cleaning⟩
    · obtain ⟨paused,none_,restored⟩ := pauseAndVerify_run cleaning
      obtain ⟨rfl,_,left⟩ := steps_fromExcept.mp ended
      refine ⟨by simp [paused],?_,?_⟩
      · have faults : ∀ event ∈ four, isResume event = false := by
          rw [left]; split <;> simp [isResume]
        intro event member
        simp only [List.mem_append] at member
        rcases member with among | among | among
        · exact quiet event among
        · exact none_ event among
        · exact faults event among
      · rintro ⟨value,rfl⟩
        rw [left,List.append_nil]
        exact restored_append (restored rfl)
    · obtain ⟨paused,none_,_⟩ := pauseAndVerify_run cleaning
      refine ⟨by simp [paused],?_,?_⟩
      · intro event member
        exact (List.mem_append.mp member).elim (quiet event) (none_ event)
      · rintro ⟨value,wrong⟩; cases wrong
  · obtain ⟨_,same,_⟩ := steps_attempt.mp wrong; cases same

-- The first thing read after the request, and what it showed.
def FirstRead (config : Config) (events : List Happening) (shows : Fields → Prop) : Prop :=
  ∃ flag response job back, events = .answered flag .readJob (.ok response) :: back ∧ namedJob config response = .ok job ∧
    shows job

theorem rejectResumed_run {job : Fields} {result : Except PyExc (Option Selected)}
    (steps : (rejectResumed config original job).Steps held before events result after) :
    (events.any isPause = true ∨ hasState job "ENABLED" = false) ∧ (∀ event ∈ events, isResume event = false) ∧
      ∃ error, result = .error error := by
  unfold rejectResumed at steps
  by_cases enabled : hasState job "ENABLED" = true
  · rw [if_pos enabled] at steps
    rcases steps_bind.mp steps with ⟨one,two,_,middle,rfl,cleaning,ended⟩ | ⟨error,rfl,cleaning⟩
    · obtain ⟨paused,none_,_⟩ := pauseAndVerify_run cleaning
      obtain ⟨rfl,rfl,_⟩ := steps_raise.mp ended
      refine ⟨.inl (by simp [paused]),fun event member => ?_,_,rfl⟩
      rcases List.mem_append.mp member with among | last
      · exact none_ event among
      · obtain rfl := List.mem_singleton.mp last
        rfl
    · obtain ⟨paused,none_,_⟩ := pauseAndVerify_run cleaning
      exact ⟨.inl paused,none_,error,rfl⟩
  · rw [if_neg enabled] at steps
    obtain ⟨rfl,rfl,_⟩ := steps_raise.mp steps
    exact ⟨.inr (by simpa using enabled),by simp [isResume],_,rfl⟩

-- After a confirmed resume every exit pauses, unless a readback already shows the job not enabled.
theorem afterResume_run {deadline : ℚ} {result : Except PyExc (Option Selected)}
    (steps : (afterResume config original deadline).Steps held before events result after) :
    (events.any isPause = true ∨ FirstRead config events (fun job => hasState job "ENABLED" = false)) ∧
      (∀ event ∈ events, isResume event = false) ∧
      ((∃ selected, result = .ok selected) → RestoredAtEnd config original events) := by
  rcases steps_bind.mp steps with ⟨one,two,read,middle,rfl,first,going⟩ | ⟨error,rfl,wrong⟩
  · obtain ⟨_,same,reading⟩ := steps_attempt.mp first
    cases same
    obtain ⟨answer,tail,rfl,faults,told⟩ := readSchedulerJob_run reading
    have quiet : ∀ event ∈ .answered true .readJob answer :: tail, isResume event = false := by
      intro event member
      rcases List.mem_cons.mp member with rfl | among
      · rfl
      · obtain ⟨error,rfl⟩ := faults event among
        rfl
    rcases told with ⟨⟨error,rfl⟩,_⟩ | ⟨response,job,rfl,named,rfl,rfl⟩
    · rcases steps_bind.mp going with ⟨three,four,_,last,rfl,cleaning,ended⟩ | ⟨error,rfl,cleaning⟩
      · obtain ⟨paused,none_,_⟩ := pauseAndVerify_run cleaning
        obtain ⟨rfl,rfl,_⟩ := steps_raise.mp ended
        refine ⟨.inl (by simp [paused]),fun event member => ?_,by rintro ⟨_,wrong⟩; cases wrong⟩
        simp only [List.mem_append] at member
        rcases member with among | among | last
        · exact quiet event among
        · exact none_ event among
        · obtain rfl := List.mem_singleton.mp last
          rfl
      · obtain ⟨paused,none_,_⟩ := pauseAndVerify_run cleaning
        refine ⟨.inl (by simp [paused]),fun event member => ?_,by rintro ⟨_,wrong⟩; cases wrong⟩
        exact (List.mem_append.mp member).elim (quiet event) (none_ event)
    · simp only at going
      split at going
      · obtain ⟨paused,none_,restored⟩ := withPause_run (notResume_probe deadline) going
        refine ⟨.inl (by simp [paused]),fun event member => ?_,fun returned => restored_append (restored returned)⟩
        exact (List.mem_append.mp member).elim (quiet event) (none_ event)
      · obtain ⟨paused,none_,error,rfl⟩ := rejectResumed_run going
        refine ⟨?_,fun event member => ?_,by rintro ⟨_,wrong⟩; cases wrong⟩
        · rcases paused with paused | shown
          · exact .inl (by simp [paused])
          · exact .inr ⟨_,response,job,_,rfl,named,shown⟩
        · exact (List.mem_append.mp member).elim (quiet event) (none_ event)
  · obtain ⟨_,same,_⟩ := steps_attempt.mp wrong; cases same

-- After an unconfirmed resume nothing is returned, and the one readback decides about the pause.
theorem containUnknownResume_run {exc : PyExc} {result : Except PyExc (Option Selected)}
    (steps : (containUnknownResume config original exc).Steps held before events result after) :
    (∃ error, result = .error error) ∧ (∀ event ∈ events, isResume event = false) ∧
      ∃ flag read back, events = .answered flag .readJob read :: back ∧
        (unreadable config read ∧ events.any isPause = false ∨
          ∃ response job, read = .ok response ∧ namedJob config response = .ok job ∧
            (events.any isPause = true ∨ hasState job "ENABLED" = false)) := by
  rcases steps_bind.mp steps with ⟨one,two,read,middle,rfl,first,going⟩ | ⟨error,rfl,wrong⟩
  · obtain ⟨_,same,reading⟩ := steps_attempt.mp first
    cases same
    obtain ⟨answer,tail,rfl,faults,told⟩ := readSchedulerJob_run reading
    have quiet : ∀ event ∈ .answered true .readJob answer :: tail, isResume event = false ∧ isPause event = false := by
      intro event member
      rcases List.mem_cons.mp member with rfl | among
      · exact ⟨rfl,rfl⟩
      · obtain ⟨error,rfl⟩ := faults event among
        exact ⟨rfl,rfl⟩
    have ends {error : PyExc} {rest : List Happening} {value : Except PyExc (Option Selected)} {left right : Unit}
        (raised : (Script.raise error : Step (Option Selected)).Steps held left rest value right) :
        (∃ error, value = .error error) ∧
          ∀ event ∈ (.answered true .readJob answer :: tail) ++ rest, isResume event = false ∧ isPause event = false := by
      obtain ⟨rfl,rfl,_⟩ := steps_raise.mp raised
      refine ⟨⟨_,rfl⟩,fun event member => ?_⟩
      rcases List.mem_append.mp member with among | last
      · exact quiet event among
      · obtain rfl := List.mem_singleton.mp last
        exact ⟨rfl,rfl⟩
    rcases told with ⟨⟨error,rfl⟩,unread⟩ | ⟨response,job,rfl,named,rfl,rfl⟩
    · obtain ⟨failed,plain⟩ := ends going
      refine ⟨failed,fun event member => (plain event member).1,_,answer,_,rfl,.inl ⟨unread,?_⟩⟩
      exact List.any_eq_false.mpr (fun event member => by simp [(plain event member).2])
    · simp only at going
      split at going
      · rcases steps_bind.mp going with ⟨three,four,_,last,rfl,cleaning,ended⟩ | ⟨error,rfl,cleaning⟩
        · obtain ⟨paused,none_,_⟩ := pauseAndVerify_run cleaning
          obtain ⟨rfl,rfl,_⟩ := steps_raise.mp ended
          refine ⟨⟨_,rfl⟩,fun event member => ?_,_,_,_,rfl,.inr ⟨response,job,rfl,named,.inl (by simp [paused])⟩⟩
          simp only [List.mem_append] at member
          rcases member with among | among | last
          · exact (quiet event among).1
          · exact none_ event among
          · obtain rfl := List.mem_singleton.mp last
            rfl
        · obtain ⟨paused,none_,_⟩ := pauseAndVerify_run cleaning
          refine ⟨⟨_,rfl⟩,fun event member => ?_,_,_,_,rfl,.inr ⟨response,job,rfl,named,.inl (by simp [paused])⟩⟩
          exact (List.mem_append.mp member).elim (fun among => (quiet event among).1) (none_ event)
      · rename_i disabled
        have shown : hasState job "ENABLED" = false := by simpa using disabled
        split at going
        · obtain ⟨failed,plain⟩ := ends going
          exact ⟨failed,fun event member => (plain event member).1,_,_,_,rfl,.inr ⟨response,job,rfl,named,.inr shown⟩⟩
        · obtain ⟨failed,plain⟩ := ends going
          exact ⟨failed,fun event member => (plain event member).1,_,_,_,rfl,.inr ⟨response,job,rfl,named,.inr shown⟩⟩
  · obtain ⟨_,same,_⟩ := steps_attempt.mp wrong; cases same

end runs

namespace Job

theorem step_resumed {before after : Job} {event : Happening} (step : Step before event after) (other : isResume event = false) :
    after.resumed = before.resumed := by
  cases event with
  | fault held error => rw [show after = before from step]
  | marked label => exact label.elim
  | answered held request answer =>
    cases request with
    | act action =>
      cases action with
      | resume => cases other
      | pause =>
        cases answer with
        | error error => rcases step with rfl | rfl <;> rfl
        | ok response =>
          simp only [Step] at step
          split at step
          · rw [step]; rfl
          · rcases step with rfl | ⟨_,rfl⟩ <;> rfl
    | readJob => cases answer with
      | ok response => rw [step.1]
      | error error => rw [show after = before from step]
    | _ => rw [show after = before from step]

theorem follows_resumed {before after : Job} {events : List Happening} (follows : Follows Step before events after)
    (other : ∀ event ∈ events, isResume event = false) : after.resumed = before.resumed := by
  induction follows with
  | nil => rfl
  | cons one _ ih =>
    rw [ih (fun event member => other event (List.mem_cons_of_mem _ member))]
    exact step_resumed one (other _ (List.mem_cons_self ..))

theorem still_fault {event : Happening} (fault : ∃ error held, event = .fault held error) : Still Step event := by
  obtain ⟨error,held,rfl⟩ := fault
  exact fun before after step => step

-- Reads are linearizable: an enabled job is not shown as anything else.
theorem not_enabled {config : Config} {before after : Job} {flag : Bool} {response : JobResponse} {job : Fields}
    {back : List Happening} (follows : Follows Step before (.answered flag .readJob (.ok response) :: back) after)
    (named : namedJob config response = .ok job) (shown : hasState job "ENABLED" = false) : before.enabled = false := by
  obtain ⟨_,⟨_,shows⟩,_⟩ := follows_cons.mp follows
  have found : shownJob response = .ok job := by
    unfold namedJob at named
    obtain ⟨other,read,named⟩ := bind_ok.mp named
    split at named
    · rw [return_ok] at named; rw [← named]; exact read
    · cases named
  have state := shows job found
  cases enabled : before.enabled with
  | false => rfl
  | true => rw [enabled,if_pos rfl,shown] at state; cases state

end Job

theorem paused_any {events : List Happening} (paused : PausedAfterResume events) : events.any isPause = true := by
  obtain ⟨front,flag,answer,back,rfl,found⟩ := paused
  simp [found]

theorem unresumed_exact {config : Config} {original : Fields} {events : List Happening}
    {result : Except PyExc (Option Selected)} {final : Job} (unresumed : final.resumed = false)
    (failed : ∃ error, result = .error error) :
    Contained config original events result final ↔ ¬LostResume config events final := by
  obtain ⟨error,rfl⟩ := failed
  refine ⟨fun _ lost => ?_,fun _ => ⟨fun selected wrong => (nomatch wrong),fun applied => ?_⟩⟩
  · have applied := lost.applied
    rw [unresumed] at applied; cases applied
  · rw [unresumed] at applied; cases applied

section opening
variable {config : Config} {original : Fields} {held flag : Bool} {rest faults front : List Happening} {job final : Job}
  {now : ℚ} {answer : Except PyExc Response}

-- How every run that gets to its resume request begins.
def opening (held : Bool) (now : ℚ) (answer : Except PyExc Response) (faults : List Happening) : List Happening :=
  .answered held .monotonic (.ok now) :: .answered true (.act .resume) answer :: faults

theorem opening_resume {answer' : Except PyExc Response} (plain : ∀ event ∈ faults, ∃ error, event = .fault true error)
    (silent : ∀ event ∈ rest, isResume event = false)
    (member : (.answered flag (.act .resume) answer' : Happening) ∈ opening held now answer faults ++ rest) : answer' = answer := by
  simp only [opening,List.cons_append,List.mem_cons,List.mem_append] at member
  rcases member with wrong | same | among | among
  · cases wrong
  · cases same; rfl
  · obtain ⟨error,wrong⟩ := plain _ among
    cases wrong
  · have wrong := silent _ among
    cases wrong

theorem opening_read {read : Except PyExc JobResponse} {back : List Happening}
    (plain : ∀ event ∈ faults, ∃ error, event = .fault true error) :
    (opening held now answer faults ++ .answered flag .readJob read :: back).findSome? readback = some read := by
  have none_ : faults.findSome? readback = none := by
    rw [List.findSome?_eq_none_iff]
    intro event member
    obtain ⟨error,rfl⟩ := plain event member
    rfl
  simp only [opening,List.cons_append,List.findSome?_cons,readback,List.findSome?_append,none_,Option.none_or]

theorem opening_paused (paused : rest.any isPause = true) : PausedAfterResume (opening held now answer faults ++ rest) :=
  ⟨[.answered held .monotonic (.ok now)],true,answer,faults ++ rest,by simp [opening],by simp [paused]⟩

theorem opening_unpaused (plain : ∀ event ∈ faults, ∃ error, event = .fault true error) (unpaused : rest.any isPause = false) :
    ¬PausedAfterResume (opening held now answer faults ++ rest) := by
  intro paused
  have found := paused_any paused
  have none_ : faults.any isPause = false := by
    rw [List.any_eq_false]
    intro event member
    obtain ⟨error,rfl⟩ := plain event member
    simp [isPause]
  simp [opening,isPause,none_,unpaused] at found

-- A confirmed resume: every exit is contained.
theorem confirmed_exact {deadline : ℚ} {result : Except PyExc (Option Selected)} {response : Response}
    (plain : ∀ event ∈ faults, ∃ error, event = .fault true error) (done : actionOutcome .resume response = .ok ())
    (answered : answer = .ok response) (enabled : job.enabled = true)
    (steps : (afterResume config original deadline).Steps held () rest result ())
    (follows : Follows Job.Step job rest final) :
    Contained config original (opening held now answer faults ++ rest) result final ↔
      ¬LostResume config (opening held now answer faults ++ rest) final := by
  obtain ⟨paused,silent,restored⟩ := afterResume_run steps
  have contained : Contained config original (opening held now answer faults ++ rest) result final := by
    refine ⟨fun selected returned => restored_append (restored ⟨selected,returned⟩),fun _ => ?_⟩
    rcases paused with paused | ⟨flag,response,shown,back,rfl,named,disabled⟩
    · exact opening_paused paused
    · have wrong := Job.not_enabled follows named disabled
      rw [enabled] at wrong; cases wrong
  refine ⟨fun _ lost => ?_,fun _ => contained⟩
  obtain ⟨flag,other,member,unconfirmed⟩ := lost.unconfirmed
  have told := unconfirmed response ((opening_resume plain silent member).trans answered)
  rw [done] at told; cases told

-- An unconfirmed resume: what the one readback shows decides.
theorem unconfirmed_exact {exc : PyExc} {enabled : Bool} {result : Except PyExc (Option Selected)}
    (plain : ∀ event ∈ faults, ∃ error, event = .fault true error) (unconfirmed : unanswered answer)
    (either : job = ⟨enabled,false⟩ ∨ job.enabled = true ∧ job.resumed = true)
    (steps : (containUnknownResume config original exc).Steps held () rest result ())
    (follows : Follows Job.Step job rest final) :
    Contained config original (opening held now answer faults ++ rest) result final ↔
      ¬LostResume config (opening held now answer faults ++ rest) final := by
  obtain ⟨failed,silent,flag,read,back,split,told⟩ := containUnknownResume_run steps
  have kept : final.resumed = job.resumed := Job.follows_resumed follows silent
  rcases either with rfl | ⟨on,applied⟩
  · exact unresumed_exact kept failed
  · obtain ⟨error,rfl⟩ := failed
    have first : (opening held now answer faults ++ rest).findSome? readback = some read := by
      rw [split]; exact opening_read plain
    rcases told with ⟨unread,unpaused⟩ | ⟨response,shown,rfl,named,paused | disabled⟩
    · have lost : LostResume config (opening held now answer faults ++ rest) final :=
        ⟨kept.trans applied,⟨true,answer,by simp [opening],unconfirmed⟩,read,first,unread⟩
      refine ⟨fun contained => ?_,fun wrong => (wrong lost).elim⟩
      exact (opening_unpaused plain unpaused (contained.paused lost.applied)).elim
    · refine ⟨fun _ lost => ?_,fun _ => ⟨fun selected wrong => (nomatch wrong),fun _ => opening_paused paused⟩⟩
      obtain ⟨other,found,unread⟩ := lost.unread
      rw [first] at found
      cases found
      exact unread response shown rfl named
    · subst split
      have wrong := Job.not_enabled follows named disabled
      rw [on] at wrong; cases wrong

end opening

-- The probe keeps its promise in every run but one kind: the resume was applied
-- without an answer, and the readback that follows shows nothing either.
theorem probe_is_contained_exactly {config : Config} {original : Fields} {held : Bool} {events : List Happening}
    {result : Except PyExc (Option Selected)} {enabled : Bool} {final : Job}
    (run : (runPausedProbe config original).Steps held () events result ())
    (follows : Follows Job.Step ⟨enabled,false⟩ events final) :
    Contained config original events result final ↔ ¬LostResume config events final := by
  rcases steps_invoke_bind.mp run with ⟨now,tail,rfl,going⟩ | ⟨error,rfl,rfl,_⟩
  · obtain ⟨_,same,following⟩ := follows_cons.mp follows
    obtain rfl := show _ = _ from same
    rcases steps_bind.mp going with ⟨one,two,reply,middle,rfl,first,after⟩ | ⟨error,rfl,wrong⟩
    · obtain ⟨_,equal,resuming⟩ := steps_attempt.mp first
      cases equal
      obtain ⟨answer,faults,rfl,plain,told⟩ := schedulerAction_run resuming
      obtain ⟨job,requesting,rest⟩ := follows_append.mp following
      obtain ⟨asked,request,silent⟩ := follows_cons.mp requesting
      obtain rfl : job = asked := follows_still (fun event member => by
        obtain ⟨error,rfl⟩ := plain event member
        exact Job.still_fault ⟨error,_,rfl⟩) silent
      rcases told with ⟨response,rfl,rfl⟩ | ⟨⟨error,rfl⟩,rfl⟩
      · simp only [Job.Step] at request
        cases outcome : actionOutcome .resume response with
        | ok done =>
          rw [outcome] at request after
          exact confirmed_exact plain outcome rfl (by rw [request]; rfl) after rest
        | error exc =>
          rw [outcome] at request after
          by_cases unknown : exc = unknownAction .resume
          · simp only [if_pos unknown] at after
            have either : job = ⟨enabled,false⟩ ∨ job.enabled = true ∧ job.resumed = true :=
              request.imp id (fun applied => by rw [applied.2]; exact ⟨rfl,rfl⟩)
            refine unconfirmed_exact plain (fun other same => ?_) either after rest
            cases same; rw [outcome,unknown]
          · simp only [if_neg unknown] at after
            obtain ⟨rfl,rfl,_⟩ := steps_raise.mp after
            have unmoved : job = ⟨enabled,false⟩ := request.resolve_right (fun applied => unknown applied.1)
            refine unresumed_exact ?_ ⟨exc,rfl⟩
            rw [Job.follows_resumed rest (by simp [isResume]),unmoved]
      · simp only [if_true] at after
        have either : job = ⟨enabled,false⟩ ∨ job.enabled = true ∧ job.resumed = true :=
          request.imp id (fun applied => by rw [applied]; exact ⟨rfl,rfl⟩)
        exact unconfirmed_exact plain (fun other wrong => nomatch wrong) either after rest
    · obtain ⟨_,wrong',_⟩ := steps_attempt.mp wrong; cases wrong'
  · exact unresumed_exact (Job.follows_resumed follows (by simp [isResume])) ⟨error,rfl⟩

-- A job as the scheduler shows it.
def shown (state : String) : Fields := [("name",.str "jobs/probe"),("state",.str state),("schedule",.str "20 15,16 * * *")]

def shownResponse (state : String) : JobResponse := ⟨some 200,false,.ok (.dict (shown state))⟩

def probeConfig : Config := ⟨"jobs/probe",900⟩

-- A scheduler that applies the resume without an answer and shows its state when it is read.
def unconfirmedWorld : World ports PyExc := fun past request =>
  match request with
  | .monotonic => .ok (0 : ℚ)
  | .act .resume => .error ⟨"Timeout","timed out"⟩
  | .act .pause => .ok ⟨some 200,false⟩
  | .readJob => .ok (shownResponse (if past.any isPause then "PAUSED" else "ENABLED"))
  | .runJob => .ok ⟨some 200,false⟩
  | .now => .ok (.aware 0)
  | .observe _ _ => .ok none

def unconfirmedRun : List Happening × Except PyExc (Option Selected) × Unit :=
  play unconfirmedWorld [] ((runPausedProbe probeConfig (shown "PAUSED")).run false ())

theorem read_resume_is_paused :
    Contained probeConfig (shown "PAUSED") unconfirmedRun.1 unconfirmedRun.2.1 ⟨false,true⟩ := by
  have follows : Follows Job.Step ⟨false,false⟩ unconfirmedRun.1 ⟨false,true⟩ := by
    refine .cons rfl (.cons (.inr rfl) (.cons rfl (.cons ⟨rfl,?_⟩ (.cons rfl (.cons ⟨rfl,?_⟩ (.cons rfl .nil))))))
    · rintro job read; cases read; decide +kernel
    · rintro job read; cases read; decide +kernel
  refine (probe_is_contained_exactly (play_runs _ _ _) follows).mpr (fun lost => ?_)
  obtain ⟨read,found,unread⟩ := lost.unread
  have first : unconfirmedRun.1.findSome? readback = some (.ok (shownResponse "ENABLED")) := rfl
  cases first.symm.trans found
  exact unread _ (shown "ENABLED") rfl (by rfl)

-- The same scheduler when its readback fails too.
def lostWorld : World ports PyExc := fun past request =>
  match request with
  | .readJob => .error ⟨"Timeout","timed out"⟩
  | request => unconfirmedWorld past request

def lostRun : List Happening × Except PyExc (Option Selected) × Unit :=
  play lostWorld [] ((runPausedProbe probeConfig (shown "PAUSED")).run false ())

theorem lost_resume_stays_enabled :
    (runPausedProbe probeConfig (shown "PAUSED")).Steps false () lostRun.1 lostRun.2.1 () ∧
    Follows Job.Step ⟨false,false⟩ lostRun.1 ⟨true,true⟩ ∧ lostRun.1.any isPause = false ∧
    ¬Contained probeConfig (shown "PAUSED") lostRun.1 lostRun.2.1 ⟨true,true⟩ := by
  have unpaused : lostRun.1.any isPause = false := by decide +kernel
  refine ⟨play_runs _ _ _,?_,unpaused,fun contained => ?_⟩
  · exact .cons rfl (.cons (.inr rfl) (.cons rfl (.cons rfl (.cons rfl .nil))))
  · have paused := paused_any (contained.paused rfl)
    rw [unpaused] at paused; cases paused

end LongBridge.Probe
