import Mathlib.Tactic.Tauto
import LongBridge.Effects.Tree

namespace Effects

variable {P Q : Ports} {ε σ τ α β : Type}

-- What a finished function owes to its run: when it returns, no failure left
-- it; when it raises, the failure it raises is the last step of the run.
def Accounted (events : List (Event P ε)) : Except ε α → Prop
  | .ok _ => ∀ event ∈ events, event.escapes = none
  | .error error => ∃ before last, events = before ++ [last] ∧ last.escapes = some error ∧
      ∀ event ∈ before, event.escapes = none

-- A function body with local variables σ and exceptions ε. The flag given to
-- `run` tells whether the body stands inside a handler of its caller.
structure Script (P : Ports) (ε σ α : Type) where
  run : Bool → σ → Tree P ε (Except ε α × σ)
  accounts : ∀ {before events result after}, Runs (run false before) events (result,after) →
    Accounted events result
  inside : ∀ {before events result after}, Runs (run true before) events (result,after) →
    ∀ event ∈ events, event.held = true

-- One run of the body: from the locals `before`, through `events`, to a result and the locals then.
def Script.Steps (script : Script P ε σ α) (held : Bool) (before : σ) (events : List (Event P ε))
    (result : Except ε α) (after : σ) : Prop :=
  Runs (script.run held before) events (result,after)

theorem accounted_append {first second : List (Event P ε)} {result : Except ε α}
    (quiet : ∀ event ∈ first, event.escapes = none) (rest : Accounted second result) :
    Accounted (first ++ second) result := by
  cases result with
  | ok value =>
    intro event member
    exact (List.mem_append.mp member).elim (quiet event) (rest event)
  | error error =>
    obtain ⟨before,last,rfl,raised,clean⟩ := rest
    refine ⟨first ++ before,last,by simp,raised,?_⟩
    intro event member
    exact (List.mem_append.mp member).elim (quiet event) (clean event)

namespace Script

def pure (value : α) : Script P ε σ α where
  run _ before := .done (.ok value,before)
  accounts run := by
    obtain ⟨rfl,same⟩ := runs_done.mp run
    cases same; intro event member; cases member
  inside run := by
    obtain ⟨rfl,_⟩ := runs_done.mp run
    intro event member; cases member

def bindTree (held : Bool) (rest : α → Bool → σ → Tree P ε (Except ε β × σ)) :
    Except ε α × σ → Tree P ε (Except ε β × σ)
  | (.ok value,middle) => rest value held middle
  | (.error error,middle) => .done (.error error,middle)

protected def bind (script : Script P ε σ α) (rest : α → Script P ε σ β) : Script P ε σ β where
  run held before := (script.run held before).bind (bindTree held (fun value => (rest value).run))
  accounts run := by
    obtain ⟨first,second,⟨result,middle⟩,rfl,one,two⟩ := runs_bind.mp run
    have owed := script.accounts one
    cases result with
    | ok value => exact accounted_append owed ((rest value).accounts two)
    | error error =>
      obtain ⟨rfl,same⟩ := runs_done.mp two
      cases same; rw [List.append_nil]; exact owed
  inside run := by
    obtain ⟨first,second,⟨result,middle⟩,rfl,one,two⟩ := runs_bind.mp run
    have owed := script.inside one
    intro event member
    rcases List.mem_append.mp member with early | late
    · exact owed event early
    · cases result with
      | ok value => exact (rest value).inside two event late
      | error error => obtain ⟨rfl,_⟩ := runs_done.mp two; cases late

instance : Monad (Script P ε σ) where
  pure := Script.pure
  bind := Script.bind

def get : Script P ε σ σ where
  run _ before := .done (.ok before,before)
  accounts run := by
    obtain ⟨rfl,same⟩ := runs_done.mp run
    cases same; intro event member; cases member
  inside run := by
    obtain ⟨rfl,_⟩ := runs_done.mp run
    intro event member; cases member

def modify (change : σ → σ) : Script P ε σ Unit where
  run _ before := .done (.ok (),change before)
  accounts run := by
    obtain ⟨rfl,same⟩ := runs_done.mp run
    cases same; intro event member; cases member
  inside run := by
    obtain ⟨rfl,_⟩ := runs_done.mp run
    intro event member; cases member

-- An exception the body itself raises: a failed lookup, a division by zero.
def raise (error : ε) : Script P ε σ α where
  run held before := .fault held error (.done (.error error,before))
  accounts run := by
    obtain ⟨tail,rfl,ended⟩ := runs_fault.mp run
    obtain ⟨rfl,same⟩ := runs_done.mp ended
    cases same; exact ⟨[],_,rfl,rfl,by simp⟩
  inside run := by
    obtain ⟨tail,rfl,ended⟩ := runs_fault.mp run
    obtain ⟨rfl,_⟩ := runs_done.mp ended
    simp [Event.held]

-- A call whose failure the caller does not handle here.
def invoke (call : P.Call) : Script P ε σ (P.Result call) where
  run held before := .ask held call (fun answer => .done (answer,before))
  accounts {_ _ result _} run := by
    obtain ⟨answer,tail,rfl,ended⟩ := runs_ask.mp run
    obtain ⟨rfl,same⟩ := runs_done.mp ended
    obtain rfl : result = answer := (Prod.mk.inj same).1
    cases result with
    | ok value => simp [Accounted,Event.escapes]
    | error error => exact ⟨[],_,rfl,rfl,by simp⟩
  inside run := by
    obtain ⟨answer,tail,rfl,ended⟩ := runs_ask.mp run
    obtain ⟨rfl,_⟩ := runs_done.mp ended
    simp [Event.held]

def mark (label : P.Mark) : Script P ε σ Unit where
  run _ before := .mark label (.done (.ok (),before))
  accounts run := by
    obtain ⟨tail,rfl,ended⟩ := runs_mark.mp run
    obtain ⟨rfl,same⟩ := runs_done.mp ended
    cases same; simp [Accounted,Event.escapes]
  inside run := by
    obtain ⟨tail,rfl,ended⟩ := runs_mark.mp run
    obtain ⟨rfl,_⟩ := runs_done.mp ended
    simp [Event.held]

-- The body of a handler that catches everything: the result says what happened.
def attempt (script : Script P ε σ α) : Script P ε σ (Except ε α) where
  run _ before := (script.run true before).bind (fun (result,middle) => .done (.ok result,middle))
  accounts run := by
    obtain ⟨first,second,⟨result,middle⟩,rfl,one,two⟩ := runs_bind.mp run
    obtain ⟨rfl,same⟩ := runs_done.mp two
    cases same
    intro event member
    exact Event.escapes_held (script.inside one event (by simpa using member))
  inside run := by
    obtain ⟨first,second,⟨result,middle⟩,rfl,one,two⟩ := runs_bind.mp run
    obtain ⟨rfl,_⟩ := runs_done.mp two
    intro event member
    exact script.inside one event (by simpa using member)

def fromExcept : Except ε α → Script P ε σ α
  | .ok value => Script.pure value
  | .error error => raise error

end Script

section steps
variable {held : Bool} {before after : σ} {events : List (Event P ε)}

theorem steps_pure {value : α} {result : Except ε α} :
    (pure value : Script P ε σ α).Steps held before events result after ↔
      events = [] ∧ result = .ok value ∧ after = before := by
  show Runs (.done (.ok value,before)) events (result,after) ↔ _
  rw [runs_done,Prod.mk.injEq]

theorem steps_bind {script : Script P ε σ α} {rest : α → Script P ε σ β} {result : Except ε β} :
    (script >>= rest).Steps held before events result after ↔
      (∃ first second value middle, events = first ++ second ∧
        script.Steps held before first (.ok value) middle ∧
        (rest value).Steps held middle second result after) ∨
      ∃ error, result = .error error ∧ script.Steps held before events (.error error) after := by
  show Runs ((script.run held before).bind _) events (result,after) ↔ _
  rw [runs_bind]
  constructor
  · rintro ⟨first,second,⟨reply,middle⟩,rfl,one,two⟩
    cases reply with
    | ok value => exact .inl ⟨first,second,value,middle,rfl,one,two⟩
    | error error =>
      obtain ⟨rfl,same⟩ := runs_done.mp two
      cases same
      exact .inr ⟨error,rfl,by rw [List.append_nil]; exact one⟩
  · rintro (⟨first,second,value,middle,rfl,one,two⟩ | ⟨error,rfl,one⟩)
    · exact ⟨first,second,(.ok value,middle),rfl,one,two⟩
    · exact ⟨events,[],(.error error,after),by simp,one,.done⟩

-- What the run of a body that returned is made of.
theorem steps_bind_ok {script : Script P ε σ α} {rest : α → Script P ε σ β} {value : β}
    (steps : (script >>= rest).Steps held before events (.ok value) after) :
    ∃ one two found middle, events = one ++ two ∧ script.Steps held before one (.ok found) middle ∧
      (rest found).Steps held middle two (.ok value) after := by
  rcases steps_bind.mp steps with found | ⟨_,wrong,_⟩
  · exact found
  · cases wrong

theorem steps_pure_ok {value result : α} (steps : (pure value : Script P ε σ α).Steps held before events (.ok result) after) :
    events = [] ∧ result = value := by
  obtain ⟨none,same,_⟩ := steps_pure.mp steps
  exact ⟨none,Except.ok.inj same⟩

theorem steps_get {result : Except ε σ} :
    (Script.get : Script P ε σ σ).Steps held before events result after ↔
      events = [] ∧ result = .ok before ∧ after = before := by
  show Runs (.done (.ok before,before)) events (result,after) ↔ _
  rw [runs_done,Prod.mk.injEq]

theorem steps_modify {change : σ → σ} {result : Except ε Unit} :
    (Script.modify change : Script P ε σ Unit).Steps held before events result after ↔
      events = [] ∧ result = .ok () ∧ after = change before := by
  show Runs (.done (.ok (),change before)) events (result,after) ↔ _
  rw [runs_done,Prod.mk.injEq]

theorem steps_raise {error : ε} {result : Except ε α} :
    (Script.raise error : Script P ε σ α).Steps held before events result after ↔
      events = [.fault held error] ∧ result = .error error ∧ after = before := by
  show Runs (.fault held error (.done (.error error,before))) events (result,after) ↔ _
  rw [runs_fault]
  constructor
  · rintro ⟨tail,rfl,run⟩
    obtain ⟨rfl,same⟩ := runs_done.mp run
    cases same; exact ⟨rfl,rfl,rfl⟩
  · rintro ⟨rfl,rfl,rfl⟩; exact ⟨[],rfl,.done⟩

theorem steps_invoke {call : P.Call} {result : Except ε (P.Result call)} :
    (Script.invoke call : Script P ε σ _).Steps held before events result after ↔
      events = [.answered held call result] ∧ after = before := by
  show Runs (.ask held call (fun answer => .done (answer,before))) events (result,after) ↔ _
  rw [runs_ask]
  constructor
  · rintro ⟨answer,tail,rfl,run⟩
    obtain ⟨rfl,same⟩ := runs_done.mp run
    cases same; exact ⟨rfl,rfl⟩
  · rintro ⟨rfl,rfl⟩; exact ⟨result,[],rfl,.done⟩

theorem steps_mark {label : P.Mark} {result : Except ε Unit} :
    (Script.mark label : Script P ε σ Unit).Steps held before events result after ↔
      events = [.marked label] ∧ result = .ok () ∧ after = before := by
  show Runs (.mark label (.done (.ok (),before))) events (result,after) ↔ _
  rw [runs_mark]
  constructor
  · rintro ⟨tail,rfl,run⟩
    obtain ⟨rfl,same⟩ := runs_done.mp run
    cases same; exact ⟨rfl,rfl,rfl⟩
  · rintro ⟨rfl,rfl,rfl⟩; exact ⟨[],rfl,.done⟩

theorem steps_attempt {script : Script P ε σ α} {result : Except ε (Except ε α)} :
    script.attempt.Steps held before events result after ↔
      ∃ reply, result = .ok reply ∧ script.Steps true before events reply after := by
  show Runs ((script.run true before).bind _) events (result,after) ↔ _
  rw [runs_bind]
  constructor
  · rintro ⟨first,second,⟨reply,middle⟩,rfl,one,two⟩
    obtain ⟨rfl,same⟩ := runs_done.mp two
    cases same
    exact ⟨reply,rfl,by rw [List.append_nil]; exact one⟩
  · rintro ⟨reply,rfl,one⟩
    exact ⟨events,[],(reply,after),by simp,one,.done⟩

theorem steps_fromExcept {value result : Except ε α} :
    (Script.fromExcept value : Script P ε σ α).Steps held before events result after ↔
      result = value ∧ after = before ∧ events = match value with
        | .ok _ => []
        | .error error => [.fault held error] := by
  cases value with
  | ok value =>
    show (pure value : Script P ε σ α).Steps held before events result after ↔ _
    rw [steps_pure]; tauto
  | error error =>
    show (Script.raise error : Script P ε σ α).Steps held before events result after ↔ _
    rw [steps_raise]; tauto

theorem steps_get_bind {rest : σ → Script P ε σ β} {result : Except ε β} :
    (Script.get >>= rest).Steps held before events result after ↔ (rest before).Steps held before events result after := by
  rw [steps_bind]
  constructor
  · rintro (⟨one,two,value,middle,rfl,ran,ended⟩ | ⟨error,_,ran⟩)
    · obtain ⟨rfl,same,rfl⟩ := steps_get.mp ran
      cases same; exact ended
    · obtain ⟨_,same,_⟩ := steps_get.mp ran; cases same
  · intro ended
    exact .inl ⟨[],events,before,before,rfl,steps_get.mpr ⟨rfl,rfl,rfl⟩,ended⟩

theorem steps_modify_bind {change : σ → σ} {rest : Unit → Script P ε σ β} {result : Except ε β} :
    (Script.modify change >>= rest).Steps held before events result after ↔
      (rest ()).Steps held (change before) events result after := by
  rw [steps_bind]
  constructor
  · rintro (⟨one,two,value,middle,rfl,ran,ended⟩ | ⟨error,_,ran⟩)
    · obtain ⟨rfl,_,rfl⟩ := steps_modify.mp ran
      exact ended
    · obtain ⟨_,same,_⟩ := steps_modify.mp ran; cases same
  · intro ended
    exact .inl ⟨[],events,(),change before,rfl,steps_modify.mpr ⟨rfl,rfl,rfl⟩,ended⟩

theorem steps_mark_bind {label : P.Mark} {rest : Unit → Script P ε σ β} {result : Except ε β} :
    (Script.mark label >>= rest).Steps held before events result after ↔
      ∃ tail, events = .marked label :: tail ∧ (rest ()).Steps held before tail result after := by
  rw [steps_bind]
  constructor
  · rintro (⟨one,two,value,middle,rfl,ran,ended⟩ | ⟨error,_,ran⟩)
    · obtain ⟨rfl,_,rfl⟩ := steps_mark.mp ran
      exact ⟨two,rfl,ended⟩
    · obtain ⟨_,same,_⟩ := steps_mark.mp ran; cases same
  · rintro ⟨tail,rfl,ended⟩
    exact .inl ⟨[.marked label],tail,(),before,rfl,steps_mark.mpr ⟨rfl,rfl,rfl⟩,ended⟩

-- A handler around one call: the run goes on with whatever was answered.
theorem steps_attempt_invoke_bind {call : P.Call} {rest : Except ε (P.Result call) → Script P ε σ β} {result : Except ε β} :
    ((Script.invoke call).attempt >>= rest).Steps held before events result after ↔
      ∃ answer tail, events = .answered true call answer :: tail ∧ (rest answer).Steps held before tail result after := by
  rw [steps_bind]
  constructor
  · rintro (⟨one,two,value,middle,rfl,ran,ended⟩ | ⟨error,_,ran⟩)
    · obtain ⟨answer,same,asked⟩ := steps_attempt.mp ran
      obtain ⟨rfl,rfl⟩ := steps_invoke.mp asked
      cases same
      exact ⟨value,two,rfl,ended⟩
    · obtain ⟨_,same,_⟩ := steps_attempt.mp ran; cases same
  · rintro ⟨answer,tail,rfl,ended⟩
    exact .inl ⟨[_],tail,answer,before,rfl,steps_attempt.mpr ⟨answer,rfl,steps_invoke.mpr ⟨rfl,rfl⟩⟩,ended⟩

-- A call nobody handles: its failure ends the run at once.
theorem steps_invoke_bind {call : P.Call} {rest : P.Result call → Script P ε σ β} {result : Except ε β} :
    (Script.invoke call >>= rest).Steps held before events result after ↔
      (∃ value tail, events = .answered held call (.ok value) :: tail ∧ (rest value).Steps held before tail result after) ∨
      ∃ error, events = [.answered held call (.error error)] ∧ result = .error error ∧ after = before := by
  rw [steps_bind]
  constructor
  · rintro (⟨one,two,value,middle,rfl,ran,ended⟩ | ⟨error,rfl,ran⟩)
    · obtain ⟨rfl,rfl⟩ := steps_invoke.mp ran
      exact .inl ⟨value,two,rfl,ended⟩
    · obtain ⟨rfl,rfl⟩ := steps_invoke.mp ran
      exact .inr ⟨error,rfl,rfl,rfl⟩
  · rintro (⟨value,tail,rfl,ended⟩ | ⟨error,rfl,rfl,rfl⟩)
    · exact .inl ⟨[_],tail,value,before,rfl,steps_invoke.mpr ⟨rfl,rfl⟩,ended⟩
    · exact .inr ⟨error,rfl,steps_invoke.mpr ⟨rfl,rfl⟩⟩

theorem steps_fromExcept_bind {value : Except ε α} {rest : α → Script P ε σ β} {result : Except ε β} :
    (Script.fromExcept value >>= rest).Steps held before events result after ↔
      (∃ found, value = .ok found ∧ (rest found).Steps held before events result after) ∨
      ∃ error, value = .error error ∧ events = [.fault held error] ∧ result = .error error ∧ after = before := by
  rw [steps_bind]
  constructor
  · rintro (⟨one,two,found,middle,rfl,ran,ended⟩ | ⟨error,rfl,ran⟩)
    · obtain ⟨rfl,rfl,rfl⟩ := steps_fromExcept.mp ran
      exact .inl ⟨found,rfl,ended⟩
    · obtain ⟨rfl,rfl,rfl⟩ := steps_fromExcept.mp ran
      exact .inr ⟨error,rfl,rfl,rfl,rfl⟩
  · rintro (⟨found,rfl,ended⟩ | ⟨error,rfl,rfl,rfl,rfl⟩)
    · exact .inl ⟨[],events,found,before,rfl,steps_fromExcept.mpr ⟨rfl,rfl,rfl⟩,ended⟩
    · exact .inr ⟨error,rfl,steps_fromExcept.mpr ⟨rfl,rfl,rfl⟩⟩

theorem play_steps {world : World P ε} {past : List (Event P ε)} {script : Script P ε σ α}
    (ran : List (Event P ε) × Except ε α × σ) (value : α) (played : ran = play world past (script.run held before))
    (ended : ran.2.1.toOption = some value) : script.Steps held before ran.1 (.ok value) ran.2.2 := by
  have run := play_runs world past (script.run held before)
  rw [← played] at run
  obtain ⟨events,result,after⟩ := ran
  cases result with
  | ok other => cases ended; exact run
  | error error => cases ended

end steps
end Effects
