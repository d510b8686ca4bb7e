import LongBridge.Effects.Script

namespace Effects

variable {P : Ports} {ε σ α β : Type} {R : σ → List (Event P ε) → σ → Prop} {held : Bool}

-- A relation between the locals before, the events and the locals after, which
-- holds of doing nothing and of doing one thing after another. Sticky flags,
-- growing lists and facts about the order of calls are all of this form.
structure Composes (R : σ → List (Event P ε) → σ → Prop) : Prop where
  refl : ∀ before, R before [] before
  trans : ∀ {before middle after first second}, R before first middle → R middle second after →
    R before (first ++ second) after

-- Every run that begins at these locals, finished normally or by a raise.
def KeepsFrom (R : σ → List (Event P ε) → σ → Prop) (held : Bool) (before : σ) (script : Script P ε σ α) : Prop :=
  ∀ events result after, script.Steps held before events result after → R before events after

def Keeps (R : σ → List (Event P ε) → σ → Prop) (held : Bool) (script : Script P ε σ α) : Prop :=
  ∀ before, KeepsFrom R held before script

theorem keeps_pure (composes : Composes R) (value : α) : Keeps R held (pure value : Script P ε σ α) := by
  intro before events result after steps
  obtain ⟨rfl,_,rfl⟩ := steps_pure.mp steps
  exact composes.refl _

theorem keepsFrom_bind {script : Script P ε σ α} {rest : α → Script P ε σ β} {before : σ}
    (composes : Composes R) (first : KeepsFrom R held before script)
    (second : ∀ events value middle, script.Steps held before events (.ok value) middle →
      KeepsFrom R held middle (rest value)) : KeepsFrom R held before (script >>= rest) := by
  intro events result after steps
  rcases steps_bind.mp steps with ⟨one,two,value,middle,rfl,ran,ended⟩ | ⟨error,rfl,ran⟩
  · exact composes.trans (first _ _ _ ran) (second _ _ _ ran _ _ _ ended)
  · exact first _ _ _ ran

theorem keeps_bind {script : Script P ε σ α} {rest : α → Script P ε σ β} (composes : Composes R)
    (first : Keeps R held script) (second : ∀ value, Keeps R held (rest value)) : Keeps R held (script >>= rest) :=
  fun before => keepsFrom_bind composes (first before) (fun _ value middle _ => second value middle)

theorem keepsFrom_get_bind {rest : σ → Script P ε σ β} {before : σ} (second : KeepsFrom R held before (rest before)) :
    KeepsFrom R held before (Script.get >>= rest) := by
  intro events result after steps
  rcases steps_bind.mp steps with ⟨one,two,value,middle,rfl,ran,ended⟩ | ⟨error,_,ran⟩
  · obtain ⟨rfl,same,rfl⟩ := steps_get.mp ran
    cases same
    exact second _ _ _ ended
  · obtain ⟨_,same,_⟩ := steps_get.mp ran
    cases same

theorem keeps_get_bind {rest : σ → Script P ε σ β} (second : ∀ before, KeepsFrom R held before (rest before)) :
    Keeps R held (Script.get >>= rest) := fun before => keepsFrom_get_bind (second before)

theorem keeps_modify {change : σ → σ} (step : ∀ before, R before [] (change before)) :
    Keeps R held (Script.modify change : Script P ε σ Unit) := by
  intro before events result after steps
  obtain ⟨rfl,_,rfl⟩ := steps_modify.mp steps
  exact step _

theorem keeps_invoke {call : P.Call} (step : ∀ before answer, R before [.answered held call answer] before) :
    Keeps R held (Script.invoke call : Script P ε σ _) := by
  intro before events result after steps
  obtain ⟨rfl,rfl⟩ := steps_invoke.mp steps
  exact step _ _

theorem keeps_mark {label : P.Mark} (step : ∀ before, R before [.marked label] before) :
    Keeps R held (Script.mark label : Script P ε σ Unit) := by
  intro before events result after steps
  obtain ⟨rfl,_,rfl⟩ := steps_mark.mp steps
  exact step _

theorem keeps_raise {error : ε} (step : ∀ before, R before [.fault held error] before) :
    Keeps R held (Script.raise error : Script P ε σ α) := by
  intro before events result after steps
  obtain ⟨rfl,_,rfl⟩ := steps_raise.mp steps
  exact step _

theorem keeps_fromExcept (composes : Composes R) {value : Except ε α}
    (step : ∀ before error, R before [.fault held error] before) :
    Keeps R held (Script.fromExcept value : Script P ε σ α) := by
  cases value with
  | ok value => exact keeps_pure composes value
  | error error => exact keeps_raise (step · error)

theorem keeps_attempt {script : Script P ε σ α} (inner : Keeps R true script) : Keeps R held script.attempt := by
  intro before events result after steps
  obtain ⟨reply,_,ran⟩ := steps_attempt.mp steps
  exact inner _ _ _ _ ran

theorem keepsFrom_ite {c : Prop} [Decidable c] {yes no : Script P ε σ α} {before : σ}
    (first : c → KeepsFrom R held before yes) (second : ¬c → KeepsFrom R held before no) :
    KeepsFrom R held before (if c then yes else no) := by
  split
  · exact first ‹_›
  · exact second ‹_›

theorem keeps_ite {c : Prop} [Decidable c] {yes no : Script P ε σ α} (first : Keeps R held yes) (second : Keeps R held no) :
    Keeps R held (if c then yes else no) :=
  fun before => keepsFrom_ite (fun _ => first before) (fun _ => second before)

theorem keeps_weaken {S : σ → List (Event P ε) → σ → Prop} {script : Script P ε σ α}
    (weaker : ∀ {before events after}, R before events after → S before events after) (keeps : Keeps R held script) :
    Keeps S held script := fun before events result after steps => weaker (keeps before events result after steps)

-- A run in which only such events happen.
def Only (allowed : Event P ε → Bool) (_ : σ) (events : List (Event P ε)) (_ : σ) : Prop :=
  ∀ event ∈ events, allowed event = true

theorem only_composes (allowed : Event P ε → Bool) : Composes (Only allowed : σ → List (Event P ε) → σ → Prop) where
  refl _ := by intro event member; cases member
  trans one two := fun event member => (List.mem_append.mp member).elim (one event) (two event)

end Effects
