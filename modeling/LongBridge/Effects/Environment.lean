import LongBridge.Effects.Invariant

namespace Effects

variable {P : Ports} {ε σ E : Type}

-- What the outside keeps between its answers: a step says which answers it may
-- give and what it keeps then. A write whose answer is lost may go either way.
inductive Follows (step : E → Event P ε → E → Prop) : E → List (Event P ε) → E → Prop where
  | nil : Follows step before [] before
  | cons : step before event middle → Follows step middle rest after → Follows step before (event :: rest) after

variable {step : E → Event P ε → E → Prop} {before after : E} {event : Event P ε} {first second events : List (Event P ε)}

theorem follows_nil : Follows step before [] after ↔ after = before := by
  constructor
  · intro follows; cases follows; rfl
  · rintro rfl; exact .nil

theorem follows_cons :
    Follows step before (event :: events) after ↔ ∃ middle, step before event middle ∧ Follows step middle events after := by
  constructor
  · intro follows; cases follows with
    | cons one rest => exact ⟨_,one,rest⟩
  · rintro ⟨middle,one,rest⟩; exact .cons one rest

theorem follows_one : Follows step before [event] after ↔ step before event after := by
  rw [follows_cons]
  constructor
  · rintro ⟨middle,one,rest⟩
    rw [follows_nil.mp rest]; exact one
  · intro one; exact ⟨after,one,.nil⟩

theorem follows_append : Follows step before (first ++ second) after ↔
    ∃ middle, Follows step before first middle ∧ Follows step middle second after := by
  induction first generalizing before with
  | nil =>
    rw [List.nil_append]
    constructor
    · intro follows; exact ⟨before,.nil,follows⟩
    · rintro ⟨middle,same,follows⟩; rw [follows_nil.mp same] at follows; exact follows
  | cons event first ih =>
    rw [List.cons_append,follows_cons]
    constructor
    · rintro ⟨middle,one,rest⟩
      obtain ⟨last,front,back⟩ := ih.mp rest
      exact ⟨last,.cons one front,back⟩
    · rintro ⟨last,front,back⟩
      obtain ⟨middle,one,rest⟩ := follows_cons.mp front
      exact ⟨middle,one,ih.mpr ⟨last,rest,back⟩⟩

-- An event the outside keeps nothing of.
def Still (step : E → Event P ε → E → Prop) (event : Event P ε) : Prop :=
  ∀ before after, step before event after → after = before

theorem follows_still (still : ∀ event ∈ events, Still step event) (follows : Follows step before events after) :
    after = before := by
  induction follows with
  | nil => rfl
  | cons one _ ih =>
    rw [ih (fun event member => still event (List.mem_cons_of_mem _ member))]
    exact still _ (List.mem_cons_self ..) _ _ one

end Effects
