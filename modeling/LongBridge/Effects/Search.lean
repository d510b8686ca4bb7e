import Mathlib.Data.List.Perm.Basic
import LongBridge.Effects.Fallible

namespace Effects

variable {ε σ α : Type}

-- A loop that ends where an item is found, and otherwise hands its state on.
def search (step : σ → α → Except ε (Bool × σ)) (state : σ) : List α → Except ε (Bool × σ)
  | [] => .ok (false,state)
  | item :: rest => do
    let (found,state) ← step state item
    if found then return (true,state) else search step state rest

-- What has been met, and how much of it was a report.
structure Tally where
  count : ℕ
  reports : ℕ
  deriving DecidableEq

namespace Tally

-- `count += 1`, refused beyond the limit
def next (limit : ℕ) (error : ε) (tally : Tally) : Except ε Tally :=
  if limit < tally.count + 1 then .error error else .ok { tally with count := tally.count + 1 }

theorem next_ok {limit : ℕ} {error : ε} {tally after : Tally} : tally.next limit error = .ok after ↔
    tally.count + 1 ≤ limit ∧ after = { tally with count := tally.count + 1 } := by
  unfold next
  split
  · rename_i beyond
    constructor
    · intro impossible
      cases impossible
    · rintro ⟨within,_⟩
      exact absurd within (Nat.not_le.mpr beyond)
  · rename_i within
    constructor
    · intro same
      exact ⟨Nat.not_lt.mp within,(Except.ok.inj same).symm⟩
    · rintro ⟨_,rfl⟩
      rfl

end Tally

section laws

variable {step : σ → α → Except ε (Bool × σ)}

theorem search_cons {state : σ} {item : α} {rest : List α} {result : Bool × σ} : search step state (item :: rest) = .ok result ↔
    (∃ after, step state item = .ok (true,after) ∧ result = (true,after)) ∨
      ∃ after, step state item = .ok (false,after) ∧ search step after rest = .ok result := by
  rw [search,bind_ok]
  constructor
  · rintro ⟨⟨found,after⟩,one,rest⟩
    cases found with
    | true => exact .inl ⟨after,one,(return_ok.mp rest).symm⟩
    | false => exact .inr ⟨after,one,rest⟩
  · rintro (⟨after,one,rfl⟩ | ⟨after,one,rest⟩)
    · exact ⟨(true,after),one,rfl⟩
    · exact ⟨(false,after),one,rest⟩

theorem search_append (state : σ) (one two : List α) : search step state (one ++ two) = (do
    let (found,after) ← search step state one
    if found then return (true,after) else search step after two) := by
  induction one generalizing state with
  | nil => rfl
  | cons item rest ih =>
    rw [List.cons_append,search,search]
    cases step state item with
    | error error => rfl
    | ok result =>
      obtain ⟨found,after⟩ := result
      cases found with
      | true => rfl
      | false => exact ih after

-- What is found is one of the items, at some state.
theorem search_found {state after : σ} {items : List α} (ran : search step state items = .ok (true,after)) :
    ∃ item ∈ items, ∃ before after, step before item = .ok (true,after) := by
  induction items generalizing state with
  | nil => cases ran
  | cons item rest ih =>
    rcases search_cons.mp ran with ⟨after,one,_⟩ | ⟨middle,_,later⟩
    · exact ⟨item,List.mem_cons_self,state,after,one⟩
    · obtain ⟨other,member,hit⟩ := ih later
      exact ⟨other,List.mem_cons_of_mem _ member,hit⟩

end laws

section tallies

variable {step : Tally → α → Except ε (Bool × Tally)} {clear : α → Prop} {report : α → Bool} {limit : ℕ}

-- Each item that is passed takes its place within the limit.
def Passes (step : Tally → α → Except ε (Bool × Tally)) (clear : α → Prop) (report : α → Bool) (limit : ℕ) : Prop :=
  ∀ tally item after, step tally item = .ok (false,after) ↔
    clear item ∧ tally.count + 1 ≤ limit ∧ after = ⟨tally.count + 1,tally.reports + if report item then 1 else 0⟩

-- The search finds nothing exactly if all items are clear and fit in.
theorem search_clear (passes : Passes step clear report limit) {tally after : Tally} (small : tally.count ≤ limit) {items : List α} :
    search step tally items = .ok (false,after) ↔ (∀ item ∈ items, clear item) ∧ tally.count + items.length ≤ limit ∧
      after = ⟨tally.count + items.length,tally.reports + items.countP report⟩ := by
  induction items generalizing tally with
  | nil =>
    constructor
    · intro ran
      cases ran
      exact ⟨(fun _ member => nomatch member),small,rfl⟩
    · rintro ⟨_,_,rfl⟩
      rfl
  | cons item rest ih =>
    rw [search_cons,List.forall_mem_cons,List.length_cons,List.countP_cons]
    constructor
    · rintro (⟨_,_,impossible⟩ | ⟨middle,one,later⟩)
      · cases impossible
      · obtain ⟨own,fits,rfl⟩ := (passes _ _ _).mp one
        obtain ⟨others,room,rfl⟩ := (ih fits).mp later
        simp only at room
        refine ⟨⟨own,others⟩,by omega,?_⟩
        simp only [Tally.mk.injEq]
        omega
    · rintro ⟨⟨own,others⟩,room,rfl⟩
      refine .inr ⟨⟨tally.count + 1,tally.reports + if report item then 1 else 0⟩,(passes _ _ _).mpr ⟨own,by omega,rfl⟩,?_⟩
      refine (ih (by simp only; omega)).mpr ⟨others,by simp only; omega,?_⟩
      simp only [Tally.mk.injEq]
      omega

end tallies

end Effects
