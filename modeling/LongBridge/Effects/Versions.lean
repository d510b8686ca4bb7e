import Mathlib.Logic.Function.Basic
import Mathlib.Tactic.Common

namespace Effects

variable {κ ν : Type}

-- A store whose every write gets a version nobody had before; no key is ever removed.
structure Versioned (κ ν : Type) where
  cells : κ → Option (ℕ × ν)
  last : ℕ
  bounded : ∀ key version value, cells key = some (version,value) → version ≤ last

namespace Versioned

def empty : Versioned κ ν := ⟨fun _ => none,0,fun _ _ _ held => nomatch held⟩

-- What was once read of a key: as long as the version is the same, so is the value.
def Recalls (store : Versioned κ ν) (key : κ) (seen : Option (ℕ × ν)) : Prop :=
  ∀ version value, seen = some (version,value) → version ≤ store.last ∧
    ∀ other, store.cells key = some (version,other) → other = value

theorem recalls_read (store : Versioned κ ν) (key : κ) : store.Recalls key (store.cells key) := by
  intro version value found
  refine ⟨store.bounded _ _ _ found,fun other again => ?_⟩
  rw [found] at again
  cases again; rfl

-- What a request under a version match finds: the value, while the key has that version.
def held (store : Versioned κ ν) (key : κ) (version : ℕ) : Option ν :=
  (store.cells key).bind fun cell => if cell.1 = version then some cell.2 else none

theorem held_cells {store : Versioned κ ν} {key : κ} {version : ℕ} {value : ν} (found : store.held key version = some value) :
    store.cells key = some (version,value) := by
  obtain ⟨⟨current,own⟩,cell,kept⟩ := Option.bind_eq_some_iff.mp found
  dsimp only at kept
  split at kept
  · rename_i same
    cases kept
    rw [cell,same]
  · cases kept

variable [DecidableEq κ]

def write (store : Versioned κ ν) (key : κ) (value : ν) : Versioned κ ν where
  cells := Function.update store.cells key (some (store.last + 1,value))
  last := store.last + 1
  bounded other version held found := by
    by_cases same : other = key
    · subst same
      rw [Function.update_self] at found
      cases found; exact Nat.le_refl _
    · rw [Function.update_of_ne same] at found
      exact Nat.le_succ_of_le (store.bounded _ _ _ found)

-- A write that holds only if the key still has the expected version, or none.
def compareAndSet (store : Versioned κ ν) (key : κ) (expected : Option ℕ) (value : ν) : Bool × Versioned κ ν :=
  if (store.cells key).map Prod.fst = expected then (true,store.write key value) else (false,store)

-- A read or a conditional write of a store that may also fail; after a failure nobody
-- knows whether it has written.
def Reads {ε : Type} (store : Versioned κ ν) (key : κ) (answer : Except ε (Option (ℕ × ν))) : Prop :=
  answer = .ok (store.cells key) ∨ ∃ error, answer = .error error

def Sets {ε : Type} (store : Versioned κ ν) (key : κ) (expected : Option ℕ) (value : ν) (answer : Except ε Bool)
    (after : Versioned κ ν) : Prop :=
  (answer = .ok (store.compareAndSet key expected value).1 ∧ after = (store.compareAndSet key expected value).2) ∨
    ∃ error, answer = .error error ∧ (after = store ∨ after = (store.compareAndSet key expected value).2)

@[simp] theorem write_same (store : Versioned κ ν) (key : κ) (value : ν) :
    (store.write key value).cells key = some (store.last + 1,value) := Function.update_self ..

theorem write_other (store : Versioned κ ν) {key other : κ} (value : ν) (unlike : other ≠ key) :
    (store.write key value).cells other = store.cells other := Function.update_of_ne unlike ..

theorem recalls_write {store : Versioned κ ν} {key : κ} {seen : Option (ℕ × ν)} (recalls : store.Recalls key seen)
    (other : κ) (value : ν) : (store.write other value).Recalls key seen := by
  intro version held found
  obtain ⟨older,same⟩ := recalls _ _ found
  refine ⟨Nat.le_succ_of_le older,fun again there => ?_⟩
  by_cases here : key = other
  · subst here
    rw [write_same,Option.some.injEq,Prod.mk.injEq] at there
    omega
  · rw [write_other _ _ here] at there
    exact same _ there

-- A write that went through found what its writer had read.
theorem compareAndSet_found {store after : Versioned κ ν} {key : κ} {seen : Option (ℕ × ν)} {value : ν}
    (recalls : store.Recalls key seen) (written : store.compareAndSet key (seen.map Prod.fst) value = (true,after)) :
    store.cells key = seen ∧ after = store.write key value := by
  unfold compareAndSet at written
  split at written
  · rename_i current
    refine ⟨?_,(Prod.mk.inj written).2.symm⟩
    cases found : store.cells key with
    | none =>
      rw [found] at current
      cases seen with
      | none => rfl
      | some cell => cases current
    | some cell =>
      rw [found] at current
      cases seen with
      | none => cases current
      | some old =>
        have version : cell.1 = old.1 := Option.some.inj current
        have value := (recalls old.1 old.2 rfl).2 cell.2 (by rw [found,← version])
        rw [← Prod.eta cell,← Prod.eta old,version,value]
  · cases written

theorem compareAndSet_missed {store after : Versioned κ ν} {key : κ} {expected : Option ℕ} {value : ν}
    (written : store.compareAndSet key expected value = (false,after)) :
    (store.cells key).map Prod.fst ≠ expected ∧ after = store := by
  unfold compareAndSet at written
  split at written
  · cases written
  · rename_i stale
    exact ⟨stale,(Prod.mk.inj written).2.symm⟩

-- A conditional write behind a read: it wrote over what was read, or nothing.
theorem sets_cases {ε : Type} {store after : Versioned κ ν} {key : κ} {seen : Option (ℕ × ν)} {value : ν} {answer : Except ε Bool}
    (recalls : store.Recalls key seen) (sets : store.Sets key (seen.map Prod.fst) value answer after) :
    (store.cells key = seen ∧ after = store.write key value) ∨ (after = store ∧ answer ≠ .ok true) := by
  cases written : store.compareAndSet key (seen.map Prod.fst) value with
  | mk done next =>
    unfold Sets at sets
    rw [written] at sets
    cases done with
    | true =>
      obtain ⟨found,rfl⟩ := compareAndSet_found recalls written
      rcases sets with ⟨_,rfl⟩ | ⟨error,rfl,rfl | rfl⟩
      · exact .inl ⟨found,rfl⟩
      · exact .inr ⟨rfl,fun same => nomatch same⟩
      · exact .inl ⟨found,rfl⟩
    | false =>
      obtain ⟨_,rfl⟩ := compareAndSet_missed written
      rcases sets with ⟨rfl,rfl⟩ | ⟨error,rfl,rfl | rfl⟩
      · exact .inr ⟨rfl,fun same => nomatch same⟩
      · exact .inr ⟨rfl,fun same => nomatch same⟩
      · exact .inr ⟨rfl,fun same => nomatch same⟩

end Versioned
end Effects
