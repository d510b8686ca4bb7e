import LongBridge.Projection.Copies
import Mathlib.Algebra.Order.BigOperators.Group.List
import Mathlib.Data.List.Dedup

namespace LongBridge.Projection
open Reporting

-- The verdict reads sets: neither the order of the runs nor how often one stands among them.

def SameSet {α : Type} (xs ys : List α) : Prop := ∀ x, x ∈ xs ↔ x ∈ ys

section sets
variable {α β : Type} {xs ys : List α}

theorem SameSet.map (same : SameSet xs ys) (f : α → β) : SameSet (xs.map f) (ys.map f) := by
  intro y
  rw [List.mem_map,List.mem_map]
  constructor
  · intro found
    obtain ⟨x,held,image⟩ := found
    exact ⟨x,(same x).mp held,image⟩
  · intro found
    obtain ⟨x,held,image⟩ := found
    exact ⟨x,(same x).mpr held,image⟩

theorem SameSet.filter (same : SameSet xs ys) (p : α → Bool) : SameSet (xs.filter p) (ys.filter p) := by
  intro x
  rw [List.mem_filter,List.mem_filter,same x]

theorem SameSet.append {xs' ys' : List α} (same : SameSet xs ys) (same' : SameSet xs' ys') : SameSet (xs ++ xs') (ys ++ ys') := by
  intro x
  rw [List.mem_append,List.mem_append,same x,same' x]

theorem SameSet.isEmpty (same : SameSet xs ys) : xs.isEmpty = ys.isEmpty := by
  rw [Bool.eq_iff_iff,List.isEmpty_iff,List.isEmpty_iff,List.eq_nil_iff_forall_not_mem,List.eq_nil_iff_forall_not_mem]
  exact forall_congr' fun x => not_congr (same x)

theorem SameSet.all (same : SameSet xs ys) (p : α → Bool) : xs.all p = ys.all p := by
  rw [Bool.eq_iff_iff,List.all_eq_true,List.all_eq_true]
  exact forall_congr' fun x => imp_congr_left (same x)

end sets

section activities
variable {ranks xs ys : List String} {activity : String}

end activities

section judging
variable {dated covering : List Run} {state : String} {readFailed : Bool}

end judging

section conflicts
variable {runs others : List Run} {group : String}

end conflicts

end LongBridge.Projection
