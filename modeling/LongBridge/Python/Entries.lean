import Mathlib.Data.List.Sort
import Mathlib.Tactic.Common

namespace LongBridge

-- Dictionaries with each key once.
variable {α : Type} {entries others : List (String × α)} {key : String} {value : α}

theorem mem_of_lookup (found : entries.lookup key = some value) : (key,value) ∈ entries := by
  obtain ⟨before,after,rfl,_⟩ := List.lookup_eq_some_iff.mp found
  simp

theorem lookup_of_mem (nodup : (entries.map Prod.fst).Nodup) (member : (key,value) ∈ entries) :
    entries.lookup key = some value := by
  induction entries with
  | nil => cases member
  | cons entry rest ih =>
    obtain ⟨other,old⟩ := entry
    rw [List.map_cons,List.nodup_cons] at nodup
    rw [List.lookup_cons]
    rcases List.mem_cons.mp member with same | later
    · cases same; simp
    · have apart : (key == other) = false := by
        rw [beq_eq_false_iff_ne]
        rintro rfl
        exact nodup.1 (List.mem_map.mpr ⟨_,later,rfl⟩)
      rw [apart]; exact ih nodup.2 later

theorem lookup_perm (nodup : (entries.map Prod.fst).Nodup) (perm : others.Perm entries) (key : String) :
    others.lookup key = entries.lookup key := by
  have distinct : (others.map Prod.fst).Nodup := (perm.map Prod.fst).nodup_iff.mpr nodup
  cases found : entries.lookup key with
  | some value => exact lookup_of_mem distinct (perm.mem_iff.mpr (mem_of_lookup found))
  | none =>
    cases other : others.lookup key with
    | none => rfl
    | some value =>
      have held := lookup_of_mem nodup (perm.mem_iff.mp (mem_of_lookup other))
      rw [found] at held; cases held

-- `sorted(mapping.items())`
def sortedByKey (entries : List (String × α)) : List (String × α) := entries.insertionSort fun one two => one.1 ≤ two.1

theorem sortedByKey_perm (entries : List (String × α)) : (sortedByKey entries).Perm entries := List.perm_insertionSort ..

end LongBridge
