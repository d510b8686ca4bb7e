import Mathlib.Data.List.Dedup
import Mathlib.Data.List.Perm.Lattice
import Mathlib.Data.List.Sort

namespace Sorting

variable {α : Type} (r : α → α → Prop) [DecidableRel r]

theorem insertionSort_append (items last : List α) :
    (items ++ last).insertionSort r = items.foldr (List.orderedInsert r) (last.insertionSort r) := by
  rw [List.insertionSort,List.foldr_append]

theorem filter_orderedInsert_neg (p : α → Bool) {one : α} (held : p one = false) (items : List α) :
    (items.orderedInsert r one).filter p = items.filter p := by
  induction items with
  | nil => simp [held]
  | cons head rest ih =>
    by_cases first : r one head
    · simp [first,held]
    · simp [first,List.filter_cons,ih]

-- A stable sort: what is sorted already is inserted in front of its equals.
section
variable [Std.Total r] [IsTrans α r]

theorem orderedInsert_swap {one two : α} (later : ¬r one two) (items : List α) :
    (items.orderedInsert r two).orderedInsert r one = (items.orderedInsert r one).orderedInsert r two := by
  have before : r two one := (total_of r one two).resolve_left later
  induction items with
  | nil => simp [later,before]
  | cons head rest ih =>
    by_cases first : r two head
    · by_cases second : r one head
      · simp [later,before,first,second]
      · simp [later,first,second]
    · have second : ¬r one head := fun held => first (trans_of r before held)
      simp [first,second,ih]

theorem foldr_orderedInsert_insert (last : List α) (one : α) (items : List α) :
    (items.orderedInsert r one).foldr (List.orderedInsert r) last =
      (items.foldr (List.orderedInsert r) last).orderedInsert r one := by
  induction items with
  | nil => rfl
  | cons head rest ih =>
    by_cases first : r one head
    · simp [first]
    · rw [List.orderedInsert_of_not_le r rest first,List.foldr_cons,ih,List.foldr_cons]
      exact (orderedInsert_swap r first _).symm

-- Sorting early changes nothing for a later sort of more.
theorem insertionSort_sorted_append (items last : List α) :
    (items.insertionSort r ++ last).insertionSort r = (items ++ last).insertionSort r := by
  rw [insertionSort_append,insertionSort_append]
  induction items with
  | nil => rfl
  | cons head rest ih => rw [List.insertionSort_cons,foldr_orderedInsert_insert,ih,List.foldr_cons]

-- Two items that do not tie may be appended in either order.
omit [IsTrans α r] in
theorem insertionSort_append_swap {one two : α} (apart : ¬(r one two ∧ r two one)) (items : List α) :
    (items ++ [one] ++ [two]).insertionSort r = (items ++ [two] ++ [one]).insertionSort r := by
  have same : ([one] ++ [two]).insertionSort r = ([two] ++ [one]).insertionSort r := by
    by_cases first : r one two
    · have second : ¬r two one := fun held => apart ⟨first,held⟩
      simp [first,second]
    · have second := (total_of r one two).resolve_left first
      simp [first,second]
  rw [List.append_assoc,List.append_assoc,insertionSort_append r items,insertionSort_append r items,same]

omit [Std.Total r] in
theorem filter_orderedInsert (p : α → Bool) {one : α} (held : p one = true) {items : List α}
    (sorted : items.Pairwise r) :
    (items.orderedInsert r one).filter p = (items.filter p).orderedInsert r one := by
  induction items with
  | nil => simp [held]
  | cons head rest ih =>
    obtain ⟨least,sorted'⟩ := List.pairwise_cons.mp sorted
    by_cases first : r one head
    · have front : ∀ other ∈ (head :: rest).filter p, r one other := by
        intro other member
        rcases List.mem_cons.mp (List.mem_filter.mp member).1 with rfl | later
        · exact first
        · exact trans_of r first (least other later)
      rw [List.orderedInsert_cons_of_le r rest first,List.filter_cons_of_pos held]
      cases kept : (head :: rest).filter p with
      | nil => rfl
      | cons other others =>
        rw [List.orderedInsert_cons_of_le r others (front other (by rw [kept]; exact List.mem_cons_self ..))]
    · rw [List.orderedInsert_of_not_le r rest first]
      cases shown : p head
      · rw [List.filter_cons_of_neg (by simp [shown]),List.filter_cons_of_neg (by simp [shown]),ih sorted']
      · rw [List.filter_cons_of_pos shown,List.filter_cons_of_pos shown,ih sorted',
          List.orderedInsert_of_not_le r _ first]

theorem filter_insertionSort (p : α → Bool) (items : List α) :
    (items.insertionSort r).filter p = (items.filter p).insertionSort r := by
  induction items with
  | nil => rfl
  | cons head rest ih =>
    rw [List.insertionSort_cons]
    cases held : p head
    · rw [filter_orderedInsert_neg r p held,ih,List.filter_cons_of_neg (by simp [held])]
    · rw [filter_orderedInsert r p held (List.pairwise_insertionSort r rest),ih,List.filter_cons_of_pos held,
        List.insertionSort_cons]

-- What is looked up in a sorted list that grew by something else.
theorem find?_insertionSort_append (p : α → Bool) {items : List α} (sorted : items.Pairwise r) {last : α}
    (other : p last = false) : ((items ++ [last]).insertionSort r).find? p = items.find? p := by
  rw [← List.head?_filter,← List.head?_filter,filter_insertionSort,List.filter_append,
    List.filter_cons_of_neg (by simp [other]),List.filter_nil,List.append_nil,
    (sorted.filter p).insertionSort_eq]

end

section sets
variable {α : Type} [LinearOrder α]

-- sorted(set(...))
def sortedSet (items : List α) : List α := items.dedup.insertionSort (· ≤ ·)

theorem sortedSet_sorted (items : List α) : (sortedSet items).Pairwise (· < ·) := by
  have ordered := List.pairwise_insertionSort (· ≤ ·) items.dedup
  have single : (sortedSet items).Nodup := (List.perm_insertionSort _ _).nodup_iff.mpr (List.nodup_dedup items)
  exact (ordered.and single).imp fun both => lt_of_le_of_ne both.1 both.2

theorem mem_sortedSet {items : List α} {item : α} : item ∈ sortedSet items ↔ item ∈ items :=
  (List.perm_insertionSort _ _).mem_iff.trans List.mem_dedup

-- Ascending lists with the same members are one list.
theorem ascending_unique {one two : List α} (first : one.Pairwise (· < ·)) (second : two.Pairwise (· < ·))
    (members : ∀ item, item ∈ one ↔ item ∈ two) : one = two := by
  have perm : one.Perm two := (List.perm_ext_iff_of_nodup (first.imp fun below => below.ne) (second.imp fun below => below.ne)).mpr members
  exact perm.eq_of_pairwise (fun _ _ _ _ below above => absurd above below.asymm) first second

theorem sortedSet_congr {one two : List α} (members : ∀ item, item ∈ one ↔ item ∈ two) : sortedSet one = sortedSet two :=
  ascending_unique (sortedSet_sorted one) (sortedSet_sorted two) fun item => by rw [mem_sortedSet,mem_sortedSet,members]

end sets

end Sorting
