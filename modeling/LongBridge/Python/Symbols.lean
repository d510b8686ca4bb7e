import LongBridge.Python.Text
import Mathlib.Data.List.DropRight
import Mathlib.Tactic.IntervalCases

namespace LongBridge

def lowerLetters : List Char := "abcdefghijklmnopqrstuvwxyz".toList

theorem toUpper_cases (char : Char) : char.toUpper = char ∨ char ∈ lowerLetters := by
  unfold Char.toUpper
  split
  · rename_i inside
    right
    obtain ⟨low,high⟩ := inside
    have lower : 97 ≤ char.toNat := low
    have upper : char.toNat ≤ 122 := high
    have same : char = Char.ofNat char.toNat := (Char.ofNat_toNat char).symm
    generalize char.toNat = code at lower upper same
    subst same
    interval_cases code <;> decide
  · left; rfl

theorem lowerLetters_toUpper :
    (lowerLetters.all fun char => isSpace char.toUpper == isSpace char && char.toUpper.toUpper == char.toUpper) = true := by
  decide

theorem letter_toUpper {char : Char} (letter : char ∈ lowerLetters) :
    isSpace char.toUpper = isSpace char ∧ char.toUpper.toUpper = char.toUpper := by
  simpa using List.all_eq_true.mp lowerLetters_toUpper char letter

theorem isSpace_toUpper (char : Char) : isSpace char.toUpper = isSpace char := by
  rcases toUpper_cases char with same | letter
  · rw [same]
  · exact (letter_toUpper letter).1

theorem toUpper_idem (char : Char) : char.toUpper.toUpper = char.toUpper := by
  rcases toUpper_cases char with same | letter
  · rw [same,same]
  · exact (letter_toUpper letter).2

-- `text.strip()` on the characters
def trimmed (chars : List Char) : List Char := (chars.dropWhile isSpace).rdropWhile isSpace

theorem strip_eq (text : String) : strip text = String.ofList (trimmed text.toList) := rfl

theorem dropWhile_trimmed (chars : List Char) : (trimmed chars).dropWhile isSpace = trimmed chars := by
  unfold trimmed
  cases rest : chars.dropWhile isSpace with
  | nil => rfl
  | cons char tail =>
    have first : isSpace char = false := by
      have head := List.head_dropWhile_not isSpace (show chars.dropWhile isSpace ≠ [] by rw [rest]; exact List.cons_ne_nil _ _)
      simpa [rest] using head
    have kept : ((char :: tail).rdropWhile isSpace) <+: char :: tail := List.rdropWhile_prefix _ _
    cases ends : (char :: tail).rdropWhile isSpace with
    | nil => rfl
    | cons other more =>
      rw [ends] at kept
      obtain ⟨same,_⟩ := List.cons_prefix_cons.mp kept
      rw [same,List.dropWhile_cons_of_neg (by simp [first])]

theorem trimmed_idem (chars : List Char) : trimmed (trimmed chars) = trimmed chars := by
  rw [trimmed,dropWhile_trimmed]
  exact List.rdropWhile_idempotent _ _

theorem strip_idem (text : String) : strip (strip text) = strip text := by
  rw [strip_eq,strip_eq,String.toList_ofList,trimmed_idem]

theorem dropWhile_upper (chars : List Char) :
    (chars.map Char.toUpper).dropWhile isSpace = (chars.dropWhile isSpace).map Char.toUpper := by
  induction chars with
  | nil => rfl
  | cons char rest ih =>
    rw [List.map_cons,List.dropWhile_cons,List.dropWhile_cons,isSpace_toUpper]
    split
    · exact ih
    · rfl

theorem trimmed_upper (chars : List Char) : trimmed (chars.map Char.toUpper) = (trimmed chars).map Char.toUpper := by
  unfold trimmed List.rdropWhile
  rw [dropWhile_upper,← List.map_reverse,dropWhile_upper,List.map_reverse]

theorem strip_upper (text : String) : strip (upper text) = upper (strip text) := by
  simp only [strip_eq,upper,String.toList_ofList,trimmed_upper]

theorem upper_idem (text : String) : upper (upper text) = upper text := by
  simp only [upper,String.toList_ofList,List.map_map]
  congr 1
  exact List.map_congr_left fun char _ => toUpper_idem char

theorem normalizedSymbol_idem (symbol : String) : normalizedSymbol (normalizedSymbol symbol) = normalizedSymbol symbol := by
  rw [normalizedSymbol,normalizedSymbol,strip_upper,strip_idem,upper_idem]

theorem mem_distinct {items : List String} {item : String} : item ∈ distinct items ↔ item ∈ items := by
  have all : ∀ kept : List String,
      item ∈ items.foldl (fun kept item => if kept.contains item then kept else kept ++ [item]) kept ↔
        item ∈ kept ∨ item ∈ items := by
    induction items with
    | nil => simp
    | cons first rest ih =>
      intro kept
      rw [List.foldl_cons,ih,List.mem_cons]
      split
      · rename_i known
        have present : first ∈ kept := List.contains_iff_mem.mp known
        constructor
        · tauto
        · rintro (old | rfl | later)
          · exact .inl old
          · exact .inl present
          · exact .inr later
      · rw [List.mem_append,List.mem_singleton]; tauto
  exact (all []).trans (by simp)

end LongBridge
