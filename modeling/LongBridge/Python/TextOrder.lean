import Mathlib.Data.List.Lex
import Mathlib.Data.String.Basic
import LongBridge.Python.Dates

namespace LongBridge

section lists
variable {α : Type} [LinearOrder α]

-- Lists whose first parts are of one length are compared part by part.
theorem append_lt_append {first second : List α} {rest others : List α} (length : first.length = second.length) :
    first ++ rest < second ++ others ↔ first < second ∨ first = second ∧ rest < others := by
  induction first generalizing second with
  | nil =>
    obtain rfl := List.length_eq_zero_iff.mp length.symm
    simp
  | cons head tail ih =>
    cases second with
    | nil => cases length
    | cons other more =>
      rw [List.cons_append,List.cons_append,List.cons_lt_cons_iff,List.cons_lt_cons_iff,ih (Nat.succ.inj length),List.cons.injEq]
      tauto

-- What follows a list of the same length does not matter below it.
theorem append_lt_iff {first second rest : List α} (length : first.length = second.length) :
    first ++ rest < second ↔ first < second := by
  rw [← List.append_nil second,append_lt_append length,List.append_nil]
  simp

theorem le_append_iff {first second rest : List α} (length : first.length = second.length) :
    second ≤ first ++ rest ↔ second ≤ first := by
  rw [← not_lt,append_lt_iff length,not_lt]

theorem append_left_lt_iff {lead first second : List α} : lead ++ first < lead ++ second ↔ first < second := by
  rw [append_lt_append rfl]
  simp

theorem append_left_le_iff {lead first second : List α} : lead ++ first ≤ lead ++ second ↔ first ≤ second := by
  rw [← not_lt,append_left_lt_iff,not_lt]

-- Between two lists with one beginning everything has this beginning.
theorem begins_between {lead first second between : List α} (above : lead ++ first ≤ between) (below : between < lead ++ second) :
    lead <+: between := by
  induction lead generalizing between with
  | nil => exact List.nil_prefix
  | cons head tail ih =>
    cases between with
    | nil => exact absurd above (not_le.mpr (List.nil_lt_cons ..))
    | cons other rest =>
      rw [List.cons_append] at above below
      rw [← not_lt,List.cons_lt_cons_iff,not_or] at above
      obtain ⟨notBelow,tails⟩ := above
      rcases List.cons_lt_cons_iff.mp below with less | ⟨rfl,less⟩
      · exact absurd less notBelow
      · have start : tail ++ first ≤ rest := by
          rw [← not_lt]
          exact fun smaller => tails ⟨rfl,smaller⟩
        exact List.cons_prefix_cons.mpr ⟨rfl,ih start less⟩

end lists

theorem singleton_lt_iff {α : Type} [LinearOrder α] {one two : α} : [one] < [two] ↔ one < two := by
  rw [List.cons_lt_cons_iff]
  simp

theorem digit_lt_digit (one two : ℕ) : digit one < digit two ↔ one % 10 < two % 10 := by
  have all : ∀ one < 10, ∀ two < 10, Char.ofNat (48 + one) < Char.ofNat (48 + two) ↔ one < two := by decide
  exact all (one % 10) (Nat.mod_lt _ (by decide)) (two % 10) (Nat.mod_lt _ (by decide))

-- Digits of one width are ordered as the numbers are.
theorem padded_lt_padded {width one two : ℕ} (small : one < 10 ^ width) (bound : two < 10 ^ width) :
    padded width one < padded width two ↔ one < two := by
  induction width generalizing one two with
  | zero => simp_all
  | succ width ih =>
    have half : one / 10 < 10 ^ width := by omega
    have other : two / 10 < 10 ^ width := by omega
    rw [padded,padded,append_lt_append (by simp),ih half other]
    constructor
    · rintro (less | ⟨same,less⟩)
      · omega
      · have tens := padded_injective half other same
        have units := (digit_lt_digit one two).mp (singleton_lt_iff.mp less)
        omega
    · intro less
      by_cases tens : one / 10 < two / 10
      · exact .inl tens
      · have same : one / 10 = two / 10 := by omega
        refine .inr ⟨by rw [same],?_⟩
        exact singleton_lt_iff.mpr ((digit_lt_digit one two).mpr (by omega))

section calendar

theorem daysBeforeMonth_step : ∀ leap, ∀ one < 13, ∀ two < 13, 1 ≤ one → one < two →
    daysBeforeMonth leap one + daysInMonth leap one ≤ daysBeforeMonth leap two := by decide

theorem daysBeforeMonth_end : ∀ leap, ∀ month < 13, 1 ≤ month →
    daysBeforeMonth leap month + daysInMonth leap month ≤ if leap then 366 else 365 := by decide

theorem daysBeforeYear_next {year : ℕ} (positive : 1 ≤ year) :
    daysBeforeYear (year + 1) = daysBeforeYear year + if isLeap year then 366 else 365 := by
  have four : year / 4 = (year - 1) / 4 + if year % 4 = 0 then 1 else 0 := by split <;> omega
  have hundred : year / 100 = (year - 1) / 100 + if year % 100 = 0 then 1 else 0 := by split <;> omega
  have rest : year / 400 = (year - 1) / 400 + if year % 400 = 0 then 1 else 0 := by split <;> omega
  have below : (year - 1) / 100 ≤ (year - 1) / 4 := Nat.div_le_div_left (by decide) (by decide)
  have whole : year % 400 = 0 → year % 100 = 0 := by omega
  have quarter : year % 100 = 0 → year % 4 = 0 := by omega
  have length : (if isLeap year then 366 else 365) = 365 + (if year % 4 = 0 then 1 else 0) - (if year % 100 = 0 then 1 else 0) +
      if year % 400 = 0 then 1 else 0 := by
    unfold isLeap
    by_cases fours : year % 4 = 0 <;> by_cases hundreds : year % 100 = 0 <;> by_cases fourHundreds : year % 400 = 0 <;>
      simp_all
  unfold daysBeforeYear
  rw [length,Nat.add_sub_cancel,four,hundred,rest]
  generalize (year - 1) / 4 = fours at *
  generalize (year - 1) / 100 = hundreds at *
  clear four hundred rest length
  split <;> split <;> split <;> omega

theorem daysBeforeYear_le {one two : ℕ} (order : one ≤ two) : daysBeforeYear one ≤ daysBeforeYear two := by
  have grows : Monotone daysBeforeYear := by
    apply monotone_nat_of_le_succ
    intro year
    cases year with
    | zero => decide
    | succ year =>
      rw [daysBeforeYear_next (Nat.succ_pos year)]
      exact Nat.le_add_right ..
  exact grows order

-- The order of the calendar is the order of the ordinals.
def Civil.Before (one two : Civil) : Prop :=
  one.year < two.year ∨ one.year = two.year ∧ (one.month < two.month ∨ one.month = two.month ∧ one.day < two.day)

theorem ordinalOf_before {one two : Civil} (first : one.Valid) (second : two.Valid) (before : one.Before two) : ordinalOf one < ordinalOf two := by
  have days := first.day
  have months := first.month
  have others := second.day
  unfold ordinalOf
  rcases before with year | ⟨year,month | ⟨month,day⟩⟩
  · have span := daysBeforeYear_le (Nat.succ_le_of_lt year)
    rw [daysBeforeYear_next first.year.1] at span
    have inside := daysBeforeMonth_end (isLeap one.year) one.month (by omega) months.1
    omega
  · have bounds := second.month
    have span := daysBeforeMonth_step (isLeap one.year) one.month (by omega) two.month (by omega) months.1 month
    rw [← year]
    omega
  · rw [year,month]
    omega

theorem ordinalOf_lt_iff {one two : Civil} (first : one.Valid) (second : two.Valid) : ordinalOf one < ordinalOf two ↔ one.Before two := by
  refine ⟨fun less => ?_,ordinalOf_before first second⟩
  rcases lt_trichotomy one.year two.year with year | year | year
  · exact .inl year
  · rcases lt_trichotomy one.month two.month with month | month | month
    · exact .inr ⟨year,.inl month⟩
    · refine .inr ⟨year,.inr ⟨month,?_⟩⟩
      unfold ordinalOf at less
      rw [year,month] at less
      omega
    · have back := ordinalOf_before second first (.inr ⟨year.symm,.inl month⟩)
      omega
  · have back := ordinalOf_before second first (.inl year)
    omega

end calendar

end LongBridge
