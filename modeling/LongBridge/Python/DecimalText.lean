import Mathlib.Data.Nat.Log
import LongBridge.Python.Dates
import LongBridge.Python.Decimals

namespace LongBridge

-- The default context of the decimal module: 28 digits, half even, and overflow is raised.
def decimalPrecision : ℕ := 28

def decimalEmax : ℤ := 999999

def decimalEtiny : ℤ := -1000026

def decimalEtop : ℤ := 999972

-- The digits a coefficient is written with; zero has one.
def digitCount (coefficient : ℕ) : ℕ := Nat.log 10 coefficient + 1

def decimalOverflow : PyExc := ⟨"Overflow","[<class 'decimal.Overflow'>]"⟩

-- The last digits are dropped, to the nearest and a tie to the even.
def dropDigits (coefficient dropped : ℕ) : ℕ :=
  if digitCount coefficient < dropped then 0
  else
    let kept := coefficient / 10 ^ dropped
    let rest := coefficient % 10 ^ dropped
    if 10 ^ dropped < 2 * rest ∨ (2 * rest = 10 ^ dropped ∧ kept % 2 = 1) then kept + 1 else kept

-- The lowest exponent that the context leaves to a coefficient.
def lowestExponent (coefficient : ℕ) (exponent : ℤ) : ℤ := max (digitCount coefficient + exponent - decimalPrecision) decimalEtiny

-- `_fix`: a finite number rounded to the context; the sign stays.
def fixDecimal (coefficient : ℕ) (exponent : ℤ) : Except PyExc (ℕ × ℤ) :=
  if coefficient = 0 then .ok (0,min (max exponent decimalEtiny) decimalEmax)
  else if decimalEtop < digitCount coefficient + exponent - decimalPrecision then .error decimalOverflow
  else if lowestExponent coefficient exponent ≤ exponent then .ok (coefficient,exponent)
  else
    let lowest := lowestExponent coefficient exponent
    let rounded := dropDigits coefficient (lowest - exponent).toNat
    if digitCount rounded ≤ decimalPrecision then .ok (rounded,lowest)
    else if decimalEtop < lowest + 1 then .error decimalOverflow
    else .ok (rounded / 10,lowest + 1)

def stripZeros : ℕ → ℕ → ℤ → ℕ × ℤ
  | 0,coefficient,exponent => (coefficient,exponent)
  | digits + 1,coefficient,exponent =>
    if coefficient % 10 = 0 ∧ exponent < decimalEmax then stripZeros digits (coefficient / 10) (exponent + 1)
    else (coefficient,exponent)

-- `normalize()` of a finite number
def normalizeDecimal (coefficient : ℕ) (exponent : ℤ) : Except PyExc (ℕ × ℤ) := do
  let (fixed,lowest) ← fixDecimal coefficient exponent
  if fixed = 0 then return (0,0) else return stripZeros (digitCount fixed) fixed lowest

def wholeText (number : ℕ) : List Char := padded (digitCount number) number

-- format(number, "f")
def fixedPoint (negative : Bool) (coefficient : ℕ) (exponent : ℤ) : List Char :=
  (if negative then ['-'] else []) ++
    if 0 ≤ exponent then wholeText (coefficient * 10 ^ exponent.toNat)
    else wholeText (coefficient / 10 ^ (-exponent).toNat) ++ '.' :: padded (-exponent).toNat coefficient

-- text.rstrip(mark)
def stripEnd (mark : Char) (chars : List Char) : List Char := (chars.reverse.dropWhile (· == mark)).reverse

def trimFraction (chars : List Char) : List Char := if chars.contains '.' then stripEnd '.' (stripEnd '0' chars) else chars

section arithmetic

theorem lt_pow_digitCount (coefficient : ℕ) : coefficient < 10 ^ digitCount coefficient := Nat.lt_pow_succ_log_self (by decide) coefficient

theorem digitCount_le {coefficient digits : ℕ} (positive : 0 < digits) : digitCount coefficient ≤ digits ↔ coefficient < 10 ^ digits := by
  constructor
  · intro bound
    exact (lt_pow_digitCount coefficient).trans_le (Nat.pow_le_pow_right (by decide) bound)
  · intro bound
    exact Nat.succ_le_of_lt (Nat.log_lt_of_lt_pow' positive.ne' bound)

theorem digitsValue_wholeText (number : ℕ) : digitsValue (wholeText number) = number := by
  rw [wholeText,digitsValue_padded,Nat.mod_eq_of_lt (lt_pow_digitCount number)]

-- A value is kept exactly where only zeros are dropped.
theorem dropDigits_exact {coefficient dropped : ℕ} (positive : coefficient ≠ 0) (divides : 10 ^ dropped ∣ coefficient) :
    dropDigits coefficient dropped = coefficient / 10 ^ dropped := by
  have least : 10 ^ dropped ≤ coefficient := Nat.le_of_dvd (Nat.pos_of_ne_zero positive) divides
  have enough : ¬ digitCount coefficient < dropped := by
    intro short
    have bound := lt_pow_digitCount coefficient
    have grows := Nat.pow_lt_pow_right (by decide : 1 < 10) short
    omega
  have tens : 0 < 10 ^ dropped := Nat.pow_pos (by decide)
  unfold dropDigits
  rw [if_neg enough,Nat.mod_eq_zero_of_dvd divides]
  dsimp only
  rw [if_neg (by omega)]

-- The number is one of the context: its digits fit, and so does its exponent.
def FitsContext (coefficient : ℕ) (exponent : ℤ) : Prop :=
  coefficient = 0 ∨ (digitCount coefficient + exponent - 1 ≤ decimalEmax ∧
    10 ^ (lowestExponent coefficient exponent - exponent).toNat ∣ coefficient)

instance (coefficient : ℕ) (exponent : ℤ) : Decidable (FitsContext coefficient exponent) :=
  inferInstanceAs (Decidable (_ ∨ _))

def scaled (coefficient : ℕ) (exponent : ℤ) : ℚ := (coefficient : ℚ) * 10 ^ exponent

theorem scaled_shift (coefficient : ℕ) (exponent : ℤ) (digits : ℕ) :
    scaled (coefficient * 10 ^ digits) exponent = scaled coefficient (exponent + digits) := by
  unfold scaled
  rw [zpow_add₀ (by norm_num : (10 : ℚ) ≠ 0),zpow_natCast]
  push_cast
  ring

theorem tens_shift {lowest exponent : ℤ} (later : exponent ≤ lowest) : exponent + ((lowest - exponent).toNat : ℤ) = lowest := by omega

theorem fixDecimal_fits {coefficient : ℕ} {exponent : ℤ} (positive : coefficient ≠ 0) (fits : FitsContext coefficient exponent) :
    ∃ fixed lowest, fixDecimal coefficient exponent = .ok (fixed,lowest) ∧ fixed ≠ 0 ∧
      scaled fixed lowest = scaled coefficient exponent ∧ digitCount fixed + lowest - 1 ≤ decimalEmax := by
  obtain zero | ⟨small,divides⟩ := fits
  · exact absurd zero positive
  have inside : ¬ decimalEtop < digitCount coefficient + exponent - decimalPrecision := by
    unfold decimalEtop decimalPrecision decimalEmax at *
    omega
  unfold fixDecimal
  rw [if_neg positive,if_neg inside]
  by_cases plain : lowestExponent coefficient exponent ≤ exponent
  · rw [if_pos plain]
    exact ⟨coefficient,exponent,rfl,positive,rfl,small⟩
  · rw [if_neg plain]
    dsimp only
    rw [dropDigits_exact positive divides]
    have later : exponent ≤ lowestExponent coefficient exponent := by omega
    have shift := tens_shift later
    have enough : digitCount coefficient ≤ decimalPrecision + (lowestExponent coefficient exponent - exponent).toNat := by
      unfold lowestExponent at *
      omega
    generalize (lowestExponent coefficient exponent - exponent).toNat = dropped at *
    obtain ⟨kept,whole⟩ := divides
    have tens : 0 < 10 ^ dropped := Nat.pow_pos (by decide)
    have quotient : coefficient / 10 ^ dropped = kept := by rw [whole,Nat.mul_div_cancel_left kept tens]
    have keptPositive : kept ≠ 0 := by
      rintro rfl
      exact positive whole
    have below : ∀ digits, 0 < digits → digitCount coefficient ≤ digits + dropped → digitCount kept ≤ digits := by
      intro digits some bound
      have less := (digitCount_le (by omega)).mp bound
      rw [Nat.pow_add,whole,Nat.mul_comm] at less
      exact (digitCount_le some).mpr (Nat.lt_of_mul_lt_mul_right less)
    have longer : dropped < digitCount coefficient := by
      by_contra short
      have bound := (lt_pow_digitCount coefficient).trans_le (Nat.pow_le_pow_right (by decide : 0 < 10) (not_lt.mp short))
      rw [whole] at bound
      exact absurd bound (not_lt.mpr (Nat.le_mul_of_pos_right _ (Nat.pos_of_ne_zero keptPositive)))
    have digits := below decimalPrecision (by decide) enough
    have fewer := below (digitCount coefficient - dropped) (by omega) (by omega)
    rw [quotient,if_pos digits]
    refine ⟨kept,_,rfl,keptPositive,?_,by omega⟩
    rw [← shift,← scaled_shift,Nat.mul_comm kept,← whole]

theorem scaled_injective {one two : ℕ} {exponent : ℤ} (same : scaled one exponent = scaled two exponent) : one = two := by
  have tens : (10 : ℚ) ^ exponent ≠ 0 := zpow_ne_zero _ (by norm_num)
  have equal := mul_right_cancel₀ tens same
  exact_mod_cast equal

-- What does not fit is refused or becomes another number.
theorem fixDecimal_misfits {coefficient fixed : ℕ} {exponent lowest : ℤ} (misfits : ¬ FitsContext coefficient exponent)
    (ran : fixDecimal coefficient exponent = .ok (fixed,lowest)) : scaled fixed lowest ≠ scaled coefficient exponent := by
  obtain ⟨positive,unfit⟩ := not_or.mp misfits
  unfold fixDecimal at ran
  rw [if_neg positive] at ran
  split at ran
  · cases ran
  · rename_i inside
    have small : digitCount coefficient + exponent - 1 ≤ decimalEmax := by
      unfold decimalEtop decimalPrecision decimalEmax at *
      omega
    split at ran
    · rename_i plain
      have none : (lowestExponent coefficient exponent - exponent).toNat = 0 := by omega
      exact absurd ⟨small,by rw [none]; exact Nat.one_dvd _⟩ unfit
    · rename_i later
      have shift := tens_shift (not_le.mp later).le
      have apart : ∀ kept, scaled kept (lowestExponent coefficient exponent) ≠ scaled coefficient exponent := by
        intro kept same
        rw [← shift,← scaled_shift] at same
        have whole := scaled_injective same
        exact unfit ⟨small,⟨kept,whole.symm.trans (Nat.mul_comm ..)⟩⟩
      dsimp only at ran
      split at ran
      · cases ran
        exact apart _
      · split at ran
        · cases ran
        · cases ran
          intro same
          have tenfold := scaled_shift (dropDigits coefficient (lowestExponent coefficient exponent - exponent).toNat / 10)
            (lowestExponent coefficient exponent) 1
          exact apart _ (tenfold.trans same)

theorem scaled_zero (exponent : ℤ) : scaled 0 exponent = 0 := by simp [scaled]

theorem scaled_ne_zero {coefficient : ℕ} (positive : coefficient ≠ 0) (exponent : ℤ) : scaled coefficient exponent ≠ 0 := by
  unfold scaled
  exact mul_ne_zero (by exact_mod_cast positive) (zpow_ne_zero _ (by norm_num))

-- The zeros go one by one; what is left ends in another digit.
theorem stripZeros_facts {digits coefficient : ℕ} {exponent : ℤ} (positive : coefficient ≠ 0) (bound : digitCount coefficient ≤ digits)
    (small : digitCount coefficient + exponent - 1 ≤ decimalEmax) :
    scaled (stripZeros digits coefficient exponent).1 (stripZeros digits coefficient exponent).2 = scaled coefficient exponent ∧
      (stripZeros digits coefficient exponent).1 % 10 ≠ 0 := by
  induction digits generalizing coefficient exponent with
  | zero => exact absurd bound (by unfold digitCount; omega)
  | succ digits ih =>
    unfold stripZeros
    by_cases last : coefficient % 10 = 0 ∧ exponent < decimalEmax
    · rw [if_pos last]
      obtain ⟨ends,room⟩ := last
      have whole : coefficient = coefficient / 10 * 10 ^ 1 := by omega
      have rest : coefficient / 10 ≠ 0 := by omega
      have shorter : digitCount (coefficient / 10) + 1 = digitCount coefficient := by
        unfold digitCount
        rw [Nat.log_div_base]
        have least : 1 ≤ Nat.log 10 coefficient := Nat.log_pos (by decide) (by omega)
        omega
      obtain ⟨same,other⟩ := ih rest (by omega) (by omega : digitCount (coefficient / 10) + (exponent + 1) - 1 ≤ decimalEmax)
      refine ⟨?_,other⟩
      rw [same]
      have shift := scaled_shift (coefficient / 10) exponent 1
      rw [← whole] at shift
      exact shift.symm
    · rw [if_neg last]
      refine ⟨rfl,fun ends => last ⟨ends,?_⟩⟩
      have two : 1 < digitCount coefficient := by
        unfold digitCount
        have least : 1 ≤ Nat.log 10 coefficient := Nat.log_pos (by decide) (by omega)
        omega
      omega

-- What a rounded number is within.
structure InContext (coefficient : ℕ) (exponent : ℤ) : Prop where
  digits : digitCount coefficient ≤ decimalPrecision
  low : decimalEtiny ≤ exponent
  high : digitCount coefficient + exponent - 1 ≤ decimalEmax

theorem dropDigits_le (coefficient dropped : ℕ) : dropDigits coefficient dropped ≤ coefficient / 10 ^ dropped + 1 := by
  unfold dropDigits
  split
  · exact Nat.zero_le _
  · dsimp only
    split
    · exact Nat.le_refl _
    · exact Nat.le_succ _

theorem fixDecimal_bounds {coefficient fixed : ℕ} {exponent lowest : ℤ} (ran : fixDecimal coefficient exponent = .ok (fixed,lowest))
    (positive : fixed ≠ 0) : InContext fixed lowest := by
  unfold fixDecimal at ran
  split at ran
  · cases ran
    exact absurd rfl positive
  · split at ran
    · cases ran
    · rename_i inside
      split at ran
      · rename_i plain
        cases ran
        unfold lowestExponent decimalEtop decimalPrecision decimalEtiny at *
        exact ⟨by unfold decimalPrecision; omega,by unfold decimalEtiny; omega,by unfold decimalEmax; omega⟩
      · rename_i later
        have small : digitCount coefficient ≤ decimalPrecision + (lowestExponent coefficient exponent - exponent).toNat := by
          unfold lowestExponent at *
          omega
        have bounds : decimalEtiny ≤ lowestExponent coefficient exponent ∧ lowestExponent coefficient exponent ≤ decimalEtop := by
          unfold lowestExponent decimalEtop decimalPrecision decimalEtiny at *
          omega
        have rounded := dropDigits_le coefficient (lowestExponent coefficient exponent - exponent).toNat
        dsimp only at ran
        generalize lowestExponent coefficient exponent = least at *
        generalize (least - exponent).toNat = dropped at *
        split at ran
        · rename_i fits
          cases ran
          refine ⟨fits,bounds.1,?_⟩
          unfold decimalEtop decimalPrecision decimalEmax at *
          omega
        · split at ran
          · cases ran
          · rename_i room
            cases ran
            have quotient : coefficient / 10 ^ dropped < 10 ^ decimalPrecision := by
              have below := (digitCount_le (Nat.add_pos_left (by decide) _)).mp small
              rw [Nat.pow_add,Nat.mul_comm] at below
              exact Nat.div_lt_of_lt_mul below
            have fits : digitCount (dropDigits coefficient dropped / 10) ≤ decimalPrecision := by
              apply (digitCount_le (by decide)).mpr
              unfold decimalPrecision at *
              omega
            refine ⟨fits,by omega,?_⟩
            unfold decimalEtop decimalPrecision decimalEmax at *
            omega

theorem stripZeros_bounds {digits coefficient : ℕ} {exponent : ℤ} (bounds : InContext coefficient exponent) :
    InContext (stripZeros digits coefficient exponent).1 (stripZeros digits coefficient exponent).2 := by
  induction digits generalizing coefficient exponent with
  | zero => exact bounds
  | succ digits ih =>
    unfold stripZeros
    by_cases last : coefficient % 10 = 0 ∧ exponent < decimalEmax
    · rw [if_pos last]
      apply ih
      have shorter : digitCount (coefficient / 10) ≤ digitCount coefficient := Nat.succ_le_succ (Nat.log_mono_right (Nat.div_le_self ..))
      have low := bounds.low
      have high := bounds.high
      refine ⟨shorter.trans bounds.digits,by omega,?_⟩
      by_cases one : coefficient < 10
      · have single : digitCount (coefficient / 10) = 1 := by
          rw [Nat.div_eq_of_lt one]
          rfl
        omega
      · have fewer : digitCount (coefficient / 10) + 1 = digitCount coefficient := by
          unfold digitCount
          rw [Nat.log_div_base]
          have least : 1 ≤ Nat.log 10 coefficient := Nat.log_pos (by decide) (by omega)
          omega
        omega
    · rw [if_neg last]
      exact bounds

-- A normalized number: it ends in no zero, and zero is written in one way.
structure Normal (coefficient : ℕ) (exponent : ℤ) : Prop where
  bounds : InContext coefficient exponent
  ends : coefficient % 10 ≠ 0 ∨ (coefficient = 0 ∧ exponent = 0)

theorem normalizeDecimal_normal {coefficient kept : ℕ} {exponent shown : ℤ} (ran : normalizeDecimal coefficient exponent = .ok (kept,shown)) :
    Normal kept shown ∧ ∃ fixed lowest, fixDecimal coefficient exponent = .ok (fixed,lowest) ∧ scaled kept shown = scaled fixed lowest := by
  unfold normalizeDecimal at ran
  cases done : fixDecimal coefficient exponent with
  | error error => rw [done] at ran; cases ran
  | ok result =>
    obtain ⟨fixed,lowest⟩ := result
    rw [done] at ran
    dsimp only [bind,Except.bind,pure,Except.pure] at ran
    by_cases zero : fixed = 0
    · rw [if_pos zero] at ran
      cases ran
      refine ⟨⟨⟨by decide,by decide,by decide⟩,.inr ⟨rfl,rfl⟩⟩,0,lowest,by rw [zero],?_⟩
      rw [scaled_zero,scaled_zero]
    · rw [if_neg zero] at ran
      have bounds := fixDecimal_bounds done zero
      obtain ⟨same,ends⟩ := stripZeros_facts zero (Nat.le_refl _) bounds.high
      have kept : InContext (stripZeros (digitCount fixed) fixed lowest).1 (stripZeros (digitCount fixed) fixed lowest).2 := stripZeros_bounds bounds
      rw [Except.ok.inj ran] at same ends kept
      exact ⟨⟨kept,.inl ends⟩,fixed,lowest,rfl,same⟩

-- Two normalized numbers of one value are the same.
theorem normal_unique {one two : ℕ} {first second : ℤ} (normal : Normal one first) (other : Normal two second)
    (same : scaled one first = scaled two second) : one = two ∧ first = second := by
  have zero : one = 0 ↔ two = 0 := by
    constructor
    · rintro rfl
      by_contra positive
      exact scaled_ne_zero positive second (by rw [← same,scaled_zero])
    · rintro rfl
      by_contra positive
      exact scaled_ne_zero positive first (by rw [same,scaled_zero])
  rcases normal.ends with ends | ⟨rfl,rfl⟩
  · rcases other.ends with last | ⟨rfl,rfl⟩
    · have apart : ∀ {low high : ℕ} {start stop : ℤ}, start ≤ stop → low % 10 ≠ 0 → scaled low start = scaled high stop → stop = start ∧ low = high := by
        intro low high start stop order ends equal
        have shift : start + ((stop - start).toNat : ℤ) = stop := by omega
        rw [← shift,← scaled_shift] at equal
        have whole := scaled_injective equal
        cases steps : (stop - start).toNat with
        | zero => rw [steps] at whole; exact ⟨by omega,by simpa using whole⟩
        | succ more => rw [steps,Nat.pow_succ,← Nat.mul_assoc] at whole; omega
      rcases le_total first second with order | order
      · obtain ⟨exponents,coefficients⟩ := apart order ends same
        exact ⟨coefficients,exponents.symm⟩
      · obtain ⟨exponents,coefficients⟩ := apart order last same.symm
        exact ⟨coefficients.symm,exponents⟩
    · exact absurd (zero.mpr rfl) (by rintro rfl; exact ends rfl)
  · obtain rfl := zero.mp rfl
    rcases other.ends with last | ⟨_,rfl⟩
    · exact absurd rfl last
    · exact ⟨rfl,rfl⟩

end arithmetic

end LongBridge
