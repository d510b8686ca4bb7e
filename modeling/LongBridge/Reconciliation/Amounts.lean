import LongBridge.Reconciliation.Records

namespace LongBridge.Reconciliation

-- A finite decimal, as the decimal type keeps it
structure Amount where
  negative : Bool
  coefficient : ℕ
  exponent : ℤ
  deriving DecidableEq

namespace Amount

def value (amount : Amount) : ℚ := (PyDecimal.finite amount.negative amount.coefficient amount.exponent).value

def Fits (amount : Amount) : Prop := FitsContext amount.coefficient amount.exponent

instance (amount : Amount) : Decidable amount.Fits := inferInstanceAs (Decidable (FitsContext ..))

-- The value, and the sign where it is zero
def signed (amount : Amount) : ℚ × Bool := (amount.value,amount.negative && amount.coefficient == 0)

end Amount

def amountOf (value : PyVal) : Option Amount :=
  match decimalOfText value.text with
  | some (.finite negative coefficient exponent) => some ⟨negative,coefficient,exponent⟩
  | _ => none

def Denotes (text : String) (value : ℚ) : Prop := ∃ number, decimalOfText text = some number ∧ number.isFinite = true ∧ number.value = value

theorem value_scaled (negative : Bool) (coefficient : ℕ) (exponent : ℤ) :
    (PyDecimal.finite negative coefficient exponent).value = (if negative then -1 else 1) * scaled coefficient exponent := by
  unfold PyDecimal.value scaled
  cases negative <;> simp

-- What `_decimal_text` makes of a finite decimal
theorem decimalText_ok {value : PyVal} {amount : Amount} (stated : amountOf value = some amount) {fieldName text : String}
    (ran : decimalText value fieldName = .ok text) : ∃ kept shown fixed lowest, Normal kept shown ∧
      fixDecimal amount.coefficient amount.exponent = .ok (fixed,lowest) ∧ scaled kept shown = scaled fixed lowest ∧
      text = String.ofList (fixedPoint amount.negative kept shown) := by
  unfold amountOf at stated
  unfold decimalText at ran
  split at stated
  · rename_i negative coefficient exponent read
    obtain rfl := Option.some.inj stated
    rw [read] at ran
    cases done : normalizeDecimal coefficient exponent with
    | error error => simp [done,bind,Except.bind] at ran
    | ok result =>
      obtain ⟨kept,shown⟩ := result
      obtain ⟨normal,fixed,lowest,rounded,same⟩ := normalizeDecimal_normal done
      obtain ⟨whole,some⟩ := trimFraction_fixedPoint negative normal
      simp only [done,bind,Except.bind,pure,Except.pure,whole,some,if_false,Except.ok.injEq] at ran
      exact ⟨kept,shown,fixed,lowest,normal,rounded,same,ran.symm⟩
  · cases stated

theorem decimalText_runs {value : PyVal} {amount : Amount} (stated : amountOf value = some amount) (fits : amount.Fits) (fieldName : String) :
    ∃ text, decimalText value fieldName = .ok text := by
  unfold amountOf at stated
  unfold decimalText
  split at stated
  · rename_i negative coefficient exponent read
    obtain rfl := Option.some.inj stated
    rw [read]
    have fixes : ∃ fixed lowest, fixDecimal coefficient exponent = .ok (fixed,lowest) := by
      by_cases zero : coefficient = 0
      · unfold fixDecimal
        rw [if_pos zero]
        exact ⟨_,_,rfl⟩
      · obtain ⟨fixed,lowest,done,_⟩ := fixDecimal_fits zero fits
        exact ⟨fixed,lowest,done⟩
    obtain ⟨fixed,lowest,done⟩ := fixes
    unfold normalizeDecimal
    by_cases zero : fixed = 0
    · simp only [done,zero,if_true,bind,Except.bind,pure,Except.pure]
      exact ⟨_,rfl⟩
    · simp only [done,zero,if_false,bind,Except.bind,pure,Except.pure]
      exact ⟨_,rfl⟩
  · cases stated

-- A text that was written reads back as the rounded number.
theorem decimalText_denotes {value : PyVal} {amount : Amount} (stated : amountOf value = some amount) {fieldName text : String}
    (ran : decimalText value fieldName = .ok text) : ∃ fixed lowest, fixDecimal amount.coefficient amount.exponent = .ok (fixed,lowest) ∧
      ∀ denoted, Denotes text denoted ↔ denoted = (if amount.negative then -1 else 1) * scaled fixed lowest := by
  obtain ⟨kept,shown,fixed,lowest,normal,done,same,rfl⟩ := decimalText_ok stated ran
  obtain ⟨read,place,back,equal⟩ := decimalOfText_fixedPoint amount.negative normal
  refine ⟨fixed,lowest,done,fun denoted => ?_⟩
  have value := value_scaled amount.negative read place
  rw [equal,same] at value
  constructor
  · rintro ⟨number,found,_,rfl⟩
    obtain rfl := Option.some.inj (back.symm.trans found)
    exact value
  · rintro rfl
    exact ⟨_,back,rfl,value⟩

theorem amount_value (amount : Amount) : amount.value = (if amount.negative then -1 else 1) * scaled amount.coefficient amount.exponent := value_scaled ..

theorem fixDecimal_scaled_iff {coefficient fixed : ℕ} {exponent lowest : ℤ} (done : fixDecimal coefficient exponent = .ok (fixed,lowest)) :
    scaled fixed lowest = scaled coefficient exponent ↔ FitsContext coefficient exponent := by
  constructor
  · intro same
    by_contra misfits
    exact fixDecimal_misfits misfits done same
  · intro fits
    by_cases zero : coefficient = 0
    · subst zero
      unfold fixDecimal at done
      rw [if_pos rfl] at done
      cases done
      rw [scaled_zero,scaled_zero]
    · obtain ⟨other,least,ran,_,same,_⟩ := fixDecimal_fits zero fits
      cases ran.symm.trans done
      exact same

-- The text states the amount itself exactly when the amount fits the context.
theorem decimalText_exact_iff {value : PyVal} {amount : Amount} (stated : amountOf value = some amount) (fieldName : String) :
    (∃ text, decimalText value fieldName = .ok text ∧ Denotes text amount.value) ↔ amount.Fits := by
  constructor
  · rintro ⟨text,ran,denotes⟩
    obtain ⟨fixed,lowest,done,reads⟩ := decimalText_denotes stated ran
    have same := (reads _).mp denotes
    rw [amount_value] at same
    have sign : (if amount.negative then -1 else 1 : ℚ) ≠ 0 := by cases amount.negative <;> norm_num
    exact (fixDecimal_scaled_iff done).mp (mul_left_cancel₀ sign same).symm
  · intro fits
    obtain ⟨text,ran⟩ := decimalText_runs stated fits fieldName
    obtain ⟨fixed,lowest,done,reads⟩ := decimalText_denotes stated ran
    refine ⟨text,ran,(reads _).mpr ?_⟩
    rw [amount_value,(fixDecimal_scaled_iff done).mpr fits]

theorem scaled_nonneg (coefficient : ℕ) (exponent : ℤ) : 0 ≤ scaled coefficient exponent := by
  exact mul_nonneg (Nat.cast_nonneg _) (zpow_nonneg (by norm_num) _)

theorem scaled_eq_zero {coefficient : ℕ} {exponent : ℤ} : scaled coefficient exponent = 0 ↔ coefficient = 0 := by
  constructor
  · intro zero
    by_contra positive
    exact scaled_ne_zero positive exponent zero
  · rintro rfl
    exact scaled_zero exponent

theorem signed_eq_iff {one two : Amount} : one.signed = two.signed ↔
    one.negative = two.negative ∧ scaled one.coefficient one.exponent = scaled two.coefficient two.exponent := by
  obtain ⟨negative,coefficient,exponent⟩ := one
  obtain ⟨sign,other,place⟩ := two
  unfold Amount.signed
  rw [Prod.mk.injEq,amount_value,amount_value]
  dsimp only
  have low := scaled_nonneg coefficient exponent
  have least := scaled_nonneg other place
  have zero := @scaled_eq_zero coefficient exponent
  have none := @scaled_eq_zero other place
  generalize scaled coefficient exponent = first at *
  generalize scaled other place = second at *
  cases negative <;> cases sign
  · simp
  · constructor
    · rintro ⟨same,signs⟩
      have nothing : second ≠ 0 := fun empty => by simp [none.mp empty] at signs
      simp only [Bool.false_eq_true,if_false,if_true] at same
      exact absurd (le_antisymm (by linarith) least) nothing
    · rintro ⟨wrong,_⟩
      cases wrong
  · constructor
    · rintro ⟨same,signs⟩
      have nothing : first ≠ 0 := fun empty => by simp [zero.mp empty] at signs
      simp only [Bool.false_eq_true,if_false,if_true] at same
      exact absurd (le_antisymm (by linarith) low) nothing
    · rintro ⟨wrong,_⟩
      cases wrong
  · constructor
    · rintro ⟨same,_⟩
      simp only [if_true] at same
      exact ⟨rfl,by linarith⟩
    · rintro ⟨_,rfl⟩
      refine ⟨rfl,?_⟩
      rw [Bool.eq_iff_iff]
      simp [← zero,← none]

-- Two amounts that fit have one text exactly when they have one value, and one sign where it is zero.
theorem decimalText_eq_iff {value other : PyVal} {one two : Amount} (first : amountOf value = some one) (second : amountOf other = some two)
    (fits : one.Fits) (also : two.Fits) {fieldName otherName text shown : String} (ran : decimalText value fieldName = .ok text)
    (done : decimalText other otherName = .ok shown) : text = shown ↔ one.signed = two.signed := by
  obtain ⟨kept,place,fixed,lowest,normal,rounded,same,rfl⟩ := decimalText_ok first ran
  obtain ⟨held,spot,settled,least,fine,cut,equal,rfl⟩ := decimalText_ok second done
  rw [(fixDecimal_scaled_iff rounded).mpr fits] at same
  rw [(fixDecimal_scaled_iff cut).mpr also] at equal
  rw [signed_eq_iff,← same,← equal]
  constructor
  · intro texts
    obtain ⟨read,point,back,valueOne⟩ := decimalOfText_fixedPoint one.negative normal
    obtain ⟨also,on,again,valueTwo⟩ := decimalOfText_fixedPoint two.negative fine
    rw [texts,again] at back
    obtain ⟨signs,rfl,rfl⟩ := PyDecimal.finite.inj (Option.some.inj back)
    exact ⟨signs.symm,valueOne.symm.trans valueTwo⟩
  · rintro ⟨signs,values⟩
    obtain ⟨rfl,rfl⟩ := normal_unique normal fine values
    rw [signs]

end LongBridge.Reconciliation
