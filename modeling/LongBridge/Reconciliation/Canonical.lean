import LongBridge.Reconciliation.Readings

namespace LongBridge.Reconciliation

-- Two decimals are written exactly, and in one text if and only if they are equal.
def ToldByText (fieldName : String) (value other : PyVal) (one two : Amount) : Prop :=
  ∃ text shown, decimalText value fieldName = .ok text ∧ decimalText other fieldName = .ok shown ∧
    Denotes text one.value ∧ Denotes shown two.value ∧ (text = shown ↔ one.value = two.value)

-- They fit the context, and if both are zero they are zeros of one sign.
def AlikeInContext (one two : Amount) : Prop := one.Fits ∧ two.Fits ∧ (one.value = two.value → one.signed = two.signed)

-- Two readings are recorded exactly, and in one record, with one digest, if and only if their amounts are equal.
structure ToldByRecord (one two : Reading) : Prop where
  exactOne : one.Exact
  exactTwo : two.Exact
  records : ∃ first second, one.normalize = .ok first ∧ two.normalize = .ok second ∧ (first = second ↔ one.values.Perm two.values) ∧
    ∀ digest : ReadingRecord → String, (one.values.Perm two.values → digest first = digest second) ∧
      (Function.Injective digest → digest first = digest second → one.values.Perm two.values)

theorem exact_iff_fits {reading : Reading} : reading.Exact ↔ reading.Fits := by
  constructor
  · intro exact_ row member value own amount stated
    exact (decimalText_exact_iff stated "").mp (exact_ row member value own amount stated "")
  · intro fits row member value own amount stated fieldName
    exact (decimalText_exact_iff stated fieldName).mpr (fits row member value own amount stated)

theorem forget_signs (reading : Reading) :
    reading.values = reading.signed.map fun row => (row.1,row.2.map fun amount => amount.map Prod.fst) := by
  unfold Reading.values Reading.signed
  rw [List.map_map]
  refine List.map_congr_left fun row _ => Prod.ext rfl ?_
  dsimp only [Function.comp_apply]
  rw [List.map_map]
  refine List.map_congr_left fun value _ => ?_
  dsimp only [Function.comp_apply]
  rw [Option.map_map]
  rfl

theorem values_of_signed {one two : Reading} (same : one.signed.Perm two.signed) : one.values.Perm two.values := by
  rw [forget_signs,forget_signs]
  exact same.map _

theorem toldByText_iff {fieldName : String} {value other : PyVal} {one two : Amount} (first : amountOf value = some one)
    (second : amountOf other = some two) : ToldByText fieldName value other one two ↔ AlikeInContext one two := by
  constructor
  · rintro ⟨text,shown,ran,done,denotes,states,same⟩
    have fits := (decimalText_exact_iff first fieldName).mp ⟨text,ran,denotes⟩
    have also := (decimalText_exact_iff second fieldName).mp ⟨shown,done,states⟩
    exact ⟨fits,also,fun equal => (decimalText_eq_iff first second fits also ran done).mp (same.mpr equal)⟩
  · rintro ⟨fits,also,signs⟩
    obtain ⟨text,ran,denotes⟩ := (decimalText_exact_iff first fieldName).mpr fits
    obtain ⟨shown,done,states⟩ := (decimalText_exact_iff second fieldName).mpr also
    have same := decimalText_eq_iff first second fits also ran done
    exact ⟨text,shown,ran,done,denotes,states,fun texts => congrArg Prod.fst (same.mp texts),fun equal => same.mpr (signs equal)⟩

theorem toldByRecord_iff {one two : Reading} (complete : one.Complete) (whole : two.Complete) (framed : one.frame = two.frame) :
    ToldByRecord one two ↔ one.Fits ∧ two.Fits ∧ (one.values.Perm two.values → one.signed.Perm two.signed) := by
  constructor
  · rintro ⟨exactOne,exactTwo,first,second,ran,done,same,_⟩
    have fits := exact_iff_fits.mp exactOne
    have also := exact_iff_fits.mp exactTwo
    refine ⟨fits,also,fun equal => (shown_eq_iff complete whole fits also framed).mp ?_⟩
    rw [normalize_shown complete fits] at ran
    rw [normalize_shown whole also] at done
    obtain rfl := Except.ok.inj ran
    obtain rfl := Except.ok.inj done
    exact same.mpr equal
  · rintro ⟨fits,also,signs⟩
    have same : one.shown = two.shown ↔ one.values.Perm two.values :=
      (shown_eq_iff complete whole fits also framed).trans ⟨values_of_signed,signs⟩
    refine ⟨exact_iff_fits.mpr fits,exact_iff_fits.mpr also,one.shown,two.shown,normalize_shown complete fits,
      normalize_shown whole also,same,fun digest => ⟨fun equal => congrArg digest (same.mpr equal),fun apart digests => ?_⟩⟩
    exact same.mp (apart digests)

-- Amounts are told apart exactly where they fit the decimal context and no zeros of different sign meet.
theorem amounts_are_canonical_iff (fieldName : String) (value other : PyVal) (one two : Reading) :
    (∀ first second, amountOf value = some first → amountOf other = some second →
      (ToldByText fieldName value other first second ↔ AlikeInContext first second)) ∧
    (one.Complete → two.Complete → one.frame = two.frame →
      (ToldByRecord one two ↔ one.Fits ∧ two.Fits ∧ (one.values.Perm two.values → one.signed.Perm two.signed))) :=
  ⟨fun _ _ first second => toldByText_iff first second,fun complete whole framed => toldByRecord_iff complete whole framed⟩

-- A position of 1.50 and one of 1.5
def samplePosition (quantity : String) : Reading := .position "lb" ⟨.str "700.HK",.str "HKD",.str quantity⟩

theorem samplePosition_complete {quantity : String} {amount : Amount} (stated : amountOf (.str quantity) = some amount) :
    (samplePosition quantity).Complete := by
  have named : ∀ text ∈ [upper (cleanText (.str "700.HK")),upper (cleanText (.str "HKD"))], text ≠ "" := by decide +kernel
  refine ⟨named,List.cons_ne_nil _ _,?_⟩
  intro row member value own
  obtain rfl := List.mem_singleton.mp member
  obtain rfl := List.mem_singleton.mp own
  exact ⟨amount,stated⟩

theorem sample_positions_told : ToldByText "quantity" (.str "1.50") (.str "1.5") ⟨false,150,-2⟩ ⟨false,15,-1⟩ ∧
    ToldByRecord (samplePosition "1.50") (samplePosition "1.5") := by
  have long : amountOf (.str "1.50") = some ⟨false,150,-2⟩ := by decide +kernel
  have short : amountOf (.str "1.5") = some ⟨false,15,-1⟩ := by decide +kernel
  have signs : (⟨false,150,-2⟩ : Amount).signed = (⟨false,15,-1⟩ : Amount).signed := by decide +kernel
  have told := amounts_are_canonical_iff "quantity" (.str "1.50") (.str "1.5") (samplePosition "1.50") (samplePosition "1.5")
  refine ⟨(told.1 _ _ long short).mpr ⟨by decide +kernel,by decide +kernel,fun _ => signs⟩,
    (told.2 (samplePosition_complete long) (samplePosition_complete short) rfl).mpr ⟨?_,?_,fun _ => ?_⟩⟩
  · intro row member value own amount stated
    obtain rfl := List.mem_singleton.mp member
    obtain rfl := List.mem_singleton.mp own
    obtain rfl := Option.some.inj (long.symm.trans stated)
    decide +kernel
  · intro row member value own amount stated
    obtain rfl := List.mem_singleton.mp member
    obtain rfl := List.mem_singleton.mp own
    obtain rfl := Option.some.inj (short.symm.trans stated)
    decide +kernel
  · show List.Perm [("",[(amountOf (.str "1.50")).map Amount.signed])] [("",[(amountOf (.str "1.5")).map Amount.signed])]
    rw [long,short,Option.map_some,Option.map_some,signs]

-- A zero and a negative zero are one amount and two texts.
theorem signed_zeros_told_apart : amountOf (.str "0") = some ⟨false,0,0⟩ ∧ amountOf (.str "-0") = some ⟨true,0,0⟩ ∧
    ¬ ToldByText "quantity" (.str "0") (.str "-0") ⟨false,0,0⟩ ⟨true,0,0⟩ := by
  refine ⟨by decide +kernel,by decide +kernel,?_⟩
  rintro ⟨text,shown,ran,done,_,_,same⟩
  have plain : decimalText (.str "0") "quantity" = .ok "0" := by decide +kernel
  have negative : decimalText (.str "-0") "quantity" = .ok "-0" := by decide +kernel
  obtain rfl := Except.ok.inj (plain.symm.trans ran)
  obtain rfl := Except.ok.inj (negative.symm.trans done)
  exact absurd (same.mpr (by decide +kernel)) (by decide)

end LongBridge.Reconciliation
