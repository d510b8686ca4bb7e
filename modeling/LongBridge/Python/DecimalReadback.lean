import Mathlib.Data.List.Induction
import Mathlib.Data.List.TakeWhile
import LongBridge.Python.DecimalText

namespace LongBridge

-- The letters a fixed-point text is made of.
def isPlain (char : Char) : Bool := char.isDigit || char == '.' || char == '-'

theorem plain_facts {char : Char} (plain : isPlain char = true) : isSpace char = false ∧ char.toLower = char ∧ (char != '_') = true := by
  unfold isPlain at plain
  rw [Bool.or_eq_true,Bool.or_eq_true,beq_iff_eq,beq_iff_eq] at plain
  rcases plain with (isDigit | rfl) | rfl
  · have bounds : 48 ≤ char.toNat ∧ char.toNat ≤ 57 := by
      unfold Char.isDigit at isDigit
      rw [Bool.and_eq_true,decide_eq_true_eq,decide_eq_true_eq] at isDigit
      exact isDigit
    have all : ∀ code < 10, isSpace (Char.ofNat (48 + code)) = false ∧ (Char.ofNat (48 + code)).toLower = Char.ofNat (48 + code) ∧
      (Char.ofNat (48 + code) != '_') = true := by decide
    have named : char = Char.ofNat (48 + (char.toNat - 48)) := by
      rw [Nat.add_sub_cancel' bounds.1,Char.ofNat_toNat]
    rw [named]
    exact all (char.toNat - 48) (by omega)
  · decide
  · decide

theorem dropWhile_none {α : Type} {p : α → Bool} {items : List α} (clear : ∀ item ∈ items, p item = false) : items.dropWhile p = items := by
  cases items with
  | nil => rfl
  | cons head rest => rw [List.dropWhile_cons,clear head List.mem_cons_self]; rfl

theorem strip_plain {chars : List Char} (plain : ∀ char ∈ chars, isPlain char = true) : strip (String.ofList chars) = String.ofList chars := by
  unfold strip
  rw [String.toList_ofList,dropWhile_none (fun char member => (plain_facts (plain char member)).1),
    dropWhile_none (fun char member => (plain_facts (plain char (List.mem_reverse.mp member))).1),List.reverse_reverse]

theorem lower_plain {chars : List Char} (plain : ∀ char ∈ chars, isPlain char = true) : lower (String.ofList chars) = String.ofList chars := by
  unfold lower
  rw [String.toList_ofList,List.map_congr_left (g := id) (fun char member => (plain_facts (plain char member)).2.1),List.map_id]

theorem marks_plain {chars : List Char} (plain : ∀ char ∈ chars, isPlain char = true) : chars.filter (fun char => char != '_') = chars :=
  List.filter_eq_self.mpr fun char member => (plain_facts (plain char member)).2.2

theorem takeWhile_digits {chars : List Char} (digits : chars.all Char.isDigit = true) :
    chars.takeWhile Char.isDigit = chars ∧ chars.dropWhile Char.isDigit = [] := by
  have all := List.all_eq_true.mp digits
  exact ⟨List.takeWhile_eq_self_iff.mpr all,List.dropWhile_eq_nil_iff.mpr all⟩

-- Digits, and what stands in front of the zeros they begin with.
theorem significant_le (chars : List Char) : (chars.dropWhile fun char => char == '0').length ≤ chars.length :=
  (List.dropWhile_sublist _).length_le

theorem finiteDecimal_whole {negative : Bool} {whole : List Char} (digits : whole.all Char.isDigit = true) (some : whole ≠ [])
    (short : (whole.length : ℤ) ≤ largestAdjusted) : finiteDecimal negative whole = .some (.finite negative (digitsValue whole) 0) := by
  obtain ⟨front,behind⟩ := takeWhile_digits digits
  have fewer := significant_le whole
  have positive : 0 < whole.length := List.length_pos_iff.mpr some
  have bounds : whole ++ [] ≠ [] ∧ smallestExponent ≤ (0 : ℤ) - (([] : List Char).length : ℤ) ∧
      (0 : ℤ) - (([] : List Char).length : ℤ) + ((max 1 ((whole ++ []).dropWhile fun char => char == '0').length : ℕ) : ℤ) - 1 ≤ largestAdjusted := by
    rw [List.append_nil,List.length_nil]
    refine ⟨some,by decide,by omega⟩
  simp only [finiteDecimal,front,behind,List.head?_nil,reduceCtorEq,if_false,decimalExponent,Option.bind_eq_bind,Option.bind_some]
  rw [if_pos bounds,List.append_nil,List.length_nil]
  rfl

theorem finiteDecimal_point {negative : Bool} {whole fraction : List Char} (digits : whole.all Char.isDigit = true) (some : whole ≠ [])
    (rest : fraction.all Char.isDigit = true) (short : (whole.length : ℤ) ≤ largestAdjusted) (low : smallestExponent ≤ -(fraction.length : ℤ)) :
    finiteDecimal negative (whole ++ '.' :: fraction) = .some (.finite negative (digitsValue (whole ++ fraction)) (-(fraction.length : ℤ))) := by
  have all := List.all_eq_true.mp digits
  have front : (whole ++ '.' :: fraction).takeWhile Char.isDigit = whole := by
    rw [List.takeWhile_append_of_pos all]
    simp
  have behind : (whole ++ '.' :: fraction).dropWhile Char.isDigit = '.' :: fraction := by
    rw [List.dropWhile_append_of_pos all]
    rfl
  obtain ⟨taken,left⟩ := takeWhile_digits rest
  have length : (whole ++ fraction).length = whole.length + fraction.length := List.length_append
  have fewer := significant_le (whole ++ fraction)
  have positive : 0 < whole.length := List.length_pos_iff.mpr some
  have bounds : whole ++ fraction ≠ [] ∧ smallestExponent ≤ (0 : ℤ) - (fraction.length : ℤ) ∧
      (0 : ℤ) - (fraction.length : ℤ) + ((max 1 ((whole ++ fraction).dropWhile fun char => char == '0').length : ℕ) : ℤ) - 1 ≤ largestAdjusted :=
    ⟨by simp [some],by omega,by omega⟩
  simp only [finiteDecimal,front,behind,List.head?_cons,List.tail_cons,if_true,taken,left,decimalExponent,Option.bind_eq_bind,Option.bind_some]
  rw [if_pos bounds,zero_sub]

theorem decimalOfText_plain {chars : List Char} (plain : ∀ char ∈ chars, isPlain char = true) (negative : Bool)
    (digit : chars.head?.any Char.isDigit = true) :
    decimalOfText (String.ofList ((if negative then ['-'] else []) ++ chars)) = finiteDecimal negative chars := by
  obtain ⟨head,rest,rfl⟩ : ∃ head rest, chars = head :: rest := by
    cases chars with
    | nil => cases digit
    | cons head rest => exact ⟨head,rest,rfl⟩
  have first : head.isDigit = true := digit
  have signed : ∀ char ∈ (if negative then ['-'] else []) ++ head :: rest, isPlain char = true := by
    intro char member
    rcases List.mem_append.mp member with sign | other
    · cases negative with
      | true => rw [List.mem_singleton.mp sign]; rfl
      | false => cases sign
    · exact plain char other
  have letters : ∀ letter : Char, letter.isDigit = false → head ≠ letter := by
    rintro letter other rfl
    rw [first] at other
    cases other
  have number : ∀ flag : Bool, (if head :: rest = "inf".toList ∨ head :: rest = "infinity".toList then some (PyDecimal.inf flag)
      else
        let quiet := if (head :: rest).head? = some 's' then (head :: rest).tail else head :: rest
        if quiet.take 3 = "nan".toList ∧ (quiet.drop 3).all Char.isDigit = true then some .nan
        else finiteDecimal flag (head :: rest)) = finiteDecimal flag (head :: rest) := by
    intro flag
    have infinite : ¬ (head :: rest = "inf".toList ∨ head :: rest = "infinity".toList) := by
      rintro (same | same)
      · exact letters 'i' rfl (List.cons.inj same).1
      · exact letters 'i' rfl (List.cons.inj same).1
    have signalling : ¬ (head :: rest).head? = some 's' := fun same => letters 's' rfl (Option.some.inj same)
    have quiet : ¬ ((head :: rest).take 3 = "nan".toList ∧ ((head :: rest).drop 3).all Char.isDigit = true) :=
      fun same => letters 'n' rfl (List.cons.inj same.1).1
    rw [if_neg infinite]
    dsimp only
    rw [if_neg signalling,if_neg quiet]
  unfold decimalOfText
  rw [strip_plain signed,lower_plain signed,String.toList_ofList,marks_plain signed]
  cases negative with
  | true => exact number true
  | false =>
    simp only [Bool.false_eq_true,if_false,List.nil_append]
    split
    · rename_i same
      exact absurd (List.cons.inj same).1 (letters '-' rfl)
    · rename_i same
      exact absurd (List.cons.inj same).1 (letters '+' rfl)
    · exact number false

section normal
variable {coefficient : ℕ} {exponent : ℤ}

theorem all_wholeText (number : ℕ) : (wholeText number).all Char.isDigit = true := all_padded ..

theorem wholeText_ne_nil (number : ℕ) : wholeText number ≠ [] := by
  apply List.ne_nil_of_length_pos
  rw [wholeText,length_padded]
  exact Nat.succ_pos _

theorem plain_digits {chars : List Char} (digits : chars.all Char.isDigit = true) : ∀ char ∈ chars, isPlain char = true := by
  intro char member
  unfold isPlain
  rw [List.all_eq_true.mp digits char member]
  rfl

theorem head_digit {chars : List Char} (digits : chars.all Char.isDigit = true) (some : chars ≠ []) (others : List Char) :
    (chars ++ others).head?.any Char.isDigit = true := by
  cases chars with
  | nil => exact absurd rfl some
  | cons head rest => exact List.all_eq_true.mp digits head List.mem_cons_self

-- The digits of a number written with a fraction of a fixed length
theorem digitsValue_append (one two : List Char) : digitsValue (one ++ two) = digitsValue one * 10 ^ two.length + digitsValue two := by
  induction two using List.reverseRecOn with
  | nil => simp [digitsValue]
  | append_singleton rest last ih =>
    rw [← List.append_assoc,digitsValue_snoc,ih,digitsValue_snoc,List.length_append,List.length_singleton,Nat.pow_succ]
    ring

-- A normalized number reads back from its text with its own value.
theorem decimalOfText_fixedPoint (negative : Bool) (normal : Normal coefficient exponent) :
    ∃ read place, decimalOfText (String.ofList (fixedPoint negative coefficient exponent)) = some (.finite negative read place) ∧
      scaled read place = scaled coefficient exponent := by
  obtain ⟨digits,low,high⟩ := normal.bounds
  unfold fixedPoint
  by_cases whole : 0 ≤ exponent
  · rw [if_pos whole]
    have plain := plain_digits (all_wholeText (coefficient * 10 ^ exponent.toNat))
    have first := head_digit (all_wholeText (coefficient * 10 ^ exponent.toNat)) (wholeText_ne_nil _) []
    rw [List.append_nil] at first
    have shift := scaled_shift coefficient 0 exponent.toNat
    have length : ((wholeText (coefficient * 10 ^ exponent.toNat)).length : ℤ) ≤ largestAdjusted := by
      have bound : digitCount (coefficient * 10 ^ exponent.toNat) ≤ digitCount coefficient + exponent.toNat := by
        apply (digitCount_le (Nat.add_pos_left (Nat.succ_pos _) _)).mpr
        rw [Nat.pow_add]
        exact Nat.mul_lt_mul_of_pos_right (lt_pow_digitCount coefficient) (Nat.pow_pos (by decide))
      rw [wholeText,length_padded]
      unfold largestAdjusted decimalEmax decimalPrecision at *
      omega
    refine ⟨coefficient * 10 ^ exponent.toNat,0,?_,?_⟩
    · rw [decimalOfText_plain plain negative first,finiteDecimal_whole (all_wholeText _) (wholeText_ne_nil _) length,digitsValue_wholeText]
    · rw [shift]
      congr 1
      omega
  · rw [if_neg whole]
    have plain : ∀ char ∈ wholeText (coefficient / 10 ^ (-exponent).toNat) ++ '.' :: padded (-exponent).toNat coefficient, isPlain char = true := by
      intro char member
      rcases List.mem_append.mp member with front | behind
      · exact plain_digits (all_wholeText _) char front
      · rcases List.mem_cons.mp behind with rfl | fraction
        · rfl
        · exact plain_digits (all_padded ..) char fraction
    have first := head_digit (all_wholeText (coefficient / 10 ^ (-exponent).toNat)) (wholeText_ne_nil _)
      ('.' :: padded (-exponent).toNat coefficient)
    have length : ((wholeText (coefficient / 10 ^ (-exponent).toNat)).length : ℤ) ≤ largestAdjusted := by
      have fewer : digitCount (coefficient / 10 ^ (-exponent).toNat) ≤ digitCount coefficient :=
        Nat.succ_le_succ (Nat.log_mono_right (Nat.div_le_self ..))
      rw [wholeText,length_padded]
      unfold largestAdjusted decimalPrecision at *
      omega
    have least : smallestExponent ≤ -((padded (-exponent).toNat coefficient).length : ℤ) := by
      rw [length_padded]
      unfold smallestExponent decimalEtiny at *
      omega
    refine ⟨_,_,by rw [decimalOfText_plain plain negative first,finiteDecimal_point (all_wholeText _) (wholeText_ne_nil _) (all_padded ..) length least],?_⟩
    rw [digitsValue_append,digitsValue_wholeText,digitsValue_padded,length_padded,Nat.div_add_mod']
    congr 1
    omega

theorem stripEnd_kept {mark last : Char} (unlike : last ≠ mark) (chars : List Char) : stripEnd mark (chars ++ [last]) = chars ++ [last] := by
  unfold stripEnd
  rw [List.reverse_append,List.reverse_singleton,List.singleton_append,List.dropWhile_cons_of_neg (by simpa using unlike),
    List.reverse_cons,List.reverse_reverse]

-- Nothing is cut off its text.
theorem trimFraction_fixedPoint (negative : Bool) (normal : Normal coefficient exponent) :
    trimFraction (fixedPoint negative coefficient exponent) = fixedPoint negative coefficient exponent ∧
      fixedPoint negative coefficient exponent ≠ [] := by
  have pointless : ∀ char : Char, char.isDigit = true → char ≠ '.' := by
    rintro char isDigit rfl
    cases isDigit
  have signless : (if negative then ['-'] else []).contains '.' = false := by cases negative <;> rfl
  unfold trimFraction fixedPoint
  by_cases whole : 0 ≤ exponent
  · rw [if_pos whole]
    have none : (wholeText (coefficient * 10 ^ exponent.toNat)).contains '.' = false := by
      rw [List.contains_eq_mem,decide_eq_false_iff_not]
      exact fun member => pointless '.' (List.all_eq_true.mp (all_wholeText _) '.' member) rfl
    have clear : ((if negative then ['-'] else []) ++ wholeText (coefficient * 10 ^ exponent.toNat)).contains '.' = false := by
      rw [List.contains_append,signless,none]
      rfl
    rw [clear]
    exact ⟨rfl,List.append_ne_nil_of_right_ne_nil _ (wholeText_ne_nil _)⟩
  · rw [if_neg whole]
    have point : ((if negative then ['-'] else []) ++ (wholeText (coefficient / 10 ^ (-exponent).toNat) ++
        '.' :: padded (-exponent).toNat coefficient)).contains '.' = true := by simp
    rw [point,if_pos rfl]
    have ends : coefficient % 10 ≠ 0 := by
      rcases normal.ends with ends | ⟨_,zero⟩
      · exact ends
      · omega
    obtain ⟨places,count⟩ : ∃ places, (-exponent).toNat = places + 1 := ⟨(-exponent).toNat - 1,by omega⟩
    have last : (if negative then ['-'] else []) ++ (wholeText (coefficient / 10 ^ (-exponent).toNat) ++ '.' :: padded (-exponent).toNat coefficient) =
        ((if negative then ['-'] else []) ++ (wholeText (coefficient / 10 ^ (-exponent).toNat) ++ '.' :: padded places (coefficient / 10))) ++ [digit coefficient] := by
      rw [count,padded]
      simp
    have read := (digit_facts coefficient).2
    have zero : digit coefficient ≠ '0' := by
      intro same
      rw [same] at read
      exact ends read.symm
    rw [last,stripEnd_kept zero,stripEnd_kept (pointless _ (digit_facts coefficient).1)]
    exact ⟨rfl,List.append_ne_nil_of_right_ne_nil _ (List.cons_ne_nil _ _)⟩

end normal

end LongBridge
