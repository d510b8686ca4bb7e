import LongBridge.Python.Numbers

namespace LongBridge

-- Decimal digits of a fixed width, and the number they read back as.
def digit (value : ℕ) : Char := Char.ofNat (48 + value % 10)

def padded : ℕ → ℕ → List Char
  | 0,_ => []
  | width + 1,value => padded width (value / 10) ++ [digit value]

def readDigits (width : ℕ) (chars : List Char) : Option (ℕ × List Char) :=
  if (chars.take width).length = width ∧ (chars.take width).all Char.isDigit = true then
    some (digitsValue (chars.take width),chars.drop width)
  else none

theorem digit_facts (value : ℕ) : (digit value).isDigit = true ∧ (digit value).toNat - 48 = value % 10 := by
  have all : ∀ rest < 10, (Char.ofNat (48 + rest)).isDigit = true ∧ (Char.ofNat (48 + rest)).toNat - 48 = rest := by decide
  exact all (value % 10) (Nat.mod_lt _ (by decide))

@[simp] theorem length_padded (width value : ℕ) : (padded width value).length = width := by
  induction width generalizing value with
  | zero => rfl
  | succ width ih => rw [padded,List.length_append,ih]; rfl

theorem all_padded (width value : ℕ) : (padded width value).all Char.isDigit = true := by
  induction width generalizing value with
  | zero => rfl
  | succ width ih => rw [padded,List.all_append,ih]; simp [digit_facts]

theorem digitsValue_snoc (chars : List Char) (char : Char) :
    digitsValue (chars ++ [char]) = digitsValue chars * 10 + (char.toNat - 48) := by
  unfold digitsValue
  rw [List.foldl_append]; rfl

theorem digitsValue_padded (width value : ℕ) : digitsValue (padded width value) = value % 10 ^ width := by
  induction width generalizing value with
  | zero => simp [padded,digitsValue,Nat.mod_one]
  | succ width ih =>
    rw [padded,digitsValue_snoc,ih,(digit_facts value).2,Nat.pow_succ,Nat.mul_comm (10 ^ width),Nat.mod_mul]
    omega

theorem readDigits_padded (width value : ℕ) (rest : List Char) :
    readDigits width (padded width value ++ rest) = some (value % 10 ^ width,rest) := by
  unfold readDigits
  rw [List.take_left' (length_padded ..),List.drop_left' (length_padded ..),if_pos ⟨length_padded ..,all_padded ..⟩,digitsValue_padded]

theorem padded_injective {width one two : ℕ} (small : one < 10 ^ width) (below : two < 10 ^ width)
    (same : padded width one = padded width two) : one = two := by
  have equal := congrArg digitsValue same
  rwa [digitsValue_padded,digitsValue_padded,Nat.mod_eq_of_lt small,Nat.mod_eq_of_lt below] at equal

-- The proleptic Gregorian calendar. A date is its ordinal: 1 is 0001-01-01.
@[ext] structure Civil where
  year : ℕ
  month : ℕ
  day : ℕ
  deriving DecidableEq

def isLeap (year : ℕ) : Bool := year % 4 == 0 && (year % 100 != 0 || year % 400 == 0)

def daysBeforeYear (year : ℕ) : ℕ := (year - 1) * 365 + (year - 1) / 4 - (year - 1) / 100 + (year - 1) / 400

def monthStarts : List ℕ := [0,31,59,90,120,151,181,212,243,273,304,334]

def monthLengths : List ℕ := [31,28,31,30,31,30,31,31,30,31,30,31]

def daysBeforeMonth (leap : Bool) (month : ℕ) : ℕ := monthStarts.getD (month - 1) 0 + if leap && decide (2 < month) then 1 else 0

def daysInMonth (leap : Bool) (month : ℕ) : ℕ := monthLengths.getD (month - 1) 0 + if leap && decide (month = 2) then 1 else 0

def lastYear : ℕ := 9999

def lastOrdinal : ℕ := 3652059

structure Civil.Valid (civil : Civil) : Prop where
  year : 1 ≤ civil.year ∧ civil.year ≤ lastYear
  month : 1 ≤ civil.month ∧ civil.month ≤ 12
  day : 1 ≤ civil.day ∧ civil.day ≤ daysInMonth (isLeap civil.year) civil.month

instance (civil : Civil) : Decidable civil.Valid :=
  decidable_of_iff ((1 ≤ civil.year ∧ civil.year ≤ lastYear) ∧ (1 ≤ civil.month ∧ civil.month ≤ 12) ∧
    (1 ≤ civil.day ∧ civil.day ≤ daysInMonth (isLeap civil.year) civil.month))
    ⟨fun ⟨year,month,day⟩ => ⟨year,month,day⟩,fun ⟨year,month,day⟩ => ⟨year,month,day⟩⟩

def ordinalOf (civil : Civil) : ℕ :=
  daysBeforeYear civil.year + daysBeforeMonth (isLeap civil.year) civil.month + civil.day

-- The month and the day in it of the day of a year that has `index` days before it.
def monthDay (leap : Bool) (index : ℕ) : ℕ × ℕ :=
  let guess := (index + 50) / 32
  if index < daysBeforeMonth leap guess then (guess - 1,index - daysBeforeMonth leap (guess - 1) + 1)
  else (guess,index - daysBeforeMonth leap guess + 1)

def civilOf (ordinal : ℕ) : Civil :=
  let days := ordinal - 1
  let n400 := days / 146097
  let r400 := days % 146097
  let n100 := r400 / 36524
  let r100 := r400 % 36524
  let n4 := r100 / 1461
  let r4 := r100 % 1461
  let n1 := r4 / 365
  let r1 := r4 % 365
  let year := n400 * 400 + 1 + n100 * 100 + n4 * 4 + n1
  if n1 = 4 ∨ n100 = 4 then ⟨year - 1,12,31⟩
  else ⟨year,(monthDay (isLeap year) r1).1,(monthDay (isLeap year) r1).2⟩

theorem monthDay_facts : ∀ leap, ∀ index < 365, (1 ≤ (monthDay leap index).1 ∧ (monthDay leap index).1 ≤ 12) ∧
    (1 ≤ (monthDay leap index).2 ∧ (monthDay leap index).2 ≤ daysInMonth leap (monthDay leap index).1) ∧
    daysBeforeMonth leap (monthDay leap index).1 + (monthDay leap index).2 = index + 1 := by
  decide +kernel

theorem isLeap_parts {n400 n100 n4 n1 : ℕ} (centuries : n100 ≤ 3) (fours : n4 ≤ 24) (years : n1 ≤ 3) :
    isLeap (n400 * 400 + 1 + n100 * 100 + n4 * 4 + n1) = decide (n1 = 3 ∧ (n4 = 24 → n100 = 3)) := by
  have four : (n400 * 400 + 1 + n100 * 100 + n4 * 4 + n1) % 4 = (n1 + 1) % 4 := by omega
  have hundred : (n400 * 400 + 1 + n100 * 100 + n4 * 4 + n1) % 100 = (n4 * 4 + n1 + 1) % 100 := by omega
  have rest : (n400 * 400 + 1 + n100 * 100 + n4 * 4 + n1) % 400 = (n100 * 100 + n4 * 4 + n1 + 1) % 400 := by omega
  unfold isLeap
  rw [four,hundred,rest,Bool.eq_iff_iff]
  simp only [Bool.and_eq_true,Bool.or_eq_true,beq_iff_eq,bne_iff_ne,decide_eq_true_eq]
  omega

theorem daysBeforeYear_parts (n400 : ℕ) {n100 n4 n1 : ℕ} (centuries : n100 ≤ 3) (fours : n4 ≤ 24) (years : n1 ≤ 3) :
    daysBeforeYear (n400 * 400 + 1 + n100 * 100 + n4 * 4 + n1) = n400 * 146097 + n100 * 36524 + n4 * 1461 + n1 * 365 := by
  unfold daysBeforeYear
  omega

-- The last day of a leap year.
theorem leapEnd_ordinal {year : ℕ} (leap : isLeap year = true) : ordinalOf ⟨year,12,31⟩ = daysBeforeYear year + 366 := by
  unfold ordinalOf
  rw [leap]; rfl

theorem leapEnd_valid {year : ℕ} (leap : isLeap year = true) (positive : 1 ≤ year) (bound : year ≤ lastYear) :
    Civil.Valid ⟨year,12,31⟩ := by
  have last : daysInMonth (isLeap year) 12 = 31 := by rw [leap]; rfl
  exact ⟨⟨positive,bound⟩,⟨Nat.le_of_ble_eq_true rfl,Nat.le_refl _⟩,⟨Nat.le_of_ble_eq_true rfl,last.ge⟩⟩

theorem civilOf_facts {ordinal : ℕ} (positive : 1 ≤ ordinal) (bound : ordinal ≤ lastOrdinal) :
    (civilOf ordinal).Valid ∧ ordinalOf (civilOf ordinal) = ordinal := by
  have limit : ordinal ≤ 3652059 := bound
  unfold civilOf
  extract_lets days n400 r400 n100 r100 n4 r4 n1 r1 year
  have split400 : days = n400 * 146097 + r400 ∧ r400 < 146097 := by omega
  have split100 : r400 = n100 * 36524 + r100 ∧ r100 < 36524 := by omega
  have split4 : r100 = n4 * 1461 + r4 ∧ r4 < 1461 := by omega
  have split1 : r4 = n1 * 365 + r1 ∧ r1 < 365 := by omega
  have start : days + 1 = ordinal := by omega
  have named : year = n400 * 400 + 1 + n100 * 100 + n4 * 4 + n1 := rfl
  clear_value days n400 r400 n100 r100 n4 r4 n1 r1 year
  have fours : n4 ≤ 24 := by omega
  split
  · rename_i last
    rcases last with four | century
    · have previous : year - 1 = n400 * 400 + 1 + n100 * 100 + n4 * 4 + 3 := by omega
      have leap : isLeap (year - 1) = true := by
        rw [previous,isLeap_parts (by omega) fours (by omega)]
        exact decide_eq_true ⟨rfl,by omega⟩
      refine ⟨leapEnd_valid leap (by omega) (by unfold lastYear; omega),?_⟩
      rw [leapEnd_ordinal leap,previous,daysBeforeYear_parts _ (by omega) fours (by omega)]
      omega
    · have previous : year - 1 = n400 * 400 + 1 + 3 * 100 + 24 * 4 + 3 := by omega
      have leap : isLeap (year - 1) = true := by
        rw [previous,isLeap_parts (by omega) (by omega) (by omega)]
        exact decide_eq_true ⟨rfl,fun _ => rfl⟩
      refine ⟨leapEnd_valid leap (by omega) (by unfold lastYear; omega),?_⟩
      rw [leapEnd_ordinal leap,previous,daysBeforeYear_parts _ (by omega) (by omega) (by omega)]
      omega
  · rename_i plain
    obtain ⟨month,day,index⟩ := monthDay_facts (isLeap year) r1 split1.2
    refine ⟨⟨⟨by dsimp only; omega,?_⟩,month,day⟩,?_⟩
    · change year ≤ 9999; omega
    · have before : daysBeforeYear year = n400 * 146097 + n100 * 36524 + n4 * 1461 + n1 * 365 := by
        rw [named]; exact daysBeforeYear_parts _ (by omega) fours (by omega)
      change daysBeforeYear year + daysBeforeMonth (isLeap year) (monthDay (isLeap year) r1).1 +
        (monthDay (isLeap year) r1).2 = ordinal
      omega

-- `date.isoformat()`
def dateText (ordinal : ℕ) : String :=
  let civil := civilOf ordinal
  String.ofList (padded 4 civil.year ++ '-' :: (padded 2 civil.month ++ '-' :: padded 2 civil.day))

theorem length_dateText (ordinal : ℕ) : (dateText ordinal).toList.length = 10 := by
  simp [dateText]

theorem monthLength_le : ∀ leap, ∀ month, 1 ≤ month ∧ month ≤ 12 → daysInMonth leap month ≤ 31 := by
  intro leap month bounds
  have all : ∀ leap, ∀ month < 13, daysInMonth leap month ≤ 31 := by decide
  exact all leap month (by omega)

theorem Civil.Valid.small {civil : Civil} (valid : civil.Valid) : civil.year < 10 ^ 4 ∧ civil.month < 10 ^ 2 ∧ civil.day < 10 ^ 2 := by
  have year : civil.year ≤ 9999 := valid.year.2
  have month := valid.month
  have day := valid.day
  have length := monthLength_le (isLeap civil.year) civil.month month
  omega

theorem dateText_injective {one two : ℕ} (first : 1 ≤ one ∧ one ≤ lastOrdinal) (second : 1 ≤ two ∧ two ≤ lastOrdinal)
    (same : dateText one = dateText two) : one = two := by
  obtain ⟨valid,back⟩ := civilOf_facts first.1 first.2
  obtain ⟨other,again⟩ := civilOf_facts second.1 second.2
  have equal := String.ofList_injective same
  obtain ⟨years,rest⟩ := List.append_inj equal (by simp)
  obtain ⟨months,days⟩ := List.append_inj (List.cons.inj rest).2 (by simp)
  have year := padded_injective valid.small.1 other.small.1 years
  have month := padded_injective valid.small.2.1 other.small.2.1 months
  have day := padded_injective valid.small.2.2 other.small.2.2 (List.cons.inj days).2
  rw [← back,← again,Civil.ext year month day]

end LongBridge
