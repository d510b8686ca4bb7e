import LongBridge.Python.Dates

namespace LongBridge

-- Times in microseconds: a clock reading since midnight, an instant since 0001-01-01T00:00Z.
def secondSpan : ℤ := 1000000

def minuteSpan : ℤ := 60000000

def hourSpan : ℤ := 3600000000

def daySpan : ℤ := 86400000000

def lastInstant : ℤ := lastOrdinal * daySpan

structure Clock where
  hour : ℕ
  minute : ℕ
  second : ℕ
  micro : ℕ
  deriving DecidableEq

namespace Clock

def span (clock : Clock) : ℤ := clock.hour * hourSpan + clock.minute * minuteSpan + clock.second * secondSpan + clock.micro

def ofSpan (micros : ℕ) : Clock := ⟨micros / 3600000000,micros / 60000000 % 60,micros / 1000000 % 60,micros % 1000000⟩

def text (clock : Clock) : List Char :=
  padded 2 clock.hour ++ ':' :: (padded 2 clock.minute ++ ':' :: (padded 2 clock.second ++
    if clock.micro = 0 then [] else '.' :: padded 6 clock.micro))

end Clock

def utcOrdinal (instant : ℤ) : ℕ := (instant / daySpan).toNat + 1

def utcClock (instant : ℤ) : Clock := .ofSpan (instant % daySpan).toNat

-- `datetime.isoformat()` of an instant in UTC
def isoformat (instant : ℤ) : String :=
  String.ofList ((dateText (utcOrdinal instant)).toList ++ 'T' :: ((utcClock instant).text ++ ['+','0','0',':','0','0']))

-- What `datetime.fromisoformat` reads: a wall time, and the offset from UTC if there is one.
structure Stamp where
  wall : ℤ
  offset : Option ℤ
  deriving DecidableEq

-- Where the date ends.
def dateEnd (chars : List Char) : Option ℕ :=
  let length := chars.length
  if length < 7 then none
  else if length = 7 then some 7
  else if chars.getD 4 ' ' = '-' then
    if chars.getD 5 ' ' ≠ 'W' then some 10
    else if chars.getD 8 ' ' ≠ '-' then some 8
    else if length = 9 then none
    else if (chars.getD 10 ' ').isDigit then some 8
    else some 10
  else if chars.getD 4 ' ' ≠ 'W' then some 8
  else
    let stop := 7 + ((chars.drop 7).takeWhile Char.isDigit).length
    if stop < 9 then some stop else if stop % 2 = 0 then some 7 else some 8

def isoWeekMonday (year : ℕ) : ℤ :=
  let first := ordinalOf ⟨year,1,1⟩
  let weekday := (first + 6) % 7
  (first : ℤ) - weekday + if 3 < weekday then 7 else 0

def isoWeekOrdinal (year week day : ℕ) : Option ℕ :=
  let first := ordinalOf ⟨year,1,1⟩ % 7
  let weeks := if first = 4 ∨ (first = 3 ∧ isLeap year = true) then 53 else 52
  let ordinal := (isoWeekMonday year + ((week : ℤ) - 1) * 7 + ((day : ℤ) - 1)).toNat
  if 1 ≤ year ∧ 1 ≤ week ∧ week ≤ weeks ∧ 1 ≤ day ∧ day ≤ 7 ∧ ordinal ≤ lastOrdinal then some ordinal else none

-- The dash before the next part stands exactly if there was one after the year.
def skipDash (dashed : Bool) (chars : List Char) : Option (List Char) :=
  if (chars.head? == some '-') != dashed then none else some (if dashed then chars.tail else chars)

def readWeek (dashed : Bool) (year : ℕ) (chars : List Char) : Option ℕ := do
  let (week,rest) ← readDigits 2 chars
  if rest.isEmpty then isoWeekOrdinal year week 1
  else do
    let rest ← skipDash dashed rest
    let (day,_) ← readDigits 1 rest
    isoWeekOrdinal year week day

def readDate (chars : List Char) : Option ℕ := do
  let (year,rest) ← readDigits 4 chars
  let dashed := rest.head? == some '-'
  match if dashed then rest.tail else rest with
  | 'W' :: rest => readWeek dashed year rest
  | rest => do
    let (month,rest) ← readDigits 2 rest
    let rest ← skipDash dashed rest
    let (day,_) ← readDigits 2 rest
    if Civil.Valid ⟨year,month,day⟩ then some (ordinalOf ⟨year,month,day⟩) else none

-- A fraction of a second; digits beyond the sixth are dropped.
def readFraction (chars : List Char) : Option ℕ :=
  match chars with
  | mark :: digits =>
    if (mark = '.' ∨ mark = ',') ∧ digits ≠ [] ∧ digits.all Char.isDigit = true then
      some (digitsValue (digits.take 6) * 10 ^ (6 - digits.length))
    else none
  | [] => some 0

-- HH, HH:MM, HH:MM:SS with a fraction, or the same without colons
def readClock (chars : List Char) : Option Clock := do
  let (hour,rest) ← readDigits 2 chars
  if rest.isEmpty then some ⟨hour,0,0,0⟩
  else do
    let parted := rest.head? == some ':'
    let (minute,rest) ← readDigits 2 (if parted then rest.tail else rest)
    if rest.isEmpty then some ⟨hour,minute,0,0⟩
    else if parted && rest.head? != some ':' then none
    else do
      let (second,rest) ← readDigits 2 (if parted then rest.tail else rest)
      let micro ← readFraction rest
      some ⟨hour,minute,second,micro⟩

def startsZone (char : Char) : Bool := char == '+' || char == '-' || char == 'Z'

def readZone : List Char → Option (Option ℤ)
  | [] => some none
  | 'Z' :: rest => if rest.isEmpty then some (some 0) else none
  | sign :: rest => do
    let clock ← readClock rest
    if clock.span < daySpan then some (some (if sign = '-' then -clock.span else clock.span)) else none

-- 24:00 is the midnight after.
def Clock.isTime (clock : Clock) : Bool :=
  decide (clock.hour ≤ 23 ∧ clock.minute ≤ 59 ∧ clock.second ≤ 59) || decide (clock = ⟨24,0,0,0⟩)

def fromisoformat (text : String) : Option Stamp := do
  let chars := text.toList
  let stop ← dateEnd chars
  let ordinal ← readDate (chars.take stop)
  match chars.drop (stop + 1) with
  | [] => some ⟨(ordinal - 1 : ℤ) * daySpan,none⟩
  | rest => do
    let clock ← readClock (rest.takeWhile fun char => !startsZone char)
    let offset ← readZone (rest.dropWhile fun char => !startsZone char)
    let wall := (ordinal - 1 : ℤ) * daySpan + clock.span
    if clock.isTime && decide (wall < lastInstant) then some ⟨wall,offset⟩ else none

section RoundTrip

variable {instant : ℤ}

theorem utc_split (positive : 0 ≤ instant) (bound : instant < lastInstant) :
    (1 ≤ utcOrdinal instant ∧ utcOrdinal instant ≤ lastOrdinal) ∧ (utcClock instant).isTime = true ∧
      ((utcOrdinal instant : ℤ) - 1) * daySpan + (utcClock instant).span = instant := by
  unfold lastInstant at bound
  unfold utcOrdinal utcClock Clock.ofSpan Clock.span Clock.isTime
  unfold hourSpan minuteSpan secondSpan
  unfold daySpan at *
  refine ⟨by omega,?_,by push_cast; omega⟩
  rw [Bool.or_eq_true,decide_eq_true_eq]
  left
  dsimp only
  omega

theorem dateText_chars (ordinal : ℕ) : (dateText ordinal).toList = padded 4 (civilOf ordinal).year ++
    '-' :: (padded 2 (civilOf ordinal).month ++ '-' :: padded 2 (civilOf ordinal).day) := String.toList_ofList

theorem readDate_dateText {ordinal : ℕ} (positive : 1 ≤ ordinal) (bound : ordinal ≤ lastOrdinal) :
    readDate (dateText ordinal).toList = some ordinal := by
  obtain ⟨valid,back⟩ := civilOf_facts positive bound
  obtain ⟨year,month,day⟩ := valid.small
  have days := readDigits_padded 2 (civilOf ordinal).day []
  rw [List.append_nil] at days
  have notWeek : ∀ rest : List Char, padded 2 (civilOf ordinal).month ++ '-' :: padded 2 (civilOf ordinal).day ≠ 'W' :: rest := by
    intro rest same
    have first : digit ((civilOf ordinal).month / 10) = 'W' := (List.cons.inj same).1
    have digits := (digit_facts ((civilOf ordinal).month / 10)).1
    rw [first] at digits
    cases digits
  rw [dateText_chars,readDate,readDigits_padded]
  dsimp only [Option.bind_eq_bind,Option.bind_some]
  change (match padded 2 (civilOf ordinal).month ++ '-' :: padded 2 (civilOf ordinal).day with
    | 'W' :: rest => _
    | rest => _) = _
  split
  · rename_i rest same
    exact absurd same (notWeek rest)
  · rw [readDigits_padded]
    dsimp only [Option.bind_eq_bind,Option.bind_some]
    change (readDigits 2 (padded 2 (civilOf ordinal).day)).bind _ = _
    rw [days]
    dsimp only [Option.bind_some]
    rw [Nat.mod_eq_of_lt year,Nat.mod_eq_of_lt month,Nat.mod_eq_of_lt day,if_pos valid,back]

theorem readClock_text {clock : Clock} (hour : clock.hour < 10 ^ 2) (minute : clock.minute < 10 ^ 2)
    (second : clock.second < 10 ^ 2) (micro : clock.micro < 10 ^ 6) : readClock clock.text = some clock := by
  unfold readClock Clock.text
  rw [readDigits_padded]
  change ((readDigits 2 (padded 2 clock.minute ++ _)).bind _) = _
  rw [readDigits_padded]
  change ((readDigits 2 (padded 2 clock.second ++ _)).bind _) = _
  rw [readDigits_padded]
  dsimp only [Option.bind_some]
  rw [Nat.mod_eq_of_lt hour,Nat.mod_eq_of_lt minute,Nat.mod_eq_of_lt second]
  split
  · rename_i none
    cases clock
    subst none; rfl
  · have length := length_padded 6 clock.micro
    have fraction : readFraction ('.' :: padded 6 clock.micro) = some clock.micro := by
      unfold readFraction
      dsimp only
      have some : padded 6 clock.micro ≠ [] := by
        intro empty
        rw [empty] at length; cases length
      rw [if_pos ⟨.inl rfl,some,all_padded ..⟩,length,List.take_of_length_le length.le,digitsValue_padded,
        Nat.mod_eq_of_lt micro,Nat.sub_self,Nat.pow_zero,Nat.mul_one]
    rw [fraction]; rfl

theorem padded_plain (width value : ℕ) : ∀ char ∈ padded width value, startsZone char = false := by
  intro char member
  have digits := List.all_eq_true.mp (all_padded width value) char member
  unfold startsZone
  rw [Bool.or_eq_false_iff,Bool.or_eq_false_iff,beq_eq_false_iff_ne,beq_eq_false_iff_ne,beq_eq_false_iff_ne]
  refine ⟨⟨?_,?_⟩,?_⟩ <;> (rintro rfl; cases digits)

theorem text_plain (clock : Clock) : ∀ char ∈ clock.text, (!startsZone char) = true := by
  intro char member
  rw [Bool.not_eq_true']
  unfold Clock.text at member
  simp only [List.mem_append,List.mem_cons] at member
  rcases member with hour | rfl | minute | rfl | second | fraction
  · exact padded_plain _ _ _ hour
  · rfl
  · exact padded_plain _ _ _ minute
  · rfl
  · exact padded_plain _ _ _ second
  · split at fraction
    · cases fraction
    · rcases List.mem_cons.mp fraction with rfl | digits
      · rfl
      · exact padded_plain _ _ _ digits

theorem dateEnd_dateText (ordinal : ℕ) (rest : List Char) : dateEnd ((dateText ordinal).toList ++ 'T' :: rest) = some 10 := by
  have length : ((dateText ordinal).toList ++ 'T' :: rest).length = 11 + rest.length := by
    rw [List.length_append,length_dateText,List.length_cons]; omega
  rw [dateText_chars] at length ⊢
  have dash : ((padded 4 (civilOf ordinal).year ++ '-' :: (padded 2 (civilOf ordinal).month ++ '-' ::
      padded 2 (civilOf ordinal).day)) ++ 'T' :: rest).getD 4 ' ' = '-' := rfl
  have month : ((padded 4 (civilOf ordinal).year ++ '-' :: (padded 2 (civilOf ordinal).month ++ '-' ::
      padded 2 (civilOf ordinal).day)) ++ 'T' :: rest).getD 5 ' ' = digit ((civilOf ordinal).month / 10) := rfl
  have plain : digit ((civilOf ordinal).month / 10) ≠ 'W' := by
    intro same
    have digits := (digit_facts ((civilOf ordinal).month / 10)).1
    rw [same] at digits; cases digits
  unfold dateEnd
  rw [dash,month]
  dsimp only
  rw [if_neg (by omega),if_neg (by omega),if_pos rfl,if_pos plain]

-- An instant reads back from its text.
theorem fromisoformat_isoformat (positive : 0 ≤ instant) (bound : instant < lastInstant) :
    fromisoformat (isoformat instant) = some ⟨instant,some 0⟩ := by
  obtain ⟨⟨first,last⟩,time,whole⟩ := utc_split positive bound
  have length := length_dateText (utcOrdinal instant)
  have behind : ((dateText (utcOrdinal instant)).toList ++ 'T' :: ((utcClock instant).text ++ ['+','0','0',':','0','0'])).drop 11 =
      (utcClock instant).text ++ ['+','0','0',':','0','0'] := by
    rw [List.append_cons]
    exact List.drop_left' (by rw [List.length_append,length]; rfl)
  have clock : readClock (utcClock instant).text = some (utcClock instant) := by
    unfold utcClock Clock.ofSpan daySpan
    apply readClock_text <;> (dsimp only; omega)
  unfold fromisoformat isoformat
  rw [String.toList_ofList]
  dsimp only [Option.bind_eq_bind]
  rw [dateEnd_dateText]
  dsimp only [Option.bind_some]
  rw [List.take_left' length,readDate_dateText first last]
  dsimp only [Option.bind_some]
  rw [behind]
  split
  · rename_i empty
    have wrong := congrArg List.length empty
    simp at wrong
  · rw [List.takeWhile_append_of_pos (text_plain _),List.dropWhile_append_of_pos (text_plain _)]
    change ((readClock ((utcClock instant).text ++ [])).bind _) = _
    rw [List.append_nil,clock]
    change (if _ then some _ else none) = _
    rw [whole,time,decide_eq_true bound]
    rfl

end RoundTrip

end LongBridge
