import Mathlib.Tactic.IntervalCases
import LongBridge.Python.Conversions
import LongBridge.Python.Urls
import LongBridge.Python.Zones
import LongBridge.Python.Symbols

namespace LongBridge.Schedule

-- int(text): digits with single underscores between them, and a sign before them.
def digitsOf (chars : List Char) : Option ℕ :=
  if chars.all (fun char => char.isDigit || char == '_') && (chars.head?.any Char.isDigit) && (chars.getLast?.any Char.isDigit) &&
      !(chars.zip chars.tail).contains ('_','_') then some (digitsValue (chars.filter Char.isDigit))
  else none

def wholeNumber (chars : List Char) : Option ℤ :=
  match trimmed chars with
  | '-' :: rest => (digitsOf rest).map fun value : ℕ => -(value : ℤ)
  | '+' :: rest => (digitsOf rest).map fun value : ℕ => (value : ℤ)
  | rest => (digitsOf rest).map fun value : ℕ => (value : ℤ)

def readWhole (chars : List Char) : Except PyExc ℤ :=
  match wholeNumber chars with
  | some value => .ok value
  | none => .error ⟨"ValueError","invalid literal for int() with base 10: '" ++ String.ofList chars ++ "'"⟩

-- text.split(mark)
def splitMarks (mark : Char) : List Char → List (List Char)
  | [] => [[]]
  | char :: rest =>
    if char = mark then [] :: splitMarks mark rest
    else match splitMarks mark rest with
      | first :: others => (char :: first) :: others
      | [] => [[char]]

-- text.split()
def words (text : String) : List (List Char) := (text.toList.splitOnP isSpace).filter (· ≠ [])

-- range(start, stop + 1, step)
def spaced (start stop step : ℤ) : List ℤ :=
  (List.range (if stop < start then 0 else ((stop - start) / step + 1).toNat)).map fun index : ℕ => start + (index : ℤ) * step

-- `_cron_token_value`
def cronTokenValue (names : List (String × ℤ)) (token : List Char) : Except PyExc ℤ :=
  let normalized := (trimmed token).map Char.toLower
  match names.lookup (String.ofList normalized) with
  | some value => .ok value
  | none => readWhole normalized

structure FieldRange where
  minimum : ℤ
  maximum : ℤ
  names : List (String × ℤ)

def FieldRange.admit (range : FieldRange) (value : ℤ) : Option ℤ :=
  if range.minimum ≤ value ∧ value ≤ range.maximum then some value
  else if range.maximum = 6 ∧ value = 7 then some 0
  else none

def cronBase (range : FieldRange) (base : List Char) : Except PyExc (ℤ × ℤ) :=
  if base = ['*'] then .ok (range.minimum,range.maximum)
  else match partitionAt '-' base with
    | (rawStart,true,rawEnd) => do
      let start ← cronTokenValue range.names rawStart
      let stop ← cronTokenValue range.names rawEnd
      return (start,stop)
    | _ => do
      let value ← cronTokenValue range.names base
      return (value,value)

def cronPart (range : FieldRange) (part : List Char) : Except PyExc (List ℤ) := do
  let (base,stepped,rawStep) := partitionAt '/' part
  let step ← readWhole (if stepped then rawStep else ['1'])
  let (start,stop) ← cronBase range base
  return (spaced start stop (max 1 step)).filterMap range.admit

-- `_cron_field_values`: none is a field that admits everything.
def cronFieldValues (range : FieldRange) (field : List Char) : Except PyExc (Option (List ℤ)) :=
  let text := (trimmed field).map Char.toLower
  if text = [] ∨ text = ['*'] then .ok none
  else do
    let values ← (((splitMarks ',' text).map trimmed).filter (· ≠ [])).mapM (cronPart range)
    return some values.flatten

def minuteRange : FieldRange := ⟨0,59,[]⟩

def hourRange : FieldRange := ⟨0,23,[]⟩

def dayOfMonthRange : FieldRange := ⟨1,31,[]⟩

def monthRange : FieldRange := ⟨1,12,[]⟩

def dayOfWeekRange : FieldRange := ⟨0,6,[("sun",0),("mon",1),("tue",2),("wed",3),("thu",4),("fri",5),("sat",6)]⟩

structure CronFields where
  minute : Option (List ℤ)
  hour : Option (List ℤ)
  dayOfMonth : Option (List ℤ)
  month : Option (List ℤ)
  dayOfWeek : Option (List ℤ)

def readCron (minute hour dayOfMonth month dayOfWeek : List Char) : Except PyExc CronFields := do
  let minute ← cronFieldValues minuteRange minute
  let hour ← cronFieldValues hourRange hour
  let dayOfMonth ← cronFieldValues dayOfMonthRange dayOfMonth
  let month ← cronFieldValues monthRange month
  let dayOfWeek ← cronFieldValues dayOfWeekRange dayOfWeek
  return ⟨minute,hour,dayOfMonth,month,dayOfWeek⟩

def admits (values : Option (List ℤ)) (value : ℤ) : Bool := values.all fun values => values.contains value

def wallDay (wall : ℤ) : ℤ := (civilOf (utcOrdinal wall)).day

-- `isoweekday() % 7`: a Sunday is 0.
def wallWeekday (wall : ℤ) : ℤ := utcOrdinal wall % 7

-- Minute, hour and month of a wall time.
def CronFields.admitsTime (fields : CronFields) (wall : ℤ) : Bool :=
  admits fields.minute (utcClock wall).minute && admits fields.hour (utcClock wall).hour &&
    admits fields.month (civilOf (utcOrdinal wall)).month

def CronFields.admitsDay (fields : CronFields) (wall : ℤ) : Bool :=
  let dayMatches := admits fields.dayOfMonth (wallDay wall)
  let weekdayMatches := admits fields.dayOfWeek (wallWeekday wall)
  if fields.dayOfMonth.isSome && fields.dayOfWeek.isSome then dayMatches || weekdayMatches else dayMatches && weekdayMatches

-- `_cron_matches`
def cronMatches (schedule : String) (wall : ℤ) : Except PyExc Bool :=
  match words schedule with
  | [minute,hour,dayOfMonth,month,dayOfWeek] => do
    let fields ← readCron minute hour dayOfMonth month dayOfWeek
    return fields.admitsTime wall && fields.admitsDay wall
  | _ => .ok false

def upperLetters : List Char := "ABCDEFGHIJKLMNOPQRSTUVWXYZ".toList

theorem toLower_cases (char : Char) : char.toLower = char ∨ char ∈ upperLetters := by
  unfold Char.toLower
  split
  · rename_i inside
    right
    obtain ⟨low,high⟩ := inside
    have lower : 65 ≤ char.toNat := low
    have upper : char.toNat ≤ 90 := high
    have same : char = Char.ofNat char.toNat := (Char.ofNat_toNat char).symm
    generalize char.toNat = code at lower upper same
    subst same
    interval_cases code <;> decide
  · left; rfl

end LongBridge.Schedule
