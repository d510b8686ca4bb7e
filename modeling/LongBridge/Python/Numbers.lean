import Mathlib.Tactic.Linarith
import Mathlib.Algebra.Order.Floor.Ring
import Mathlib.Data.Int.Log
import LongBridge.Python.Text

namespace LongBridge

-- round(x, digits): to the nearest decimal, a tie to the even last digit.
def roundHalfEven (value : ℚ) : ℤ :=
  let low := ⌊value⌋
  let rest := value - low
  if rest < 1 / 2 then low
  else if 1 / 2 < rest then low + 1
  else if low % 2 = 0 then low else low + 1

def roundTo (digits : ℕ) (value : ℚ) : ℚ := roundHalfEven (value * 10 ^ digits) / 10 ^ digits

theorem roundHalfEven_near (value : ℚ) : |(roundHalfEven value : ℚ) - value| ≤ 1 / 2 := by
  have below := Int.floor_le value
  have above := Int.lt_floor_add_one value
  unfold roundHalfEven
  simp only
  rw [abs_le]
  split_ifs with small large
  · constructor <;> linarith
  · push_cast; constructor <;> linarith
  · have tie : value - ⌊value⌋ = 1 / 2 := le_antisymm (not_lt.mp large) (not_lt.mp small)
    constructor <;> linarith
  · have tie : value - ⌊value⌋ = 1 / 2 := le_antisymm (not_lt.mp large) (not_lt.mp small)
    push_cast; constructor <;> linarith

-- a / b
def divide (dividend divisor : ℚ) : Except PyExc ℚ :=
  if divisor = 0 then .error ⟨"ZeroDivisionError","float division by zero"⟩ else .ok (dividend / divisor)

-- f"{value:.{digits}f}" for at least one digit
def fixedText (digits : ℕ) (value : ℚ) : String :=
  let scaled := (roundHalfEven (value * 10 ^ digits)).natAbs
  let fraction := toString (scaled % 10 ^ digits)
  (if value < 0 then "-" else "") ++ toString (scaled / 10 ^ digits) ++ "." ++
    String.ofList (List.replicate (digits - fraction.length) '0') ++ fraction

-- The number a formatted quantity reads back as: format_quantity writes a whole
-- number in full and any other with six significant digits.
def shownQuantity (quantity : ℚ) : ℚ :=
  if quantity.den = 1 then quantity
  else
    let unit : ℚ := 10 ^ (Int.log 10 |quantity| - 5)
    roundHalfEven (quantity / unit) * unit

-- The quantity helpers of the shared kit. An order quantity that is a whole
-- number is turned into an int there; as a number it stays what it is.
def normalizeQuantityStep (step : ℚ) : ℚ := if step ≤ 0 then 1 else step

def floorToQuantityStep (quantity step : ℚ) : ℚ :=
  if quantity ≤ 0 then 0
  else ⌊quantity / normalizeQuantityStep step⌋ * normalizeQuantityStep step

theorem normalizeQuantityStep_pos (step : ℚ) : 0 < normalizeQuantityStep step := by
  unfold normalizeQuantityStep
  split
  · exact one_pos
  · rename_i positive; exact not_le.mp positive

theorem floorToQuantityStep_nonneg (quantity step : ℚ) : 0 ≤ floorToQuantityStep quantity step := by
  have unit := normalizeQuantityStep_pos step
  unfold floorToQuantityStep
  split
  · exact le_refl 0
  · rename_i positive
    have whole : 0 ≤ ⌊quantity / normalizeQuantityStep step⌋ :=
      Int.floor_nonneg.mpr (div_nonneg (not_le.mp positive).le unit.le)
    exact mul_nonneg (by exact_mod_cast whole) unit.le

theorem floorToQuantityStep_le {quantity : ℚ} (step : ℚ) (nonneg : 0 ≤ quantity) :
    floorToQuantityStep quantity step ≤ quantity := by
  have unit := normalizeQuantityStep_pos step
  unfold floorToQuantityStep
  split
  · exact nonneg
  · calc (⌊quantity / normalizeQuantityStep step⌋ : ℚ) * normalizeQuantityStep step
        ≤ quantity / normalizeQuantityStep step * normalizeQuantityStep step :=
          mul_le_mul_of_nonneg_right (Int.floor_le _) unit.le
      _ = quantity := div_mul_cancel₀ _ unit.ne'

-- The largest number a double can round to; an int beyond it does not convert.
def floatLimit : ℕ := 2 ^ 1024 - 2 ^ 970

-- A run of digits, in which one underscore may separate two of them.
def takeDigits : List Char → List Char × List Char
  | [] => ([],[])
  | char :: '_' :: digit :: tail =>
    if char.isDigit && digit.isDigit then (char :: (takeDigits (digit :: tail)).1,(takeDigits (digit :: tail)).2)
    else if char.isDigit then ([char],'_' :: digit :: tail)
    else ([],char :: '_' :: digit :: tail)
  | char :: rest =>
    if char.isDigit then (char :: (takeDigits rest).1,(takeDigits rest).2) else ([],char :: rest)

def digitsValue (digits : List Char) : ℕ := digits.foldl (fun value char => value * 10 + (char.toNat - 48)) 0

def readExponent : List Char → Option ℤ
  | [] => some 0
  | 'e' :: '-' :: rest => match takeDigits rest with
    | (digit :: digits,[]) => some (-(digitsValue (digit :: digits) : ℤ))
    | _ => none
  | 'e' :: '+' :: rest => match takeDigits rest with
    | (digit :: digits,[]) => some (digitsValue (digit :: digits))
    | _ => none
  | 'e' :: rest => match takeDigits rest with
    | (digit :: digits,[]) => some (digitsValue (digit :: digits))
    | _ => none
  | _ => none

def readUnsigned (chars : List Char) : Option ℚ :=
  let (whole,afterWhole) := takeDigits chars
  let (fraction,afterFraction) := match afterWhole with
    | '.' :: rest => takeDigits rest
    | rest => ([],rest)
  if whole.isEmpty && fraction.isEmpty then none
  else (readExponent afterFraction).map fun exponent =>
    (digitsValue (whole ++ fraction) : ℚ) * (10 : ℚ) ^ (exponent - (fraction.length : ℤ))

def bounded (value : ℚ) : PyFloat :=
  if (floatLimit : ℚ) ≤ value then .inf false
  else if value ≤ -(floatLimit : ℚ) then .inf true else .finite value

-- float(text); none is the ValueError.
def floatOfText (text : String) : Option PyFloat :=
  let (negative,chars) := match (lower (strip text)).toList with
    | '-' :: rest => (true,rest)
    | '+' :: rest => (false,rest)
    | rest => (false,rest)
  if chars = "inf".toList ∨ chars = "infinity".toList then some (.inf negative)
  else if chars = "nan".toList then some .nan
  else (readUnsigned chars).map fun value => bounded (if negative then -value else value)

-- float(value); none stands for TypeError, ValueError and OverflowError alike.
def PyVal.toFloat : PyVal → Option PyFloat
  | .bool value => some (.finite (if value then 1 else 0))
  | .int value => if value.natAbs < floatLimit then some (.finite value) else Option.none
  | .float value _ => some value
  | .str text => floatOfText text
  | _ => Option.none

end LongBridge
