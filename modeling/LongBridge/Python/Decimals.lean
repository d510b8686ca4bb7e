import LongBridge.Python.Numbers

namespace LongBridge

-- `decimal.Decimal`: a finite one keeps its coefficient and its exponent apart.
inductive PyDecimal where
  | finite (negative : Bool) (coefficient : ℕ) (exponent : ℤ)
  | inf (negative : Bool)
  | nan
  deriving DecidableEq

namespace PyDecimal

def isFinite : PyDecimal → Bool
  | .finite .. => true
  | _ => false

def value : PyDecimal → ℚ
  | .finite negative coefficient exponent => (if negative then -(coefficient : ℚ) else coefficient) * 10 ^ exponent
  | _ => 0

end PyDecimal

-- The exponent part: an `e`, a sign and digits.
def decimalExponent : List Char → Option ℤ
  | [] => some 0
  | mark :: rest =>
    if mark ≠ 'e' then none
    else
      let (negative,digits) := match rest with
        | '-' :: digits => (true,digits)
        | '+' :: digits => (false,digits)
        | digits => (false,digits)
      if digits ≠ [] ∧ digits.all Char.isDigit = true then
        some (if negative then -(digitsValue digits : ℤ) else digitsValue digits)
      else none

def smallestExponent : ℤ := -1999999999999999997

def largestAdjusted : ℤ := 999999999999999999

-- A number of any size with an exponent that the decimal type can hold.
def finiteDecimal (negative : Bool) (chars : List Char) : Option PyDecimal := do
  let whole := chars.takeWhile Char.isDigit
  let rest := chars.dropWhile Char.isDigit
  let fraction := if rest.head? = some '.' then rest.tail.takeWhile Char.isDigit else []
  let rest := if rest.head? = some '.' then rest.tail.dropWhile Char.isDigit else rest
  let written ← decimalExponent rest
  let exponent := written - fraction.length
  let significant := ((whole ++ fraction).dropWhile fun char => char == '0').length
  if (whole ++ fraction) ≠ [] ∧ smallestExponent ≤ exponent ∧ exponent + (max 1 significant : ℕ) - 1 ≤ largestAdjusted then
    some (.finite negative (digitsValue (whole ++ fraction)) exponent)
  else none

-- `Decimal(text)`; none is the InvalidOperation.
def decimalOfText (text : String) : Option PyDecimal :=
  let (negative,chars) := match (lower (strip text)).toList.filter fun char => char != '_' with
    | '-' :: rest => (true,rest)
    | '+' :: rest => (false,rest)
    | rest => (false,rest)
  if chars = "inf".toList ∨ chars = "infinity".toList then some (.inf negative)
  else
    let quiet := if chars.head? = some 's' then chars.tail else chars
    if quiet.take 3 = "nan".toList ∧ (quiet.drop 3).all Char.isDigit = true then some .nan
    else finiteDecimal negative chars

end LongBridge
