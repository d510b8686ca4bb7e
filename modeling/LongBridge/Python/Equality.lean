import LongBridge.Python.Values

namespace LongBridge
namespace PyVal

-- A bool is a number, and a number is compared by its value.
def number : PyVal → Option PyFloat
  | .bool value => some (.finite (if value then 1 else 0))
  | .int value => some (.finite value)
  | .float value _ => some value
  | _ => Option.none

def sameNumber (one two : PyVal) : Bool :=
  match one.number,two.number with
  | some first,some second => first ≠ .nan && first == second
  | _,_ => false

mutual

-- `one == two`; the entries of a dict are compared by key, in any order.
def same : PyVal → PyVal → Bool
  | .none,.none => true
  | .str one,.str two => one == two
  | .list one,.list two => sameItems one two
  | .tuple one,.tuple two => sameItems one two
  | .dict one,.dict two => one.length == two.length && sameEntries one two
  | one,two => sameNumber one two

def sameItems : List PyVal → List PyVal → Bool
  | [],[] => true
  | one :: first,two :: second => same one two && sameItems first second
  | _,_ => false

def sameEntries : List (String × PyVal) → List (String × PyVal) → Bool
  | [],_ => true
  | (key,value) :: rest,other => (match other.lookup key with
      | some found => same value found
      | Option.none => false) && sameEntries rest other

end

end PyVal
end LongBridge
