import Mathlib.Data.Rat.Floor
import Mathlib.Algebra.Order.Field.Rat

namespace LongBridge

-- An exception as handlers see it: the class they select on and its text.
structure PyExc where
  kind : String
  text : String
  deriving DecidableEq, Repr

-- Floats are exact rationals here; the special values are kept because the
-- source tests for them. The largest finite double bounds what converts.
inductive PyFloat where
  | finite (value : ℚ)
  | inf (negative : Bool)
  | nan
  deriving DecidableEq

-- A value read from a mapping whose type nobody checked. A float carries its own
-- text and an `object` states how it behaves in a test, in str() and in a loop.
inductive PyVal where
  | none
  | bool (value : Bool)
  | int (value : ℤ)
  | float (value : PyFloat) (text : String)
  | str (value : String)
  | list (items : List PyVal)
  | tuple (items : List PyVal)
  | dict (entries : List (String × PyVal))
  | object (truthy : Bool) (text : String) (items : Option (List PyVal))

abbrev Fields := List (String × PyVal)

namespace Fields

-- `mapping.get(key)`: None when the key is absent.
def get (fields : Fields) (key : String) : PyVal := (fields.lookup key).getD .none

-- `key in mapping`
def has (fields : Fields) (key : String) : Bool := (fields.lookup key).isSome

-- `mapping[key] = value`: a key keeps its place, a new one goes to the end.
def set : Fields → String → PyVal → Fields
  | [],key,value => [(key,value)]
  | (name,old) :: rest,key,value =>
    if name == key then (name,value) :: rest else (name,old) :: set rest key value

theorem lookup_set_same (fields : Fields) (key : String) (value : PyVal) :
    (fields.set key value).lookup key = some value := by
  induction fields with
  | nil => simp [set]
  | cons entry rest ih =>
    obtain ⟨name,old⟩ := entry
    by_cases same : name = key
    · subst same; simp [set]
    · have miss : (key == name) = false := by simpa using fun equal : key = name => same equal.symm
      simp [set,same,List.lookup_cons,miss,ih]

theorem lookup_set_other (fields : Fields) {key other : String} (value : PyVal) (unlike : other ≠ key) :
    (fields.set key value).lookup other = fields.lookup other := by
  induction fields with
  | nil =>
    have miss : (other == key) = false := by simpa using unlike
    simp [set,List.lookup_cons,miss]
  | cons entry rest ih =>
    obtain ⟨name,old⟩ := entry
    by_cases same : name = key
    · subst same
      have miss : (other == name) = false := by simpa using unlike
      simp [set,List.lookup_cons,miss]
    · simp [set,same,List.lookup_cons,ih]

@[simp] theorem get_set_same (fields : Fields) (key : String) (value : PyVal) :
    (fields.set key value).get key = value := by simp [get,lookup_set_same]

@[simp] theorem has_set_same (fields : Fields) (key : String) (value : PyVal) :
    (fields.set key value).has key = true := by simp [has,lookup_set_same]

theorem get_set_other (fields : Fields) {key other : String} (value : PyVal) (unlike : other ≠ key) :
    (fields.set key value).get other = fields.get other := by simp [get,lookup_set_other fields value unlike]

end Fields

namespace PyVal

-- bool(value)
def truthy : PyVal → Bool
  | .none => false
  | .bool value => value
  | .int value => value != 0
  | .float (.finite value) _ => value != 0
  | .float _ _ => true
  | .str value => value != ""
  | .list items => !items.isEmpty
  | .tuple items => !items.isEmpty
  | .dict entries => !entries.isEmpty
  | .object truthy _ _ => truthy

mutual

-- repr(value), with the plain quoting of strings that need no escape
def repr : PyVal → String
  | .none => "None"
  | .bool true => "True"
  | .bool false => "False"
  | .int value => toString value
  | .float _ text => text
  | .str value => "'" ++ value ++ "'"
  | .list items => "[" ++ ", ".intercalate (reprs items) ++ "]"
  | .tuple items => "(" ++ ", ".intercalate (reprs items) ++ (if items.length = 1 then ",)" else ")")
  | .dict entries => "\x7b" ++ ", ".intercalate (reprEntries entries) ++ "\x7d"
  | .object _ text _ => text

def reprs : List PyVal → List String
  | [] => []
  | item :: rest => item.repr :: reprs rest

def reprEntries : List (String × PyVal) → List String
  | [] => []
  | (name,value) :: rest => ("'" ++ name ++ "': " ++ value.repr) :: reprEntries rest

end

-- str(value)
def text : PyVal → String
  | .str value => value
  | value => value.repr

-- str(value or "")
def textOrEmpty (value : PyVal) : String := if value.truthy then value.text else ""

theorem textOrEmpty_str (text : String) : (str text).textOrEmpty = text := by
  unfold textOrEmpty
  by_cases empty : text = ""
  · subst empty; rfl
  · have truthy : (str text).truthy = true := by simpa [truthy] using empty
    rw [truthy]; rfl

def isStr (value : PyVal) (expected : String) : Bool :=
  match value with
  | .str text => text == expected
  | _ => false

-- iter(value)
def iterate : PyVal → Except PyExc (List PyVal)
  | .list items => .ok items
  | .tuple items => .ok items
  | .dict entries => .ok (entries.map fun entry => .str entry.1)
  | .str value => .ok (value.toList.map fun char => .str (String.ofList [char]))
  | .object _ _ (some items) => .ok items
  | _ => .error ⟨"TypeError","object is not iterable"⟩

end PyVal
end LongBridge
