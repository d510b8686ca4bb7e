import LongBridge.Python.Numbers

namespace LongBridge
namespace Fields

-- `{**base, **extra}`: a key of both keeps its place and takes the later value.
def merge (base extra : Fields) : Fields :=
  base.map (fun entry => (entry.1,(extra.lookup entry.1).getD entry.2)) ++
    extra.filter fun entry => !base.has entry.1

theorem lookup_overridden (base extra : Fields) (key : String) :
    (base.map fun entry => (entry.1,(extra.lookup entry.1).getD entry.2)).lookup key =
      (base.lookup key).map fun value => (extra.lookup key).getD value := by
  induction base with
  | nil => rfl
  | cons entry rest ih =>
    obtain ⟨name,value⟩ := entry
    rw [List.map_cons,List.lookup_cons,List.lookup_cons]
    by_cases same : key = name
    · subst same; simp
    · have miss : (key == name) = false := by simpa using same
      simp only [miss,ih]

theorem lookup_added (base extra : Fields) {key : String} (absent : base.has key = false) :
    (extra.filter fun entry => !base.has entry.1).lookup key = extra.lookup key := by
  induction extra with
  | nil => rfl
  | cons entry rest ih =>
    obtain ⟨name,value⟩ := entry
    rw [List.filter_cons,List.lookup_cons]
    by_cases same : key = name
    · subst same; simp [absent]
    · have miss : (key == name) = false := by simpa using same
      split <;> simp only [List.lookup_cons,miss,ih]

@[simp] theorem lookup_merge (base extra : Fields) (key : String) :
    (base.merge extra).lookup key = (extra.lookup key).or (base.lookup key) := by
  rw [merge,List.lookup_append,lookup_overridden]
  cases found : base.lookup key with
  | none =>
    rw [lookup_added base extra (by simp [has,found])]
    simp
  | some value => cases extra.lookup key <;> simp

theorem get_merge (base extra : Fields) (key : String) :
    (base.merge extra).get key = if extra.has key then extra.get key else base.get key := by
  unfold get has
  rw [lookup_merge]
  cases extra.lookup key <;> simp

-- `mapping.get(key, fallback)`
def getOr (fields : Fields) (key : String) (fallback : PyVal) : PyVal := (fields.lookup key).getD fallback

end Fields

namespace PyVal

-- `value in (None, "")`
def isBlank : PyVal → Bool
  | .none => true
  | .str text => text == ""
  | _ => false

-- The entries of a mapping; any other value has none.
def asMapping : PyVal → Option Fields
  | .dict entries => some entries
  | _ => Option.none

-- `value or fallback`
def orElse (value fallback : PyVal) : PyVal := if value.truthy then value else fallback

-- float(value)
def readFloat (value : PyVal) : Except PyExc PyFloat :=
  match value.toFloat with
  | some number => .ok number
  | Option.none => match value with
    | .int _ => .error ⟨"OverflowError","int too large to convert to float"⟩
    | .str text => .error ⟨"ValueError","could not convert string to float: " ++ (PyVal.str text).repr⟩
    | _ => .error ⟨"TypeError","float() argument must be a string or a real number"⟩

def signedDigits : List Char → Option ℤ
  | '-' :: rest => match takeDigits rest with
    | (digit :: digits,[]) => some (-(digitsValue (digit :: digits) : ℤ))
    | _ => Option.none
  | '+' :: rest => match takeDigits rest with
    | (digit :: digits,[]) => some (digitsValue (digit :: digits))
    | _ => Option.none
  | chars => match takeDigits chars with
    | (digit :: digits,[]) => some (digitsValue (digit :: digits))
    | _ => Option.none

-- int(value): a float is cut off towards zero.
def readInt : PyVal → Except PyExc ℤ
  | .bool value => .ok (if value then 1 else 0)
  | .int value => .ok value
  | .float (.finite value) _ => .ok (if value < 0 then ⌈value⌉ else ⌊value⌋)
  | .float (.inf _) _ => .error ⟨"OverflowError","cannot convert float infinity to integer"⟩
  | .float .nan _ => .error ⟨"ValueError","cannot convert float NaN to integer"⟩
  | .str text => match signedDigits (strip text).toList with
    | some value => .ok value
    | Option.none => .error ⟨"ValueError","invalid literal for int() with base 10: " ++ (PyVal.str text).repr⟩
  | _ => .error ⟨"TypeError","int() argument must be a string, a bytes-like object or a real number"⟩

end PyVal
end LongBridge
