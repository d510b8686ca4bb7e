import LongBridge.Python.Values

namespace LongBridge

-- str.strip, str.upper and str.lower; letters outside ASCII are left as they are.
def isSpace (char : Char) : Bool :=
  char == ' ' || ('\t' ≤ char && char ≤ '\r') || ('\x1c' ≤ char && char ≤ '\x1f')

def strip (text : String) : String :=
  String.ofList ((text.toList.dropWhile isSpace).reverse.dropWhile isSpace).reverse

def upper (text : String) : String := String.ofList (text.toList.map Char.toUpper)

def lower (text : String) : String := String.ofList (text.toList.map Char.toLower)

def startsWith (text lead : String) : Bool := lead.toList.isPrefixOf text.toList

-- `str(symbol or "").strip().upper()`
def normalizedSymbol (symbol : String) : String := upper (strip symbol)

-- `tuple(dict.fromkeys(items))`: the first of each, in order.
def distinct (items : List String) : List String :=
  items.foldl (fun kept item => if kept.contains item then kept else kept ++ [item]) []

-- A dict of floats. A key that is written again keeps its place.
abbrev Amounts := List (String × ℚ)

namespace Amounts

def set : Amounts → String → ℚ → Amounts
  | [],key,value => [(key,value)]
  | (name,old) :: rest,key,value =>
    if name == key then (name,value) :: rest else (name,old) :: set rest key value

theorem lookup_set_same (amounts : Amounts) (key : String) (value : ℚ) : (amounts.set key value).lookup key = some value := by
  induction amounts with
  | nil => simp [set]
  | cons entry rest ih =>
    obtain ⟨name,old⟩ := entry
    by_cases same : name = key
    · subst same; simp [set]
    · have miss : (key == name) = false := by simpa using Ne.symm same
      simp [set,same,List.lookup_cons,miss,ih]

theorem lookup_set_other (amounts : Amounts) {key other : String} (value : ℚ) (unlike : other ≠ key) :
    (amounts.set key value).lookup other = amounts.lookup other := by
  have miss : (other == key) = false := by simpa using unlike
  induction amounts with
  | nil => simp [set,List.lookup_cons,miss]
  | cons entry rest ih =>
    obtain ⟨name,old⟩ := entry
    by_cases same : name = key
    · subst same; simp [set,List.lookup_cons,miss]
    · simp [set,same,List.lookup_cons,ih]

-- `mapping.get(key, 0.0)`
def getOrZero (amounts : Amounts) (key : String) : ℚ := (amounts.lookup key).getD 0

-- `mapping[key]`
def item (amounts : Amounts) (key : String) : Except PyExc ℚ :=
  match amounts.lookup key with
  | some value => .ok value
  | none => .error ⟨"KeyError",key⟩

-- `{normalized(symbol): value for symbol, value in mapping.items()}`
def normalized (amounts : Amounts) : Amounts :=
  amounts.foldl (fun kept entry => set kept (normalizedSymbol entry.1) entry.2) []

end Amounts

end LongBridge
