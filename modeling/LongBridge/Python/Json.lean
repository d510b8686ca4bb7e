import LongBridge.Python.Entries
import LongBridge.Python.Values

namespace LongBridge
namespace PyVal

mutual

-- json.loads(json.dumps(value)): a tuple comes back as a list, any other value as itself.
def jsonCopy : PyVal → Except PyExc PyVal
  | .list items => do
    let copies ← jsonItems items
    return .list copies
  | .tuple items => do
    let copies ← jsonItems items
    return .list copies
  | .dict entries => do
    let copies ← jsonEntries entries
    return .dict copies
  | .object _ _ _ => .error ⟨"TypeError","Object is not JSON serializable"⟩
  | value => .ok value

def jsonItems : List PyVal → Except PyExc (List PyVal)
  | [] => .ok []
  | item :: rest => do
    let copy ← jsonCopy item
    let copies ← jsonItems rest
    return copy :: copies

def jsonEntries : List (String × PyVal) → Except PyExc (List (String × PyVal))
  | [] => .ok []
  | (key,value) :: rest => do
    let copy ← jsonCopy value
    let copies ← jsonEntries rest
    return (key,copy) :: copies

end

mutual

-- json.loads(json.dumps(value, sort_keys=True))
def jsonSorted : PyVal → Except PyExc PyVal
  | .list items => do
    let copies ← jsonSortedItems items
    return .list copies
  | .tuple items => do
    let copies ← jsonSortedItems items
    return .list copies
  | .dict entries => do
    let copies ← jsonSortedEntries entries
    return .dict (sortedByKey copies)
  | .object _ _ _ => .error ⟨"TypeError","Object is not JSON serializable"⟩
  | value => .ok value

def jsonSortedItems : List PyVal → Except PyExc (List PyVal)
  | [] => .ok []
  | item :: rest => do
    let copy ← jsonSorted item
    let copies ← jsonSortedItems rest
    return copy :: copies

def jsonSortedEntries : List (String × PyVal) → Except PyExc (List (String × PyVal))
  | [] => .ok []
  | (key,value) :: rest => do
    let copy ← jsonSorted value
    let copies ← jsonSortedEntries rest
    return (key,copy) :: copies

end

-- A text between double quotes; those inside it are escaped.
def jsonString (text : String) : String :=
  "\"" ++ String.ofList (text.toList.flatMap fun char => if char.toNat = 34 then [Char.ofNat 92,char] else [char]) ++ "\""

mutual

-- json.dumps(value, separators=(comma, colon)) with keys in the order they stand in
def jsonText (comma colon : String) : PyVal → String
  | .none => "null"
  | .bool value => if value then "true" else "false"
  | .int value => toString value
  | .float _ text => text
  | .str value => jsonString value
  | .list items => "[" ++ comma.intercalate (jsonTexts comma colon items) ++ "]"
  | .tuple items => "[" ++ comma.intercalate (jsonTexts comma colon items) ++ "]"
  | .dict entries => "\x7b" ++ comma.intercalate (jsonMembers comma colon entries) ++ "\x7d"
  | .object _ text _ => text

def jsonTexts (comma colon : String) : List PyVal → List String
  | [] => []
  | item :: rest => jsonText comma colon item :: jsonTexts comma colon rest

def jsonMembers (comma colon : String) : List (String × PyVal) → List String
  | [] => []
  | (name,value) :: rest => (jsonString name ++ colon ++ jsonText comma colon value) :: jsonMembers comma colon rest

end

end PyVal
end LongBridge
