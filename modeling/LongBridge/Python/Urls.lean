import LongBridge.Python.Text

namespace LongBridge

-- `urllib.parse.urlsplit`. What stands between brackets and the compatibility forms
-- of letters outside ASCII are judged by a test that is given.
structure Url where
  scheme : String
  netloc : String
  path : String
  query : String
  fragment : String
  deriving DecidableEq

-- `text.partition(mark)`; the flag tells whether the mark occurs.
def partitionAt (mark : Char) (chars : List Char) : List Char × Bool × List Char :=
  match chars.span (· != mark) with
  | (before,[]) => (before,false,[])
  | (before,_ :: after) => (before,true,after)

-- What follows the last mark, or everything where there is none.
def afterLast (mark : Char) (chars : List Char) : List Char := (chars.reverse.takeWhile (· != mark)).reverse

def isSchemeChar (char : Char) : Bool := char.isAlphanum || char == '+' || char == '-' || char == '.'

def isUrlPadding (char : Char) : Bool := char ≤ ' '

def isUnsafeInUrl (char : Char) : Bool := char == '\t' || char == '\r' || char == '\n'

def splitScheme (chars : List Char) : List Char × List Char :=
  match partitionAt ':' chars with
  | (scheme,true,rest) =>
    if (scheme.head?.any Char.isAlpha) && scheme.all isSchemeChar then (scheme.map Char.toLower,rest) else ([],chars)
  | _ => ([],chars)

def splitNetloc (chars : List Char) : List Char × List Char :=
  match chars with
  | '/' :: '/' :: rest => rest.span fun char => !(['/','?','#'].contains char)
  | _ => ([],chars)

def urlError : PyExc := ⟨"ValueError","Invalid URL"⟩

def urlsplit (netlocValid : String → Bool) (text : String) : Except PyExc Url :=
  let chars := (text.toList.dropWhile isUrlPadding).filter fun char => !isUnsafeInUrl char
  let (scheme,afterScheme) := splitScheme chars
  let (netloc,afterNetloc) := splitNetloc afterScheme
  let (beforeFragment,_,fragment) := partitionAt '#' afterNetloc
  let (path,_,query) := partitionAt '?' beforeFragment
  if netloc.contains '[' != netloc.contains ']' then .error urlError
  else if !netlocValid (String.ofList netloc) then .error urlError
  else .ok ⟨String.ofList scheme,String.ofList netloc,String.ofList path,String.ofList query,String.ofList fragment⟩

-- `urlsplit(value)` of any value: a false one that is no text is split as empty bytes.
def urlsplitOf (netlocValid : String → Bool) : PyVal → Except PyExc Url
  | .str text => urlsplit netlocValid text
  | value => if value.truthy then .error ⟨"AttributeError","decode"⟩ else .ok ⟨"","","","",""⟩

namespace Url

-- `geturl()` of a URL that names a host.
def geturl (url : Url) : String :=
  let path := if url.path = "" ∨ startsWith url.path "/" then url.path else "/" ++ url.path
  let located := "//" ++ url.netloc ++ path
  let whole := if url.scheme = "" then located else url.scheme ++ ":" ++ located
  let asked := if url.query = "" then whole else whole ++ "?" ++ url.query
  if url.fragment = "" then asked else asked ++ "#" ++ url.fragment

-- The parts of `netloc` before the port: user, and host with its port.
def hasUser (url : Url) : Bool := url.netloc.toList.contains '@'

-- `username` and `password`, which are tested for truth only
def userinfo (url : Url) : List Char × Bool × List Char :=
  partitionAt ':' ((url.netloc.toList.reverse.dropWhile (· != '@')).drop 1).reverse

def statesUser (url : Url) : Bool :=
  url.hasUser && (!url.userinfo.1.isEmpty || !url.userinfo.2.2.isEmpty)

def hostinfo (url : Url) : List Char × List Char :=
  let info := afterLast '@' url.netloc.toList
  match partitionAt '[' info with
  | (_,true,bracketed) =>
    let (host,_,rest) := partitionAt ']' bracketed
    (host,(partitionAt ':' rest).2.2)
  | _ =>
    let (host,_,port) := partitionAt ':' info
    (host,port)

-- `hostname`: lower case but for the zone; none where it is empty
def hostname (url : Url) : Option String :=
  match url.hostinfo.1 with
  | [] => none
  | host =>
    let (name,zoned,zone) := partitionAt '%' host
    some (String.ofList (name.map Char.toLower ++ (if zoned then ['%'] else []) ++ zone))

-- `port`: none where none is stated, an error where it is no port number
def port (url : Url) : Except PyExc (Option ℕ) :=
  match url.hostinfo.2 with
  | [] => .ok none
  | digits =>
    let number := digits.foldl (fun number digit => 10 * number + (digit.toNat - '0'.toNat)) 0
    if digits.all Char.isDigit && number ≤ 65535 then .ok (some number) else .error ⟨"ValueError","Port out of range 0-65535"⟩

end Url

end LongBridge
