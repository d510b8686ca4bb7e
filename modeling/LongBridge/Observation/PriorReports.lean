import LongBridge.Effects.Search
import LongBridge.Python.Text
import LongBridge.Python.Times
import LongBridge.Python.Urls
import LongBridge.Reporting.Monitors

namespace LongBridge.Observation
open Effects

-- `ValueError` without a text; no handler tells the errors of the scan apart.
def refused : PyExc := ⟨"ValueError",""⟩

def journalEmpty : PyExc := ⟨"ValidationJournalEmpty",""⟩

def strictReportScanLimit : ℕ := 10000

-- What the decoder of json reads, before the two hooks see it.
inductive JsonText where
  | value (value : PyVal)
  | constant (name : String)
  | array (items : List JsonText)
  | object (pairs : List (String × JsonText))

def uniqueJsonObject (pairs : Fields) : Except PyExc Fields := pairs.foldlM (fun result (key,value) =>
  if Fields.has result key then .error ⟨"ValueError","duplicate JSON key"⟩ else .ok (result ++ [(key,value)])) []

def rejectJsonConstant : Except PyExc PyVal := .error ⟨"ValueError","nonstandard JSON constant"⟩

mutual

def strictJson : JsonText → Except PyExc PyVal
  | .value value => .ok value
  | .constant _ => rejectJsonConstant
  | .array items => do
    let items ← strictItems items
    return .list items
  | .object pairs => do
    let pairs ← strictPairs pairs
    let result ← uniqueJsonObject pairs
    return .dict result

def strictItems : List JsonText → Except PyExc (List PyVal)
  | [] => .ok []
  | item :: rest => do
    let item ← strictJson item
    let items ← strictItems rest
    return item :: items

def strictPairs : List (String × JsonText) → Except PyExc Fields
  | [] => .ok []
  | (key,value) :: rest => do
    let value ← strictJson value
    let pairs ← strictPairs rest
    return (key,value) :: pairs

end

-- `date.fromisoformat`
def dateFromisoformat (text : String) : Except PyExc ℕ :=
  match if text.toList.length ∈ [7,8,10] then readDate text.toList else none with
  | some day => .ok day
  | none => .error ⟨"ValueError","Invalid isoformat string"⟩

-- The arguments of the search
structure PriorRun where
  platform : PyVal
  strategyProfile : PyVal
  accountScope : PyVal
  signalDate : PyVal
  effectiveDate : PyVal
  dryRunOnly : PyVal
  reportBaseDir : PyVal

-- The execution, once its identity is known to be plain.
structure Execution where
  platform : String
  strategyProfile : String
  accountScope : String
  signalDate : PyVal
  effectiveDate : PyVal
  dryRunOnly : Bool

namespace Execution

def identity (execution : Execution) : List (String × String) :=
  [("platform",execution.platform),("strategy_profile",execution.strategyProfile),("account_scope",execution.accountScope)]

end Execution

-- What quant_platform_kit and the decoder of json decide
structure JournalKit where
  decode : String → Except PyExc JsonText
  signalDateKeys : Fields → Fields → List String
  effectiveDateKeys : Fields → Fields → List String
  reportMatchesExecution : Fields → Execution → Bool
  -- `runtime_report_relative_path(...).parent.parent.as_posix()`
  reportFolder : Execution → Except PyExc String
  -- `default_runtime_report_path(...).parent.parent.absolute().parts`
  localParts : Execution → PyVal → Except PyExc (List String)
  netlocValid : String → Bool

-- `type(value) is bool`, and a count that is a whole number and not below zero
def isBool : PyVal → Bool
  | .bool _ => true
  | _ => false

def isCount : PyVal → Bool
  | .int number => decide (0 ≤ number)
  | _ => false

def statesText : PyVal → Bool
  | .str text => strip text != ""
  | _ => false

def countFields : List String := ["order_events_count","orders_previewed_count","orders_skipped_count","orders_pending_count"]

def namesValue (payload : Fields) (entry : String × String) : Bool :=
  match payload.get entry.1 with
  | .str text => lower (strip text) == lower entry.2
  | _ => false

-- The checks of a report whose flag is the one asked for
def checkLane (kit : JournalKit) (execution : Execution) (payload summary : Fields) : Except PyExc Unit := do
  require (["ok","error","skipped"].any fun status => (payload.get "status").isStr status) refused
  require (!summary.has "action_done" || isBool (summary.get "action_done")) refused
  require (countFields.all fun field => !summary.has field || isCount (summary.get field)) refused
  let signalKeys := kit.signalDateKeys payload summary
  let effectiveKeys := kit.effectiveDateKeys payload summary
  require (!(execution.signalDate.truthy && signalKeys.isEmpty || execution.effectiveDate.truthy && effectiveKeys.isEmpty)) refused
  (signalKeys ++ effectiveKeys).forM fun value => do
    let _ ← dateFromisoformat value

def laneComplete (payload summary : Fields) : Bool :=
  (payload.get "status").isStr "ok" && isBool (summary.get "action_done") && (countFields.take 3).all fun field => summary.has field

-- `matches`
def reportMatches (kit : JournalKit) (execution : Execution) (raw : String) : Except PyExc Bool := do
  let text ← kit.decode raw
  let payload ← strictJson text
  match payload with
  | .dict payload => do
    require (execution.identity.all fun entry => statesText (Fields.get payload entry.1)) refused
    require (statesText (Fields.get payload "status")) refused
    match Fields.get payload "dry_run",Fields.get payload "summary" with
    | .bool dryRun,.dict summary => do
      require (execution.identity.all (namesValue payload)) refused
      let _ ← (if dryRun = execution.dryRunOnly then checkLane kit execution payload summary else .ok ())
      if kit.reportMatchesExecution payload execution then return true
      else
        require (dryRun ≠ execution.dryRunOnly ∨ laneComplete payload summary = true) refused
        return false
    | _,_ => .error refused
  | _ => .error refused

-- The local tree, as `os.scandir` and `os.open` without following links show it. A failing
-- entry is one that cannot be looked at or opened, and a directory that lies too deep.
inductive DirEntry where
  | file (name : String) (text : Except PyExc String)
  | directory (name : String) (entries : List DirEntry)
  | link (name : String)
  | special (name : String)
  | failing (error : PyExc)

def isJson (name : String) : Bool := Reporting.endsWith name ".json"

def countEntry (tally : Tally) : Except PyExc Tally := tally.next strictReportScanLimit refused

def countReport (tally : Tally) : Tally := { tally with reports := tally.reports + 1 }

mutual

def scanEntry (judge : String → Except PyExc Bool) (tally : Tally) : DirEntry → Except PyExc (Bool × Tally)
  | .failing error => do
    let _ ← countEntry tally
    .error error
  | .link _ => do
    let _ ← countEntry tally
    .error refused
  | .special _ => do
    let _ ← countEntry tally
    .error refused
  | .directory _ entries => do
    let tally ← countEntry tally
    scanDirectory judge tally entries
  | .file name text => do
    let tally ← countEntry tally
    if isJson name then
      let raw ← text
      let found ← judge raw
      return (found,countReport tally)
    else return (false,tally)

def scanDirectory (judge : String → Except PyExc Bool) (tally : Tally) : List DirEntry → Except PyExc (Bool × Tally)
  | [] => .ok (false,tally)
  | entry :: rest => do
    let (found,tally) ← scanEntry judge tally entry
    if found then return (true,tally) else scanDirectory judge tally rest

end

-- What the iterator of the listing yields: a blob with its name, or a page that fails.
inductive Listed where
  | blob (name : PyVal)
  | failure (error : PyExc)

structure ObjectStore where
  listed : String → String → List Listed
  readText : String → Except PyExc String

-- `list_blobs(prefix=..., max_results=...)`
def ObjectStore.listBlobs (objects : ObjectStore) (bucket lead : String) (maxResults : ℕ) : List Listed :=
  (objects.listed bucket lead).take maxResults

def blobUri (bucket name : String) : String := "gs://" ++ bucket ++ "/" ++ name

-- One round of the loop over the blobs
def scanBlob (readText : String → Except PyExc String) (judge : String → Except PyExc Bool) (bucket lead : String) (tally : Tally) :
    Listed → Except PyExc (Bool × Tally)
  | .failure error => .error error
  | .blob name => do
    let tally ← countEntry tally
    match name with
    | .str name =>
      if !startsWith name lead then .error refused
      else if isJson name then
        let raw ← readText (blobUri bucket name)
        let found ← judge raw
        return (found,countReport tally)
      else return (false,tally)
    | _ => .error refused

-- The execution state store and the local files that the search reaches. The store has no objects
-- where it is not one of Google's; the files are opened part by part, following no link.
structure Journal where
  cloudPrefixUri : PyVal
  objectStore : Except PyExc (Option ObjectStore)
  opened : List String → Except PyExc (List DirEntry)

def isIdentityChar (char : Char) : Bool := char.isAlphanum || char == '_' || char == '-'

-- `re.fullmatch(r"[A-Za-z0-9_-][A-Za-z0-9_.-]*", value)`
def isIdentity (text : String) : Bool :=
  match text.toList with
  | first :: rest => isIdentityChar first && rest.all fun char => isIdentityChar char || char == '.'
  | [] => false

def unknownNames : List String := ["unknown","unknown-profile","unknown-platform"]

def identityOf : PyVal → Except PyExc String
  | .str text => if isIdentity text && !unknownNames.contains (lower text) then .ok text else .error refused
  | _ => .error refused

def statedDate (value : PyVal) : Bool := strip value.textOrEmpty != ""

def checkDate (value : PyVal) : Except PyExc Unit := do
  if value.truthy then
    let _ ← dateFromisoformat (String.ofList (value.text.toList.take 10))

def executionOf (run : PriorRun) : Except PyExc Execution := do
  let platform ← identityOf run.platform
  let strategyProfile ← identityOf run.strategyProfile
  let accountScope ← identityOf run.accountScope
  match run.dryRunOnly with
  | .bool dryRunOnly => do
    require (statedDate run.signalDate || statedDate run.effectiveDate) refused
    checkDate run.signalDate
    checkDate run.effectiveDate
    return { platform, strategyProfile, accountScope, signalDate := run.signalDate, effectiveDate := run.effectiveDate, dryRunOnly }
  | _ => .error refused

def dropTrailing (mark : Char) (text : String) : String := String.ofList (text.toList.reverse.dropWhile (· == mark)).reverse

def dropLeading (mark : Char) (text : String) : String := String.ofList (text.toList.dropWhile (· == mark))

-- Where the reports of an execution lie: local parts, bucket and prefix
structure ReportPlaces where
  parts : List String
  cloud : String

def placesOf (kit : JournalKit) (cloudPrefixUri : PyVal) (execution : Execution) (baseDir : PyVal) : Except PyExc ReportPlaces := do
  match cloudPrefixUri with
  | .str uri => do
    require (startsWith uri "gs://") refused
    let folder ← kit.reportFolder execution
    let parts ← kit.localParts execution baseDir
    require (".." ∉ parts) refused
    return ⟨parts,dropTrailing '/' uri ++ "/" ++ folder ++ "/"⟩
  | _ => .error refused

-- The local half: whether a report matches, and what has been counted
def scanLocal (journal : Journal) (judge : String → Except PyExc Bool) (parts : List String) : Except PyExc (Bool × Tally) := do
  let entries ← journal.opened parts
  scanDirectory judge ⟨0,0⟩ entries

-- The cloud half, with what is left of the budget
def scanCloud (kit : JournalKit) (journal : Journal) (judge : String → Except PyExc Bool) (cloud : String) (count : ℕ) :
    Except PyExc (Bool × Tally) := do
  let store ← journal.objectStore
  match store with
  | none => .error refused
  | some objects => do
    let url ← urlsplit kit.netlocValid cloud
    let lead := dropLeading '/' url.path
    search (scanBlob objects.readText judge url.netloc lead) ⟨count,0⟩
      (objects.listBlobs url.netloc lead (strictReportScanLimit - count + 1))

def searchReports (kit : JournalKit) (journal : Journal) (run : PriorRun) : Except PyExc Bool := do
  let execution ← executionOf run
  let places ← placesOf kit journal.cloudPrefixUri execution run.reportBaseDir
  let (found,tally) ← scanLocal journal (reportMatches kit execution) places.parts
  if found then return true
  else
    require (tally.reports ≠ 0) journalEmpty
    let (found,tally) ← scanCloud kit journal (reportMatches kit execution) places.cloud tally.count
    if found then return true
    else
      require (tally.reports ≠ 0) journalEmpty
      return false

-- `strict_prior_report_exists`
def strictPriorReportExists (kit : JournalKit) (journal : Journal) (run : PriorRun) : Except PyExc Bool :=
  match searchReports kit journal run with
  | .ok found => .ok found
  | .error error =>
    if error = journalEmpty then .error ⟨"RuntimeError","validation_journal_empty"⟩
    else .error ⟨"RuntimeError","validation_journal_read_failed"⟩

end LongBridge.Observation
