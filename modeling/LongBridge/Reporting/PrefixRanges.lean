import LongBridge.Python.TextOrder
import LongBridge.Python.Urls
import LongBridge.Reporting.Windows

namespace LongBridge.Reporting

-- What is taken as given of `urlsplit`, and `str.isalnum` of one letter
structure PathKit where
  netlocValid : String → Bool
  isalnum : Char → Bool

structure Month where
  year : ℕ
  month : ℕ
  deriving DecidableEq

namespace Month

def Valid (month : Month) : Prop := (1 ≤ month.year ∧ month.year ≤ lastYear) ∧ 1 ≤ month.month ∧ month.month ≤ 12

-- The months counted from the first of the calendar on
def index (month : Month) : ℕ := 12 * month.year + (month.month - 1)

-- `dt.datetime(year, month, 1, tzinfo=dt.timezone.utc)`
def start (month : Month) : ℤ := ((ordinalOf ⟨month.year,month.month,1⟩ : ℤ) - 1) * daySpan

def next (month : Month) : Except PyExc Month :=
  if month.month = 12 then
    if month.year + 1 ≤ lastYear then .ok ⟨month.year + 1,1⟩
    else .error ⟨"ValueError","year " ++ toString (month.year + 1) ++ " is out of range"⟩
  else .ok ⟨month.year,month.month + 1⟩

-- f"{month:%Y-%m}", for a year of four digits
def text (month : Month) : List Char := padded 4 month.year ++ '-' :: padded 2 month.month

end Month

def monthOf (instant : ℤ) : Month := ⟨(civilOf (utcOrdinal instant)).year,(civilOf (utcOrdinal instant)).month⟩

-- `instant.strftime("%Y%m%dT%H%M%SZ")`, for a year of four digits
def runId (instant : ℤ) : List Char :=
  let date := civilOf (utcOrdinal instant)
  let clock := utcClock instant
  padded 4 date.year ++ (padded 2 date.month ++ (padded 2 date.day ++ (['T'] ++
    (padded 2 clock.hour ++ (padded 2 clock.minute ++ (padded 2 clock.second ++ ['Z']))))))

def reportPrefixUnavailable : PyExc := ⟨"CollectionUnavailable","report_prefix_unavailable"⟩

-- `_instant` of a datetime
def instant (value : Stamp) : Except PyExc ℤ :=
  match value.offset with
  | none => .error ⟨"ValueError","timestamp_unavailable"⟩
  | some offset =>
    if 0 ≤ value.wall - offset ∧ value.wall - offset < lastInstant then .ok (value.wall - offset)
    else .error ⟨"OverflowError","date value out of range"⟩

-- `segment`
def pathSegment (kit : PathKit) (value : String) : Except PyExc String :=
  let safe := String.ofList ((strip value).toList.map fun char =>
    if kit.isalnum char || ['-','_','.'].contains char then char else '_')
  if safe = "" ∨ safe = "." ∨ safe = ".." then .error reportPrefixUnavailable else .ok safe

def trimSlashes (text : String) : String :=
  String.ofList ((text.toList.dropWhile (· == '/')).reverse.dropWhile (· == '/')).reverse

def reportRoot (kit : PathKit) (reportRootUri : String) (start finish : ℤ) : Except PyExc String := do
  let parsed ← urlsplit kit.netlocValid (strip reportRootUri)
  if parsed.scheme ≠ "gs" ∨ parsed.netloc = "" ∨ parsed.query ≠ "" ∨ parsed.fragment ≠ "" ∨ parsed.statesUser = true then
    .error reportPrefixUnavailable
  else do
    let port ← parsed.port
    if port.isSome = true ∨ (parsed.path.toList.any fun char => ['*','?','[',']','%'].contains char) = true ∨ finish < start then
      .error reportPrefixUnavailable
    else return trimSlashes parsed.path

-- `target_path`
def targetPath (kit : PathKit) (reportRootUri strategyProfile accountScope : String) (start finish : ℤ) : Except PyExc String := do
  let root ← reportRoot kit reportRootUri start finish
  let profile ← pathSegment kit strategyProfile
  let scope ← pathSegment kit accountScope
  return "/".intercalate ([root,"longbridge",profile,scope].filter (· ≠ ""))

def monthPrefix (path : String) (month : Month) : List Char := path.toList ++ '/' :: (month.text ++ ['/'])

-- One entry of the result: the prefix, where the listing starts and where it ends
structure PrefixRange where
  objectPrefix : String
  startOffset : String
  endOffset : String
  deriving DecidableEq

def monthRange (path : String) (start finish : ℤ) (month next : Month) : PrefixRange :=
  let left := max start month.start
  let right := min finish (next.start - secondSpan)
  { objectPrefix := String.ofList (monthPrefix path month)
    startOffset := String.ofList (monthPrefix path month ++ runId (floorTo secondSpan left))
    endOffset := String.ofList (monthPrefix path month ++ runId (floorTo secondSpan right + secondSpan)) }

-- The loop, which is run once for each month up to the last. No two months have one prefix.
def monthRanges (path : String) (start finish : ℤ) : ℕ → Month → Except PyExc (List PrefixRange)
  | 0,_ => .ok []
  | months + 1,month => do
    let next ← month.next
    let rest ← monthRanges path start finish months next
    return monthRange path start finish month next :: rest

-- `runtime_report_prefix_ranges`
def runtimeReportPrefixRanges (kit : PathKit) (reportRootUri strategyProfile accountScope : String) (since through : Stamp) :
    Except PyExc (List PrefixRange) := do
  let start ← instant since
  let finish ← instant through
  let path ← targetPath kit reportRootUri strategyProfile accountScope start finish
  monthRanges path start finish ((monthOf finish).index + 1 - (monthOf start).index) (monthOf start)

-- The object lies in the listing from the start on and before the end.
def PrefixRange.Lists (range : PrefixRange) (name : String) : Prop := range.startOffset ≤ name ∧ name < range.endOffset

-- The name the producer gives the report of the run that started in this second
def objectName (path : String) (second : ℤ) : String :=
  String.ofList (monthPrefix path (monthOf second) ++ (runId second ++ ".json".toList))

-- A whole second of the years 1000 to 9999
structure RunSecond (second : ℤ) : Prop where
  whole : second % secondSpan = 0
  early : Month.start ⟨1000,1⟩ ≤ second
  late : second < lastInstant

-- What the ranges promise to a listing of the window.
structure CoversWindow (path : String) (start finish : ℤ) (ranges : List PrefixRange) : Prop where
  within : ∀ second, RunSecond second → floorTo secondSpan start ≤ second → second ≤ floorTo secondSpan finish →
    ∃! range, range ∈ ranges ∧ range.Lists (objectName path second)
  outside : ∀ second, RunSecond second → second < floorTo secondSpan start ∨ floorTo secondSpan finish < second →
    ∀ range ∈ ranges, ¬ range.Lists (objectName path second)
  apart : ∀ range ∈ ranges, ∃ month : Month, month.Valid ∧ range.objectPrefix = String.ofList (monthPrefix path month) ∧
    ∀ other : Month, other.Valid → other ≠ month → ∀ name : String, monthPrefix path other <+: name.toList → ¬ range.Lists name

end LongBridge.Reporting
