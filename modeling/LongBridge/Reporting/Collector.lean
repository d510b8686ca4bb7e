import LongBridge.Effects.Script
import LongBridge.Reporting.Coverage
import LongBridge.Schedule.Expectations

namespace LongBridge.Reporting
open Effects CycleHealth Schedule

-- The injected reads: the process clock, the serving source, a page of a listing and a report.
inductive CollectorCall where
  | monotonic
  | readSource
  | listPage (lead : String) (token : PyVal) (range : Option (String × String))
  | readReport (name : String)

abbrev CollectorCall.Result : CollectorCall → Type
  | .monotonic => ℚ
  | _ => PyVal

abbrev collectorPorts : Ports where
  Call := CollectorCall
  Result := CollectorCall.Result
  Mark := Empty

abbrev Collecting (α : Type) := Script collectorPorts PyExc Unit α

def askCollector (call : CollectorCall) : Collecting call.Result := @Script.invoke collectorPorts PyExc Unit call

-- What `_admit` makes of a serving source
structure AdmittedSource where
  target : Fields
  fingerprint : String
  grace : ℤ

-- The admission of a source, its schedule and the validators are given, and the times of the calendar read back.
structure CollectorKit extends Reader where
  reads : ∀ time, 0 ≤ time → time < lastInstant → clock.instant (clock.iso time) = .ok time
  admitSource : TargetContext → PyVal → Except PyExc AdmittedSource
  expectations : Fields → ExpectationKit
  jsonSize : PyVal → Except PyExc ℕ
  cycleDigest : Cycle → String
  projectResolution : TargetContext → PageCoverage → ℤ → Fields → Except PyExc CycleHealth.Resolution
  readState : Fields → Except PyExc Checkpoint

-- The arguments of the collector; times are instants of the calendar.
structure CollectRequest where
  since : ℤ
  now : ℤ
  begun : 0 ≤ since
  ended : now < lastInstant
  coverageThrough : Option ℤ
  requiredPrefixes : List String
  listRanges : Option (List (String × String × String))
  readsRanges : Bool
  expectedWindow : Option PyVal
  checkpoint : Option Fields
  recoveryRequests : List Fields
  maxSeconds : ℚ

def CollectRequest.through (request : CollectRequest) : ℤ := request.coverageThrough.getD request.now

inductive StoredCheckpoint where
  | preserved (checkpoint : Option Fields)
  | advanced (configurationSha256 : String) (state : Checkpoint)

structure CycleSchedule where
  state : String
  reason : String
  timezone : Option String
  latestDueAt : Option ℤ
  nextDueAt : ℤ
  deadlineAt : Option ℤ

structure HealthRecord where
  schedule : CycleSchedule
  coverage : PageCoverage
  cycles : List Cycle
  resolutions : List CycleHealth.Resolution

structure Collected where
  dataStatus : String
  reason : Option String
  cycleHealth : Option HealthRecord
  checkpoint : StoredCheckpoint

structure Observation where
  scheduledFor : ℤ
  report : Fields

def maxReportBytes : ℕ := 1048576

def maxListBytes : ℕ := 262144

def unavailable (reason : String) : PyExc := ⟨"CollectionUnavailable",reason⟩

section listing

-- The pages of each prefix so far, and the names in them
structure PageReads where
  pages : Fields
  found : List String
  listedBytes : ℕ
  aborted : Bool

variable (kit : CollectorKit) (request : CollectRequest) (started : ℚ)

def PageReads.abort (reads : PageReads) : PageReads := { reads with aborted := true }

-- `pages[prefix].append(page)`
def addPage (pages : Fields) (lead : String) (page : Fields) : Fields :=
  match pages.get lead with
  | .list items => pages.set lead (.list (items ++ [.dict page]))
  | _ => pages

-- `found.add(name)` for each item that is named under the prefix
def noteItem (lead : String) (found : List String) (item : PyVal) : List String :=
  match itemName item with
  | some name => if startsWith name lead then addName found name else found
  | none => found

inductive PageTurn where
  | ended (reads : PageReads)
  | next (token : String) (reads : PageReads)

-- What is kept of a page, and the token of the next one
def takePage (lead : String) (token : PyVal) (seen : List String) (fields : Fields) (reads : PageReads) : PageTurn :=
  let page := fields.set "request_token" token
  let reads := { reads with pages := addPage reads.pages lead page }
  match page.get "items" with
  | .list items =>
    if maxCycles + 1 < items.length then .ended reads.abort
    else
      let reads := { reads with found := items.foldl (noteItem lead) reads.found }
      if maxCycles < reads.found.length then .ended reads.abort
      else match page.get "nextPageToken" with
        | .none => .ended reads
        | .str following => if following = "" ∨ following ∈ seen then .ended reads.abort else .next following reads
        | _ => .ended reads.abort
  | _ => .ended reads.abort

-- `monotonic() - started > max_seconds`
def late : Collecting Bool := do
  let moment ← askCollector .monotonic
  return decide (request.maxSeconds < moment - started)

def rangeOf (lead : String) : Option (String × String) := request.listRanges.bind (List.lookup lead)

-- One request for a page; none where the listing ends here.
def readPageOf (lead : String) (token : PyVal) (reads : PageReads) : Collecting (Option (Fields × PageReads)) := do
  let answer ← (askCollector (.listPage lead token (rangeOf request lead))).attempt
  match answer with
  | .ok (.dict fields) =>
    match kit.jsonSize (.dict fields) with
    | .ok size =>
      if maxListBytes < reads.listedBytes + size then return none
      else do
        let slow ← (late request started).attempt
        match slow with
        | .ok false => return some (fields,{ reads with listedBytes := reads.listedBytes + size })
        | _ => return none
    | .error _ => return none
  | _ => return none

-- The requests for one prefix, as many as are left
def listPrefix (lead : String) : ℕ → PyVal → List String → PageReads → Collecting PageReads
  | 0,_,_,reads => return reads.abort
  | rounds + 1,token,seen,reads => do
    let slow ← late request started
    if slow then return reads.abort
    else do
      let page ← readPageOf kit request started lead token reads
      match page with
      | none => return reads.abort
      | some (fields,reads) =>
        match takePage lead token seen fields reads with
        | .ended reads => return reads
        | .next following reads => listPrefix lead rounds (.str following) (following :: seen) reads

def listPrefixes : List String → PageReads → Collecting PageReads
  | [],reads => return reads
  | lead :: rest,reads => do
    let reads ← listPrefix kit request started lead (maxCycles + 1) .none [] { reads with pages := reads.pages.set lead (.list []) }
    if reads.aborted then return reads else listPrefixes rest reads

-- The reports that were read, and whether the time ran out before or behind a read
inductive ReportReads where
  | read (reports : Fields) (cut : Bool)
  | late

def keptReport : Except PyExc PyVal → PyVal
  | .ok report => match kit.jsonSize report with
    | .ok size => if size ≤ maxReportBytes then report else .none
    | .error _ => .none
  | .error _ => .none

def readReports : List String → Fields → Collecting ReportReads
  | [],reports => return .read reports false
  | name :: rest,reports => do
    let slow ← late request started
    if slow then return .read reports true
    else do
      let answer ← (askCollector (.readReport name)).attempt
      let reports := reports.set name (keptReport kit answer)
      let slow ← late request started
      if slow then return .late else readReports rest reports

end listing

section projection

variable (kit : CollectorKit)

-- The slot of a report: the one it began in, where it also ended before the next.
def placeReport (slots : List ℤ) (nextDue now : ℤ) (report : Fields) : Except PyExc ℤ := do
  let begun ← kit.clock.instant (report.get "started_at").text
  let finished ← kit.clock.instant (report.get "finished_at").text
  match selectSlot nextDue begun finished slots with
  | none => .error badRequest
  | some slot => do
    let _ ← projectCycle kit.kit kit.health kit.clock kit.context report (kit.clock.iso slot) now
    return slot

-- The loop over the reports: what has a place is observed, and what has none is an error of the coverage.
def observeReport (slots : List ℤ) (nextDue now : ℤ) (seen : List Observation × Bool) (report : PyVal) :
    Except PyExc (List Observation × Bool) :=
  match report with
  | .dict report => match placeReport kit slots nextDue now (withoutInvocation report) with
    | .ok slot => .ok (seen.1 ++ [⟨slot,withoutInvocation report⟩],seen.2)
    | .error error => if caughtReceipt error then .ok (seen.1,true) else .error error
  | _ => .ok seen

-- `coverage_complete` with the bounds that it is asked for
def coverageReaches (coverage : PageCoverage) (since through : Option ℤ) : Except PyExc Bool := do
  let complete ← coverageComplete kit.clock coverage
  let start ← kit.clock.instant coverage.start
  let stop ← kit.clock.instant coverage.through
  return complete && since.all (fun time => decide (start ≤ time)) && through.all fun time => decide (time ≤ stop)

def scheduleReasons : List (String × List String) :=
  [("not_due",["no_cron_on_business_date","before_schedule"]),("market_closed",["market_closed"]),
    ("outside_window",["outside_expected_window"]),("within_grace",["publication_grace_open"]),("due",["publication_grace_ended"]),
    ("unevaluable",["missing_timezone","invalid_timezone","missing_schedule","invalid_schedule","missing_market_calendar",
      "market_calendar_unavailable"])]

-- `_schedule`
def projectSchedule (zones : String → Option Zone) (schedule : ExpectedSchedule) (now : ℤ) : Except PyExc CycleSchedule := do
  require (((scheduleReasons.lookup schedule.state).getD []).contains schedule.reason = true) (valueError "invalid schedule reason")
  let known := (zones schedule.timezone).isSome && schedule.timezone != ""
  require (known = true ∨ schedule.state = "unevaluable" ∧ ["missing_timezone","invalid_timezone"].contains schedule.reason = true)
    (valueError "timezone unavailable for evaluable schedule")
  require (schedule.latestDueAt.all (fun latest => decide (latest ≤ now)) = true) (valueError "latest due in future")
  require (now < schedule.nextDueAt) (valueError "next due elapsed")
  require (∀ deadline ∈ schedule.deadlineAt, ∀ latest ∈ schedule.latestDueAt, latest ≤ deadline) (valueError "deadline before due")
  return ⟨schedule.state,schedule.reason,if known then some schedule.timezone else none,schedule.latestDueAt,schedule.nextDueAt,
    schedule.deadlineAt⟩

-- `rows[key(row)] = row`: a key keeps its place and has the last of its rows.
def setRow (key : Cycle → String) (rows : List Cycle) (row : Cycle) : List Cycle :=
  if rows.any (fun old => key old == key row) then rows.map fun old => if key old = key row then row else old else rows ++ [row]

def missingCycle (latest : ℤ) : Except PyExc Cycle := do
  let cycleId ← cycleId kit.health kit.clock kit.context.toCycleContext (kit.clock.iso latest)
  return { cycleId
           scheduledFor := kit.clock.iso latest
           receiptRef := none
           completedAt := none
           outcome := "missing_report"
           executionState := "unresolved"
           correlation := "unconfirmed" }

-- The missing report of the latest slot, once its deadline is over
def missingReports (schedule : CycleSchedule) (coverage : PageCoverage) (cycles : List Cycle) (now : ℤ) : Except PyExc (List Cycle) :=
  match schedule.latestDueAt,schedule.deadlineAt with
  | some latest,some deadline =>
    if schedule.state = "due" ∧ deadline ≤ now then do
      let reached ← coverageReaches kit coverage (some latest) (some deadline)
      if reached && !cycles.any (fun cycle => cycle.scheduledFor == kit.clock.iso latest) then do
        let cycle ← missingCycle kit latest
        return [cycle]
      else return []
    else return []
  | _,_ => return []

def buildCycleHealth (zones : String → Option Zone) (schedule : ExpectedSchedule) (coverage : PageCoverage)
    (observations : List Observation) (now : ℤ) : Except PyExc HealthRecord := do
  let selected ← projectSchedule zones schedule now
  let _ ← coverageReaches kit coverage none none
  let through ← kit.clock.instant coverage.through
  require (through ≤ now) (valueError "future coverage")
  require (observations.length ≤ maxCycles) (valueError "cycle limit exceeded")
  let rows ← observations.mapM fun item =>
    projectCycle kit.kit kit.health kit.clock kit.context item.report (kit.clock.iso item.scheduledFor) now
  let cycles := rows.foldl (setRow kit.cycleDigest) []
  let missing ← missingReports kit selected coverage cycles now
  require ((cycles ++ missing).length ≤ maxCycles) (valueError "cycle limit exceeded")
  return ⟨selected,coverage,cycles ++ missing,[]⟩

-- Rows are told apart by their serialised form, which is as good as the rows.
def addRow (rows : List Cycle) (row : Cycle) : List Cycle := if row ∈ rows then rows else rows ++ [row]

-- The schedule of one slot whose deadline is over
def slotSchedule (schedule : ExpectedSchedule) (slot : ExpectedSlot) : ExpectedSchedule :=
  { schedule with
    state := "due"
    reason := "publication_grace_ended"
    latestDueAt := some slot.scheduledFor
    deadlineAt := some slot.deadlineAt }

def composeSlot (zones : String → Option Zone) (schedule : ExpectedSchedule) (coverage : PageCoverage) (observations : List Observation)
    (now : ℤ) (rows : List Cycle) (slot : ExpectedSlot) : Except PyExc (List Cycle) :=
  if now < slot.deadlineAt then .ok rows
  else do
    let own := observations.filter fun item => item.scheduledFor == slot.scheduledFor
    let projection ← buildCycleHealth kit zones (slotSchedule schedule slot) coverage own now
    return projection.cycles.foldl addRow rows

-- The slots without a report whose deadline is over
def missingCount (slots : List ExpectedSlot) (observations : List Observation) (now : ℤ) : ℕ :=
  slots.countP fun slot => decide (slot.deadlineAt ≤ now) && !observations.any fun item => item.scheduledFor == slot.scheduledFor

end projection

section collector

variable (kit : CollectorKit) (request : CollectRequest)

def CollectRequest.blocked (reason status : String) : Collected := ⟨status,some reason,none,.preserved request.checkpoint⟩

def validScope : Prop := request.since ≤ request.through ∧ request.through ≤ request.now ∧ request.requiredPrefixes ≠ [] ∧
  request.requiredPrefixes.length ≤ 366 ∧ request.requiredPrefixes.Nodup ∧
  (∀ lead ∈ request.requiredPrefixes, lead ≠ "" ∧ lead.toList.length ≤ 1024) ∧ 0 < request.maxSeconds ∧ request.maxSeconds ≤ 60 ∧
  request.recoveryRequests.length ≤ maxCycles ∧
  ∀ ranges ∈ request.listRanges, (∀ lead ∈ request.requiredPrefixes, lead ∈ ranges.map Prod.fst) ∧
    (∀ lead ∈ ranges.map Prod.fst, lead ∈ request.requiredPrefixes) ∧ request.readsRanges = true

instance : Decidable (validScope request) := by unfold validScope; infer_instance

-- Why the given checkpoint does not belong to the context, if it does not
def checkpointFault : Option String :=
  match request.checkpoint with
  | none => none
  | some checkpoint =>
    if (checkpoint.get "configuration_sha256").isStr kit.context.configurationSha256 = false then some "configuration_changed_unconfirmed"
    else match checkpoint.get "state" with
      | .dict state => if (Fields.get state "target_id").isStr kit.context.targetId = true ∧
          (Fields.get state "source_binding_id").isStr kit.context.sourceBindingId = true then none else some "source_binding_unconfirmed"
      | _ => some "source_binding_unconfirmed"

def previousState : Except PyExc (Option Checkpoint) :=
  match request.checkpoint with
  | none => .ok none
  | some checkpoint => match checkpoint.get "state" with
    | .dict state => do
      let previous ← kit.readState state
      return some previous
    | _ => .error (valueError "invalid checkpoint")

def expectationRequest (grace : ℤ) : ExpectationRequest where
  since := request.since
  now := request.now
  coverageEnd := request.through
  publicationGrace := grace
  expectedWindow := request.expectedWindow
  maxSlots := maxCycles
  horizonDays := 366

-- The payload and what becomes of the checkpoint, from the reads
def projectCollection (source : AdmittedSource) (slots : List ExpectedSlot) (schedule : ExpectedSchedule) (coverage : PageCoverage)
    (observations : List Observation) : Except PyExc Collected := do
  let complete ← coverageReaches kit coverage none none
  if complete ∧ maxCycles < observations.length + missingCount slots observations request.now then
    return request.blocked "projection_limit_exceeded" "incomplete"
  else do
    let zones := (kit.expectations source.target).zones
    let payload ← buildCycleHealth kit zones schedule coverage observations request.now
    let cycles ← slots.foldlM (composeSlot kit zones schedule coverage observations request.now) (payload.cycles.foldl addRow [])
    if maxCycles < cycles.length then return request.blocked "projection_limit_exceeded" "incomplete"
    else if request.recoveryRequests.any (fun recovery => (recovery.get "kind").isStr "same_cycle_retry_succeeded") then
      return request.blocked "invocation_provenance_unavailable" "unevaluable"
    else do
      let resolutions ← request.recoveryRequests.mapM (kit.projectResolution kit.context coverage request.now)
      let previous ← previousState kit request
      let state ← reduceIncidents kit.health kit.clock kit.context.toCycleContext cycles resolutions previous
      return {
        dataStatus := if complete then "ready" else "incomplete"
        reason := if complete then none else some "report_coverage_incomplete"
        cycleHealth := some { payload with cycles, resolutions }
        checkpoint := .advanced kit.context.configurationSha256 state }

-- The source is read and admitted once more; nothing of it may have changed.
def sourceKept (source : AdmittedSource) : Collecting Bool := do
  let answer ← (askCollector .readSource).attempt
  match answer with
  | .ok again => match kit.admitSource kit.context again with
    | .ok after => return after.fingerprint == source.fingerprint
    | .error _ => return false
  | .error _ => return false

-- What follows the reads
def finish (started : ℚ) (source : AdmittedSource) (slots : List ExpectedSlot) (schedule : ExpectedSchedule) (reads : PageReads)
    (reports : Fields) (cut : Bool) : Collecting Collected := do
  let coverage ← Script.fromExcept (deriveCoverage kit.kit kit.clock kit.context request.requiredPrefixes reads.pages reports
    (.str (kit.clock.iso request.since)) (.str (kit.clock.iso request.through)) (reads.aborted || cut))
  let (observations,errors) ← Script.fromExcept ((reports.map Prod.snd).foldlM
    (observeReport kit (slots.map ExpectedSlot.scheduledFor) schedule.nextDueAt request.now) ([],coverage.errorsPresent))
  let coverage := { coverage with errorsPresent := errors }
  let slow ← late request started
  if slow then return request.blocked "collection_deadline_exceeded" "incomplete"
  else do
    let kept ← sourceKept kit source
    if !kept then return request.blocked "source_changed_during_read" "unevaluable"
    else do
      let slow ← late request started
      if slow then return request.blocked "collection_deadline_exceeded" "incomplete"
      else do
        let collected ← Script.fromExcept (projectCollection kit request source slots schedule coverage observations)
        match collected.cycleHealth with
        | none => return collected
        | some _ => do
          let slow ← late request started
          if slow then return request.blocked "collection_deadline_exceeded" "incomplete" else return collected

def gather (started : ℚ) (source : AdmittedSource) (slots : List ExpectedSlot) (schedule : ExpectedSchedule) : Collecting Collected := do
  let reads ← listPrefixes kit request started request.requiredPrefixes ⟨[],[],0,false⟩
  let reports ← readReports kit request started ((reads.found.insertionSort (· ≤ ·)).take maxCycles) []
  match reports with
  | .late => return request.blocked "collection_deadline_exceeded" "incomplete"
  | .read reports cut => finish kit request started source slots schedule reads reports cut

-- The body of `collect_runtime_cycle_health`
def collectBody : Collecting Collected := do
  Script.fromExcept (require (validScope request) (unavailable "collection_scope_invalid"))
  let started ← askCollector .monotonic
  let first ← askCollector .readSource
  let slow ← late request started
  if slow then return request.blocked "collection_deadline_exceeded" "incomplete"
  else do
    let source ← Script.fromExcept (kit.admitSource kit.context first)
    match checkpointFault kit request with
    | some reason => return request.blocked reason "unevaluable"
    | none =>
      match Schedule.enumerateCycleExpectations (kit.expectations source.target) source.target (expectationRequest request source.grace) with
      | .stopped state reason _ _ => return request.blocked reason state
      | .ready slots schedule => gather kit request started source slots schedule

-- Every exception ends in a blocked result.
def collectRuntimeCycleHealth : Collecting Collected := do
  let answer ← (collectBody kit request).attempt
  match answer with
  | .ok collected => return collected
  | .error error =>
    if error.kind = "CollectionUnavailable" then return request.blocked error.text "unevaluable"
    else return request.blocked "collection_unevaluable" "unevaluable"

end collector

end LongBridge.Reporting
