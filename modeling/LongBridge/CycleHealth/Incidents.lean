import Mathlib.Data.List.Sort
import LongBridge.Effects.Fallible
import LongBridge.Python.Text

namespace LongBridge.CycleHealth
open Effects

-- Timestamps stay the texts they are; `instant` reads one as microseconds of
-- UTC and `iso` is the text the projection writes for an instant.
structure Clock where
  instant : String → Except PyExc ℤ
  iso : ℤ → String
  reads_back : ∀ {text time}, instant text = .ok time → instant (iso time) = .ok time

structure CycleContext where
  targetId : String
  sourceBindingId : String
  configurationSha256 : String

structure Cycle where
  cycleId : String
  scheduledFor : String
  receiptRef : Option String
  completedAt : Option String
  outcome : String
  executionState : String
  correlation : String
  deriving DecidableEq

structure Resolution where
  incidentCycleId : String
  kind : String
  evidenceRef : String
  resolvedByCycleId : Option String
  verifiedThrough : String
  deriving DecidableEq

structure Attempt where
  cycle : Cycle
  resolutionRef : Option String
  deriving DecidableEq

inductive Category where
  | executionUncertainty
  | operational
  deriving DecidableEq

structure Incident where
  cycle : Cycle
  category : Option Category
  latestFaultAt : String
  activeCategory : Option Category
  faultAttempts : List Attempt
  resolutionHistory : List Resolution
  resolution : Option Resolution
  deriving DecidableEq

structure Checkpoint where
  targetId : String
  sourceBindingId : String
  incidents : List Incident
  unresolvedCount : ℕ
  executionAuthorityGranted : Bool
  deriving DecidableEq

-- The canonical digest of a list of texts and the outcomes a receipt may have.
structure Kit where
  digest : List String → String
  executionReceiptOutcomes : List String

variable (kit : Kit) (clock : Clock)

def maxCycles : ℕ := 20

def valueError (text : String) : PyExc := ⟨"ValueError",text⟩

def success : List String := ["no_action","no_signal","no_rebalance","not_due","filled"]

-- `value or fallback`
def textOrElse (value : Option String) (fallback : String) : String :=
  match value with
  | some text => if text = "" then fallback else text
  | none => fallback

def isHex (text : String) (digits : ℕ) : Bool :=
  text.length == digits && text.toList.all fun char => char.isDigit || ('a' ≤ char && char ≤ 'f')

def isReceipt (text : String) : Bool :=
  startsWith text "execution-receipt." && isHex (String.ofList (text.toList.drop "execution-receipt.".length)) 32

def cycleId (context : CycleContext) (scheduledFor : String) : Except PyExc String := do
  let time ← clock.instant scheduledFor
  return "cycle." ++ kit.digest [context.targetId,context.sourceBindingId,context.configurationSha256,clock.iso time]

def expectedStates (outcome : String) : List String :=
  if outcome = "failed" then ["no_submission","unresolved"]
  else if outcome = "filled" then ["terminal_confirmed"]
  else if outcome ∈ success ∨ outcome = "risk_blocked" then ["no_submission"]
  else ["unresolved"]

def checkCycle (context : CycleContext) (cycle : Cycle) : Except PyExc Unit := do
  let expected ← cycleId kit clock context cycle.scheduledFor
  require (cycle.cycleId = expected) (valueError "cycle source/configuration mismatch")
  require (cycle.receiptRef.all isReceipt) (valueError "invalid receipt reference")
  require (cycle.executionState ∈ ["no_submission","terminal_confirmed","unresolved"])
    (valueError "invalid execution certainty")
  require (cycle.correlation ∈ ["explicit","window_matched","unconfirmed"]) (valueError "invalid correlation")
  require (cycle.outcome ∈ kit.executionReceiptOutcomes ∨ cycle.outcome = "missing_report") (valueError "invalid outcome")
  if cycle.outcome = "missing_report" then
    require (cycle.receiptRef = none ∧ cycle.completedAt = none ∧ cycle.executionState = "unresolved")
      (valueError "invalid missing report")
  else
    require (cycle.receiptRef ≠ none ∧ cycle.completedAt ≠ none) (valueError "missing receipt evidence")
  require (cycle.executionState ∈ expectedStates cycle.outcome) (valueError "outcome certainty mismatch")
  match cycle.completedAt with
  | none => return ()
  | some completedAt =>
    let completed ← clock.instant completedAt
    let scheduled ← clock.instant cycle.scheduledFor
    require (scheduled ≤ completed) (valueError "invalid cycle completion")

def incidentCategory (cycle : Cycle) : Option Category :=
  if cycle.executionState = "unresolved" ∨ cycle.outcome = "missing_report" then some .executionUncertainty
  else if cycle.outcome ∈ success then none else some .operational

def faultTime (cycle : Cycle) : Except PyExc ℤ := clock.instant (textOrElse cycle.completedAt cycle.scheduledFor)

def attemptKey (cycle : Cycle) : String := textOrElse cycle.receiptRef ("missing:" ++ cycle.cycleId)

-- An attempt beside its fault time, and a resolution beside its watermark.
abbrev Timed (α : Type) := ℤ × α

def earlier (key : α → String) (one two : Timed α) : Prop :=
  one.1 < two.1 ∨ one.1 = two.1 ∧ key one.2 ≤ key two.2

instance (key : α → String) : DecidableRel (earlier key) :=
  fun one two => inferInstanceAs (Decidable (one.1 < two.1 ∨ one.1 = two.1 ∧ key one.2 ≤ key two.2))

def uncertain (cycle : Cycle) : Bool := incidentCategory cycle = some .executionUncertainty

-- Severity first, then time, then key: strictly greater, as max keeps the first of equals.
def outranks (next best : Timed Attempt) : Bool :=
  if uncertain next.2.cycle != uncertain best.2.cycle then uncertain next.2.cycle
  else decide (best.1 < next.1) ||
    (best.1 == next.1 && decide (attemptKey best.2.cycle < attemptKey next.2.cycle))

def representative (first : Timed Attempt) (rest : List (Timed Attempt)) : Timed Attempt :=
  rest.foldl (fun best next => if outranks next best then next else best) first

def latest (first : Timed Attempt) (rest : List (Timed Attempt)) : ℤ :=
  rest.foldl (fun time next => max time next.1) first.1

def isActive (attempt : Attempt) : Bool := attempt.resolutionRef.isNone

def activeCategory (active : List Attempt) : Option Category :=
  if active.any fun attempt => uncertain attempt.cycle then some .executionUncertainty
  else if active.isEmpty then none else some .operational

def timedAttempt (attempt : Attempt) : Except PyExc (Timed Attempt) := do
  let time ← faultTime clock attempt.cycle
  return (time,attempt)

def timedResolution (resolution : Resolution) : Except PyExc (Timed Resolution) := do
  let time ← clock.instant resolution.verifiedThrough
  return (time,resolution)

-- Every field of an incident but its attempts and its history is computed from them.
def refreshIncident (faultAttempts : List Attempt) (resolutionHistory : List Resolution) : Except PyExc Incident := do
  let timed ← faultAttempts.mapM (timedAttempt clock)
  let history ← resolutionHistory.mapM (timedResolution clock)
  let attempts := timed.insertionSort (earlier fun attempt => attemptKey attempt.cycle)
  let resolutions := (history.insertionSort (earlier Resolution.evidenceRef)).map Prod.snd
  match attempts with
  | [] => .error (valueError "max() arg is an empty sequence")
  | first :: rest =>
    let active := (attempts.map Prod.snd).filter isActive
    let incident : Incident :=
      { cycle := (representative first rest).2.cycle
        category := incidentCategory (representative first rest).2.cycle
        latestFaultAt := clock.iso (latest first rest)
        activeCategory := activeCategory active
        faultAttempts := attempts.map Prod.snd
        resolutionHistory := resolutions
        resolution := none }
    if active.isEmpty then
      match resolutions.getLast? with
      | some resolution => return { incident with resolution := some resolution }
      | none => .error ⟨"IndexError","list index out of range"⟩
    else return incident

-- A checkpoint written before attempts were kept is refused, never completed.
def reopenIncident (item : Incident) : Except PyExc Incident := do
  require (item.faultAttempts ≠ []) (valueError "checkpoint missing attempt history")
  refreshIncident clock item.faultAttempts item.resolutionHistory

-- The first incident with this cycle id is changed in place.
def updateIncident (cycleId : String) (change : Incident → Except PyExc Incident)
    (absent : Except PyExc (List Incident)) : List Incident → Except PyExc (List Incident)
  | [] => absent
  | item :: rest =>
    if item.cycle.cycleId = cycleId then do
      let updated ← change item
      return updated :: rest
    else do
      let others ← updateIncident cycleId change absent rest
      return item :: others

def addAttempt (cycle : Cycle) (item : Incident) : Except PyExc Incident :=
  match item.faultAttempts.find? (fun attempt => attemptKey attempt.cycle = attemptKey cycle) with
  | some known => do
    require (known.cycle = cycle) (valueError "conflicting fault receipt replay")
    return item
  | none => do
    require (item.faultAttempts.length < maxCycles) (valueError "fault attempt history requires durable pagination")
    refreshIncident clock (item.faultAttempts ++ [⟨cycle,none⟩]) item.resolutionHistory

def newIncident (cycle : Cycle) : Except PyExc (List Incident) := do
  let item ← refreshIncident clock [⟨cycle,none⟩] []
  return [item]

def recordCycle (context : CycleContext) (incidents : List Incident) (cycle : Cycle) : Except PyExc (List Incident) := do
  checkCycle kit clock context cycle
  if incidentCategory cycle = none then return incidents
  else updateIncident cycle.cycleId (addAttempt clock cycle) (newIncident clock cycle) incidents

-- A success of the same cycle, later than every fault of the incident.
def retrySucceeded (item : Incident) (resolution : Resolution) (cycle : Cycle) : Except PyExc Bool := do
  if cycle.cycleId = resolution.incidentCycleId ∧ resolution.resolvedByCycleId = some resolution.incidentCycleId ∧
      cycle.receiptRef = some resolution.evidenceRef ∧ incidentCategory cycle = none ∧ cycle.correlation = "explicit" then
    match cycle.completedAt with
    | none => .error (valueError "invalid instant")
    | some completedAt => do
      let completed ← clock.instant completedAt
      let fault ← clock.instant item.latestFaultAt
      let verified ← clock.instant resolution.verifiedThrough
      return decide (fault < completed) && decide (completed ≤ verified)
  else return false

def retryResolves (cycles : List Cycle) (item : Incident) (resolution : Resolution) : Except PyExc Bool := do
  let active := item.faultAttempts.filter isActive
  if active.isEmpty ∨ active.any (fun attempt =>
      incidentCategory attempt.cycle ≠ some .operational ∨ attempt.cycle.correlation ≠ "explicit") then return false
  else anyOk (retrySucceeded clock item resolution) cycles

def checkKind (cycles : List Cycle) (item : Incident) (resolution : Resolution) : Except PyExc Unit := do
  if resolution.kind = "same_cycle_retry_succeeded" then
    let resolves ← retryResolves clock cycles item resolution
    require (resolves = true) (valueError "retry resolution mismatch")
  else if resolution.kind = "current_state_reconciled" then
    require (isHex resolution.evidenceRef 64 = true) (valueError "invalid digest")
  else .error (valueError "unsupported resolution")

def resolveAttempt (evidenceRef : String) (attempt : Attempt) : Attempt :=
  if isActive attempt then { attempt with resolutionRef := some evidenceRef } else attempt

def addResolution (context : CycleContext) (cycles : List Cycle) (resolution : Resolution) (item : Incident) :
    Except PyExc Incident :=
  match item.resolutionHistory.find? (fun entry => entry.evidenceRef = resolution.evidenceRef) with
  | some prior => do
    require (prior = resolution) (valueError "conflicting recovery evidence replay")
    return item
  | none => do
    let _ ← (item.faultAttempts.filter isActive).mapM fun attempt => checkCycle kit clock context attempt.cycle
    let verified ← clock.instant resolution.verifiedThrough
    let fault ← clock.instant item.latestFaultAt
    require (fault ≤ verified) (valueError "resolution precedes retained fault watermark")
    checkKind clock cycles item resolution
    require (item.resolutionHistory.length < maxCycles) (valueError "resolution history requires durable pagination")
    refreshIncident clock (item.faultAttempts.map (resolveAttempt resolution.evidenceRef))
      (item.resolutionHistory ++ [resolution])

def applyResolution (context : CycleContext) (cycles : List Cycle) (incidents : List Incident)
    (resolution : Resolution) : Except PyExc (List Incident) :=
  updateIncident resolution.incidentCycleId (addResolution kit clock context cycles resolution)
    (.error (valueError "unknown incident")) incidents

def unresolved (incidents : List Incident) : ℕ := incidents.countP fun item => item.activeCategory.isSome

def reduceIncidents (context : CycleContext) (cycles : List Cycle) (resolutions : List Resolution)
    (previous : Option Checkpoint) : Except PyExc Checkpoint := do
  require (previous.all fun state => decide (state.targetId = context.targetId ∧
    state.sourceBindingId = context.sourceBindingId)) (valueError "binding_changed_unconfirmed")
  let opened ← ((previous.map Checkpoint.incidents).getD []).mapM (reopenIncident clock)
  let recorded ← cycles.foldlM (recordCycle kit clock context) opened
  let incidents ← resolutions.foldlM (applyResolution kit clock context cycles) recorded
  require (incidents.length ≤ maxCycles) (valueError "incident checkpoint requires durable history pagination")
  return { targetId := context.targetId
           sourceBindingId := context.sourceBindingId
           incidents
           unresolvedCount := unresolved incidents
           executionAuthorityGranted := false }

end LongBridge.CycleHealth
