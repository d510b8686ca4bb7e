import Mathlib.Data.List.Sort
import LongBridge.Effects.Interleaving
import LongBridge.Effects.Versions
import LongBridge.Python.Text

namespace LongBridge.Notifications
open Effects

structure Identity where
  platformId : String
  strategyProfile : String
  targetId : String
  opaqueAccountUid : String
  deriving DecidableEq

-- `NotificationEvent.to_candidate()`
structure CandidateEvent where
  eventKind : String
  occurredAt : String
  platformId : Option String
  opaqueAccountUid : Option String
  targetId : Option String
  strategyProfile : Option String
  sourceRunId : String
  orderExecutionDigest : Option String
  incidentReason : Option String
  orderCount : Option ℤ
  fillCount : Option ℤ
  expectedBlockEvidence : Option String
  businessDay : String
  reportDate : String
  windowId : String
  dedupeKey : String
  coverageStatus : String
  deriving DecidableEq

abbrev Counts := List (String × ℤ)

inductive SourceRun where
  | notRun (asOf : String) (skipReason : Option String)
  | ran (orderCount fillCount previewCount : Option ℤ) (dryRun : Bool) (asOf eventKind : String) (counts : Option Counts)
  deriving DecidableEq

def SourceRun.actuallyRan : SourceRun → Bool
  | .notRun .. => false
  | .ran .. => true

structure Conflict where
  sourceRunId : String
  field : String
  previous : ℤ
  observed : ℤ
  deriving DecidableEq

-- One row of the private state; a key the row does not have is None.
structure Row where
  identity : Identity
  sourceRunId : String
  businessDay : String
  actuallyRan : Bool
  asOf : String
  status : String
  executionStatus : String
  reasonCode : Option String
  orderCount : Option ℤ
  fillCount : Option ℤ
  previewCount : Option ℤ
  cycleCount : ℤ
  dryRun : Option Bool
  executionMode : Option String
  fieldStatus : List (String × String)
  evidenceProvenance : Option String
  persistenceStatus : Option String
  deliveryStatus : Option String
  notificationEvents : List CandidateEvent
  observationCounts : Option Counts
  deriving DecidableEq

structure CandidateState where
  runs : List Row
  scopeKey : String
  events : List (String × CandidateEvent)
  sources : List (String × SourceRun)
  conflicts : List Conflict
  deriving DecidableEq

-- One exported row: the allowed keys of a row, and the two statuses of the export.
structure ExportRow where
  identity : Identity
  sourceRunId : String
  businessDay : String
  actuallyRan : Bool
  asOf : String
  status : String
  executionStatus : String
  reasonCode : Option String
  orderCount : Option ℤ
  fillCount : Option ℤ
  cycleCount : ℤ
  executionMode : Option String
  fieldStatus : List (String × String)
  evidenceProvenance : Option String
  notificationEvents : List CandidateEvent
  observationCounts : Option Counts
  evidencePersistenceStatus : String
  evidenceDeliveryStatus : String
  deriving DecidableEq

abbrev CandidateObject := List ExportRow

inductive CandidateCall where
  | readState (key : String)
  | setState (key : String) (version : Option ℕ) (value : CandidateState)
  | readExport (key : String)
  | setExport (key : String) (version : Option ℕ) (value : CandidateObject)

def CandidateCall.Result : CandidateCall → Type
  | .readState _ => Option (ℕ × CandidateState)
  | .readExport _ => Option (ℕ × CandidateObject)
  | .setState .. | .setExport .. => Bool

def candidatePorts : Ports where
  Call := CandidateCall
  Result := CandidateCall.Result
  Mark := Empty

abbrev CandidateRun (α : Type) := Script candidatePorts PyExc Unit α

def askCandidate (call : CandidateCall) : CandidateRun call.Result := @Script.invoke candidatePorts PyExc Unit call

-- `_hash` of an event and of an identity
structure CandidateHashes where
  event : CandidateEvent → String
  scope : Identity → String

-- What one call is given: the bound target, the event and the options of the call.
structure PersistRequest where
  binding : Except PyExc (Identity × Bool)
  slot : String
  event : CandidateEvent
  actuallyRan : Bool
  previewCount : Option ℤ
  notRun : Bool
  skipReason : Option String
  observationCounts : PyVal
  reportCounts : PyVal

def persistenceError (text : String) : PyExc := ⟨"CandidatePersistenceError",text⟩

def valueError (text : String) : PyExc := ⟨"ValueError",text⟩

def candidateConflict : PyExc := persistenceError "notification_candidate_concurrent_update"

def setEntry {α : Type} (key : String) (value : α) : List (String × α) → List (String × α)
  | [] => [(key,value)]
  | (name,old) :: rest => if name == key then (name,value) :: rest else (name,old) :: setEntry key value rest

theorem lookup_setEntry {α : Type} {entries : List (String × α)} {key name : String} {value : α} :
    (setEntry key value entries).lookup name = if name = key then some value else entries.lookup name := by
  induction entries with
  | nil =>
    unfold setEntry
    rw [List.lookup_cons]
    split <;> simp_all
  | cons entry rest ih =>
    obtain ⟨other,old⟩ := entry
    unfold setEntry
    split <;> rw [List.lookup_cons,List.lookup_cons] <;> split <;> simp_all

def byKey {α : Type} (entries : List (String × α)) : List (String × α) :=
  entries.insertionSort fun one two => one.1 ≤ two.1

-- `json.dumps(value, sort_keys=True)`, read again
def CandidateState.stored (state : CandidateState) : CandidateState :=
  { state with events := byKey state.events, sources := byKey state.sources }

def slotIsValid (slot : String) : Bool :=
  let plain (char : Char) : Bool := char.isLower || char.isDigit
  match slot.toList with
  | [] => false
  | first :: rest => plain first && decide (rest.length ≤ 40) && rest.all fun char => plain char || char == '_' || char == '-'

def namesIdentity (event : CandidateEvent) (identity : Identity) : Bool :=
  event.platformId == some identity.platformId && event.strategyProfile == some identity.strategyProfile &&
  event.targetId == some identity.targetId && event.opaqueAccountUid == some identity.opaqueAccountUid

-- Another event under the same key is kept beside it.
def factKey (hashes : CandidateHashes) (events : List (String × CandidateEvent)) (event : CandidateEvent) : String :=
  match events.lookup event.dedupeKey with
  | none => event.dedupeKey
  | some held => if held = event then event.dedupeKey else event.dedupeKey ++ "-" ++ hashes.event event

def recordEvent (hashes : CandidateHashes) (events : List (String × CandidateEvent)) (event : CandidateEvent) :
    List (String × CandidateEvent) := setEntry (factKey hashes events event) event events

def nonExecutionConflict : PyExc := valueError "candidate_non_execution_conflict"

def recordNotRun (request : PersistRequest) (sources : List (String × SourceRun)) : Except PyExc (List (String × SourceRun)) :=
  if request.actuallyRan || request.event.orderCount.isSome || request.event.fillCount.isSome then .error nonExecutionConflict
  else
    let source : SourceRun := .notRun request.event.occurredAt request.skipReason
    match sources.lookup request.event.sourceRunId with
    | some old => if old ≠ source then .error nonExecutionConflict else .ok (setEntry request.event.sourceRunId source sources)
    | none => .ok (setEntry request.event.sourceRunId source sources)

def observationNames : List String := ["watch","opportunity_watch","panic_reversal","taco_rebound"]

def countEntry (entry : String × PyVal) : Option (String × ℤ) :=
  match entry.2 with
  | .int value => if observationNames.contains entry.1 && decide (0 ≤ value) then some (entry.1,value) else none
  | _ => none

def readCounts (value : PyVal) : Except PyExc Counts :=
  match value with
  | .dict entries => match entries.mapM countEntry with
    | some counts => .ok (byKey counts)
    | none => .error (valueError "candidate_plugin_observations_invalid")
  | _ => .error (valueError "candidate_plugin_observations_invalid")

def countsOf : Option SourceRun → Option Counts
  | some (.ran _ _ _ _ _ _ counts) => counts
  | _ => none

-- The counts of the call, else of the bound report, else those recorded before.
def mergedCounts (request : PersistRequest) (old : Option SourceRun) : Except PyExc (Option Counts) :=
  let given := match request.observationCounts with
    | .none => request.reportCounts
    | value => value
  match given with
  | .none => .ok (countsOf old)
  | value => do
    let counts ← readCounts value
    match countsOf old with
    | some held => if held ≠ counts then .error (valueError "candidate_plugin_observations_conflict") else .ok (some counts)
    | none => .ok (some counts)

-- A count that was recorded stays; another one is a conflict, noted once.
def keptCount (old observed : Option ℤ) : Option ℤ := old.or observed

def noteConflict (run field : String) (old observed : Option ℤ) (conflicts : List Conflict) : List Conflict :=
  match old,observed with
  | some previous,some other =>
    let conflict : Conflict := ⟨run,field,previous,other⟩
    if previous ≠ other ∧ conflict ∉ conflicts then conflicts ++ [conflict] else conflicts
  | _,_ => conflicts

def countField (field : String) : Option SourceRun → Option ℤ
  | some (.ran orderCount fillCount previewCount ..) =>
    if field = "order_count" then orderCount else if field = "fill_count" then fillCount else previewCount
  | _ => none

def recordRun (request : PersistRequest) (dryRun : Bool) (sources : List (String × SourceRun)) (conflicts : List Conflict) :
    Except PyExc (List (String × SourceRun) × List Conflict) := do
  let event := request.event
  let old := sources.lookup event.sourceRunId
  let counts ← mergedCounts request old
  match old with
  | some (.notRun ..) => .error nonExecutionConflict
  | old =>
    let note (field : String) (observed : Option ℤ) (conflicts : List Conflict) :=
      noteConflict event.sourceRunId field (countField field old) observed conflicts
    let noted := note "preview_count" request.previewCount (note "fill_count" event.fillCount
      (note "order_count" event.orderCount conflicts))
    let source : SourceRun := .ran (keptCount (countField "order_count" old) event.orderCount)
      (keptCount (countField "fill_count" old) event.fillCount)
      (keptCount (countField "preview_count" old) request.previewCount) dryRun event.occurredAt event.eventKind counts
    .ok (setEntry event.sourceRunId source sources,noted)

def idleSources (request : PersistRequest) (sources : List (String × SourceRun)) : Except PyExc (List (String × SourceRun)) :=
  if request.notRun then recordNotRun request sources else .ok sources

def recordSource (request : PersistRequest) (dryRun : Bool) (sources : List (String × SourceRun)) (conflicts : List Conflict) :
    Except PyExc (List (String × SourceRun) × List Conflict) := do
  let merged ← idleSources request sources
  if request.actuallyRan then recordRun request dryRun merged conflicts else return (merged,conflicts)

def quietKinds : List String := ["routine_cycle","healthy_heartbeat","order_submitted","fill"]

def knownOr (value : Option ℤ) : String := if value.isSome then "known" else "unknown"

def notRunRow (identity : Identity) (businessDay run asOf : String) (skipReason : Option String) : Row where
  identity := identity
  sourceRunId := run
  businessDay := businessDay
  actuallyRan := false
  asOf := asOf
  status := if skipReason = some "market_closed" then "ok" else "alert"
  executionStatus := "not_run"
  reasonCode := skipReason
  orderCount := none
  fillCount := none
  previewCount := none
  cycleCount := 0
  dryRun := none
  executionMode := none
  fieldStatus := [("order_count","unknown"),("fill_count","unknown"),("cycle_count","known")]
  evidenceProvenance := none
  persistenceStatus := none
  deliveryStatus := none
  notificationEvents := []
  observationCounts := none

def ranRow (identity : Identity) (businessDay run asOf : String) (dryRun : Bool) (conflicts : List Conflict)
    (runEvents : List CandidateEvent) (orderCount fillCount previewCount : Option ℤ) (counts : Option Counts) : Row :=
  let runConflicts := conflicts.filter fun conflict => conflict.sourceRunId = run
  let agreed (field : String) (count : Option ℤ) := if runConflicts.any fun conflict => conflict.field == field then none else count
  let orders := agreed "order_count" orderCount
  let urgent := !runConflicts.isEmpty || runEvents.any fun event => !quietKinds.contains event.eventKind
  { identity
    sourceRunId := run
    businessDay
    actuallyRan := true
    asOf
    status := if urgent then "alert" else "ok"
    executionStatus :=
      if !urgent && orders.isNone && !dryRun then "execution_unknown"
      else if urgent then "execution_alert"
      else if orders.getD 0 ≠ 0 then "executed" else "ok_no_order"
    reasonCode := if urgent then some "source_cycle_alert" else none
    orderCount := orders
    fillCount := agreed "fill_count" fillCount
    previewCount := agreed "preview_count" previewCount
    cycleCount := 1
    dryRun := some dryRun
    executionMode := some (if dryRun then "dry_run" else "live")
    fieldStatus := [("order_count",knownOr orders),("fill_count",knownOr (agreed "fill_count" fillCount)),
      ("cycle_count","known")]
    evidenceProvenance := some "candidates"
    persistenceStatus := some "persisted"
    deliveryStatus := some "pending_central"
    notificationEvents := runEvents
    observationCounts := counts }

def eventsOf (events : List (String × CandidateEvent)) (run : String) : List CandidateEvent :=
  (events.map Prod.snd).filter fun event => event.sourceRunId = run

def sourceRow (identity : Identity) (businessDay : String) (dryRun : Bool) (events : List (String × CandidateEvent))
    (conflicts : List Conflict) (entry : String × SourceRun) : Row :=
  match entry.2 with
  | .notRun asOf skipReason => notRunRow identity businessDay entry.1 asOf skipReason
  | .ran orderCount fillCount previewCount _ asOf _ counts =>
    ranRow identity businessDay entry.1 asOf dryRun conflicts (eventsOf events entry.1) orderCount fillCount previewCount counts

def emptyState : CandidateState := ⟨[],"",[],[],[]⟩

-- What one call makes of the state it has read.
def mergedState (hashes : CandidateHashes) (request : PersistRequest) (identity : Identity) (dryRun : Bool)
    (previous : CandidateState) : Except PyExc CandidateState := do
  let events := recordEvent hashes previous.events request.event
  let (sources,conflicts) ← recordSource request dryRun previous.sources previous.conflicts
  let rows := (byKey sources).map (sourceRow identity request.event.businessDay dryRun events conflicts)
  return ⟨rows,hashes.scope identity,events,sources,conflicts⟩

def exportRow (row : Row) : ExportRow where
  identity := row.identity
  sourceRunId := row.sourceRunId
  businessDay := row.businessDay
  actuallyRan := row.actuallyRan
  asOf := row.asOf
  status := row.status
  executionStatus := row.executionStatus
  reasonCode := row.reasonCode
  orderCount := row.orderCount
  fillCount := row.fillCount
  cycleCount := row.cycleCount
  executionMode := row.executionMode
  fieldStatus := row.fieldStatus
  evidenceProvenance := row.evidenceProvenance
  notificationEvents := row.notificationEvents
  observationCounts := row.observationCounts
  evidencePersistenceStatus := "persisted"
  evidenceDeliveryStatus := "pending_central"

def projection (state : CandidateState) : CandidateObject := state.runs.map exportRow

-- The export's version is read before the state is read again.
def exportProjection (key : String) (state : CandidateState) : CandidateRun Bool := do
  let previous ← askCandidate (.readExport key)
  let latest ← askCandidate (.readState key)
  if latest.map Prod.snd ≠ some state.stored then Script.raise candidateConflict
  else if previous.map Prod.snd = some (projection state) then return true
  else do
    let set : Bool ← askCandidate (.setExport key (previous.map Prod.fst) (projection state))
    if set then return true else Script.raise candidateConflict

-- A missing state beside an exported object, or a state of another scope, is not written over.
def checkHistory (hashes : CandidateHashes) (identity : Identity) (key : String) (read : Option (ℕ × CandidateState)) :
    CandidateRun Unit :=
  match read with
  | none => do
    let exported ← askCandidate (.readExport key)
    if exported.isSome then Script.raise (valueError "notification_candidate_history_unknown") else return ()
  | some (_,previous) =>
    if previous.scopeKey ≠ hashes.scope identity then Script.raise (valueError "notification_candidate_scope_conflict")
    else return ()

def storeState (key : String) (read : Option (ℕ × CandidateState)) (state : CandidateState) : CandidateRun Unit :=
  if read.map Prod.snd = some state.stored then return ()
  else do
    let set : Bool ← askCandidate (.setState key (read.map Prod.fst) state.stored)
    if set then return () else Script.raise candidateConflict

def candidateKey (request : PersistRequest) (identity : Identity) : String :=
  identity.platformId ++ "/" ++ request.event.businessDay ++ "/" ++ request.slot

-- What is checked before the stores are touched.
def boundTarget (request : PersistRequest) : Except PyExc (Identity × Bool) := do
  let (identity,dryRun) ← request.binding
  if !namesIdentity request.event identity || request.event.coverageStatus != "known" then
    .error (persistenceError "notification_candidate_identity_unknown")
  else if !slotIsValid request.slot then .error (valueError "candidate_store_identity_missing")
  else return (identity,dryRun)

def persistCandidate (hashes : CandidateHashes) (request : PersistRequest) : CandidateRun Bool := do
  let (identity,dryRun) ← Script.fromExcept (boundTarget request)
  let key := candidateKey request identity
  let read ← askCandidate (.readState key)
  checkHistory hashes identity key read
  let state ← Script.fromExcept (mergedState hashes request identity dryRun ((read.map Prod.snd).getD emptyState))
  storeState key read state
  exportProjection key state

end LongBridge.Notifications
