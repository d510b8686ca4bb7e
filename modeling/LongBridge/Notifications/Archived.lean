import LongBridge.Effects.Fallible
import LongBridge.Notifications.Candidates
import LongBridge.Python.Conversions
import LongBridge.Python.Equality
import LongBridge.Python.Zones

namespace LongBridge.Notifications
open Effects

-- What is taken from outside: Singapore's clocks, the digest of a dedupe key, the number a
-- preview count goes by (an int is its own) and the text of a reason (a text is its own).
structure NotificationKit where
  sgt : Zone
  digest : List String → String
  previewNumber : PyVal → Option ℤ
  reasonText : PyVal → Option String
  previewNumber_none : previewNumber .none = none
  previewNumber_int : ∀ value, previewNumber (.int value) = some value
  reasonText_none : reasonText .none = none
  reasonText_str : ∀ text, reasonText (.str text) = some text

-- The environment, with what `json.loads` makes of the target.
structure NotificationEnv where
  targetEnabled : Option String
  runtimeTarget : Except PyExc PyVal
  targetId : String
  opaqueAccountUid : String
  matrixTargetId : String
  matrixAccountScope : String
  storeTarget : String

def textKeys : List String := ["platform_id","strategy_profile","service_name","account_scope","deployment_selector"]

def targetKeys : List String :=
  ["platform_id","strategy_profile","service_name","account_scope","account_selector","deployment_selector","dry_run_only"]

def isStated : PyVal → Bool
  | .str text => strip text != ""
  | _ => false

def isSelector : PyVal → Bool
  | .list items => !items.isEmpty && items.all isStated
  | _ => false

def isBool (value : PyVal) (flag : Bool) : Bool :=
  match value with
  | .bool value => value == flag
  | _ => false

def textOf : PyVal → String
  | .str text => text
  | _ => ""

structure BoundTarget where
  fields : Fields
  dryRun : Bool

def readTarget (env : NotificationEnv) : Except PyExc BoundTarget := do
  if env.targetEnabled ≠ some "true" then .error (valueError "notification_target_not_enabled")
  else
    match ← env.runtimeTarget with
    | .dict target => match target.lookup "dry_run_only" with
      | some (.bool dryRun) =>
        if !(textKeys.all fun key => isStated (Fields.get target key)) || !isSelector (Fields.get target "account_selector") then
          .error (valueError "notification_target_binding_missing")
        else if isBool (Fields.get target "runtime_target_enabled") false then .error (valueError "notification_target_not_enabled")
        else return ⟨target,dryRun⟩
      | _ => .error (valueError "notification_target_binding_missing")
    | _ => .error (valueError "notification_target_binding_missing")

def namesTarget (report : Fields) (target : BoundTarget) : Bool :=
  (match report.get "runtime_target" with
    | .dict source => targetKeys.all fun key => (Fields.get source key).same (target.fields.get key)
    | _ => false) &&
  (report.get "platform").same (target.fields.get "platform_id") &&
  (report.get "strategy_profile").same (target.fields.get "strategy_profile") &&
  (report.get "service_name").same (target.fields.get "service_name") && isBool (report.get "dry_run") target.dryRun

-- `target_binding`
def targetBinding (env : NotificationEnv) (report : Option Fields) : Except PyExc (Identity × Bool) := do
  let target ← readTarget env
  if !(report.all fun report => namesTarget report target) then .error (valueError "notification_source_binding_mismatch")
  else if strip env.targetId = "" ∨ strip env.opaqueAccountUid = "" then .error (valueError "notification_identity_unknown")
  else if (strip env.matrixTargetId ≠ "" ∧ strip env.targetId ≠ strip env.matrixTargetId) ∨
      (strip env.matrixAccountScope ≠ "" ∧ textOf (target.fields.get "account_scope") ≠ strip env.matrixAccountScope) then
    .error (valueError "notification_matrix_binding_mismatch")
  else
    return (⟨textOf (target.fields.get "platform_id"),textOf (target.fields.get "strategy_profile"),strip env.targetId,
      strip env.opaqueAccountUid⟩,target.dryRun)

-- `_stamp` of a value that is no datetime; an instant outside the calendar does not convert.
def stampOf (value : PyVal) : Except PyExc ℤ :=
  match fromisoformat (String.ofList (value.text.toList.flatMap fun char => if char = 'Z' then ['+','0','0',':','0','0'] else [char])) with
  | none => .error (valueError "Invalid isoformat string")
  | some stamp => match stamp.offset with
    | none => .error (valueError "notification_time_timezone_missing")
    | some offset =>
      if 0 ≤ stamp.wall - offset ∧ stamp.wall - offset < lastInstant then .ok (stamp.wall - offset)
      else .error ⟨"OverflowError","date value out of range"⟩

-- A `NotificationEvent` made from a report: it has no order digest and no block evidence.
structure ArchivedEvent where
  eventKind : PyVal
  occurredAt : ℤ
  identity : Identity
  sourceRunId : String
  incidentReason : PyVal
  orderCount : Option ℤ
  fillCount : Option ℤ

def eventCount : PyVal → Except PyExc (Option ℤ)
  | .none => .ok none
  | .int value => if 0 ≤ value then .ok (some value) else .error (valueError "notification_count_invalid")
  | _ => .error (valueError "notification_count_invalid")

-- `NotificationEvent(...)` with its `__post_init__`
def checkedEvent (kind : PyVal) (occurredAt : ℤ) (identity : Identity) (run : String) (reason orderCount fillCount : PyVal) :
    Except PyExc ArchivedEvent := do
  let orders ← eventCount orderCount
  let fills ← eventCount fillCount
  if kind.isStr "expected_block_observed" then .error (valueError "notification_expected_block_evidence_missing")
  else return ⟨kind,occurredAt,identity,run,reason,orders,fills⟩

-- `routine_dedupe_key`: an order event without its order's digest has none.
def eventDedupeKey (kit : NotificationKit) (event : ArchivedEvent) : Except PyExc (Option String) :=
  match event.eventKind with
  | .str kind =>
    let parts := [event.identity.platformId,event.identity.opaqueAccountUid,event.identity.targetId,event.identity.strategyProfile,
      event.sourceRunId,kind]
    .ok (if (parts.all fun part => strip part != "") && !(["order_submitted","fill"].contains kind) then some (kit.digest parts) else none)
  | .list _ | .dict _ => .error ⟨"TypeError","unhashable type"⟩
  | _ => .ok none

def countValue : Option ℤ → PyVal
  | some value => .int value
  | none => .none

-- The business day of an instant in Singapore, which starts at six, by its ordinal.
def businessDay (kit : NotificationKit) (instant : ℤ) : ℕ := utcOrdinal (kit.sgt.wall instant - 6 * hourSpan)

-- `to_candidate()`
def toCandidate (kit : NotificationKit) (event : ArchivedEvent) : Except PyExc Fields := do
  let key ← eventDedupeKey kit event
  let day := businessDay kit event.occurredAt
  return [("event_kind",event.eventKind),("occurred_at",.str (isoformat event.occurredAt)),("platform_id",.str event.identity.platformId),
    ("opaque_account_uid",.str event.identity.opaqueAccountUid),("target_id",.str event.identity.targetId),
    ("strategy_profile",.str event.identity.strategyProfile),("source_run_id",.str event.sourceRunId),("order_execution_digest",.none),
    ("incident_reason",event.incidentReason),("order_count",if key.isSome then countValue event.orderCount else .none),
    ("fill_count",if key.isSome then countValue event.fillCount else .none),("expected_block_evidence",.none),
    ("schema_version",.str "qsl.notification_event.v1"),("business_day",.str (dateText day)),("report_date",.str (dateText (day + 1))),
    ("window_id",.str ("sgt-0600:" ++ dateText day)),("dedupe_key",match key with | some key => .str key | none => .none),
    ("coverage_status",.str (if key.isSome then "known" else "unknown"))]

-- `value or {}` of which items are read
def mappingOrEmpty (value : PyVal) : Except PyExc Fields :=
  match value with
  | .dict entries => .ok entries
  | other => if other.truthy then .error ⟨"AttributeError","get"⟩ else .ok []

def finishedStatuses : List String := ["ok","completed","success","error","aborted","failed","skipped"]

def failedStatuses : List String := ["error","aborted","failed"]

def hasStatus (report : Fields) (statuses : List String) : Bool := statuses.any fun status => (report.get "status").isStr status

def skipReasons : List String := ["market_closed","fractional_share_execution_unsupported"]

def skipReasonOf (report : Fields) : Except PyExc PyVal := do
  let diagnostics ← mappingOrEmpty (report.get "diagnostics")
  return diagnostics.get "skip_reason"

-- The reason of a skipped report; another one is asked for none.
def idleReason (report : Fields) : Except PyExc (Option String) :=
  if hasStatus report ["skipped"] then do
    let reason ← skipReasonOf report
    return some (textOf reason)
  else .ok none

def digestFacts (report : Fields) : Except PyExc Fields := do
  let summary ← mappingOrEmpty (report.get "summary")
  mappingOrEmpty (summary.get "notification_digest")

-- A skipped report names its reason and carries no facts.
def checkSkipped (report facts : Fields) : Except PyExc Unit :=
  if hasStatus report ["skipped"] then do
    let reason ← skipReasonOf report
    require ((skipReasons.any fun known => reason.isStr known) = true ∧ facts = [])
      (valueError "candidate_non_execution_conflict")
  else .ok ()

-- Facts of a cycle with the mode of the target
def factsKnown (facts : Fields) (dryRun : Bool) : Bool :=
  (facts.get "schema_version").isStr "qsl.notification_cycle.v1" && isBool (facts.get "dry_run") dryRun

def factCount (facts : Fields) (dryRun : Bool) (name : String) : PyVal := if factsKnown facts dryRun then facts.get name else .none

def archivedMismatch : PyExc := valueError "notification_archived_event_mismatch"

def namesEvent (saved report : Fields) (event : ArchivedEvent) : Bool :=
  (saved.get "platform_id").isStr event.identity.platformId && (saved.get "strategy_profile").isStr event.identity.strategyProfile &&
  (saved.get "target_id").isStr event.identity.targetId && (saved.get "opaque_account_uid").isStr event.identity.opaqueAccountUid &&
  (saved.get "source_run_id").same (report.get "run_id")

def nullableKeys : List String := ["incident_reason","order_execution_digest","expected_block_evidence","order_count","fill_count"]

-- The nulls that the report's finalizer has left out
def withNulls (canonical saved : Fields) : Fields :=
  nullableKeys.foldl (fun normalized name =>
    if !normalized.has name && (match canonical.get name with | .none => true | _ => false) then normalized.set name .none else normalized) saved

-- The event that the report has saved, in the place of the one made from its status.
def savedEvent (kit : NotificationKit) (report saved : Fields) (event : ArchivedEvent) : Except PyExc ArchivedEvent := do
  require (namesEvent saved report event = true) archivedMismatch
  let occurred ← stampOf (saved.get "occurred_at")
  require (occurred = event.occurredAt) archivedMismatch
  require ((saved.get "order_count").same (countValue event.orderCount) = true ∧ (saved.get "fill_count").same (countValue event.fillCount) = true)
    archivedMismatch
  match saved.lookup "event_kind" with
  | none => .error ⟨"KeyError","'event_kind'"⟩
  | some kind => do
    let replaced ← checkedEvent kind event.occurredAt event.identity event.sourceRunId (saved.get "incident_reason")
      (saved.get "order_count") (saved.get "fill_count")
    let canonical ← toCandidate kit replaced
    require ((PyVal.dict canonical).same (.dict (withNulls canonical saved)) = true) archivedMismatch
    return replaced

-- `_archived_event`
def archivedEvent (kit : NotificationKit) (env : NotificationEnv) (report : Fields) : Except PyExc (ArchivedEvent × Fields) := do
  let (identity,dryRun) ← targetBinding env (some report)
  require ((report.get "schema_version").isStr "runtime_report.v1" = true ∧ hasStatus report finishedStatuses = true)
    (valueError "candidate_source_incomplete")
  let facts ← digestFacts report
  checkSkipped report facts
  let failed := hasStatus report failedStatuses
  require ((report.get "run_id").truthy = true ∧ (report.get "started_at").truthy = true) (valueError "notification_source_run_unknown")
  let stamp ← stampOf (report.get "started_at")
  let event ← checkedEvent (.str (if failed then "real_error" else "routine_cycle")) stamp identity (report.get "run_id").text
    (if failed then .str "runtime_failure" else .none) (factCount facts dryRun "order_count") (factCount facts dryRun "fill_count")
  match facts.get "event" with
  | .none => return (event,facts)
  | .dict saved => do
    let replaced ← savedEvent kit report saved event
    return (replaced,facts)
  | _ => .error archivedMismatch

-- The candidate of an event; one without a dedupe key is refused by `persist_candidate`.
def candidateOf (kit : NotificationKit) (event : ArchivedEvent) : Except PyExc CandidateEvent := do
  let key ← eventDedupeKey kit event
  let day := businessDay kit event.occurredAt
  return {
    eventKind := textOf event.eventKind
    occurredAt := isoformat event.occurredAt
    platformId := some event.identity.platformId
    opaqueAccountUid := some event.identity.opaqueAccountUid
    targetId := some event.identity.targetId
    strategyProfile := some event.identity.strategyProfile
    sourceRunId := event.sourceRunId
    orderExecutionDigest := none
    incidentReason := kit.reasonText event.incidentReason
    orderCount := if key.isSome then event.orderCount else none
    fillCount := if key.isSome then event.fillCount else none
    expectedBlockEvidence := none
    businessDay := dateText day
    reportDate := dateText (day + 1)
    windowId := "sgt-0600:" ++ dateText day
    dedupeKey := key.getD ""
    coverageStatus := if key.isSome then "known" else "unknown" }

def summaryCounts (report : Fields) : Except PyExc PyVal := do
  let summary ← mappingOrEmpty (report.get "summary")
  return summary.get "routine_observation_counts"

-- What `persist_archived_report` asks of `persist_candidate`; `bound` is what the report bound to the call counts.
def archivedRequest (kit : NotificationKit) (env : NotificationEnv) (report : Fields) (heartbeat : Bool) (bound : PyVal) :
    Except PyExc PersistRequest := do
  let (event,facts) ← archivedEvent kit env report
  let skipped := hasStatus report ["skipped"]
  let (_,dryRun) ← targetBinding env (some report)
  let candidate ← candidateOf kit event
  let reason ← idleReason report
  let counts ← summaryCounts report
  return {
    binding := targetBinding env none
    slot := env.storeTarget
    event := candidate
    actuallyRan := !skipped
    previewCount := kit.previewNumber (if heartbeat || dryRun then facts.get "preview_count" else .none)
    notRun := skipped
    skipReason := reason
    observationCounts := counts
    reportCounts := bound }

-- `persist_archived_report`
def persistArchivedReport (hashes : CandidateHashes) (kit : NotificationKit) (env : NotificationEnv) (report : Fields) (heartbeat : Bool)
    (bound : PyVal) : CandidateRun Bool := do
  let request ← Script.fromExcept (archivedRequest kit env report heartbeat bound)
  persistCandidate hashes request

end LongBridge.Notifications
