import LongBridge.CycleHealth.Incidents
import LongBridge.Reporting.Summary

namespace LongBridge.Reporting
open Effects CycleHealth

structure TargetContext extends CycleContext where
  service : String
  strategyProfile : String
  strategyRevision : String
  schedulerJobName : String

-- `value in {...}` for a set of texts
def isOneOf (value : PyVal) (texts : List String) : Bool := texts.any value.isStr

def isFalse : PyVal → Bool
  | .bool value => !value
  | _ => false

def isNone : PyVal → Bool
  | .none => true
  | _ => false

-- `type(value) is int and value >= 0`, and `type(value) is bool`
def isCount : PyVal → Bool
  | .int value => decide (0 ≤ value)
  | _ => false

def isBool : PyVal → Bool
  | .bool _ => true
  | _ => false

def instantOf (clock : CycleHealth.Clock) : PyVal → Except PyExc ℤ
  | .str text => clock.instant text
  | _ => .error (valueError "invalid instant")

-- `report.get("summary") or {}`
def summaryOf (report : Fields) : Except PyExc Fields :=
  match report.get "summary" with
  | .dict summary => .ok summary
  | value => if value.truthy then .error (valueError "report completeness missing") else .ok []

def errorsOf (report : Fields) : Except PyExc (List PyVal) :=
  match report.get "errors" with
  | .list errors => .ok errors
  | _ => .error (valueError "report completeness missing")

def checkEvidence (receipt : Receipt) (errors : List PyVal) (status pending submitted : PyVal) : Except PyExc Unit := do
  require (receipt.outcome ∈ success → isCount pending = true ∧ isBool submitted = true)
    (valueError "submission evidence missing")
  require (isNone pending = true ∨ isCount pending = true) (valueError "invalid pending evidence")
  require (isNone submitted = true ∨ isBool submitted = true) (valueError "invalid submission evidence")
  require (receipt.outcome ∈ success → errors = [] ∧ isOneOf status ["error","failed","blocked"] = false ∧
    pending.truthy = false) (valueError "receipt summary conflict")
  require (receipt.brokerConfirmation = "not_applicable" → pending.truthy = false ∧ submitted.truthy = false)
    (valueError "no-submission evidence conflict")

-- `_receipt`: the receipt of a report that belongs to the target and agrees with itself.
def reportReceipt (kit : ReceiptKit) (clock : CycleHealth.Clock) (context : TargetContext) (report : Fields) (now : ℤ) :
    Except PyExc Receipt := do
  require ((report.get "platform").isStr "longbridge" = true ∧ (report.get "service_name").isStr context.service = true ∧
    (report.get "strategy_profile").isStr context.strategyProfile = true ∧
    isOneOf (report.get "account_scope") ["PAPER","paper"] = true ∧ isFalse (report.get "dry_run") = true ∧
    isFalse (report.get "validation_only") = true) (valueError "report target/lane mismatch")
  let receipt ← kit.attach report (report.get "execution_receipt")
  require (receipt.strategyRevision = context.strategyRevision ∧ receipt.executionMode = "paper")
    (valueError "receipt revision/lane mismatch")
  let started ← instantOf clock (report.get "started_at")
  let completed ← instantOf clock (report.get "finished_at")
  let observed ← clock.instant receipt.observedAt
  require (started ≤ completed ∧ completed ≤ now ∧ started ≤ observed ∧ observed ≤ now)
    (valueError "invalid report chronology")
  let errors ← errorsOf report
  let summary ← summaryOf report
  checkEvidence receipt errors (report.get "status") (summary.get "orders_pending_count")
    (summary.get "broker_submission_done")
  return receipt

def executionState (brokerConfirmation : String) : String :=
  if brokerConfirmation = "not_applicable" then "no_submission"
  else if brokerConfirmation = "filled" then "terminal_confirmed" else "unresolved"

def invocationCorrelation (clock : CycleHealth.Clock) (context : TargetContext) (scheduled : ℤ) : PyVal → Except PyExc String
  | .none => .ok "window_matched"
  | .dict invocation => do
    require (invocation.length = 2 ∧ Fields.has invocation "scheduler_job_name" = true ∧ Fields.has invocation "scheduled_for" = true)
      (valueError "invalid fields")
    require ((Fields.get invocation "scheduler_job_name").isStr context.schedulerJobName = true) (valueError "invocation mismatch")
    let named ← instantOf clock (Fields.get invocation "scheduled_for")
    require (named = scheduled) (valueError "invocation mismatch")
    return "explicit"
  | _ => .error (valueError "invalid fields")

def projectCycle (kit : ReceiptKit) (health : Kit) (clock : CycleHealth.Clock) (context : TargetContext) (report : Fields)
    (scheduledFor : String) (now : ℤ) : Except PyExc Cycle := do
  let receipt ← reportReceipt kit clock context report now
  let scheduled ← clock.instant scheduledFor
  let started ← instantOf clock (report.get "started_at")
  require (scheduled ≤ started) (valueError "run precedes expected cycle")
  let correlation ← invocationCorrelation clock context scheduled (report.get "invocation")
  let completed ← instantOf clock (report.get "finished_at")
  let cycleId ← cycleId health clock context.toCycleContext (clock.iso scheduled)
  return { cycleId
           scheduledFor := clock.iso scheduled
           receiptRef := some receipt.receiptId
           completedAt := some (clock.iso completed)
           outcome := receipt.outcome
           executionState := executionState receipt.brokerConfirmation
           correlation }

-- The daily projection reads the same report without checking it.
-- `_text(value)`
def plainText : PyVal → String
  | .none => ""
  | value => strip value.text

def lowerText (value : PyVal) : String := lower (plainText value)

def mappingOf : PyVal → Fields
  | .dict entries => entries
  | _ => []

def pendingCount (summary : Fields) : Option ℤ :=
  match summary.get "orders_pending_count" with
  | .int value => some value
  | .bool value => some (if value then 1 else 0)
  | _ =>
    match summary.get "orders_pending" with
    | .list rows => some rows.length
    | _ => none

def listed : PyVal → Bool
  | .list items => !items.isEmpty
  | _ => false

def errorsPresent (payload : Fields) : Bool :=
  listed (payload.get "errors") || listed ((mappingOf (payload.get "error_summary")).get "errors") ||
    (payload.get "error").truthy

def isTrue : PyVal → Bool
  | .bool value => value
  | _ => false

def nonRealLanes : List String := ["dry_run","shadow","validation"]

def orderActivities : List String := ["submitted","broker_acknowledged","partially_filled","filled"]

def anomalies : List String := ["reconciliation_required","unknown","blocked","failed"]

def endsWith (text tail : String) : Bool := tail.toList.isSuffixOf text.toList

def quietName (executionStatus outcome : String) : String :=
  if executionStatus ∈ ["no_signal","no_rebalance"] then executionStatus
  else if outcome ∈ ["no_signal","no_rebalance"] then outcome
  else if executionStatus ∈ ["no_action","skipped","outside_market_hours"] ∨ outcome = "no_action" then "no_submission"
  else ""

def activity (payload summary : Fields) (lane : String) : String :=
  let executionStatus := lowerText (summary.get "execution_status")
  let broker := summary.get "broker_submission_done"
  let action := summary.get "action_done"
  let pending := pendingCount summary
  let receipt := mappingOf (payload.get "execution_receipt")
  let outcome := lowerText (receipt.get "outcome")
  let confirmation := lowerText (receipt.get "broker_confirmation")
  let reportStatus := lowerText (payload.get "status")
  if executionStatus ∈ ["pending_reconciliation","reconciliation_required"] ∨ outcome = "reconciliation_required" ∨
      pending.any (0 < ·) = true then "reconciliation_required"
  else if executionStatus ∈ ["unknown","unknown_order"] ∨ outcome = "unknown" then "unknown"
  else if executionStatus = "blocked" ∨ endsWith executionStatus "_blocked" = true ∨ outcome = "risk_blocked" then "blocked"
  else if errorsPresent payload = true ∨ executionStatus ∈ ["error","failed","failure"] ∨
      reportStatus ∈ ["error","failed"] then "failed"
  else if outcome = "filled" ∧ confirmation = "filled" then "filled"
  else if outcome = "partially_filled" ∨ executionStatus ∈ ["partial","partially_filled"] then "partially_filled"
  else if outcome = "broker_acknowledged" then "broker_acknowledged"
  else if outcome = "submitted" ∨ isTrue broker = true ∨ isTrue action = true ∨ executionStatus = "previewed" then
    if lane ∈ nonRealLanes ∨ executionStatus = "previewed" then "previewed" else "submitted"
  else if quietName executionStatus outcome ≠ "" ∧ isFalse broker = true ∧ isTrue action = false ∧ pending = some 0 ∧
      outcome ∉ orderActivities ++ ["reconciliation_required","filled"] then quietName executionStatus outcome
  else "insufficient"

end LongBridge.Reporting
