import LongBridge.Effects.Fallible
import LongBridge.Python.Text

namespace LongBridge.Reporting
open Effects

-- What a strategy cycle returns; an attribute that is missing is empty.
structure CycleResult where
  logs : List String
  skipLogs : List String
  noteLogs : List String
  dryRunOrders : List Fields
  pendingOrders : List Fields
  quoteSnapshots : List Fields
  actionDone : Bool
  execution : Fields

def setIf (condition : Bool) (key : String) (value : PyVal) (fields : Fields) : Fields :=
  if condition then fields.set key value else fields

-- A mapping is copied under the same name, anything else is left out.
def copyMapping (execution : Fields) (key : String) (fields : Fields) : Fields :=
  match execution.get key with
  | .dict entries => fields.set key (.dict entries)
  | _ => fields

-- `value in (None, "")`
def isBlank : PyVal → Bool
  | .none => true
  | .str text => text == ""
  | _ => false

def carry (execution : Fields) (fields : Fields) (key : String) : Fields :=
  setIf (!isBlank (execution.get key)) key (execution.get key) fields

def dicts (rows : List Fields) : PyVal := .list (rows.map .dict)

def blocked (execution : Fields) : Bool := (execution.get "execution_status").isStr "blocked"

def bindingInvalid : String := "durable_live_execution_command_binding_invalid"

def setBlocked (execution : Fields) (fields : Fields) : Fields :=
  if blocked execution then
    (fields.set "execution_status" (.str "blocked")).set "blocked_reason"
      (.str (if (execution.get "blocked_reason").isStr bindingInvalid then bindingInvalid else "unknown"))
  else fields

def orderEventsCount (result : CycleResult) : ℕ := if result.pendingOrders.isEmpty then result.logs.length else 0

def ordersPreviewedCount (result : CycleResult) (dryRun : Bool) : ℕ :=
  if result.dryRunOrders.isEmpty then (if dryRun then orderEventsCount result else 0) else result.dryRunOrders.length

def executionStatus (result : CycleResult) (dryRun : Bool) : String :=
  if !result.pendingOrders.isEmpty then "pending_reconciliation"
  else if dryRun && result.actionDone then "previewed" else "no_action"

def countedSummary (result : CycleResult) (dryRun : Bool) : Fields :=
  [("action_done",.bool (result.actionDone && result.pendingOrders.isEmpty)),
    ("broker_submission_done",.bool result.actionDone),
    ("execution_status",.str (executionStatus result dryRun)),
    ("order_events_count",.int (orderEventsCount result)),
    ("orders_pending_count",.int result.pendingOrders.length),
    ("orders_previewed_count",.int (ordersPreviewedCount result dryRun)),
    ("orders_skipped_count",.int result.skipLogs.length),
    ("notes_count",.int result.noteLogs.length),
    ("dry_run_order_preview_available",.bool (dryRun && decide (0 < ordersPreviewedCount result dryRun)))]

def emptySummary : Fields :=
  [("action_done",.bool false),("order_events_count",.int 0),("orders_previewed_count",.int 0),
    ("orders_skipped_count",.int 0),("notes_count",.int 0),("dry_run_order_preview_available",.bool false)]

-- `digest` is what unified_notifications.cycle_facts says of the result.
def summarizeCycleResultForReport (digest : CycleResult → PyVal) (result : Option CycleResult) (dryRun : Bool) : Fields :=
  match result with
  | none => emptySummary
  | some result =>
    let listed := setIf (!result.quoteSnapshots.isEmpty) "quote_snapshot" (.dict [("quotes",dicts result.quoteSnapshots)])
      (setIf (!result.pendingOrders.isEmpty) "orders_pending" (dicts result.pendingOrders)
        (setIf (!result.dryRunOrders.isEmpty) "orders_previewed" (dicts result.dryRunOrders) (countedSummary result dryRun)))
    let stated := setBlocked result.execution (copyMapping result.execution "heartbeat_account_snapshot" listed)
    let dated := ["signal_date","effective_date","execution_timing_contract","execution_calendar_source"].foldl
      (carry result.execution) stated
    let commanded := copyMapping result.execution "account_identity"
      (copyMapping result.execution "durable_live_execution_command"
        (copyMapping result.execution "durable_execution_command" dated))
    commanded.set "notification_digest" (digest result)

-- The receipt as the validating function returns it.
structure Receipt where
  receiptId : String
  strategyRevision : String
  executionMode : String
  observedAt : String
  outcome : String
  brokerConfirmation : String
  deriving DecidableEq

-- The functions of the platform kit that the runtime and the monitors call.
structure ReceiptKit where
  resolveFact : (dryRun submissionAttempted reconciliationRequired failed : Bool) → String × String
  attachRuntime : Fields → (outcome brokerConfirmation : String) → Except PyExc Fields
  attach : Fields → PyVal → Except PyExc Receipt

def noSignalReasonHeads : List String := ["no_signal"]

def noRebalanceReasonHeads : List String := ["no_rebalance","target_diff_below_threshold"]

def explicitNonActionOutcome (execution : Fields) : Option String :=
  let reason := lower (strip (execution.get "no_op_reason").textOrEmpty)
  if reason = "" then none
  else
    let head := strip (String.ofList (reason.toList.takeWhile (· ≠ ':')))
    if head ∈ noSignalReasonHeads then some "no_signal"
    else if head ∈ noRebalanceReasonHeads then some "no_rebalance" else none

-- None is the result of a cycle that returned nothing.
def cycleOutcome (kit : ReceiptKit) (dryRun : Bool) (result : Option CycleResult) : String × String :=
  let pendingOrders := (result.map CycleResult.pendingOrders).getD []
  let execution := (result.map CycleResult.execution).getD []
  let fact := kit.resolveFact dryRun ((result.map CycleResult.actionDone).getD false) (!pendingOrders.isEmpty) false
  if fact.1 = "no_action" ∧ dryRun = false then
    match explicitNonActionOutcome execution with
    | some explicit => (explicit,"not_applicable")
    | none => fact
  else fact

def attachCycleExecutionReceipt (kit : ReceiptKit) (report : Fields) (result : Option CycleResult) : Except PyExc Fields :=
  let fact := cycleOutcome kit (report.get "dry_run").truthy result
  kit.attachRuntime report fact.1 fact.2

def attachTerminalFallbackExecutionReceipt (kit : ReceiptKit) (report : Fields) : Except PyExc Fields :=
  let failed := lower (strip (report.get "status").textOrEmpty) = "error"
  let fact := kit.resolveFact (report.get "dry_run").truthy failed false failed
  kit.attachRuntime report fact.1 fact.2

end LongBridge.Reporting
