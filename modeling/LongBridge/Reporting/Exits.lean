import LongBridge.Reporting.Agreement

namespace LongBridge.Reporting
open Effects CycleHealth

-- The kit's functions on a whole report.
structure ReportKit extends ReceiptKit where
  appendError : Fields → (errorType : String) → Fields
  finalize : Fields → (status : String) → (summary : Option Fields) → (diagnostics : Fields) → Fields

-- What the reporting phase adds to the summary of the cycle.
structure Additions where
  notificationDigest : Option PyVal
  deliveryLog : Option PyVal
  deliverySummary : Option PyVal

-- What the calls of one execution return or raise, in the order of the source.
structure Answers where
  forceRun : Bool
  -- the start is logged and the market is asked
  marketOpen : Except PyExc Bool
  bypassLogged : Except PyExc Unit
  skipLogged : Except PyExc Unit
  skipPrinted : Except PyExc Unit
  unsupportedReason : Option String
  observationCounts : Except PyExc PyVal
  -- the plugin alerts are published, the runtime and its configuration are built
  prepared : Except PyExc Unit
  cycle : Except PyExc (Option CycleResult)
  reported : Except PyExc Additions
  signalSnapshot : Fields
  completedLogged : Except PyExc Unit
  -- everything the error handler does before it finalizes the report
  failureReported : Except PyExc (Option PyVal)
  failurePhase : String
  failureReason : String

-- How the body of the `try` ends. The counts are in the report once the alerts are due.
inductive Ending where
  | skipped (reason : String)
  | skippedThenRaised (reason : String) (exc : PyExc)
  | raised (counts : Option PyVal) (exc : PyExc)
  | completed (counts : PyVal) (result : Option CycleResult) (additions : Additions)
  | completedThenRaised (counts : PyVal) (result : Option CycleResult) (additions : Additions) (exc : PyExc)

def skipEnding (answers : Answers) (reason : String) : Ending :=
  match answers.skipLogged with
  | .error exc => .raised none exc
  | .ok _ =>
    match answers.skipPrinted with
    | .error exc => .skippedThenRaised reason exc
    | .ok _ => .skipped reason

def cycleEnding (answers : Answers) : Ending :=
  match answers.observationCounts with
  | .error exc => .raised none exc
  | .ok counts =>
    match answers.prepared with
    | .error exc => .raised (some counts) exc
    | .ok _ =>
      match answers.cycle with
      | .error exc => .raised (some counts) exc
      | .ok result =>
        match answers.reported with
        | .error exc => .raised (some counts) exc
        | .ok additions =>
          match answers.completedLogged with
          | .error exc => .completedThenRaised counts result additions exc
          | .ok _ => .completed counts result additions

def ending (answers : Answers) : Ending :=
  match answers.marketOpen with
  | .error exc => .raised none exc
  | .ok marketOpen =>
    if !marketOpen && !answers.forceRun then skipEnding answers "market_closed"
    else
      match (if marketOpen then .ok () else answers.bypassLogged) with
      | .error exc => .raised none exc
      | .ok _ =>
        match answers.unsupportedReason with
        | some reason => skipEnding answers reason
        | none => cycleEnding answers

def setSome (key : String) (value : Option PyVal) (fields : Fields) : Fields :=
  match value with
  | some value => fields.set key value
  | none => fields

def counted (counts : Option PyVal) (report : Fields) : Fields :=
  match counts with
  | some counts => report.set "summary" (.dict (Fields.set (mappingOf (report.get "summary")) "routine_observation_counts" counts))
  | none => report

def executionSummary (digest : CycleResult → PyVal) (counts : PyVal) (result : Option CycleResult) (additions : Additions)
    (dryRun : Bool) : Fields :=
  setSome "notification_delivery_summary" additions.deliverySummary
    (setSome "notification_delivery_log" additions.deliveryLog
      (setSome "notification_digest" additions.notificationDigest
        ((summarizeCycleResultForReport digest result dryRun).set "routine_observation_counts" counts)))

def skipDiagnostics (reason : String) : Fields := [("skip_reason",.str reason)]

-- A report without a release attestation goes on without a receipt.
def cycleReport (kit : ReportKit) (digest : CycleResult → PyVal) (answers : Answers) (before : Fields) (counts : PyVal)
    (result : Option CycleResult) (additions : Additions) : Except PyExc Fields :=
  let summary := executionSummary digest counts result additions (before.get "dry_run").truthy
  let diagnostics : Fields := if answers.signalSnapshot.isEmpty then [] else [("signal_snapshot",.dict answers.signalSnapshot)]
  match attachCycleExecutionReceipt kit.toReceiptKit before result with
  | .ok attached => .ok (kit.finalize attached "ok" (some summary) diagnostics)
  | .error exc => if exc.kind = "ValueError" then .ok (kit.finalize before "ok" (some summary) diagnostics) else .error exc

-- `except Exception` lets these through.
def caught (exc : PyExc) : Bool := !(["KeyboardInterrupt","SystemExit","GeneratorExit"].contains exc.kind)

def handleFailure (kit : ReportKit) (answers : Answers) (report : Fields) (exc : PyExc) : Fields :=
  if caught exc then
    let noted := kit.appendError report exc.kind
    match answers.failureReported with
    | .error _ => noted
    | .ok deliverySummary => kit.finalize noted "error" (deliverySummary.map fun value => [("notification_delivery_summary",value)])
        [("failure_phase",.str answers.failurePhase),("failure_reason",.str answers.failureReason)]
  else report

-- The report when the body and its handler are through.
def bodyReport (kit : ReportKit) (digest : CycleResult → PyVal) (answers : Answers) (report : Fields) : Fields :=
  match ending answers with
  | .skipped reason => kit.finalize report "skipped" none (skipDiagnostics reason)
  | .skippedThenRaised reason exc => handleFailure kit answers (kit.finalize report "skipped" none (skipDiagnostics reason)) exc
  | .raised counts exc => handleFailure kit answers (counted counts report) exc
  | .completed counts result additions =>
    match cycleReport kit digest answers (counted (some counts) report) counts result additions with
    | .ok finished => finished
    | .error exc => handleFailure kit answers (counted (some counts) report) exc
  | .completedThenRaised counts result additions late =>
    match cycleReport kit digest answers (counted (some counts) report) counts result additions with
    | .ok finished => handleFailure kit answers finished late
    | .error exc => handleFailure kit answers (counted (some counts) report) exc

-- The `finally` of run_strategy: whatever has no receipt yet gets the fallback one, and is persisted.
def persistedReport (kit : ReportKit) (digest : CycleResult → PyVal) (answers : Answers) (report : Fields) : Fields :=
  let left := bodyReport kit digest answers report
  if left.has "execution_receipt" then left
  else
    match attachTerminalFallbackExecutionReceipt kit.toReceiptKit left with
    | .ok attached => attached
    | .error _ => left

end LongBridge.Reporting
