import LongBridge.Cycle.Buying

namespace LongBridge.Cycle
open Effects

def blockedResult (locals : Locals) : CycleResult :=
  { plan := locals.view.plan
    portfolio := locals.view.portfolio
    execution := noExecute locals.view.execution
    allocation := locals.view.allocation
    logs := locals.journal.logs
    skipLogs := locals.journal.skipLogs
    noteLogs := locals.journal.noteLogs
    actionDone := false
    dryRunOrders := []
    pendingOrders := []
    quoteSnapshots := []
    notificationAttentionReasonCodes := [] }

-- The gate has already asked for attention itself.
def attentionReasons (reason : Option String) : List String :=
  (reason.filter fun code =>
    ["small_account_below_recommended_equity","negative_cash","pending_sell_release"].contains code).toList

def cycleResult (locals : Locals) : CycleResult :=
  { plan := locals.view.plan
    portfolio := locals.view.portfolio
    execution := locals.view.execution
    allocation := locals.view.allocation
    logs := locals.journal.logs
    skipLogs := locals.journal.skipLogs
    noteLogs := locals.journal.noteLogs
    actionDone := locals.book.actionDone
    dryRunOrders := locals.book.dryRunOrders
    pendingOrders := locals.book.pendingOrders
    quoteSnapshots := locals.journal.quotes.map Prod.snd
    notificationAttentionReasonCodes := attentionReasons locals.buysBlockedReason }

def driftInputs (frame : Frame) (locals : Locals) : DriftInputs :=
  { targetValues := locals.view.referenceTargets
    currentValues := frame.opening.portfolio.marketValues
    currentQuantities := frame.opening.portfolio.quantities
    prices := locals.journal.quotes.map fun entry => (entry.1,entry.2.lastPrice.getD 0)
    submittedOrders := locals.book.submittedOrders ++ locals.book.dryRunOrders
    totalValue := NewRiskGate.firstTruthy (locals.view.portfolio.fields.get "total_strategy_equity")
      (locals.view.portfolio.fields.get "total_equity")
    cashValue := frame.opening.portfolio.liquidCash }

def allocationDriftNotes (inputs : DriftInputs) : Step (List String) := call (.allocationDriftNotes inputs)

def finishCycle (frame : Frame) : Step CycleResult := do
  let locals ← Script.get
  let notes ← allocationDriftNotes (driftInputs frame locals)
  changeJournal fun journal => { journal with noteLogs := journal.noteLogs ++ notes }
  Script.mark (P := ports) (.cycleSnapshot none)
  let finished ← Script.get
  return cycleResult finished

-- From the adjusted targets to the cash the buys start with.
def sellAndFund (frame : Frame) : Step Unit := do
  adjustTargets frame true
  let locals ← Script.get
  sellLoop frame locals.view.allocation.strategySymbols
  fundFromSweep frame
  fundFromSells frame

def buyPhase (frame : Frame) (candidates : List String) : Step CycleResult := do
  buyLoop frame candidates
  rebuyCashSweep frame
  finishCycle frame

def openCycle (frame : Frame) : Step Bool := do
  openGate frame
  let locals ← Script.get
  Script.fromExcept (executionIsBlocked locals.view.plan locals.view.execution locals.view.allocation)

def tradeCycle (frame : Frame) : Step CycleResult := do
  sellAndFund frame
  let candidates ← gateBuys frame
  buyPhase frame candidates

def executeRebalanceCycle (frame : Frame) : Step CycleResult := do
  let blocked ← openCycle frame
  if blocked then do
    let locals ← Script.get
    return blockedResult locals
  else tradeCycle frame

end LongBridge.Cycle
