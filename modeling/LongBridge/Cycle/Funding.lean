import LongBridge.Cycle.Selling

namespace LongBridge.Cycle
open Effects

-- What one order status adds to the released cash.
def releasedBy (report : Except PyExc (Option FillReport)) : ℚ :=
  match report with
  | .ok (some ⟨status,some quantity,some price⟩) =>
    if !(["Filled","PartiallyFilled","Partial"].contains (strip status)) && decide (quantity ≤ 0) then 0
    else max 0 quantity * max 0 price
  | _ => 0

def filledSellReleaseValue : List OrderPayload → Step ℚ
  | [] => return 0
  | order :: rest => do
    let brokerOrderId := strip (order.brokerOrderId.getD "")
    if brokerOrderId = "" then filledSellReleaseValue rest
    else
      let report ← (call (.fetchOrderStatus brokerOrderId)).attempt
      let others ← filledSellReleaseValue rest
      return releasedBy report + others

def sellReleaseValue (settings : Settings) (orders : List OrderPayload) : Step ℚ :=
  if settings.hasFetchOrderStatus then filledSellReleaseValue orders else return 0

-- What the refresh loop carries: the best forecast, the released cash and the last state.
structure Refresh where
  bestInvestableCash : ℚ
  projectedSellReleaseValue : ℚ
  observation : Observation

def minScale (known : Option ℚ) (scale : Option ℚ) : Option ℚ :=
  match known,scale with
  | some known,some scale => some (min known scale)
  | none,scale => scale
  | known,none => known

def constrainGate (frame : Frame) (observation : Observation) : Step Observation :=
  if frame.gateEnabled then do
    let evaluated ← Script.fromExcept (evaluateGate frame observation.portfolio observation.execution)
    Script.modify fun locals => { locals with gate :=
      ⟨locals.gate.buyBlocked || NewRiskGate.newRiskBuyProhibited evaluated.admission,
        distinct (locals.gate.reasonCodes ++ evaluated.admission.reasonCodes),
        minScale locals.gate.combinedScale evaluated.admission.combinedScale⟩ }
    Script.mark (P := ports) (.cycleSnapshot (some evaluated.snapshot))
    return { observation with portfolio := evaluated.portfolio }
  else return observation

-- Every observed state constrains the cycle, also one that is not the last.
def constrain (frame : Frame) (observation : Observation) : Step Observation := do
  let blocked ← Script.fromExcept (executionIsBlocked observation.plan observation.execution observation.allocation)
  whenever blocked halt
  constrainGate frame observation

def fetchReplannedState : Step Observation := call .fetchReplannedState

def measureRefresh (frame : Frame) (bestInvestableCash projected : ℚ) (constrained : Observation) : Step Refresh := do
  let locals ← Script.get
  let released ← sellReleaseValue frame.settings locals.book.submittedSellOrders
  return ⟨max bestInvestableCash constrained.execution.investableCash,max projected released,constrained⟩

def refreshOnce (frame : Frame) (bestInvestableCash projected : ℚ) : Step Refresh := do
  let observation ← fetchReplannedState
  let constrained ← constrain frame observation
  measureRefresh frame bestInvestableCash projected constrained

-- The remaining attempts, none of which is needed once the forecast has risen.
def refreshAgain (frame : Frame) (previous : ℚ) : ℕ → Refresh → Step Refresh
  | 0,found => return found
  | attempts + 1,found =>
    if previous < found.observation.execution.investableCash then return found
    else do
      call (.sleeper (max 0 frame.settings.postSellRefreshIntervalSec))
      let next ← refreshOnce frame found.bestInvestableCash found.projectedSellReleaseValue
      refreshAgain frame previous attempts next

def refreshLoop (frame : Frame) (previous : ℚ) : Step Refresh := do
  let first ← refreshOnce frame previous 0
  refreshAgain frame previous ((max 1 frame.settings.postSellRefreshAttempts).toNat - 1) first

def fundedCash (previous : ℚ) (refresh : Refresh) : ℚ :=
  max (max refresh.observation.execution.investableCash refresh.bestInvestableCash)
    (previous + refresh.projectedSellReleaseValue)

-- The last state rules plan and targets; the best forecast only the cash.
def adoptRefresh (frame : Frame) (previous : ℚ) (refresh : Refresh) : Step Unit := do
  let locals ← Script.get
  let observation := refresh.observation
  changeView fun view => { view with
    plan := observation.plan
    portfolio := observation.portfolio
    execution := if locals.book.submissionHalted then noExecute observation.execution else observation.execution
    allocation := observation.allocation }
  whenever frame.gateEnabled (scaleAllocation frame locals.gate.combinedScale)
  adjustTargets frame false
  changeView fun view => { view with
    availableCash := observation.portfolio.liquidCash
    investableCash := fundedCash previous refresh }

def simulatedMessage (proceeds investable : ℚ) : String :=
  "🧪 验证回款已入账: cash=$" ++ fixedText 2 proceeds ++ " investable=$" ++ fixedText 2 investable

def simulateProceeds : Step Unit := do
  let locals ← Script.get
  let proceeds := locals.book.dryRunSaleProceeds
  let investable := max 0 (locals.view.investableCash + proceeds)
  changeView fun view => { view with
    availableCash := max 0 (view.availableCash + proceeds)
    investableCash := investable }
  noteLog (simulatedMessage proceeds investable)

-- The cash the sells of this cycle bring, before any buy is looked at.
def fundFromSells (frame : Frame) : Step Unit := do
  let locals ← Script.get
  if locals.book.sellSubmitted && !locals.book.submissionHalted then
    if frame.settings.dryRunOnly && decide (0 < locals.book.dryRunSaleProceeds) then simulateProceeds
    else
      let refresh ← refreshLoop frame locals.view.investableCash
      adoptRefresh frame locals.view.investableCash refresh
  else pure ()

end LongBridge.Cycle
