import LongBridge.Cycle.Submission

namespace LongBridge.Cycle
open Effects

def Frame.cashSweepSymbol (frame : Frame) : String := normalizedSymbol frame.opening.portfolio.cashSweepSymbol

def Frame.smallAccountBuyBlocked (frame : Frame) : Bool :=
  isTruthy (frame.opening.execution.fields.get "small_account_warning")

def Frame.gateEnabled (frame : Frame) : Bool := NewRiskGate.isAccountNewRiskGateEnabled frame.environment

def openingLocals (observation : Observation) : Locals :=
  { journal := ⟨[],[],[],[],[],[]⟩
    book := ⟨[],[],[],[],false,false,false,false,[],0⟩
    gate := ⟨false,[],none⟩
    view := ⟨observation.plan,observation.portfolio,observation.execution,observation.allocation,[],
      observation.portfolio.liquidCash,observation.execution.investableCash⟩
    estimatedBuyCost := none
    buysBlockedReason := none }

def changeView (change : View → View) : Step Unit :=
  Script.modify fun locals => { locals with view := change locals.view }

-- The admission of one observed state, with the mapping it is computed from and the snapshot for the adapter.
structure Evaluated where
  portfolio : Portfolio
  admission : NewRiskGate.Admission
  snapshot : NewRiskGate.Snapshot

def evaluateGate (frame : Frame) (portfolio : Portfolio) (execution : Execution) : Except PyExc Evaluated := do
  let projection ← NewRiskGate.buildAccountNewRiskSnapshot frame.library.gate portfolio.fields (some execution.fields)
  let fields := portfolio.fields.set "account_new_risk_snapshot" (.dict projection)
  let admission ← NewRiskGate.evaluatePortfolioNewRiskAdmission frame.library.gate frame.environment fields
    (some execution.fields)
  let snapshot ← NewRiskGate.buildSnapshotFromPortfolio frame.library.gate frame.environment fields (some execution.fields)
  return ⟨{ portfolio with fields },admission,snapshot⟩

-- A diagnostic goes to the console, and in a dry run into the notes as well.
def diagnostic (frame : Frame) (message : String) : Step Unit := do
  printPrefixed message
  whenever frame.settings.dryRunOnly
    (changeJournal fun journal => { journal with noteLogs := journal.noteLogs ++ [message] })

def gateMessage (frame : Frame) (evaluated : Evaluated) : String :=
  "[Account new-risk gate] disposition=" ++ frame.library.dispositionText evaluated.admission.disposition ++
  " observation=" ++ evaluated.snapshot.observationStatus ++
  " reconciliation=" ++ evaluated.snapshot.reconciliationStatus ++
  " breaker=" ++ evaluated.snapshot.circuitBreakerState ++
  " reasons=" ++ (if evaluated.admission.reasonCodes.isEmpty then "NONE" else ",".intercalate evaluated.admission.reasonCodes)

def attentionMessage (counts : AttentionCounts) : String :=
  "[Attention notify] sent=" ++ toString counts.sent ++ " skipped=" ++ toString counts.skipped ++
  " failed=" ++ toString counts.failed

def scaleMessage (frame : Frame) (scale : ℚ) : String :=
  "[Envelope scale] combined_scale=" ++ frame.library.gate.floatText scale ++ " applied_to_allocation_targets"

def scaleAllocation (frame : Frame) (scale : Option ℚ) : Step Unit := do
  let locals ← Script.get
  let targets ← Script.fromExcept (frame.library.applyCombinedScaleToTargets locals.view.allocation.targets scale)
  changeView fun view => { view with allocation := { view.allocation with targets } }

def publishAttention (admission : NewRiskGate.Admission) : Step AttentionCounts := call (.publishAttention admission)

def openGate (frame : Frame) : Step Unit :=
  if frame.gateEnabled then do
    let evaluated ← Script.fromExcept (evaluateGate frame frame.opening.portfolio frame.opening.execution)
    Script.modify fun locals => { locals with
      gate := ⟨NewRiskGate.newRiskBuyProhibited evaluated.admission,evaluated.admission.reasonCodes,
        evaluated.admission.combinedScale⟩
      view := { locals.view with portfolio := evaluated.portfolio } }
    Script.mark (P := ports) (.cycleSnapshot (some evaluated.snapshot))
    diagnostic frame (gateMessage frame evaluated)
    let counts ← publishAttention evaluated.admission
    diagnostic frame (attentionMessage counts)
    scaleAllocation frame evaluated.admission.combinedScale
    match evaluated.admission.combinedScale with
    | some scale => diagnostic frame (scaleMessage frame scale)
    | none => pure ()
  else Script.mark (P := ports) (.cycleSnapshot none)

-- Prices for the whole-share rules; a symbol without a quote is left out.
def compatibilityPrices (settings : Settings) : List String → Amounts → Step Amounts
  | [],prices => return prices
  | symbol :: rest,prices => do
    let quoted ← (do
      let snapshot ← call (.getQuote (marketSymbol settings symbol))
      Script.fromExcept (lastPrice snapshot) : Step ℚ).attempt
    compatibilityPrices settings rest (match quoted with
      | .ok price => if 0 < price then prices.set symbol price else prices
      | .error _ => prices)

def adjustWholeShares (frame : Frame) : Step Unit := do
  let locals ← Script.get
  let allocation := locals.view.allocation
  let candidates := candidateSymbols locals.view.plan.portfolio allocation
    (allocation.targets.map fun entry => normalizedSymbol entry.1)
  let prices ← compatibilityPrices frame.settings candidates []
  changeView fun view =>
    let (plan,allocation) := wholeShareCompatibility frame view.plan view.allocation candidates prices
    { view with plan, allocation }

def cashNoteKey (note : CashNote) (message : String) : String :=
  let symbol := normalizedSymbol note.symbol
  let cash := distinct ((note.cashSymbols.map normalizedSymbol).filter (· ≠ ""))
  if symbol = "" then message
  else "small_account_cash_substitution:" ++ symbol ++ ":" ++ (if cash.isEmpty then "__cash__" else ",".intercalate cash)

def recordCashNote (note : CashNote) (messages : List String) : Step Unit :=
  match messages with
  | [] => pure ()
  | message :: _ => do
    let locals ← Script.get
    let seen := locals.journal.cashNoteKeys
    whenever (!seen.contains (cashNoteKey note message) && !seen.contains message) do
      changeJournal fun journal =>
        { journal with cashNoteKeys := journal.cashNoteKeys ++ [cashNoteKey note message,message] }
      noteLog message

def recordCashNotes : List CashNote → Step Unit
  | [] => pure ()
  | note :: rest => do
    let messages ← call (.formatCashNote note)
    recordCashNote note messages
    recordCashNotes rest

def bootstrapFallback (symbols : String) : String :=
  "ℹ️ [买入说明] " ++ symbols ++ " 目标金额接近 1 股；小账户整数股兼容，本轮允许按 1 股下单"

def recordBootstrapNotes (settings : Settings) (symbols : List String) : Step Unit :=
  let shown := distinct ((symbols.filter fun symbol => strip symbol ≠ "").map (marketSymbol settings))
  if shown.isEmpty then pure ()
  else do
    let translated ← (translate "buy_lifted_small_account_whole_share" [("symbols",.text (", ".intercalate shown))]).attempt
    let message := match translated with
      | .ok text => if text = "" ∨ text = "buy_lifted_small_account_whole_share"
        then bootstrapFallback (", ".intercalate shown) else text
      | .error _ => bootstrapFallback (", ".intercalate shown)
    let locals ← Script.get
    let seen := locals.journal.bootstrapNoteKeys
    whenever (!seen.contains ("small_account_bootstrap:" ++ message) && !seen.contains message) do
      changeJournal fun journal =>
        { journal with bootstrapNoteKeys := journal.bootstrapNoteKeys ++ ["small_account_bootstrap:" ++ message,message] }
      noteLog message

def announceCompatibility : Step Unit := do
  let detail ← translate "dca_notional_to_whole_share_compat" []
  let note ← translate "buy_deferred" [("detail",.text detail)]
  noteLog note

-- From raw targets to the targets orders are sized by; once when the cycle
-- opens and once more after the state was refreshed.
def adjustTargets (frame : Frame) (announce : Bool) : Step Unit := do
  let locals ← Script.get
  Script.mark (P := ports) (.adjusting locals.view.allocation.targets)
  changeView fun view =>
    let (plan,allocation) := applySafeHavenCashSubstitution frame.settings.safeHavenCashSubstituteThresholdUsd
      view.plan view.portfolio view.allocation
    { view with plan, allocation, referenceTargets := driftReferenceTargets view.portfolio allocation }
  whenever (announce && frame.settings.notionalBuyCompatMode) announceCompatibility
  whenever (!frame.settings.fractionalBuyExecution) (adjustWholeShares frame)
  let adjusted ← Script.get
  recordCashNotes adjusted.view.allocation.wholeShareCashNotes
  recordBootstrapNotes frame.settings adjusted.view.allocation.wholeShareBootstrap

end LongBridge.Cycle
