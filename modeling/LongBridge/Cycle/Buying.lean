import LongBridge.Cycle.Funding

namespace LongBridge.Cycle
open Effects

-- The cash by currency as the notes show it.
def shownBalances (cash : Amounts) : Amounts := (cash.normalized.filter fun entry => entry.1 ≠ "" && entry.2 ≠ 0)

def hasPositiveNonUsdCash (cash : Amounts) : Bool :=
  cash.normalized.any fun entry => entry.1 ≠ "" && entry.1 ≠ "USD" && decide (0 < entry.2)

def noteForeignCash : Step Unit := do
  let locals ← Script.get
  let view := locals.view
  if view.availableCash ≤ 0 ∧ view.investableCash ≤ 0 ∧ hasPositiveNonUsdCash view.portfolio.cashByCurrency = true then
    recordNoteLog "buy_deferred_non_usd_cash" [("available",.text (fixedText 2 view.availableCash)),
      ("investable",.text (fixedText 2 view.investableCash)),
      ("currencies",.balances (shownBalances view.portfolio.cashByCurrency))]
  else pure ()

-- No candidate is left, and the note says why.
def deferBuys (reason key : String) (args : List (String × Arg)) : Step (List String) := do
  Script.modify fun locals => { locals with buysBlockedReason := some reason }
  let message ← translate key args
  noteLog message
  return []

def refPrice (frame : Frame) (view : View) (symbol : String) (price : ℚ) : ℚ :=
  if isLimitOrderSymbol view symbol || symbol == frame.cashSweepSymbol then limitBuyPrice frame.settings symbol price
  else roundTo 2 price

-- The holding of a buy candidate: market value, target and held quantity.
structure BuyHolding where
  marketValue : ℚ
  target : ℚ
  held : ℚ

def buyHolding (view : View) (symbol : String) : Except PyExc BuyHolding := do
  let target ← view.allocation.targets.item symbol
  let marketValue ← view.portfolio.marketValues.item symbol
  return ⟨marketValue,target,view.portfolio.quantities.getOrZero symbol⟩

def BuyHolding.gap (holding : BuyHolding) : ℚ := holding.target - holding.marketValue

def plannedQuantity (frame : Frame) (locals : Locals) (symbol : String) (holding : BuyHolding) (reference : ℚ) : ℚ :=
  plannedWholeShareBuyQuantity holding.target holding.marketValue holding.held
    (min holding.gap locals.view.investableCash) locals.view.investableCash reference
    (buyStepFor frame.settings (marketSymbol frame.settings symbol)) locals.book.sellSubmitted

def estimatedCost (frame : Frame) (locals : Locals) (symbol : String) (holding : BuyHolding) (price : ℚ) : ℚ :=
  if frame.settings.fractionalBuyExecution then
    let canBuy := min holding.gap locals.view.investableCash
    if minFractionalBuyNotionalUsd ≤ canBuy then canBuy else 0
  else
    let reference := refPrice frame locals.view symbol price
    let quantity := plannedQuantity frame locals symbol holding reference
    if 0 < quantity then quantity * reference else 0

def estimateBuyCost (frame : Frame) : List String → Step ℚ
  | [] => return 0
  | symbol :: rest => do
    let locals ← Script.get
    let holding ← Script.fromExcept (buyHolding locals.view symbol)
    let price ← safeQuoteLastPrice (marketSymbol frame.settings symbol)
    let others ← estimateBuyCost frame rest
    return match price with
      | none => others
      | some price => estimatedCost frame locals symbol holding price + others

-- Sells that wait for a broker release: buys wait too when they cost more than the cash at hand.
def awaitRelease (frame : Frame) (candidates : List String) : Step (List String) := do
  let cost ← estimateBuyCost frame candidates
  Script.modify fun locals => { locals with estimatedBuyCost := some cost }
  let locals ← Script.get
  if locals.view.investableCash < cost then
    deferBuys "pending_sell_release" "buy_deferred_pending_sell_release"
      [("symbols",.text (", ".intercalate locals.book.pendingSellReleaseSymbols))]
  else return candidates

def equityArg (frame : Frame) (key : String) : Arg := .equity (frame.opening.execution.fields.get key)

def gateReason (codes : List String) : String :=
  "[Account new-risk gate] " ++ (if codes.isEmpty then "NEW_RISK_PROHIBITED" else ", ".intercalate codes)

-- The first three reasons exclude one another.
def blockBuys (frame : Frame) (candidates : List String) : Step (List String) := do
  let locals ← Script.get
  if candidates.isEmpty then return []
  else if frame.smallAccountBuyBlocked then
    deferBuys "small_account_below_recommended_equity" "buy_deferred_small_account"
      [("portfolio_equity",equityArg frame "portfolio_total_equity"),
       ("min_recommended_equity",equityArg frame "min_recommended_equity_usd")]
  else if locals.gate.buyBlocked then
    deferBuys "account_new_risk_gate" "buy_deferred" [("detail",.text (gateReason locals.gate.reasonCodes))]
  else if frame.settings.cashOnlyExecution && !locals.book.pendingSellReleaseSymbols.isEmpty then
    awaitRelease frame candidates
  else return candidates

def requireCash (frame : Frame) (candidates : List String) : Step (List String) := do
  let locals ← Script.get
  if frame.settings.cashOnlyExecution && !candidates.isEmpty && decide (locals.view.availableCash < 0) &&
      locals.buysBlockedReason.isNone then
    deferBuys "negative_cash" "buy_deferred_negative_cash" [("cash",.text (fixedText 2 locals.view.availableCash))]
  else if locals.view.investableCash ≤ 0 then return []
  else return candidates

-- The candidates that may be bought in this cycle.
def gateBuys (frame : Frame) : Step (List String) := do
  noteForeignCash
  let locals ← Script.get
  let candidates ← Script.fromExcept (buyCandidates frame.settings locals.view)
  Script.modify fun locals => { locals with buysBlockedReason := none, estimatedBuyCost := none }
  let open_ ← blockBuys frame (if locals.book.submissionHalted then [] else candidates)
  requireCash frame open_

def estimateCashBuyQuantitySafe (symbol : String) (kind : OrderType) (price : ℚ) (fractional : Bool) :
    Step (Option ℚ) := do
  let estimated ← (call (.estimateMaxPurchaseQuantity symbol kind price fractional)).attempt
  match (estimated : Except PyExc (Option ℚ)) with
  | .ok quantity => return quantity
  | .error exc => do
    call (.notifyIssue "Estimate max buy failed"
      [.text ("Symbol: " ++ symbol ++ "\nOrderKind: " ++ orderTypeName kind ++ "\n" ++ exc.text)])
    return none

structure Candidate where
  quantity : ℚ
  budgetQuantity : ℚ

def estimateBuyQuantityCandidate (frame : Frame) (symbol : String) (kind : OrderType) (reference canBuyValue : ℚ) :
    Step (Option Candidate) := do
  let step := buyStepFor frame.settings symbol
  let ratio ← Script.fromExcept (divide canBuyValue reference)
  let budget := floorToQuantityStep ratio step
  let limit ← estimateCashBuyQuantitySafe symbol kind reference frame.settings.fractionalBuyExecution
  return limit.map fun limit => ⟨normalizeBuyQuantity (normalizeBuyQuantity (min budget limit) step) step,budget⟩

def spend (cost : ℚ) : Step Unit := do
  changeView fun view => { view with investableCash := max 0 (view.investableCash - cost) }
  changeBook fun book => { book with actionDone := true }

def noteUnaffordable (settings : Settings) (view : View) (symbol : String) (gap price : ℚ) : Step Unit :=
  if gap ≤ view.investableCash then
    recordNoteLog "buy_deferred_small_target_gap" [("symbol",.text (marketSymbol settings symbol)),
      ("diff",.text (fixedText 2 gap)),("price",.text (fixedText 2 price))]
  else
    recordNoteLog "buy_deferred_small_cash" [("symbol",.text (marketSymbol settings symbol)),
      ("diff",.text (fixedText 2 gap)),("investable",.text (fixedText 2 view.investableCash)),
      ("price",.text (fixedText 2 price))]

-- A fractional buy is always a market order.
def buyOrderType (frame : Frame) (view : View) (symbol : String) : OrderType :=
  if !frame.settings.fractionalBuyExecution && (isLimitOrderSymbol view symbol || symbol == frame.cashSweepSymbol)
  then .limit else .market

def buyReference (frame : Frame) (view : View) (symbol : String) (price : ℚ) : ℚ :=
  if buyOrderType frame view symbol = .limit then limitBuyPrice frame.settings symbol price else roundTo 2 price

def placeBuy (frame : Frame) (symbol : String) (kind : OrderType) (quantity reference price : ℚ) : Step Unit := do
  let submitted ← placeOrder frame.settings symbol .buy kind quantity (if kind = .limit then reference else roundTo 2 price)
  whenever submitted (spend (quantity * (if kind = .limit then reference else price)))

def buyQuoted (frame : Frame) (symbol : String) (gap price : ℚ) : Step Unit := do
  let locals ← Script.get
  let holding ← Script.fromExcept (buyHolding locals.view symbol)
  let settings := frame.settings
  let kind := buyOrderType frame locals.view symbol
  let reference := buyReference frame locals.view symbol price
  let canBuyValue := min gap locals.view.investableCash
  let planned := if settings.fractionalBuyExecution then 0 else plannedQuantity frame locals symbol holding reference
  let affordable := if settings.fractionalBuyExecution then decide (minFractionalBuyNotionalUsd ≤ canBuyValue)
    else decide (0 < planned)
  if affordable then
    let candidate ← estimateBuyQuantityCandidate frame (marketSymbol settings symbol) kind reference
      (if 0 < planned then max canBuyValue (planned * reference) else canBuyValue)
    match candidate with
    | none => pure ()
    | some candidate =>
      if candidate.quantity ≤ 0 then
        recordNoteLog "buy_deferred_cash_limit" [("symbol",.text (marketSymbol settings symbol)),
          ("diff",.text (fixedText 2 gap)),("budget_qty",.quantity candidate.budgetQuantity)]
      else placeBuy frame symbol kind candidate.quantity reference price
  else noteUnaffordable settings locals.view symbol gap price

def buySymbol (frame : Frame) (symbol : String) : Step Unit := do
  let locals ← Script.get
  let gap ← Script.fromExcept (targetGap locals.view symbol)
  let price ← safeQuoteLastPrice (marketSymbol frame.settings symbol)
  match price with
  | none => pure ()
  | some price => buyQuoted frame symbol gap price

def buyLoop (frame : Frame) : List String → Step Unit
  | [] => pure ()
  | symbol :: rest => do
    let locals ← Script.get
    if locals.book.submissionHalted then pure ()
    else
      buySymbol frame symbol
      buyLoop frame rest

-- What the sweep rebuy asks of the state before it looks at any quote.
def rebuyAllowed (frame : Frame) (locals : Locals) : Bool :=
  !locals.book.submissionHalted && !locals.book.cashSweepSold && frame.cashSweepSymbol != "" &&
  locals.view.allocation.strategySymbols.contains frame.cashSweepSymbol && !frame.smallAccountBuyBlocked &&
  (decide (0 < locals.view.allocation.targets.getOrZero frame.cashSweepSymbol) ||
    locals.view.allocation.safeHavenCashSubstituted.isEmpty)

def substitutionThreshold (settings : Settings) : ℚ := max 0 settings.safeHavenCashSubstituteThresholdUsd

def clearsThreshold (settings : Settings) (investableCash : ℚ) : Bool :=
  decide (substitutionThreshold settings ≤ 0) || decide (substitutionThreshold settings ≤ investableCash)

def rebuyReference (frame : Frame) (price : ℚ) : ℚ := limitBuyPrice frame.settings frame.cashSweepSymbol price

def rebuyQuantity (frame : Frame) (budget : ℚ) (limit : Option ℚ) : ℚ :=
  match limit with
  | none => 0
  | some limit => normalizeTradeQuantity (min budget limit) (lotFor frame.settings frame.cashSweepSymbol)

def placeRebuy (frame : Frame) (quantity reference : ℚ) : Step Unit := do
  let submitted ← placeOrder frame.settings frame.cashSweepSymbol .buy .limit quantity reference
  whenever submitted do
    let message ← translate "cash_sweep_rebuy" [("symbol",.text (marketSymbol frame.settings frame.cashSweepSymbol)),
      ("qty",.quantity quantity),("price",.text (fixedText 2 reference))]
    noteLog message
    changeBook fun book => { book with actionDone := true }

def rebuySized (frame : Frame) (investableCash price : ℚ) : Step Unit := do
  let reference := rebuyReference frame price
  let ratio ← Script.fromExcept (divide investableCash reference)
  let budget := floorToQuantityStep ratio 1
  let limit ← estimateCashBuyQuantitySafe (marketSymbol frame.settings frame.cashSweepSymbol) .limit reference false
  let quantity := rebuyQuantity frame budget limit
  if 0 < quantity then placeRebuy frame quantity reference
  else
    recordNoteLog "buy_deferred_cash_sweep_cash_limit"
      [("symbol",.text (marketSymbol frame.settings frame.cashSweepSymbol)),
       ("investable",.text (fixedText 2 investableCash)),("budget_qty",.quantity budget)]

-- What is left goes back into the cash sweep.
def rebuyCashSweep (frame : Frame) : Step Unit := do
  let locals ← Script.get
  if rebuyAllowed frame locals then
    let price ← safeQuoteLastPrice (marketSymbol frame.settings frame.cashSweepSymbol)
    match price with
    | none => pure ()
    | some price =>
      let investable := locals.view.investableCash
      if 0 < price ∧ price * 2 < investable ∧ clearsThreshold frame.settings investable = true
        then rebuySized frame investable price
      else pure ()
  else pure ()

end LongBridge.Cycle
