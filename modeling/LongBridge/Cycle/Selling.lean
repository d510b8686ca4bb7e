import LongBridge.Cycle.Opening

namespace LongBridge.Cycle
open Effects

def currentMinTrade (settings : Settings) (view : View) : ℚ :=
  if settings.fractionalBuyExecution then max view.execution.currentMinTrade minFractionalBuyNotionalUsd
  else max view.execution.currentMinTrade (max 0 settings.minOrderNotionalUsd)

def isLimitOrderSymbol (view : View) (symbol : String) : Bool :=
  (view.allocation.riskSymbols ++ view.allocation.incomeSymbols).contains symbol

-- The four amounts the loops look up for a symbol; a symbol the state does not know raises.
structure Holding where
  marketValue : ℚ
  target : ℚ
  sellable : ℚ

def sellHolding (view : View) (symbol : String) : Except PyExc Holding := do
  let marketValue ← view.portfolio.marketValues.item symbol
  let target ← view.allocation.targets.item symbol
  return ⟨marketValue,target,0⟩

-- One sell order that was to be placed: what the sell loop does with the answer.
def settleSell (frame : Frame) (symbol : String) (holding : Holding) (held : ℚ) (submitted : Bool) : Step Unit :=
  if submitted then changeBook fun book => { book with
    actionDone := true
    sellSubmitted := true
    cashSweepSold := book.cashSweepSold || (symbol == frame.cashSweepSymbol) }
  else if holding.sellable ≤ 0 ∧ 0 < held then do
    let detail ← translate "sell_skip_no_sellable_detail" [("symbol",.text (marketSymbol frame.settings symbol)),
      ("diff",.text (fixedText 2 |holding.marketValue - holding.target|)),("held",.quantity held),
      ("sellable",.quantity holding.sellable)]
    recordSkipLog "sell_skipped" detail
  else if 0 < holding.sellable then do
    changeBook fun book => { book with pendingSellReleaseSymbols := book.pendingSellReleaseSymbols ++ [symbol] }
    let detail ← translate "sell_skip_whole_share_detail" [("symbol",.text (marketSymbol frame.settings symbol)),
      ("diff",.text (fixedText 2 (max 0 (holding.marketValue - holding.target))))]
    recordSkipLog "sell_skipped" detail
  else pure ()

-- A limit sale leaves no simulated proceeds; only a market sale of a dry run does.
def placeSell (frame : Frame) (symbol : String) (isLimit : Bool) (quantity price : ℚ) : Step Bool := do
  if isLimit then placeOrder frame.settings symbol .sell .limit quantity (roundTo 2 (price * frame.settings.limitSellDiscount))
  else
    let submitted ← placeOrder frame.settings symbol .sell .market quantity (roundTo 2 price)
    whenever (frame.settings.dryRunOnly && submitted) (changeBook fun book =>
      { book with dryRunSaleProceeds := book.dryRunSaleProceeds + quantity * roundTo 2 price })
    return submitted

-- `quantities[symbol]`, which is looked up only when nothing was placed and nothing is sellable.
def heldUnsellable (view : View) (symbol : String) (submitted : Bool) (sellable : ℚ) : Except PyExc ℚ :=
  if submitted ∨ 0 < sellable then .ok 0 else view.portfolio.quantities.item symbol

-- Whether the loop stops here: the submission was refused because everything is halted.
def sellQuoted (frame : Frame) (symbol : String) (holding : Holding) (price : ℚ) : Step Bool := do
  let locals ← Script.get
  let sellable ← Script.fromExcept (locals.view.portfolio.sellableQuantities.item symbol)
  let quantity := sellOrderQuantity holding.marketValue holding.target price sellable (lotFor frame.settings symbol)
  if quantity ≤ 0 then return false
  else
    let submitted ← placeSell frame symbol (isLimitOrderSymbol locals.view symbol) quantity price
    let after ← Script.get
    if after.book.submissionHalted && !submitted then return true
    else
      let held ← Script.fromExcept (heldUnsellable locals.view symbol submitted sellable)
      settleSell frame symbol { holding with sellable } held submitted
      return false

def sellSymbol (frame : Frame) (symbol : String) : Step Bool := do
  let locals ← Script.get
  let holding ← Script.fromExcept (sellHolding locals.view symbol)
  if sellDeltaExceedsFloor holding.marketValue holding.target locals.view.execution.tradeThresholdValue
      (currentMinTrade frame.settings locals.view) then
    let price ← safeQuoteLastPrice (marketSymbol frame.settings symbol)
    match price with
    | none => return false
    | some price => sellQuoted frame symbol holding price
  else return false

def sellLoop (frame : Frame) : List String → Step Unit
  | [] => pure ()
  | symbol :: rest => do
    let locals ← Script.get
    if locals.book.submissionHalted then pure ()
    else
      let stops ← sellSymbol frame symbol
      if stops then pure () else sellLoop frame rest

def targetGap (view : View) (symbol : String) : Except PyExc ℚ := do
  let target ← view.allocation.targets.item symbol
  let marketValue ← view.portfolio.marketValues.item symbol
  return target - marketValue

def isBuyCandidate (settings : Settings) (view : View) (symbol : String) : Except PyExc Bool := do
  let gap ← targetGap view symbol
  return decide (view.execution.tradeThresholdValue < gap) && decide (currentMinTrade settings view < |gap|)

def buyCandidates (settings : Settings) (view : View) : Except PyExc (List String) :=
  selectOk (isBuyCandidate settings view) view.allocation.strategySymbols

-- What the waiting buys need and at which price; a symbol without a quote is left out.
def fundingNeeds (frame : Frame) (view : View) : List String → Step (List (ℚ × ℚ))
  | [] => return []
  | symbol :: rest => do
    let price ← safeQuoteLastPrice (marketSymbol frame.settings symbol)
    match price with
    | none => fundingNeeds frame view rest
    | some price => do
      let gap ← Script.fromExcept (targetGap view symbol)
      let others ← fundingNeeds frame view rest
      return (gap,if isLimitOrderSymbol view symbol then limitBuyPrice frame.settings symbol price else roundTo 2 price) :: others

def sellSweep (frame : Frame) (candidates : List String) (price : ℚ) : Step Unit := do
  let locals ← Script.get
  let needs ← fundingNeeds frame locals.view candidates
  let sellable := locals.view.portfolio.sellableQuantities.getOrZero frame.cashSweepSymbol
  if frame.library.shouldSellCashSweepToFundWholeShareBuy sellable price locals.view.investableCash needs then
    let submitted ← placeSell frame frame.cashSweepSymbol false sellable price
    whenever submitted (changeBook fun book =>
      { book with actionDone := true, sellSubmitted := true, cashSweepSold := true })
  else pure ()

-- The cash-sweep holding is sold when nothing else was and some buy waits for cash.
def fundFromSweep (frame : Frame) : Step Unit := do
  let locals ← Script.get
  let candidates ← Script.fromExcept (buyCandidates frame.settings locals.view)
  let funding := if frame.smallAccountBuyBlocked || locals.gate.buyBlocked then []
    else candidates.filter (· ≠ frame.cashSweepSymbol)
  if !locals.book.submissionHalted && !locals.book.sellSubmitted && !funding.isEmpty &&
      frame.cashSweepSymbol != "" &&
      decide (0 < locals.view.portfolio.sellableQuantities.getOrZero frame.cashSweepSymbol) then
    let price ← safeQuoteLastPrice (marketSymbol frame.settings frame.cashSweepSymbol)
    match price with
    | none => pure ()
    | some price => if 0 < price then sellSweep frame funding price else pure ()
  else pure ()

end LongBridge.Cycle
