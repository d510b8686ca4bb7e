import LongBridge.Cycle.Records
import LongBridge.Effects.Fallible

namespace LongBridge.Cycle
open Effects

-- `_is_truthy`
def isTruthy : PyVal → Bool
  | .bool value => value
  | value => ["1","true","yes","on"].contains (lower (strip value.textOrEmpty))

def marketSymbol (settings : Settings) (symbol : String) : String :=
  let plain := normalizedSymbol symbol
  if plain = "" then plain
  else if plain.toList.contains '.' then plain
  else plain ++ normalizedSymbol settings.symbolSuffix

-- The board lot of a symbol, with or without its market suffix; 1 when unknown.
def lotFor (settings : Settings) (symbol : String) : ℤ :=
  let key := normalizedSymbol symbol
  match settings.lotSizes.lookup key with
  | some lot => max 1 lot
  | none =>
    if key.toList.contains '.' then
      match settings.lotSizes.lookup (String.ofList (key.toList.takeWhile (· ≠ '.'))) with
      | some lot => max 1 lot
      | none => 1
    else 1

def fractionalBuyQuantityStep : ℚ := 1 / 10000

def minFractionalBuyNotionalUsd : ℚ := 1

def buyStepFor (settings : Settings) (symbol : String) : ℚ :=
  if settings.fractionalBuyExecution then fractionalBuyQuantityStep
  else if 1 < lotFor settings symbol then lotFor settings symbol else 1

def floorWholeShareQuantity (quantity : ℚ) : ℚ := floorToQuantityStep quantity 1

def floorLotQuantity (quantity : ℚ) (lotSize : ℤ) : ℚ := floorToQuantityStep quantity (max 1 lotSize)

def normalizeTradeQuantity (quantity : ℚ) (lotSize : ℤ) : ℚ :=
  let raw := max 0 quantity
  if raw ≤ 0 then 0
  else if 1 < lotSize then floorLotQuantity raw lotSize
  else floorWholeShareQuantity raw

def normalizeBuyQuantity (quantity quantityStep : ℚ) : ℚ :=
  let raw := max 0 quantity
  if raw ≤ 0 then 0 else floorToQuantityStep raw quantityStep

-- What submit_order_via_port makes of a quantity before it builds the intent.
def submittedQuantity (settings : Settings) (symbol : String) (side : Side) (quantity : ℚ) : ℚ :=
  if settings.fractionalBuyExecution ∧ side = .buy then normalizeBuyQuantity quantity (buyStepFor settings symbol)
  else if 1 < lotFor settings symbol then floorLotQuantity quantity (lotFor settings symbol)
  else floorWholeShareQuantity quantity

def limitBuyPremiumForSymbol (settings : Settings) (symbol : String) : ℚ :=
  let fallback := settings.limitBuyPremium.getD (1005 / 1000)
  match settings.limitBuyPremiumBySymbol with
  | none => fallback
  | some bySymbol => match bySymbol.lookup (normalizedSymbol symbol) with
    | some (some premium) => if 0 < premium then premium else fallback
    | _ => fallback

def limitBuyPrice (settings : Settings) (symbol : String) (price : ℚ) : ℚ :=
  roundTo 2 (price * limitBuyPremiumForSymbol settings symbol)

def sellOrderQuantity (currentValue targetValue price sellableQuantity : ℚ) (lotSize : ℤ) : ℚ :=
  let sellable := max 0 sellableQuantity
  let target := max 0 targetValue
  if sellable ≤ 0 then 0
  else if target ≤ 0 then normalizeTradeQuantity sellable lotSize
  else
    let sellValue := max 0 (currentValue - target)
    if sellValue ≤ 0 ∨ price ≤ 0 then 0
    else normalizeTradeQuantity (min (sellValue / price) sellable) lotSize

def sellDeltaExceedsFloor (currentValue targetValue thresholdValue minTradeValue : ℚ) : Bool :=
  let target := max 0 targetValue
  let diff := max 0 currentValue - target
  if diff ≤ max 0 thresholdValue then false
  else if target ≤ 0 then true
  else max 0 minTradeValue < diff

def shouldTopUpExistingWholeShareBuy (targetValue currentValue quantity limitPrice quantityStep : ℚ) : Bool :=
  let held := max 0 quantity
  let price := max 0 limitPrice
  let remaining := max 0 (targetValue - currentValue)
  if 1 / 1000000000 < |quantityStep - 1| then false
  else if held < 1 ∨ price ≤ 0 then false
  else if remaining ≤ 0 ∨ price ≤ remaining then false
  else ⌊held⌋ + 1 / 2 ≤ max 0 targetValue / price

def plannedWholeShareBuyQuantity (targetValue currentValue quantity buyBudget availableBuyingPower refPrice
    quantityStep : ℚ) (allowTopUp : Bool) : ℚ :=
  let price := max 0 refPrice
  if price ≤ 0 then 0
  else
    let planned := normalizeBuyQuantity (max 0 buyBudget / price) quantityStep
    if 0 < planned then planned
    else if !allowTopUp then 0
    else if max 0 availableBuyingPower < price then 0
    else if shouldTopUpExistingWholeShareBuy targetValue currentValue quantity price quantityStep then
      normalizeBuyQuantity 1 quantityStep
    else 0

def safeHavenCashSymbols (portfolio : Portfolio) (allocation : Allocation) : List String :=
  distinct (((allocation.safeHavenSymbols ++ [portfolio.cashSweepSymbol]).map normalizedSymbol).filter (· ≠ ""))

-- The symbols the small-account rules look at: risk and income, or else all but the safe havens.
def candidateSymbols (portfolio : Portfolio) (allocation : Allocation) (targets : List String) : List String :=
  let named := distinct (((allocation.riskSymbols ++ allocation.incomeSymbols).map normalizedSymbol).filter (· ≠ ""))
  if named.isEmpty then targets.filter fun symbol => !(safeHavenCashSymbols portfolio allocation).contains symbol
  else named

def driftReferenceTargets (portfolio : Portfolio) (allocation : Allocation) : Amounts :=
  let targets := allocation.targets.normalized
  (candidateSymbols portfolio allocation (targets.map Prod.fst)).filterMap fun symbol =>
    (targets.lookup symbol).map fun value => (symbol,value)

-- `payload["risk_flags"]`, where one text stands for one flag.
def riskFlags (payload : Fields) : Except PyExc (List String) :=
  match payload.get "risk_flags" with
  | .str flag => .ok (if flag = "" then [] else [flag])
  | value => if value.truthy then do
      let flags ← value.iterate
      return flags.map PyVal.text
    else .ok []

def isBool (value : PyVal) (expected : Bool) : Bool :=
  match value with
  | .bool value => value == expected
  | _ => false

def payloadBlocked (payload : Fields) : Except PyExc Bool :=
  if (payload.get "no_execute").truthy then .ok true
  else if payload.has "risk_gate" && !(payload.get "risk_gate").isStr "APPROVE" then .ok true
  else if isBool (payload.get "no_order") true || isBool (payload.get "execution_authorized") false then .ok true
  else do
    let flags ← riskFlags payload
    return flags.contains "no_execute" || flags.any (startsWith · "rejected:")

-- An action that is missing or unknown never authorizes the targets.
def executionIsBlocked (plan : Plan) (execution : Execution) (allocation : Allocation) : Except PyExc Bool :=
  if !(execution.fields.get "risk_gate").isStr "APPROVE" then .ok true
  else anyOk payloadBlocked [execution.fields,plan.execution.fields,allocation.fields]

def noExecute (execution : Execution) : Execution :=
  { execution with fields := execution.fields.set "no_execute" (.bool true) }

def applySafeHavenCashSubstitution (thresholdUsd : ℚ) (plan : Plan) (portfolio : Portfolio)
    (allocation : Allocation) : Plan × Allocation :=
  let threshold := max 0 thresholdUsd
  let targets := allocation.targets.normalized
  if threshold ≤ 0 then (plan,{ allocation with targets })
  else
    let small := (safeHavenCashSymbols portfolio allocation).filter fun symbol =>
      0 < targets.getOrZero symbol && targets.getOrZero symbol < threshold
    let adjusted := { allocation with targets := small.foldl (fun kept symbol => kept.set symbol 0) targets }
    (if small.isEmpty then plan else { plan with allocation := adjusted },adjusted)

def shouldRetainExistingWholeShare (library : Library) (symbol : String) (targetValue price : ℚ) : Bool :=
  if library.existingWholeShareRetentionSymbols.contains symbol then true
  else match (("SOXX",(9 / 10 : ℚ)) :: library.retentionMinTargetShareRatio).lookup symbol with
    | none => false
    | some ratio => 0 < price && max 0 price * ratio ≤ max 0 targetValue

def shouldBootstrapWholeShareBuy (library : Library) (symbol : String) (targetValue limitPrice : ℚ) : Bool :=
  match (("SOXX",(9 / 10 : ℚ)) :: library.bootstrapMinTargetShareRatio).lookup symbol with
  | none => false
  | some ratio => 0 < limitPrice && max 0 limitPrice * ratio ≤ max 0 targetValue

structure WholeShareState where
  targets : Amounts
  retained : List String
  bootstrap : List String

-- One candidate: a held share is kept at its price, an unheld one may be lifted to one limit price.
def wholeShareCandidate (frame : Frame) (plan : Plan) (quotePrices : Amounts) (state : WholeShareState)
    (symbol : String) : WholeShareState :=
  let quantities := plan.portfolio.quantities.normalized
  let target := max 0 (state.targets.getOrZero symbol)
  let price := max 0 (quotePrices.getOrZero symbol)
  let limitPrice := if 0 < price then limitBuyPrice frame.settings symbol price else 0
  let buyingPower := max 0 (plan.portfolio.liquidCash - plan.execution.reservedCash)
  let lifts := quantities.getOrZero symbol ≤ 0 ∧ 0 < target ∧ target < limitPrice ∧
    (0 < limitPrice ∧ limitPrice ≤ buyingPower) ∧ shouldBootstrapWholeShareBuy frame.library symbol target limitPrice = true
  let retains := shouldRetainExistingWholeShare frame.library symbol target price = true ∧
    0 < price ∧ 0 < target ∧ target < price ∧ 1 ≤ quantities.getOrZero symbol
  if retains then { state with targets := state.targets.set symbol price, retained := state.retained ++ [symbol] }
  else if lifts then { state with targets := state.targets.set symbol limitPrice, bootstrap := state.bootstrap ++ [symbol] }
  else state

def fallbackCashNotes (targets quotePrices : Amounts) (substituted safeHaven : List String) : List CashNote :=
  (substituted.filter fun symbol => 0 < targets.getOrZero symbol && 0 < quotePrices.getOrZero symbol).map fun symbol =>
    ⟨symbol,max 0 (targets.getOrZero symbol),max 0 (quotePrices.getOrZero symbol),safeHaven⟩

def wholeShareCompatibility (frame : Frame) (plan : Plan) (allocation : Allocation) (candidates : List String)
    (quotePrices : Amounts) : Plan × Allocation :=
  let state := candidates.foldl (wholeShareCandidate frame plan quotePrices) ⟨allocation.targets.normalized,[],[]⟩
  let compatibility := frame.library.applySmallAccountCashCompatibility state.targets quotePrices candidates
    (safeHavenCashSymbols plan.portfolio allocation)
  let substituted := compatibility.wholeShareSubstituted
  let safeHaven := compatibility.safeHavenCashSubstituted
  let notes := if !substituted.isEmpty && compatibility.cashSubstitutionNotes.isEmpty
    then fallbackCashNotes allocation.targets quotePrices substituted safeHaven
    else compatibility.cashSubstitutionNotes
  let orElse (found kept : List String) := if found.isEmpty then kept else distinct found
  let adjusted := { allocation with
    targets := compatibility.targets
    wholeShareSubstituted := if substituted.isEmpty then allocation.wholeShareSubstituted else substituted
    safeHavenCashSubstituted := if safeHaven.isEmpty then allocation.safeHavenCashSubstituted else safeHaven
    wholeShareRetained := orElse state.retained allocation.wholeShareRetained
    wholeShareBootstrap := orElse state.bootstrap allocation.wholeShareBootstrap
    wholeShareCashNotes := notes }
  (if substituted.isEmpty && safeHaven.isEmpty && state.retained.isEmpty && state.bootstrap.isEmpty then plan
    else { plan with allocation := adjusted },adjusted)

end LongBridge.Cycle
