import LongBridge.Effects.Fallible
import LongBridge.Python.Conversions

namespace LongBridge.Account
open Effects

-- Broker rows as the SDK hands them over: every attribute is a value, and a missing one is None.
structure CashInfo where
  currency : PyVal
  availableCash : Option PyVal

structure Balance where
  currency : PyVal
  netAssets : PyVal
  cashInfos : List CashInfo

structure RawPosition where
  symbol : PyVal
  quantity : PyVal
  availableQuantity : PyVal
  currency : PyVal

structure Quote where
  symbol : PyVal
  lastDone : PyVal

-- The answers of both contexts; a positions response may come without channels.
structure Broker where
  accountBalance : Except PyExc (List Balance)
  stockPositions : Except PyExc (Option (List (List RawPosition)))
  quote : List String → Except PyExc (List Quote)

structure BrokerCapital where
  netAssets : ℚ
  currency : String
  observedAt : String
  sourceDigestSha256 : String
  deriving DecidableEq

structure HeartbeatSnapshot where
  observedAt : String
  availableCash : Option (ℚ × String)
  netAssets : Option (ℚ × String)
  deriving DecidableEq

structure CashTotals where
  available : ℚ
  byCurrency : Amounts

structure Holdings where
  marketValues : Amounts
  quantities : Amounts
  sellableQuantities : Amounts

-- A position row that was kept: its root symbol and what the broker wrote.
structure PositionRow where
  rootSymbol : String
  fullSymbol : String
  rawQuantity : PyVal
  rawAvailableQuantity : PyVal

structure AccountState where
  brokerCapital : Option BrokerCapital
  heartbeatAccountSnapshot : Option HeartbeatSnapshot
  positionCurrencyBySymbol : List (String × Option String)
  availableCash : ℚ
  cashByCurrency : Amounts
  marketValues : Amounts
  quantities : Amounts
  sellableQuantities : Amounts
  totalStrategyEquity : ℚ
  tradingCurrency : String

def runtimeError (text : String) : PyExc := ⟨"RuntimeError",text⟩

def isConversionError (exc : PyExc) : Bool := exc.kind == "TypeError" || exc.kind == "ValueError"

-- float(value) in a try of TypeError and ValueError, then a finiteness test.
def readFinite (error : PyExc) (value : PyVal) : Except PyExc ℚ :=
  match value.readFloat with
  | .ok (.finite number) => .ok number
  | .ok _ => .error error
  | .error exc => .error (if isConversionError exc then error else exc)

-- What a finite number reads as; nothing else is a number here.
def finiteNumber (value : PyVal) : Option ℚ :=
  match value.readFloat with
  | .ok (.finite number) => some number
  | _ => none

def isBool : PyVal → Bool
  | .bool _ => true
  | _ => false

section Capital

variable (digest : ℚ → String → String → String) (observedAt currency : String) (balances : List Balance)

def brokerCapital : Option BrokerCapital :=
  match balances.filter fun balance => balance.currency.isStr currency with
  | [balance] =>
    if isBool balance.netAssets then none
    else match finiteNumber balance.netAssets with
      | none => none
      | some equity => if equity ≤ 0 then none else some ⟨equity,currency,observedAt,digest equity currency observedAt⟩
  | _ => none

-- The cash rows of one currency, summed when each of them is a finite number.
def heartbeatCash : Option (ℚ × String) :=
  let rows := (balances.flatMap Balance.cashInfos).filter fun info => normalizedSymbol info.currency.textOrEmpty = currency
  let amounts := rows.map fun info => info.availableCash.getD .none
  if amounts.isEmpty || amounts.any isBool then none
  else (amounts.mapM finiteNumber).map fun numbers => (numbers.sum,currency)

def heartbeatEquity : Option (ℚ × String) :=
  match balances with
  | [balance] =>
    let equityCurrency := normalizedSymbol balance.currency.textOrEmpty
    if equityCurrency = "" ∨ isBool balance.netAssets = true then none
    else match finiteNumber balance.netAssets with
      | none => none
      | some equity => if 0 < equity then some (equity,equityCurrency) else none
  | _ => none

def heartbeatAccountSnapshot : Option HeartbeatSnapshot :=
  let cash := heartbeatCash currency balances
  let equity := heartbeatEquity balances
  if cash.isSome || equity.isSome then some ⟨observedAt,cash,equity⟩ else none

end Capital

-- `_fetch_last_prices`: quotes that name no symbol take the one asked for at their place.
def lastPrice (value : PyVal) : Except PyExc (Option ℚ) :=
  match value with
  | .none => .ok none
  | value => match value.readFloat with
    | .ok (.finite price) => .ok (if 0 < price then some price else none)
    | .ok _ => .ok none
    | .error exc => if isConversionError exc then .ok none else .error exc

def quotedSymbol (quote : Quote) (fallback : String) : String :=
  normalizedSymbol (if quote.symbol.truthy then quote.symbol.text else fallback)

def addPrice (prices : Amounts) (entry : Quote × String) : Except PyExc Amounts :=
  let symbol := quotedSymbol entry.1 entry.2
  if symbol = "" then .ok prices
  else do
    let price ← lastPrice entry.1.lastDone
    return match price with
      | none => prices
      | some price => prices.set symbol price

def pairQuotes : List Quote → List String → List (Quote × String)
  | [],_ => []
  | quote :: rest,[] => (quote,"") :: pairQuotes rest []
  | quote :: rest,symbol :: symbols => (quote,symbol) :: pairQuotes rest symbols

def fetchLastPrices (broker : Broker) (symbols : List String) : Except PyExc Amounts :=
  let normalized := distinct ((symbols.map normalizedSymbol).filter (· ≠ ""))
  if normalized.isEmpty then .ok []
  else do
    let quotes ← broker.quote normalized
    (pairQuotes quotes normalized).foldlM addPrice []

-- `mapping[key] = mapping.get(key, 0.0) + amount`
def plus (amounts : Amounts) (key : String) (amount : ℚ) : Amounts := amounts.set key (amounts.getOrZero key + amount)

def addCash (tradingCurrency : String) (totals : CashTotals) (info : CashInfo) : Except PyExc CashTotals :=
  let currency := normalizedSymbol info.currency.textOrEmpty
  if currency = "" then .ok totals
  else do
    let amount ← readFinite (runtimeError "LongBridge account balance invalid")
      (info.availableCash.getD (.float (.finite 0) "0.0"))
    return ⟨if currency = tradingCurrency then totals.available + amount else totals.available,
      plus totals.byCurrency currency amount⟩

-- `[str(symbol).strip().upper() for symbol in strategy_assets if str(symbol).strip()]`
def strategyAssets (symbols : List String) : List String :=
  (symbols.filter fun symbol => strip symbol ≠ "").map normalizedSymbol

def zeroAmounts (symbols : List String) : Amounts := symbols.foldl (fun kept symbol => kept.set symbol 0) []

def fullSymbol (position : RawPosition) : String := normalizedSymbol position.symbol.textOrEmpty

-- Everything before the first dot.
def rootOf (symbol : String) : String := normalizedSymbol (String.ofList (symbol.toList.takeWhile (· ≠ '.')))

def rawAvailable (position : RawPosition) : PyVal :=
  match position.availableQuantity with
  | .none => position.quantity
  | value => value

def positionCurrency (position : RawPosition) : Option String :=
  let raw := normalizedSymbol position.currency.textOrEmpty
  if raw.length = 3 ∧ raw.toList.all Char.isAlpha = true then some raw else none

-- A symbol whose positions disagree on their currency has none.
def noteCurrency (root : String) (currency : Option String) : List (String × Option String) → List (String × Option String)
  | [] => [(root,currency)]
  | (name,old) :: rest =>
    if name == root then (name,if old = currency then old else none) :: rest
    else (name,old) :: noteCurrency root currency rest

structure Inventory where
  rows : List PositionRow
  holdings : Holdings
  currencies : List (String × Option String)

def Holdings.opened (holdings : Holdings) (root : String) : Holdings :=
  if (holdings.marketValues.lookup root).isSome then holdings
  else ⟨holdings.marketValues.set root 0,holdings.quantities.set root 0,holdings.sellableQuantities.set root 0⟩

def addPosition (filterEnabled : Bool) (inventory : Inventory) (position : RawPosition) : Except PyExc Inventory := do
  let full := fullSymbol position
  require (full ≠ "") (runtimeError "LongBridge position symbol missing")
  let root := rootOf full
  require (root ≠ "") (runtimeError "LongBridge position symbol missing")
  if filterEnabled && (inventory.holdings.marketValues.lookup root).isNone then return inventory
  else match position.quantity with
    | .none => .error (runtimeError "LongBridge position quantity missing")
    | quantity => .ok ⟨inventory.rows ++ [⟨root,full,quantity,rawAvailable position⟩],inventory.holdings.opened root,
        noteCurrency root (positionCurrency position) inventory.currencies⟩

def positionsOf (broker : Broker) : Except PyExc (List RawPosition) :=
  match broker.stockPositions with
  | .ok (some channels) => .ok channels.flatten
  | _ => .error (runtimeError "LongBridge stock positions unavailable")

def balancesOf (broker : Broker) : Except PyExc (List Balance) :=
  match broker.accountBalance with
  | .ok balances => .ok balances
  | .error _ => .error (runtimeError "LongBridge account balance unavailable")

def quantityInvalid : PyExc := runtimeError "LongBridge position quantity invalid"

-- Only a position of some quantity needs a price.
def addWorth (prices values : Amounts) (row : PositionRow) (quantity : ℚ) : Except PyExc Amounts :=
  if quantity = 0 then .ok values
  else match prices.lookup row.fullSymbol with
    | none => .error (runtimeError "LongBridge position valuation incomplete")
    | some price => .ok (plus values row.rootSymbol (quantity * price))

def valueRow (prices : Amounts) (holdings : Holdings) (row : PositionRow) : Except PyExc Holdings := do
  let quantity ← readFinite quantityInvalid row.rawQuantity
  let available ← readFinite quantityInvalid row.rawAvailableQuantity
  let marketValues ← addWorth prices holdings.marketValues row quantity
  return ⟨marketValues,plus holdings.quantities row.rootSymbol quantity,
    plus holdings.sellableQuantities row.rootSymbol available⟩

-- What the broker is read for, before the rows are valued.
structure Reading where
  balances : List Balance
  cash : CashTotals
  inventory : Inventory
  prices : Amounts

def readAccount (broker : Broker) (symbols : List String) (tradingCurrency : String) : Except PyExc Reading := do
  let balances ← balancesOf broker
  let cash ← (balances.flatMap Balance.cashInfos).foldlM (addCash tradingCurrency) ⟨0,[]⟩
  let assets := strategyAssets symbols
  let positions ← positionsOf broker
  let inventory ← positions.foldlM (addPosition (!assets.isEmpty))
    ⟨[],⟨zeroAmounts assets,zeroAmounts assets,zeroAmounts assets⟩,[]⟩
  let prices ← fetchLastPrices broker (inventory.rows.map PositionRow.fullSymbol)
  return ⟨balances,cash,inventory,prices⟩

-- `str(cash_currency or "USD").strip().upper()`
def tradingCurrencyOf (cashCurrency : String) : String :=
  normalizedSymbol (if cashCurrency = "" then "USD" else cashCurrency)

def fetchStrategyAccountState (digest : ℚ → String → String → String) (observedAt : String) (broker : Broker)
    (symbols : List String) (cashCurrency : String) : Except PyExc AccountState := do
  let tradingCurrency := tradingCurrencyOf cashCurrency
  let reading ← readAccount broker symbols tradingCurrency
  let holdings ← reading.inventory.rows.foldlM (valueRow reading.prices) reading.inventory.holdings
  return {
    brokerCapital := brokerCapital digest observedAt tradingCurrency reading.balances
    heartbeatAccountSnapshot := heartbeatAccountSnapshot observedAt tradingCurrency reading.balances
    positionCurrencyBySymbol := reading.inventory.currencies
    availableCash := reading.cash.available
    cashByCurrency := reading.cash.byCurrency
    marketValues := holdings.marketValues
    quantities := holdings.quantities
    sellableQuantities := holdings.sellableQuantities
    totalStrategyEquity := reading.cash.available + (holdings.marketValues.map Prod.snd).sum
    tradingCurrency := tradingCurrency }

end LongBridge.Account
