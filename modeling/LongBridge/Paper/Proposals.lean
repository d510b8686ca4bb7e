import Mathlib.Data.List.Lex
import Mathlib.Data.String.Basic
import LongBridge.Python.Conversions
import LongBridge.Python.Sorting

namespace LongBridge.Paper
open Sorting

-- `PAPER_EXECUTION_INTENT_SCHEMA_VERSION`
def intentSchemaVersion : String := "longbridge.paper-execution-intent.v1"

-- `_NOTIONAL_TOLERANCE`
def notionalTolerance : ℚ := 1 / 100

-- `_normalized_symbol`
def normalizedSymbol (value : PyVal) : String :=
  strip (String.ofList ((upper (strip value.textOrEmpty)).toList.takeWhile fun char => char ≠ '.'))

-- `_normalized_symbols`, in the order `sorted` gives them; `none` is no list, tuple or set.
def normalizedSymbols (values : Option (List PyVal)) : List String :=
  sortedSet (((values.getD []).map normalizedSymbol).filter fun symbol => symbol ≠ "")

-- `_as_finite_number`
def asFiniteNumber (value : PyVal) (fieldName : String) : Except PyExc ℚ :=
  match value.readFloat with
  | .ok (.finite number) => .ok number
  | .ok _ => .error ⟨"ValueError",fieldName ++ " must be finite"⟩
  | .error raised =>
    if raised.kind = "TypeError" ∨ raised.kind = "ValueError" then .error ⟨"ValueError",fieldName ++ " must be numeric"⟩
    else .error raised

-- The intent of a command: `targets` is none where it is no mapping.
structure Intent where
  schemaVersion : PyVal
  targetMode : PyVal
  targets : Option (List (PyVal × PyVal))
  strategySymbols : Option (List PyVal)

structure HeldPosition where
  symbol : PyVal
  marketValue : PyVal
  quantity : PyVal

structure Portfolio where
  positions : List HeldPosition
  cashBalance : PyVal
  totalEquity : PyVal

def historyInvalid : String := "durable_event_history_invalid"

def positionMismatch : String := "position_reconciliation_mismatch"

-- One entry of the targets: a key that normalises to an earlier one takes its place.
def keepTarget (kept : Amounts) (entry : PyVal × PyVal) : Except PyExc Amounts :=
  if normalizedSymbol entry.1 = "" then .ok kept
  else do
    let number ← asFiniteNumber entry.2 ("targets[" ++ entry.1.repr ++ "]")
    return kept.set (normalizedSymbol entry.1) number

-- What the loop over the positions has gathered
structure Book where
  values : Amounts
  quantities : Amounts
  findings : List String

def Book.mismatch (book : Book) : Book := { book with findings := book.findings ++ [positionMismatch] }

def readPosition (symbol : String) (position : HeldPosition) : Except PyExc (ℚ × ℚ) := do
  let marketValue ← asFiniteNumber position.marketValue ("position[" ++ symbol ++ "].market_value")
  let quantity ← asFiniteNumber position.quantity ("position[" ++ symbol ++ "].quantity")
  return (marketValue,quantity)

def Book.add (book : Book) (symbol : String) (marketValue quantity : ℚ) : Book :=
  { book with
    values := book.values.set symbol (book.values.getOrZero symbol + marketValue)
    quantities := book.quantities.set symbol (book.quantities.getOrZero symbol + quantity) }

def reconcilePosition (strategySymbols : List String) (book : Book) (position : HeldPosition) : Except PyExc Book :=
  let symbol := normalizedSymbol position.symbol
  if symbol = "" ∨ symbol ∉ strategySymbols then .ok book.mismatch
  else match readPosition symbol position with
    | .error raised => if raised.kind = "ValueError" then .ok book.mismatch else .error raised
    | .ok (marketValue,quantity) =>
      let noted := if notionalTolerance < |quantity| ∧ |marketValue| ≤ notionalTolerance then book.mismatch else book
      .ok (noted.add symbol marketValue quantity)

-- The cash and the equity of the portfolio, against the positions
def cashMismatch (portfolio : Portfolio) (values : Amounts) : Except PyExc Bool := do
  let cash ← asFiniteNumber portfolio.cashBalance "portfolio.cash_balance"
  let expected ← asFiniteNumber portfolio.totalEquity "portfolio.total_equity"
  return decide (max 1 (|expected| * (5 / 1000)) < |cash + (values.map Prod.snd).sum - expected|)

def isNone : PyVal → Bool
  | .none => true
  | _ => false

def checkCash (portfolio : Portfolio) (book : Book) : Except PyExc Book :=
  if isNone portfolio.cashBalance || isNone portfolio.totalEquity then .ok book
  else match cashMismatch portfolio book.values with
    | .error raised => if raised.kind = "ValueError" then .ok book.mismatch else .error raised
    | .ok mismatch => .ok (if mismatch then book.mismatch else book)

inductive ExposureEffect where
  | reduces
  | increases
  | neutral
  deriving DecidableEq

structure Proposal where
  symbol : String
  side : String
  quantity : ℚ
  referencePrice : ℚ
  currentValue : ℚ
  targetValue : ℚ
  targetNotionalDelta : ℚ
  currentQuantity : ℚ
  exposureEffect : ExposureEffect
  deriving DecidableEq

-- Absolute values are compared, whatever side of zero they are on.
def exposureEffect (currentValue targetValue : ℚ) : ExposureEffect :=
  if |targetValue| - |currentValue| < -notionalTolerance then .reduces
  else if notionalTolerance < |targetValue| - |currentValue| then .increases
  else .neutral

section proposals
variable (quote : String → Except PyExc PyVal)

def quotePrice (symbol : String) : Except PyExc ℚ := do
  let lastPrice ← quote symbol
  let price ← asFiniteNumber lastPrice ("quote[" ++ symbol ++ "].last_price")
  if price ≤ 0 then .error ⟨"ValueError","quote price must be positive"⟩ else return price

def proposal (symbol : String) (currentValue targetValue currentQuantity price : ℚ) : Proposal where
  symbol := symbol
  side := if 0 < targetValue - currentValue then "buy" else "sell"
  quantity := roundTo 8 (|targetValue - currentValue| / price)
  referencePrice := roundTo 8 price
  currentValue := roundTo 8 currentValue
  targetValue := roundTo 8 targetValue
  targetNotionalDelta := roundTo 8 (targetValue - currentValue)
  currentQuantity := roundTo 8 currentQuantity
  exposureEffect := exposureEffect currentValue targetValue

-- The loop over the strategy symbols: proposals, and a finding for every quote that failed
def propose (targets : Amounts) (book : Book) : List String → List Proposal × List String
  | [] => ([],[])
  | symbol :: rest =>
    let (proposals,findings) := propose targets book rest
    let currentValue := book.values.getOrZero symbol
    let targetValue := targets.getOrZero symbol
    if |targetValue - currentValue| ≤ notionalTolerance then (proposals,findings)
    else match quotePrice quote symbol with
      | .error _ => (proposals,positionMismatch :: findings)
      | .ok price => (proposal symbol currentValue targetValue (book.quantities.getOrZero symbol) price :: proposals,findings)

-- `_build_reconciled_order_proposals`
def buildReconciledOrderProposals (intent : Intent) (portfolio : Portfolio) : Except PyExc (List Proposal × List String) :=
  if intent.schemaVersion.textOrEmpty ≠ intentSchemaVersion then .ok ([],[historyInvalid])
  else if intent.targetMode.textOrEmpty ≠ "value" then .ok ([],[historyInvalid])
  else match intent.targets with
    | none => .ok ([],[historyInvalid])
    | some rawTargets => match rawTargets.foldlM keepTarget [] with
      | .error raised => if raised.kind = "ValueError" then .ok ([],[historyInvalid]) else .error raised
      | .ok targets =>
        let strategySymbols := normalizedSymbols intent.strategySymbols
        if targets.any fun entry => entry.2 < 0 then .ok ([],[historyInvalid])
        else if strategySymbols = [] ∨ targets.any (fun entry => !strategySymbols.contains entry.1) then .ok ([],[historyInvalid])
        else do
          let book ← portfolio.positions.foldlM (reconcilePosition strategySymbols) ⟨[],[],[]⟩
          let checked ← checkCash portfolio book
          let (proposals,findings) := propose quote targets checked strategySymbols
          return (proposals,distinct (checked.findings ++ findings))

end proposals

end LongBridge.Paper
