import LongBridge.Risk.NewRiskGate
import LongBridge.Cycle.Orders

namespace LongBridge.Cycle
open Effects

-- The amounts of an execution mapping that the cycle calculates with; every
-- other key is read through `fields`, whose types nobody checked.
structure Execution where
  tradeThresholdValue : ℚ
  currentMinTrade : ℚ
  investableCash : ℚ
  reservedCash : ℚ
  fields : Fields

structure CashNote where
  symbol : String
  targetValue : ℚ
  price : ℚ
  cashSymbols : List String
  deriving DecidableEq

structure Allocation where
  strategySymbols : List String
  riskSymbols : List String
  incomeSymbols : List String
  safeHavenSymbols : List String
  targets : Amounts
  wholeShareSubstituted : List String
  safeHavenCashSubstituted : List String
  wholeShareRetained : List String
  wholeShareBootstrap : List String
  wholeShareCashNotes : List CashNote
  fields : Fields

structure Portfolio where
  marketValues : Amounts
  quantities : Amounts
  sellableQuantities : Amounts
  liquidCash : ℚ
  cashSweepSymbol : String
  cashByCurrency : Amounts
  fields : Fields

structure Plan where
  portfolio : Portfolio
  execution : Execution
  allocation : Allocation

-- What fetch_replanned_state returns, and what the cycle is called with.
structure Observation where
  plan : Plan
  portfolio : Portfolio
  execution : Execution
  allocation : Allocation

-- A price that float() refuses is none.
structure QuoteSnapshot where
  symbol : String
  asOf : String
  lastPrice : Option ℚ
  bidPrice : Option ℚ
  askPrice : Option ℚ
  currency : String
  deriving DecidableEq

-- What a broker says about one order; an amount that float() refuses is none.
structure FillReport where
  status : String
  executedQty : Option ℚ
  executedPrice : Option ℚ
  deriving DecidableEq

-- What is handed to the translator and to notifications: a text, a number the
-- receiver renders, a quantity, cash by currency, or an equity nobody checked.
inductive Arg where
  | text (value : String)
  | number (value : ℚ)
  | quantity (value : ℚ)
  | balances (entries : Amounts)
  | equity (value : PyVal)

structure AttentionCounts where
  sent : ℤ
  skipped : ℤ
  failed : ℤ

-- The inputs of the kit's allocation drift notes.
structure DriftInputs where
  targetValues : Amounts
  currentValues : Amounts
  currentQuantities : Amounts
  prices : Amounts
  submittedOrders : List OrderPayload
  totalValue : PyVal
  cashValue : ℚ

inductive Call where
  | getQuote (symbol : String)
  | submitOrder (intent : OrderIntent)
  | postSubmitOrder (intent : OrderIntent) (report : ExecutionReport)
  | fetchReplannedState
  | fetchOrderStatus (brokerOrderId : String)
  | estimateMaxPurchaseQuantity (symbol : String) (kind : OrderType) (price : ℚ) (fractional : Bool)
  | notifyIssue (title : String) (detail : List Arg)
  | translator (key : String) (args : List (String × Arg))
  | withPrefix (message : String)
  | sleeper (seconds : ℚ)
  | publishAttention (admission : NewRiskGate.Admission)
  | formatCashNote (note : CashNote)
  | allocationDriftNotes (inputs : DriftInputs)

def Result : Call → Type
  | .getQuote _ => QuoteSnapshot
  | .submitOrder _ => Option ExecutionReport
  | .postSubmitOrder _ _ => Unit
  | .fetchReplannedState => Observation
  | .fetchOrderStatus _ => Option FillReport
  | .estimateMaxPurchaseQuantity _ _ _ _ => Option ℚ
  | .notifyIssue _ _ => Unit
  | .translator _ _ => String
  | .withPrefix _ => String
  | .sleeper _ => Unit
  | .publishAttention _ => AttentionCounts
  | .formatCashNote _ => List String
  | .allocationDriftNotes _ => List String

-- Steps the cycle takes for itself: an entry of its dry-run list, the snapshot
-- it leaves for the order adapter, and the targets it starts to adjust.
inductive Mark where
  | dryRun (order : OrderPayload)
  | cycleSnapshot (snapshot : Option NewRiskGate.Snapshot)
  | adjusting (targets : Amounts)

abbrev ports : Ports := ⟨Call,Result,Mark⟩

-- The arguments of one call of execute_rebalance_cycle that never change in it.
structure Settings where
  limitSellDiscount : ℚ
  limitBuyPremium : Option ℚ
  limitBuyPremiumBySymbol : Option (List (String × Option ℚ))
  dryRunOnly : Bool
  symbolSuffix : String
  postSellRefreshAttempts : ℤ
  postSellRefreshIntervalSec : ℚ
  minOrderNotionalUsd : ℚ
  safeHavenCashSubstituteThresholdUsd : ℚ
  cashOnlyExecution : Bool
  fractionalBuyExecution : Bool
  lotSizes : List (String × ℤ)
  notionalBuyCompatMode : Bool
  hasFetchOrderStatus : Bool
  hasPostSubmitOrder : Bool

structure Compatibility where
  targets : Amounts
  wholeShareSubstituted : List String
  safeHavenCashSubstituted : List String
  cashSubstitutionNotes : List CashNote

-- The parts of the shared kit the cycle calls without a port.
structure Library where
  gate : NewRiskGate.Library
  dispositionText : NewRiskGate.Disposition → String
  applyCombinedScaleToTargets : Amounts → Option ℚ → Except PyExc Amounts
  shouldSellCashSweepToFundWholeShareBuy : ℚ → ℚ → ℚ → List (ℚ × ℚ) → Bool
  applySmallAccountCashCompatibility : Amounts → Amounts → List String → List String → Compatibility
  existingWholeShareRetentionSymbols : List String
  retentionMinTargetShareRatio : List (String × ℚ)
  bootstrapMinTargetShareRatio : List (String × ℚ)

-- Texts and quotes, which no decision of the cycle but the drift notes reads back.
structure Journal where
  logs : List String
  skipLogs : List String
  noteLogs : List String
  cashNoteKeys : List String
  bootstrapNoteKeys : List String
  quotes : List (String × QuoteSnapshot)

structure OrderBook where
  submittedOrders : List OrderPayload
  dryRunOrders : List OrderPayload
  pendingOrders : List OrderPayload
  submittedSellOrders : List OrderPayload
  submissionHalted : Bool
  actionDone : Bool
  sellSubmitted : Bool
  cashSweepSold : Bool
  pendingSellReleaseSymbols : List String
  dryRunSaleProceeds : ℚ

structure GateState where
  buyBlocked : Bool
  reasonCodes : List String
  combinedScale : Option ℚ

-- The plan the cycle works on. Threshold, symbols, market values, quantities
-- and targets are read from it; the two cash amounts are variables of their own.
structure View where
  plan : Plan
  portfolio : Portfolio
  execution : Execution
  allocation : Allocation
  referenceTargets : Amounts
  availableCash : ℚ
  investableCash : ℚ

structure Locals where
  journal : Journal
  book : OrderBook
  gate : GateState
  view : View
  estimatedBuyCost : Option ℚ
  buysBlockedReason : Option String

structure CycleResult where
  plan : Plan
  portfolio : Portfolio
  execution : Execution
  allocation : Allocation
  logs : List String
  skipLogs : List String
  noteLogs : List String
  actionDone : Bool
  dryRunOrders : List OrderPayload
  pendingOrders : List OrderPayload
  quoteSnapshots : List QuoteSnapshot
  notificationAttentionReasonCodes : List String

-- What every phase may read: the settings, the kit, the environment and the
-- facts taken once from the state the cycle is called with.
structure Frame where
  settings : Settings
  library : Library
  environment : NewRiskGate.Environment
  opening : Observation

abbrev Step := Script ports PyExc Locals

def call (request : Call) : Step (Result request) := Script.invoke (P := ports) request

end LongBridge.Cycle
