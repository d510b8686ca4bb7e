import LongBridge.Python.Numbers
import LongBridge.Effects.Tree

namespace LongBridge

inductive Side where
  | buy
  | sell
  deriving DecidableEq, Repr

inductive OrderType where
  | limit
  | market
  deriving DecidableEq, Repr

structure OrderIntent where
  symbol : String
  side : Side
  quantity : ℚ
  orderType : OrderType
  limitPrice : Option ℚ
  deriving DecidableEq

-- What a port answers for a submitted intent. Only the status says whether the
-- broker took the order; it is a text nobody restricts.
structure ExecutionReport where
  status : String
  filledQuantity : Option ℚ
  averageFillPrice : Option ℚ
  brokerOrderId : Option String
  deriving DecidableEq

-- One entry of the cycle's order lists. `submissionStatus` is empty for a
-- recorded dry-run order, which has no submission.
structure OrderPayload where
  symbol : String
  side : Side
  quantity : ℚ
  orderType : OrderType
  status : String
  submissionStatus : String
  price : Option ℚ
  limitPrice : Option ℚ
  brokerOrderId : Option String
  filledQuantity : Option ℚ
  averageFillPrice : Option ℚ
  deriving DecidableEq

-- `str(getattr(report, "status", "") or "").strip().lower()`; no report, no status.
def reportStatus (report : Option ExecutionReport) : String :=
  match report with
  | some report => lower (strip report.status)
  | none => ""

def isKnownSubmission (status : String) : Bool :=
  ["submitted","accepted","filled","partially_filled"].contains status

def unknownOrder (intent : OrderIntent) (brokerOrderId : Option String) : OrderPayload :=
  { symbol := normalizedSymbol intent.symbol
    side := intent.side
    quantity := intent.quantity
    orderType := intent.orderType
    status := "unknown"
    submissionStatus := "unknown"
    price := intent.limitPrice.map (roundTo 4)
    limitPrice := if intent.orderType = .limit then intent.limitPrice.map (roundTo 4) else none
    brokerOrderId := brokerOrderId.filter (· ≠ "")
    filledQuantity := none
    averageFillPrice := none }

def knownOrder (intent : OrderIntent) (report : ExecutionReport) : OrderPayload :=
  { unknownOrder intent report.brokerOrderId with
    status := "pending_reconciliation"
    submissionStatus := reportStatus (some report)
    filledQuantity := report.filledQuantity
    averageFillPrice := report.averageFillPrice }

-- The fact one answered submission leaves behind: nothing for a rejection, an
-- unknown outcome for an exception, for no report and for any other status.
def recordedOrder (intent : OrderIntent) (answer : Except PyExc (Option ExecutionReport)) : Option OrderPayload :=
  match answer with
  | .error _ => some (unknownOrder intent none)
  | .ok none => some (unknownOrder intent none)
  | .ok (some report) =>
    if reportStatus (some report) = "rejected" then none
    else if isKnownSubmission (reportStatus (some report)) then some (knownOrder intent report)
    else some (unknownOrder intent report.brokerOrderId)

-- Whether the broker may hold the order although nobody knows.
def outcomeUnknown (answer : Except PyExc (Option ExecutionReport)) : Bool :=
  match answer with
  | .error _ => true
  | .ok report => reportStatus report != "rejected" && !isKnownSubmission (reportStatus report)

end LongBridge
