import LongBridge.Python.Times
import LongBridge.Reconciliation.Records

namespace LongBridge.Reconciliation
open Sorting

-- The zone of the host: the instant of a time that names no offset, and the instant of the call
structure HostClock where
  localInstant : NativeTime → Except PyExc ℤ
  current : ℤ

def NativeTime.utc (host : HostClock) (time : NativeTime) : Except PyExc ℤ :=
  match time.offset with
  | none => host.localInstant time
  | some offset =>
    if 0 ≤ time.wall - offset ∧ time.wall - offset < lastInstant then .ok (time.wall - offset)
    else .error ⟨"OverflowError","date value out of range"⟩

def offsetText (offset : ℤ) : List Char :=
  let clock := Clock.ofSpan offset.natAbs
  (if offset < 0 then '-' else '+') :: (padded 2 clock.hour ++ ':' :: (padded 2 clock.minute ++
    if clock.second = 0 ∧ clock.micro = 0 then []
    else ':' :: (padded 2 clock.second ++ if clock.micro = 0 then [] else '.' :: padded 6 clock.micro)))

-- `isoformat()` of the time as it was given
def NativeTime.iso (time : NativeTime) : String :=
  String.ofList ((dateText (utcOrdinal time.wall)).toList ++ 'T' :: ((utcClock time.wall).text ++ (time.offset.map offsetText).getD []))

structure QueryWindow where
  start : ℤ
  finish : ℤ
  forward : Bool

def QueryWindow.holds (window : QueryWindow) (instant : ℤ) : Bool :=
  (if window.forward then window.start < instant else window.start ≤ instant) && instant ≤ window.finish

structure QueryRequest where
  accountScope : PyVal
  now : Option NativeTime
  lookback : ℤ
  forwardAnchor : Option NativeTime
  forwardPreviousCutoff : Option NativeTime

def supportedAccountScopes : List String := ["PAPER","HK","SG"]

-- November 3 of 2026 in Hong Kong
def forwardStart : ℤ := ((ordinalOf ⟨2026,11,2⟩ : ℤ) - 1) * daySpan + 16 * hourSpan

def awareCutoff (host : HostClock) (cutoff : Option NativeTime) : Except PyExc ℤ :=
  match cutoff with
  | some ⟨wall,some offset,fold⟩ => NativeTime.utc host ⟨wall,some offset,fold⟩
  | _ => .error (readError "Forward reconciliation requires aware cutoffs.")

-- `not in range` of the cutoffs of a forward report; what is aware is checked for all of them before.
def forwardWindow (host : HostClock) (request : QueryRequest) : Except PyExc QueryWindow := do
  let previous := request.forwardPreviousCutoff.or request.forwardAnchor
  if ([request.forwardAnchor,previous,request.now].all fun cutoff => (cutoff.bind NativeTime.offset).isSome) = false then
    .error (readError "Forward reconciliation requires aware cutoffs.")
  else do
    let anchor ← awareCutoff host request.forwardAnchor
    let lower ← awareCutoff host previous
    let upper ← awareCutoff host request.now
    if forwardStart ≤ anchor ∧ anchor ≤ lower ∧ lower ≤ upper then return ⟨lower,upper,true⟩
    else .error (readError "Forward reconciliation cutoffs are invalid.")

def referenceNow (host : HostClock) : Option NativeTime → Except PyExc ℤ
  | none => .ok host.current
  | some now => now.utc host

-- The window of the queries, from the head of `collect_read_only_reconciliation_observations`
def queryWindow (host : HostClock) (request : QueryRequest) : Except PyExc QueryWindow :=
  if upper (cleanText request.accountScope) ∉ supportedAccountScopes ∨ request.lookback ≤ 0 then
    .error (readError "LongBridge reconciliation scope is invalid.")
  else if request.forwardAnchor.isSome || request.forwardPreviousCutoff.isSome then forwardWindow host request
  else do
    let reference ← referenceNow host request.now
    if 0 ≤ reference - request.lookback then return ⟨reference - request.lookback,reference,false⟩
    else .error ⟨"OverflowError","date value out of range"⟩

section executions

-- What a forward report adds to an execution: its side and currency, and the times as they were given
structure ForwardPart where
  side : Option String
  currency : Option String
  nativeTradeDoneAt : String
  nativeTradeDoneAtValues : List String
  deriving DecidableEq

structure ObservedExecution where
  facts : ExecutionRecord
  forward : Option ForwardPart
  deriving DecidableEq

def nonEmpty (text : String) : Option String := if text = "" then none else some text

def forwardPart (execution : BrokerExecution) (native : NativeTime) : ForwardPart :=
  ⟨nonEmpty (removeLead "ORDERSIDE." (enumName execution.side)),nonEmpty (upper (cleanText execution.currency)),native.iso,[native.iso]⟩

variable (host : HostClock) (window : QueryWindow)

-- One execution of the reading: none where it lies outside the window
def observeExecution (execution : BrokerExecution) : Except PyExc (Option ObservedExecution) :=
  match execution.tradedAt with
  | none => .error (readError "LongBridge reconciliation received an invalid execution time.")
  | some native =>
    if window.forward && native.offset.isNone then .error (readError "Forward reconciliation has ambiguous execution time.")
    else do
      let tradedAt ← native.utc host
      if window.holds tradedAt = false then return none
      else do
        let record ← normalizeExecution execution
        let facts := { record with tradeDoneAt := isoformat tradedAt }
        return some ⟨facts,if window.forward then some (forwardPart execution native) else none⟩

-- The earlier row of a trade stays and learns the native time of the later one.
def ObservedExecution.learn (previous observed : ObservedExecution) : ObservedExecution :=
  match previous.forward,observed.forward with
  | some known,some other =>
    { previous with forward := some { known with nativeTradeDoneAtValues := sortedSet (known.nativeTradeDoneAtValues ++ [other.nativeTradeDoneAt]) } }
  | _,_ => previous

def ForwardPart.labels (part : ForwardPart) : Option String × Option String := (part.side,part.currency)

-- The canonical facts of an execution; its native times are not among them.
def ObservedExecution.canonical (observed : ObservedExecution) : ExecutionRecord × Option (Option String × Option String) :=
  (observed.facts,observed.forward.map ForwardPart.labels)

def mergeExecution (known : List ObservedExecution) (observed : ObservedExecution) : Except PyExc (List ObservedExecution) :=
  match known with
  | [] => .ok [observed]
  | previous :: rest =>
    if previous.facts.tradeId = observed.facts.tradeId then
      if previous.canonical = observed.canonical then .ok (previous.learn observed :: rest)
      else .error (readError "LongBridge reconciliation received conflicting executions.")
    else (mergeExecution rest observed).map (previous :: ·)

-- The loop over the executions of both queries
def mergeExecutions : List BrokerExecution → List ObservedExecution → Except PyExc (List ObservedExecution)
  | [],known => .ok known
  | execution :: rest,known => do
    match ← observeExecution host window execution with
    | none => mergeExecutions rest known
    | some observed => do
      let merged ← mergeExecution known observed
      mergeExecutions rest merged

end executions

section json

def PositionRecord.json (record : PositionRecord) : List Char :=
  jsonEntry "\x7b" "account_channel" (jsonQuote record.accountChannel) ++ (jsonEntry ", " "currency" (jsonQuote record.currency) ++
    (jsonEntry ", " "quantity" (jsonQuote record.quantity) ++ (jsonEntry ", " "symbol" (jsonQuote record.symbol) ++ "\x7d".toList)))

def CashRecord.json (record : CashRecord) : List Char :=
  jsonEntry "\x7b" "cash_infos" (jsonList CashInfoRecord.json record.cashInfos) ++ "\x7d".toList

def BalanceRecord.json (record : BalanceRecord) : List Char :=
  jsonEntry "\x7b" "currency" (jsonQuote record.currency) ++ (jsonEntry ", " "net_assets" (jsonQuote record.netAssets) ++
    (jsonEntry ", " "total_cash" (jsonQuote record.totalCash) ++ "\x7d".toList))

def OrderRecord.json (record : OrderRecord) : List Char :=
  jsonEntry "\x7b" "currency" (jsonQuote record.currency) ++ (jsonEntry ", " "executed_quantity" (jsonQuote record.executedQuantity) ++
    (jsonEntry ", " "order_id" (jsonQuote record.orderId) ++ (jsonEntry ", " "order_type" (jsonQuote record.orderType) ++
      (jsonEntry ", " "quantity" (jsonQuote record.quantity) ++ (jsonEntry ", " "side" (jsonQuote record.side) ++
        (jsonEntry ", " "status" (jsonQuote record.status) ++ (jsonEntry ", " "submitted_at" (jsonQuote record.submittedAt) ++
          (jsonEntry ", " "symbol" (jsonQuote record.symbol) ++ (jsonEntry ", " "updated_at" (jsonQuote record.updatedAt) ++
            "\x7d".toList)))))))))

-- The facts, behind what stands in front of them
def ExecutionRecord.json (lead : String) (record : ExecutionRecord) : List Char :=
  jsonEntry lead "order_id" (jsonQuote record.orderId) ++ (jsonEntry ", " "price" (jsonQuote record.price) ++
    (jsonEntry ", " "quantity" (jsonQuote record.quantity)))

def ObservedExecution.json (observed : ObservedExecution) : List Char :=
  let ends := jsonEntry ", " "symbol" (jsonQuote observed.facts.symbol) ++ (jsonEntry ", " "trade_done_at" (jsonQuote observed.facts.tradeDoneAt) ++
    (jsonEntry ", " "trade_id" (jsonQuote observed.facts.tradeId) ++ "\x7d".toList))
  match observed.forward with
  | some part =>
    jsonEntry "\x7b" "currency" (jsonOptional part.currency) ++ (jsonEntry ", " "native_trade_done_at" (jsonQuote part.nativeTradeDoneAt) ++
      (jsonEntry ", " "native_trade_done_at_values" (jsonList jsonQuote part.nativeTradeDoneAtValues) ++ (observed.facts.json ", " ++
        (jsonEntry ", " "side" (jsonOptional part.side) ++ ends))))
  | none => observed.facts.json "\x7b" ++ ends

end json

structure PositionChannel where
  accountChannel : PyVal
  positions : Option (List BrokerPosition)

-- What the calls of the broker returned
structure BrokerRows where
  balances : List BrokerBalance
  channels : List PositionChannel
  orders : List BrokerOrder
  executions : List BrokerExecution
  todayExecutions : List BrokerExecution

structure Observations where
  accountChannels : List String
  positions : List PositionRecord
  cash : List CashRecord
  openOrders : List OrderRecord
  recentExecutions : List ObservedExecution
  brokerReportedBalances : List BalanceRecord
  recentOrders : List OrderRecord
  deriving DecidableEq

def workingOrderStatuses : List String :=
  ["NOTREPORTED","REPLACEDNOTREPORTED","PROTECTEDNOTREPORTED","VARIETIESNOTREPORTED","WAITTONEW","NEW","WAITTOREPLACE","PENDINGREPLACE",
    "REPLACED","PARTIALFILLED","WAITTOCANCEL","PENDINGCANCEL"]

def normalizeChannel (channel : PositionChannel) : Except PyExc (String × List PositionRecord) :=
  let accountChannel := lower (cleanText channel.accountChannel)
  match channel.positions with
  | none => .error (readError "LongBridge reconciliation received an incomplete position channel.")
  | some positions =>
    if accountChannel = "" then .error (readError "LongBridge reconciliation received an incomplete position channel.")
    else do
      let records ← positions.mapM (normalizePosition accountChannel)
      return (accountChannel,records)

def brokerBalances (includeBrokerBalances : Bool) (balances : List BrokerBalance) : Except PyExc (List BalanceRecord) :=
  if includeBrokerBalances then balances.mapM normalizeBrokerBalance else .ok []

-- `collect_read_only_reconciliation_observations`, from the rows of the broker to the records
def observeRows (host : HostClock) (window : QueryWindow) (includeBrokerBalances : Bool) (rows : BrokerRows) : Except PyExc Observations :=
  if rows.channels = [] then .error (readError "LongBridge reconciliation received incomplete positions.")
  else do
    let executions ← mergeExecutions host window (rows.executions ++ rows.todayExecutions) []
    let channels ← rows.channels.mapM normalizeChannel
    let orders ← rows.orders.mapM normalizeOrder
    let balances ← brokerBalances includeBrokerBalances rows.balances
    let cash ← rows.balances.mapM normalizeCash
    return {
      accountChannels := sortedSet (channels.map Prod.fst)
      positions := sortedByText PositionRecord.json (channels.flatMap Prod.snd)
      cash := sortedByText CashRecord.json cash
      openOrders := sortedByText OrderRecord.json (orders.filter fun order => workingOrderStatuses.contains order.status)
      recentExecutions := sortedByText ObservedExecution.json executions
      brokerReportedBalances := sortedByText BalanceRecord.json balances
      recentOrders := sortedByText OrderRecord.json orders }

-- The whole reading: its window is settled before the broker is asked.
def collectObservations (host : HostClock) (request : QueryRequest) (includeBrokerBalances : Bool) (rows : BrokerRows) : Except PyExc Observations := do
  let window ← queryWindow host request
  observeRows host window includeBrokerBalances rows

end LongBridge.Reconciliation
