import LongBridge.Cycle.Sizing

namespace LongBridge.Cycle
open Effects

def whenever (condition : Bool) (script : Step Unit) : Step Unit := if condition then script else pure ()

def changeJournal (change : Journal → Journal) : Step Unit :=
  Script.modify fun locals => { locals with journal := change locals.journal }

def changeBook (change : OrderBook → OrderBook) : Step Unit :=
  Script.modify fun locals => { locals with book := change locals.book }

def translate (key : String) (args : List (String × Arg)) : Step String := call (.translator key args)

-- print(with_prefix(message))
def printPrefixed (message : String) : Step Unit := do
  let _ ← call (.withPrefix message)

def noteLog (message : String) : Step Unit := do
  changeJournal fun journal => { journal with noteLogs := journal.noteLogs ++ [message] }
  printPrefixed message

def recordSkipLog (kind detail : String) : Step Unit := do
  let message ← translate kind [("detail",.text detail)]
  changeJournal fun journal => { journal with skipLogs := journal.skipLogs ++ [message] }
  printPrefixed message

def recordNoteLog (kind : String) (args : List (String × Arg)) : Step Unit := do
  let detail ← translate kind args
  let message ← translate "buy_deferred" [("detail",.text detail)]
  noteLog message

def sideName : Side → String
  | .buy => "Buy"
  | .sell => "Sell"

def orderTypeName : OrderType → String
  | .limit => "limit"
  | .market => "market"

def setQuote (quotes : List (String × QuoteSnapshot)) (key : String) (snapshot : QuoteSnapshot) :
    List (String × QuoteSnapshot) :=
  match quotes with
  | [] => [(key,snapshot)]
  | (name,old) :: rest => if name = key then (name,snapshot) :: rest else (name,old) :: setQuote rest key snapshot

def recordQuoteSnapshot (snapshot : QuoteSnapshot) : Step Unit :=
  let key := normalizedSymbol snapshot.symbol
  whenever (key ≠ "") (changeJournal fun journal =>
    { journal with quotes := setQuote journal.quotes key { snapshot with symbol := key, currency := strip snapshot.currency } })

-- float(snapshot.last_price)
def lastPrice (snapshot : QuoteSnapshot) : Except PyExc ℚ :=
  match snapshot.lastPrice with
  | some price => .ok price
  | none => .error ⟨"TypeError","float() argument must be a string or a real number"⟩

def quotedPrice (symbol : String) : Step ℚ := do
  let snapshot ← call (.getQuote symbol)
  recordQuoteSnapshot snapshot
  Script.fromExcept (lastPrice snapshot)

-- A quote that fails is reported, and the report itself may fail.
def safeQuoteLastPrice (symbol : String) : Step (Option ℚ) := do
  let quoted ← (quotedPrice symbol).attempt
  match quoted with
  | .ok price => return some price
  | .error exc => do
    call (.notifyIssue "Quote failed" [.text ("Symbol: " ++ symbol ++ "\n" ++ exc.text)])
    return none

-- A notification that fails is only printed.
def notifySubmissionIssue (title detail : String) : Step Unit := do
  let _ ← (call (.notifyIssue title [.text detail])).attempt

def appendOrderIdSuffix (logMessage : String) (brokerOrderId : Option String) : Step String := do
  let orderIdText := strip (brokerOrderId.getD "")
  if orderIdText = "" then return logMessage
  else
    let suffix ← translate "order_id_suffix" [("order_id",.text orderIdText)]
    return logMessage ++ " " ++ (if strip suffix = "" ∨ strip suffix = "order_id_suffix"
      then "[order_id=" ++ orderIdText ++ "]" else strip suffix)

-- Everything after a known submission that may still fail.
def afterSubmission (settings : Settings) (intent : OrderIntent) (report : ExecutionReport) (logMessage : String) :
    Step Unit := do
  let logWithOrderId ← appendOrderIdSuffix logMessage report.brokerOrderId
  let pendingLog ← translate "order_pending_confirmation" [("detail",.text logWithOrderId)]
  changeJournal fun journal => { journal with logs := journal.logs ++ [pendingLog] }
  printPrefixed pendingLog
  whenever settings.hasPostSubmitOrder (call (.postSubmitOrder intent report))

def halt : Step Unit := changeBook fun book => { book with submissionHalted := true }

def recordPending (order : OrderPayload) : Step Unit :=
  changeBook fun book => { book with pendingOrders := book.pendingOrders ++ [order] }

def recordSubmitted (order : OrderPayload) : Step Unit :=
  changeBook fun book => { book with
    submittedOrders := book.submittedOrders ++ [order]
    submittedSellOrders := if order.side = .sell then book.submittedSellOrders ++ [order] else book.submittedSellOrders }

def exceptionName (answer : Except PyExc (Option ExecutionReport)) : String :=
  match answer with
  | .error exc => "\nsubmit_exception: " ++ exc.kind
  | .ok _ => ""

-- The broker may or may not hold the order: nothing is submitted after it.
def recordUnknown (intent : OrderIntent) (answer : Except PyExc (Option ExecutionReport)) (brokerOrderId : Option String) :
    Step Bool := do
  halt
  recordPending (unknownOrder intent brokerOrderId)
  notifySubmissionIssue "Order submit failed" ("broker_outcome_unknown_reconciliation_required" ++ exceptionName answer)
  return false

def recordKnown (settings : Settings) (intent : OrderIntent) (report : ExecutionReport) (logMessage : String) :
    Step Bool := do
  recordPending (knownOrder intent report)
  recordSubmitted (knownOrder intent report)
  let finished ← (afterSubmission settings intent report logMessage).attempt
  match finished with
  | .ok _ => return true
  | .error _ => do
    halt
    notifySubmissionIssue "Order post-submit hook failed" "post_submit_processing_failed_reconciliation_required"
    return true

def recordAnswer (settings : Settings) (intent : OrderIntent) (logMessage : String)
    (answer : Except PyExc (Option ExecutionReport)) : Step Bool :=
  match answer with
  | .error _ => recordUnknown intent answer none
  | .ok none => recordUnknown intent answer none
  | .ok (some report) =>
    if reportStatus (some report) = "rejected" then do
      notifySubmissionIssue "Order submit failed" "order_rejected"
      return false
    else if isKnownSubmission (reportStatus (some report)) then recordKnown settings intent report logMessage
    else recordUnknown intent answer report.brokerOrderId

def orderIntent (settings : Settings) (symbol : String) (orderType : OrderType) (side : Side) (quantity : ℚ)
    (submittedPrice : Option ℚ) : OrderIntent :=
  ⟨symbol,side,submittedQuantity settings symbol side quantity,orderType,submittedPrice⟩

def skippedDetail (intent : OrderIntent) (quantity : ℚ) : List Arg :=
  [.text ("Symbol: " ++ intent.symbol ++ " Side: " ++ sideName intent.side ++ " Qty: "),.quantity quantity,
    .text (" Type: " ++ orderTypeName intent.orderType ++ " Price: "),
    match intent.limitPrice with
    | some price => .number price
    | none => .text "MO"]

def submitOrderViaPort (settings : Settings) (symbol : String) (orderType : OrderType) (side : Side) (quantity : ℚ)
    (logMessage : String) (submittedPrice : Option ℚ) : Step Bool := do
  let locals ← Script.get
  if locals.book.submissionHalted then return false
  else
    let intent := orderIntent settings symbol orderType side quantity submittedPrice
    if intent.quantity ≤ 0 then do
      call (.notifyIssue "Order submit skipped" (skippedDetail intent quantity))
      return false
    else do
      let answer ← (call (.submitOrder intent)).attempt
      recordAnswer settings intent logMessage answer

def dryRunOrder (symbol : String) (side : Side) (quantity : ℚ) (price : ℚ) (orderType : OrderType) : OrderPayload :=
  { symbol := normalizedSymbol symbol
    side
    quantity := shownQuantity quantity
    orderType
    status := "dry_run"
    submissionStatus := ""
    price := some (roundTo 4 price)
    limitPrice := if orderType = .limit then some (roundTo 4 price) else none
    brokerOrderId := none
    filledQuantity := none
    averageFillPrice := none }

-- The order is in the list before any message about it is built.
def recordDryRun (symbol : String) (side : Side) (quantity : ℚ) (price : ℚ) (orderType : OrderType) : Step Bool := do
  let order := dryRunOrder symbol side quantity price orderType
  changeBook fun book => { book with dryRunOrders := book.dryRunOrders ++ [order] }
  Script.mark (P := ports) (.dryRun order)
  let sideText ← translate (match side with | .buy => "side_buy" | .sell => "side_sell") []
  let typeText ← translate (match orderType with | .limit => "order_type_limit" | .market => "order_type_market") []
  let message ← translate "dry_run_order" [("side",.text sideText),("symbol",.text symbol),
    ("qty",.quantity quantity),("price",.text ("$" ++ fixedText 2 price)),("order_type",.text typeText)]
  changeJournal fun journal => { journal with logs := journal.logs ++ [message] }
  printPrefixed message
  return true

def placeKey : Side → OrderType → String
  | .buy,.limit => "limit_buy"
  | .buy,.market => "market_buy"
  | .sell,.limit => "limit_sell"
  | .sell,.market => "market_sell"

-- Every order of the cycle is placed here: in a dry run it is recorded, in a
-- live run its message is translated first and then it is submitted.
def placeOrder (settings : Settings) (symbol : String) (side : Side) (orderType : OrderType) (quantity price : ℚ) :
    Step Bool :=
  if settings.dryRunOnly then recordDryRun (marketSymbol settings symbol) side quantity price orderType
  else do
    let message ← translate (placeKey side orderType)
      [("symbol",.text symbol),("qty",.quantity quantity),("price",.number price)]
    submitOrderViaPort settings (marketSymbol settings symbol) orderType side quantity message
      (if orderType = .limit then some price else none)

end LongBridge.Cycle
