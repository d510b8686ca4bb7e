import LongBridge.Effects.Fallible
import LongBridge.Python.Conversions
import LongBridge.Python.Decimals
import LongBridge.Python.Equality
import LongBridge.Python.Json
import LongBridge.Python.Times

namespace LongBridge.Observation
open Effects

def observationError (code : String) : PyExc := ⟨"ObservationError",code⟩

def schemaInvalid : PyExc := observationError "schema_invalid"

def fail {α : Type} : Except PyExc α := .error schemaInvalid

def need (holds : Bool) : Except PyExc Unit := if holds then .ok () else fail

-- An instant in UTC; one outside the calendar does not convert.
def instant : PyVal → Except PyExc ℤ
  | .str text => match fromisoformat text with
    | some ⟨wall,some offset⟩ =>
      if 0 ≤ wall - offset ∧ wall - offset < lastInstant then .ok (wall - offset)
      else .error ⟨"OverflowError","date value out of range"⟩
    | _ => fail
  | _ => fail

-- America/New_York: the local date of an instant, and the instant of a wall time.
structure NewYork where
  date : ℤ → ℕ
  instant : ℤ → ℤ

structure Calendar where
  start : ℕ
  stop : ℕ
  sessions : List (String × String)

def Calendar.due (calendar : Calendar) (newYork : NewYork) (day : ℕ) : Except PyExc (Option ℤ) :=
  if ¬(calendar.start ≤ day ∧ day ≤ calendar.stop) then .error (observationError "calendar_unavailable")
  else match calendar.sessions.lookup (dateText day) with
    | none => .ok none
    | some close => match fromisoformat (dateText day ++ "T" ++ close) with
      | some stamp => .ok (some (newYork.instant stamp.wall + 30 * minuteSpan))
      | none => .error ⟨"ValueError","Invalid isoformat string"⟩

def workingStatuses : List String := ["NOTREPORTED","REPLACEDNOTREPORTED","PROTECTEDNOTREPORTED","VARIETIESNOTREPORTED",
  "WAITTONEW","NEW","WAITTOREPLACE","PENDINGREPLACE","REPLACED","PARTIALFILLED","WAITTOCANCEL","PENDINGCANCEL"]

-- `text(value, pattern)`, with the pattern as a test
def text (pattern : List Char → Bool) : PyVal → Except PyExc PyVal
  | .str value => if pattern value.toList then .ok (.str value) else fail
  | _ => fail

def amount : PyVal → Except PyExc PyVal
  | .str value =>
    if decide (value.length ≤ 64) && ((decimalOfText value).map PyDecimal.isFinite).getD false then .ok (.str value) else fail
  | _ => fail

def lettersOrBar (chars : List Char) : Bool :=
  decide (1 ≤ chars.length ∧ chars.length ≤ 32) && chars.all fun char => char.isUpper || char == '_'

def isCurrency (chars : List Char) : Bool := decide (chars.length = 3) && chars.all Char.isUpper

def isSymbol (chars : List Char) : Bool :=
  let code := chars.take (chars.length - 3)
  let market := chars.drop (chars.length - 3)
  decide (1 ≤ code.length ∧ code.length ≤ 24) && (code.all fun char => char.isUpper || char.isDigit || char == '.' || char == '-') &&
    (market == ".US".toList || market == ".HK".toList)

def isDigest (chars : List Char) : Bool :=
  decide (chars.length = 64) && chars.all fun char => char.isDigit || (decide ('a' ≤ char) && decide (char ≤ 'f'))

def isSide (chars : List Char) : Bool := chars == "BUY".toList || chars == "SELL".toList

-- `instant(x).isoformat()`
def moment (value : PyVal) : Except PyExc PyVal := do
  let time ← instant value
  return .str (isoformat time)

def optionalMoment (value : PyVal) : Except PyExc PyVal := if value.truthy then moment value else .ok .none

abbrev RowFields := List (String × (PyVal → Except PyExc PyVal))

def orderFields : RowFields := [
  ("symbol",text isSymbol),("currency",text isCurrency),("status",text lettersOrBar),("side",text isSide),
  ("order_type",text lettersOrBar),("quantity",amount),("executed_quantity",amount),("submitted_at",moment),
  ("updated_at",optionalMoment),("order_digest",text isDigest)]

def cashFields : RowFields := [("currency",text isCurrency),("available_cash",amount),("frozen_cash",amount),("settling_cash",amount)]

def balanceFields : RowFields := [("currency",text isCurrency),("net_assets",amount),("total_cash",amount)]

def positionFields : RowFields := [("symbol",text isSymbol),("currency",text isCurrency),("quantity",amount)]

def rowFields : List (String × RowFields) := [("cash",cashFields),("broker_reported_balances",balanceFields),
  ("positions",positionFields),("recent_orders_7d",orderFields),("known_non_terminal_orders_7d",orderFields)]

def checkedRow (fields : RowFields) (row : Fields) : Except PyExc Fields :=
  fields.mapM fun field => do
    let value ← field.2 (row.get field.1)
    return (field.1,value)

def asRow : PyVal → Option Fields
  | .dict entries => some entries
  | _ => none

def rows (raw : PyVal) (fields : RowFields) : Except PyExc (List Fields) :=
  match raw with
  | .list items =>
    if 5000 < items.length then fail
    else match items.mapM asRow with
      | some found => found.mapM (checkedRow fields)
      | none => fail
  | _ => fail

def rowList (found : List Fields) : PyVal := .list (found.map PyVal.dict)

-- A value of the very type and value that is expected, for None, bools and strings.
def isFixed : PyVal → PyVal → Bool
  | .none,.none => true
  | .bool value,.bool expected => value == expected
  | .str value,.str expected => value == expected
  | _,_ => false

def hasFixed (fields expected : Fields) : Bool := expected.all fun entry => isFixed (fields.get entry.1) entry.2

def payloadChecks : Fields := [("schema_version",.str "longbridge_account_snapshot.v1"),("status",.str "partial"),
  ("account_scope",.str "PAPER"),("no_order",.bool true),("live_authority_granted",.bool false),("snapshot_atomic",.bool false),
  ("cash_complete",.bool true),("positions_complete",.bool true)]

def asFields : PyVal → Except PyExc Fields
  | .dict entries => .ok entries
  | _ => fail

-- `mapping.get`; anything else has no such attribute.
def asDict : PyVal → Except PyExc Fields
  | .dict entries => .ok entries
  | _ => .error ⟨"AttributeError","object has no attribute 'get'"⟩

def boundTo (binding : String) (source : Fields) : Except PyExc Unit :=
  if !isFixed (source.get "status") (.str "bound") || !isFixed (source.get "id") (.str binding) || !isDigest binding.toList then
    .error (observationError "identity_failure")
  else .ok ()

def sameRow (one two : Fields) : Bool := PyVal.same (.dict one) (.dict two)

def digestOf (order : Fields) : String := (order.get "order_digest").text

-- One order of the payload: inside the query window, and equal to any other with its digest.
def addOrder (start stop : ℤ) (byId : List (String × Fields)) (order : Fields) : Except PyExc (List (String × Fields)) := do
  let submitted ← instant (order.get "submitted_at")
  need (decide (start ≤ submitted ∧ submitted ≤ stop))
  match byId.lookup (digestOf order) with
  | some old =>
    need (sameRow old order)
    return byId.map fun entry => if entry.1 == digestOf order then (entry.1,order) else entry
  | none => return byId ++ [(digestOf order,order)]

def isWorking (order : Fields) : Bool := workingStatuses.contains (order.get "status").text

def sanitizeBody (payload : PyVal) (binding : String) (now : ℤ) : Except PyExc Fields := do
  let fields ← asFields payload
  need (hasFixed fields payloadChecks)
  let source ← asDict (fields.getOr "source_binding" (.dict []))
  boundTo binding source
  let started ← instant (fields.get "observed_started_at")
  let finished ← instant (fields.get "observed_finished_at")
  need (decide (now - 5 * minuteSpan ≤ started ∧ started ≤ finished ∧ finished ≤ now + 30 * secondSpan))
  let cash ← rows (fields.get "cash") cashFields
  let balances ← rows (fields.get "broker_reported_balances") balanceFields
  let positions ← rows (fields.get "positions") positionFields
  let query ← asDict (fields.getOr "recent_orders_query" (.dict []))
  let start ← instant (query.get "start_at")
  let stop ← instant (query.get "end_at")
  need (decide (stop = started ∧ stop - start = 7 * daySpan) && isFixed (query.get "paging_complete") (.bool false) &&
    isFixed (fields.get "recent_orders_complete") (.bool false) && !cash.isEmpty && !balances.isEmpty)
  let orders ← rows (fields.get "recent_orders_7d") orderFields
  let byId ← orders.foldlM (addOrder start stop) []
  return [
    ("schema_version",.str "paper_observation.v1"),("account_scope",.str "PAPER"),("account_id",.none),
    ("identity_verification",.str "source_binding_only"),("snapshot_atomic",.bool false),
    ("observed_started_at",.str (isoformat started)),("observed_finished_at",.str (isoformat finished)),
    ("cash",rowList cash),("broker_reported_balances",rowList balances),("positions",rowList positions),
    ("recent_orders_7d",rowList (byId.map Prod.snd)),
    ("known_non_terminal_orders_7d",rowList ((byId.map Prod.snd).filter isWorking)),
    ("recent_orders_complete",.bool false),("open_orders_complete",.bool false),
    ("orders_query_start",.str (isoformat start)),("orders_query_end",.str (isoformat stop))]

-- What the handlers of sanitize turn into a schema error.
def isCaught (exc : PyExc) : Bool := ["TypeError","AttributeError","KeyError","ValueError"].contains exc.kind

def sanitize (payload : PyVal) (binding : String) (now : ℤ) : Except PyExc Fields :=
  match sanitizeBody payload binding now with
  | .ok record => .ok record
  | .error exc => if isCaught exc then fail else .error exc

def storedFixed (day : ℕ) : Fields := [("schema_version",.str "paper_observation.v1"),("trading_date",.str (dateText day)),
  ("account_scope",.str "PAPER"),("account_id",.none),("identity_verification",.str "source_binding_only"),
  ("snapshot_atomic",.bool false),("recent_orders_complete",.bool false),("open_orders_complete",.bool false)]

def timeFields : List String := ["observed_started_at","observed_finished_at","orders_query_start","orders_query_end","scheduled_at",
  "job_started_at","store_requested_at"]

def storedKeys : List String := (storedFixed 0).map Prod.fst ++ rowFields.map Prod.fst ++ timeFields ++ ["lateness_seconds","timing"]

def hasExactly (fields : Fields) (keys : List String) : Bool :=
  (keys.all fun key => fields.has key) && fields.all fun entry => keys.contains entry.1

-- Stored rows must already be normalised.
def storedRows (fields : Fields) (entry : String × RowFields) : Except PyExc (List Fields) := do
  let found ← rows (fields.get entry.1) entry.2
  need (PyVal.same (rowList found) (fields.get entry.1))
  return found

def latenessSeconds (started scheduled : ℤ) : ℚ := (started - scheduled : ℤ) / 1000000

def timingOf (lateness : ℚ) : String := if lateness ≤ 300 then "on_time" else "late_snapshot"

def isNumber : PyVal → Bool
  | .int _ | .float .. => true
  | _ => false

structure Bundle where
  calendar : Calendar
  newYork : NewYork
  floatText : ℚ → String

def Bundle.due (bundle : Bundle) (day : ℕ) : Except PyExc (Option ℤ) := bundle.calendar.due bundle.newYork day

def insideWindow (start stop : ℤ) (order : Fields) : Except PyExc Unit := do
  let submitted ← instant (order.get "submitted_at")
  need (decide (start ≤ submitted ∧ submitted ≤ stop))

def checkStored (bundle : Bundle) (record : PyVal) (day : ℕ) : Except PyExc Unit := do
  let fields ← asFields record
  need (hasExactly fields storedKeys && hasFixed fields (storedFixed day))
  let cash ← storedRows fields ("cash",cashFields)
  let balances ← storedRows fields ("broker_reported_balances",balanceFields)
  let _ ← storedRows fields ("positions",positionFields)
  let orders ← storedRows fields ("recent_orders_7d",orderFields)
  let _ ← storedRows fields ("known_non_terminal_orders_7d",orderFields)
  need (!cash.isEmpty && !balances.isEmpty)
  let started ← instant (fields.get "observed_started_at")
  let finished ← instant (fields.get "observed_finished_at")
  let start ← instant (fields.get "orders_query_start")
  let stop ← instant (fields.get "orders_query_end")
  let scheduled ← instant (fields.get "scheduled_at")
  let job ← instant (fields.get "job_started_at")
  let stored ← instant (fields.get "store_requested_at")
  need (decide (started ≤ finished ∧ job ≤ stored ∧
    max job (finished - 30 * secondSpan) ≤ min stored (started + 5 * minuteSpan) ∧
    bundle.newYork.date started = day ∧ bundle.newYork.date job = day))
  let due ← bundle.due day
  need (decide (due = some scheduled ∧ scheduled ≤ job ∧ stop = started ∧ stop - start = 7 * daySpan))
  need (decide (orders.map digestOf).Nodup)
  orders.forM (insideWindow start stop)
  need (PyVal.same (rowList (orders.filter isWorking)) (fields.get "known_non_terminal_orders_7d"))
  let lateness := latenessSeconds started scheduled
  let recorded := fields.get "lateness_seconds"
  need (isNumber recorded && PyVal.sameNumber recorded (.float (.finite lateness) (bundle.floatText lateness)) &&
    decide (0 ≤ lateness) && isFixed (fields.get "timing") (.str (timingOf lateness)))

def validateStored (bundle : Bundle) (record : PyVal) (day : ℕ) : Except PyExc PyVal :=
  match checkStored bundle record day with
  | .ok () => .ok record
  | .error _ => .error (observationError "stored_record_invalid")

end LongBridge.Observation
