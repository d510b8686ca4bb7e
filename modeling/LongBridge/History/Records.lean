import LongBridge.History.Inventory
import LongBridge.Python.Times

namespace LongBridge.History
open Effects

def historySchema : String := "longbridge_account_snapshot_history.v1"

def snapshotSchema : String := "longbridge_account_snapshot.v1"

def sourceKind : String := "deployment_scope_token_version"

def observationWindow : ℤ := 15 * minuteSpan

-- `^[0-9a-f]{64}$`
def isBindingId (text : String) : Bool :=
  decide (text.toList.length = 64) && text.toList.all fun char => char.isDigit || (decide ('a' ≤ char) && decide (char ≤ 'f'))

-- `text.replace("Z", "+00:00")`
def withoutZulu (text : String) : String := String.ofList (text.toList.flatMap fun char => if char = 'Z' then ['+','0','0',':','0','0'] else [char])

def objectInvalid : PyExc := rejected "gcs_object_invalid"

-- `_aware`: an instant in UTC; one outside the calendar does not convert.
def aware : PyVal → Except PyExc ℤ
  | .str text => match fromisoformat (withoutZulu text) with
    | some ⟨wall,some offset⟩ =>
      if 0 ≤ wall - offset ∧ wall - offset < lastInstant then .ok (wall - offset)
      else .error ⟨"OverflowError","date value out of range"⟩
    | _ => .error objectInvalid
  | _ => .error objectInvalid

-- `_filename_for`: `finished.strftime('%H%M%S%fZ.json')`
def filenameFor (finished : ℤ) : String :=
  let clock := utcClock finished
  String.ofList (padded 2 clock.hour ++ padded 2 clock.minute ++ padded 2 clock.second ++ padded 6 clock.micro) ++ "Z.json"

def isBound (binding : Fields) : Bool := (binding.get "kind").isStr sourceKind && (binding.get "status").isStr "bound"

section producer

structure ProducerConfig where
  gcsPrefix : String
  targetId : String
  accountScope : String
  projectId : String

def sourceBinding (id : String) : Fields := [("kind",.str sourceKind),("status",.str "bound"),("id",.str id)]

def projectionInvalid : PyExc := rejected "projection_invalid"

def producerBinding : PyVal → Except PyExc String
  | .dict binding =>
    if isBound binding then
      match Fields.get binding "id" with
      | .str id => if isBindingId id then .ok id else .error (rejected "source_unbound")
      | _ => .error (rejected "source_unbound")
    else .error (rejected "source_unbound")
  | _ => .error (rejected "source_unbound")

-- The times of an observation; a value that is no aware datetime is none.
def producerTimes (started finished : Option ℤ) (now : ℤ) : Except PyExc (ℤ × ℤ) :=
  match started,finished with
  | some started,some finished =>
    if finished < started ∨ now < finished ∨ started < now - observationWindow then .error (rejected "observation_invalid")
    else .ok (started,finished)
  | _,_ => .error (rejected "observation_invalid")

-- `_producer_financing_rows`
def producerFinancingRows (value : PyVal) (balanceCurrencies : List String) : Except PyExc (List Fields) :=
  match validateFinancingPayload value balanceCurrencies with
  | .ok rows => .ok rows
  | .error _ => .error projectionInvalid

-- A part of a record that is there where its value is given
def optionalRows (read : PyVal → Except PyExc (List Fields)) : Option PyVal → Except PyExc (Option (List Fields))
  | none => .ok none
  | some value => do
    let rows ← read value
    return some rows

def financingEntries (rows : Option (List Fields)) : Fields :=
  match rows with
  | none => []
  | some rows => [("financing",dictList rows)]

def positionEntriesOf (rows : Option (List Fields)) : Fields :=
  match rows with
  | none => []
  | some rows => [("broker_reported_positions",dictList rows),("broker_reported_positions_scope",.str "stocks_only"),
      ("broker_reported_positions_complete",.bool true)]

-- The entries that every record has
def recordEntries (scope target : String) (binding : Fields) (startedAt finishedAt date : String) (balances cash : List Fields) : Fields := [
  ("schema_version",.str historySchema),("snapshot_schema_version",.str snapshotSchema),("account_scope",.str scope),("target_id",.str target),
  ("source_binding",.dict binding),("observed_started_at",.str startedAt),("observed_finished_at",.str finishedAt),("snapshot_atomic",.bool false),
  ("observation_date",.str date),("broker_reported_balances",dictList balances),("cash",dictList cash)]

structure HistoryObject where
  body : PyVal
  uri : String

-- `_producer_history_object`; the body is the document that json.dumps(record, sort_keys=True) writes.
def producerHistoryObject (config : ProducerConfig) (binding balances cash : PyVal) (started finished : Option ℤ) (financing positions : Option PyVal)
    (now : ℤ) : Except PyExc HistoryObject := do
  let id ← producerBinding binding
  let (started,finished) ← producerTimes started finished now
  let balanceRows ← moneyRows projectionInvalid balanceFields balances
  let cashRows ← moneyRows projectionInvalid cashFields cash
  let financed ← optionalRows (fun value => producerFinancingRows value (balanceRows.map currencyOf)) financing
  let held ← optionalRows independentPositionRows positions
  let record := recordEntries config.accountScope config.targetId (sourceBinding id) (isoformat started) (isoformat finished)
    (dateText (utcOrdinal started)) balanceRows cashRows ++ (financingEntries financed ++ positionEntriesOf held)
  let body ← (PyVal.dict record).jsonSorted
  return ⟨body,config.gcsPrefix ++ "/" ++ config.targetId ++ "/" ++ id ++ "/" ++ dateText (utcOrdinal started) ++ "/" ++ filenameFor finished⟩

end producer

section recorder

-- A recorder's configuration, as far as it decides what an object is
structure Config where
  prefixPath : String
  targetId : String
  expectedScope : String
  sourceBindingId : String

def expectedFields : List String := ["schema_version","snapshot_schema_version","account_scope","target_id","source_binding","observed_started_at",
  "observed_finished_at","snapshot_atomic","observation_date","broker_reported_balances","cash"]

def historyPositionFields : List String :=
  ["broker_reported_positions","broker_reported_positions_scope","broker_reported_positions_complete"]

def isTrue : PyVal → Bool
  | .bool value => value
  | _ => false

def isFalse : PyVal → Bool
  | .bool value => !value
  | _ => false

-- `_history_positions_valid`; only a rejection is caught.
def historyPositionsValid (payload : Fields) : Except PyExc Bool :=
  if !historyPositionFields.any payload.has then .ok true
  else if !historyPositionFields.all payload.has || !(payload.get "broker_reported_positions_scope").isStr "stocks_only" ||
      !isTrue (payload.get "broker_reported_positions_complete") then .ok false
  else match independentPositionRows (payload.get "broker_reported_positions") with
    | .ok rows => .ok ((payload.get "broker_reported_positions").same (dictList rows))
    | .error exc => if exc.kind = "_Rejected" then .ok false else .error exc

-- `_is_fresh`, of a record whose times were read
def isFresh (record : Fields) (now : ℤ) : Bool :=
  match aware (record.get "observed_started_at") with
  | .ok started => decide (started ≤ now ∧ now - observationWindow ≤ started)
  | .error _ => false

def boundTo (config : Config) : PyVal → Bool
  | .dict binding => isBound binding && (Fields.get binding "id").isStr config.sourceBindingId
  | _ => false

def hasHistoryFields (payload : Fields) : Bool :=
  expectedFields.all payload.has && payload.all fun entry => (expectedFields ++ ["financing"] ++ historyPositionFields).contains entry.1

def hasHistoryFacts (payload : Fields) (config : Config) : Bool :=
  (payload.get "schema_version").isStr historySchema && (payload.get "snapshot_schema_version").isStr snapshotSchema &&
    (payload.get "account_scope").isStr config.expectedScope && (payload.get "target_id").isStr config.targetId &&
    isFalse (payload.get "snapshot_atomic") && boundTo config (payload.get "source_binding")

def expectedName (config : Config) (started finished : ℤ) : String :=
  config.prefixPath ++ "/" ++ config.targetId ++ "/" ++ config.sourceBindingId ++ "/" ++ dateText (utcOrdinal started) ++ "/" ++ filenameFor finished

-- `_validate_history_object`, of the object of this name
def validateHistoryObject (payload : Fields) (config : Config) (name : String) (triggeredAt now : ℤ) : Except PyExc Fields := do
  require (hasHistoryFields payload = true) objectInvalid
  let positionsValid ← historyPositionsValid payload
  require (positionsValid = true ∧ hasHistoryFacts payload config = true) objectInvalid
  let started ← aware (payload.get "observed_started_at")
  let finished ← aware (payload.get "observed_finished_at")
  require (triggeredAt ≤ started ∧ started ≤ finished ∧ finished ≤ now ∧
    (payload.get "observation_date").isStr (dateText (utcOrdinal started)) = true ∧ name = expectedName config started finished ∧
    isFresh payload now = true) objectInvalid
  let balances ← moneyRows objectInvalid balanceFields (payload.get "broker_reported_balances")
  let _ ← moneyRows objectInvalid cashFields (payload.get "cash")
  if payload.has "financing" then
    match validateFinancingPayload (payload.get "financing") (balances.map currencyOf) with
    | .ok _ => return payload
    | .error _ => .error objectInvalid
  else return payload

end recorder

section independent

structure IndependentConfig where
  accountScope : String
  targetId : String
  sourceBindingId : String

-- A mapping with these fields and no others
def hasExactly (row : Fields) (names : List String) : Bool := names.all row.has && row.all fun entry => names.contains entry.1

def shortAmount (row : Fields) (field : String) : Bool := field == "currency" || (splitQuantity (textOf (row.get field))).within 15 8

-- `_independent_money_rows`
def independentMoneyRows (value : PyVal) (fields : List String) : Except PyExc (List Fields) :=
  match value with
  | .list items => do
    require (1 ≤ items.length ∧ items.length ≤ 32) snapshotInvalid
    require (items.all (fun item => match item with
      | .dict row => hasExactly row fields
      | _ => false) = true) snapshotInvalid
    let rows ← moneyRows objectInvalid fields value
    require (rows.all (fun row => fields.all (shortAmount row)) = true) snapshotInvalid
    return rows
  | _ => .error snapshotInvalid

def boundExactly (config : IndependentConfig) : PyVal → Bool
  | .dict binding => hasExactly binding ["kind","status","id"] && isBound binding && (Fields.get binding "id").isStr config.sourceBindingId
  | _ => false

def isPublicSnapshot (payload : Fields) (config : IndependentConfig) : Bool :=
  (payload.get "schema_version").isStr snapshotSchema && (payload.get "status").isStr "partial" &&
    (payload.get "account_scope").isStr config.accountScope && isTrue (payload.get "no_order") && isFalse (payload.get "live_authority_granted") &&
    isFalse (payload.get "snapshot_atomic") && isTrue (payload.get "cash_complete") && isTrue (payload.get "positions_complete") &&
    boundExactly config (payload.get "source_binding")

-- Every rejection on the way is told as an invalid snapshot.
def asSnapshotInvalid {α : Type} : Except PyExc α → Except PyExc α
  | .ok value => .ok value
  | .error exc => if exc.kind = "_Rejected" then .error snapshotInvalid else .error exc

def independentRecord (payload : Fields) (config : IndependentConfig) (startedAt now : ℤ) : Except PyExc Fields := do
  let started ← aware (payload.get "observed_started_at")
  let finished ← aware (payload.get "observed_finished_at")
  require (startedAt ≤ started ∧ started ≤ finished ∧ finished ≤ now ∧ isFresh payload now = true) snapshotInvalid
  let balances ← independentMoneyRows (payload.get "broker_reported_balances") balanceFields
  let cash ← independentMoneyRows (payload.get "cash") cashFields
  let positions ← independentPositionRows (payload.get "positions")
  let financed ← optionalRows (fun value => producerFinancingRows value (balances.map currencyOf)) (payload.lookup "financing")
  return recordEntries config.accountScope config.targetId (sourceBinding config.sourceBindingId) (textOf (payload.get "observed_started_at"))
    (textOf (payload.get "observed_finished_at")) (dateText (utcOrdinal started)) balances cash ++
      (positionEntriesOf (some positions) ++ financingEntries financed)

-- `_project_independent_history`
def projectIndependentHistory (payload : PyVal) (config : IndependentConfig) (startedAt now : ℤ) : Except PyExc Fields :=
  match payload with
  | .dict payload =>
    if isPublicSnapshot payload config then asSnapshotInvalid (independentRecord payload config startedAt now) else .error snapshotInvalid
  | _ => .error snapshotInvalid

end independent

end LongBridge.History
