import LongBridge.Python.Conversions
import LongBridge.Python.DecimalReadback
import LongBridge.Python.JsonTexts

namespace LongBridge.Reconciliation

def readError (text : String) : PyExc := ⟨"LongBridgeReconciliationReadError",text⟩

-- `_text`
def cleanText (value : PyVal) : String := strip value.textOrEmpty

-- `_decimal_text`; an overflow of the decimal context is not caught.
def decimalText (value : PyVal) (fieldName : String) : Except PyExc String :=
  match decimalOfText value.text with
  | none => .error (readError ("LongBridge reconciliation is missing " ++ fieldName ++ "."))
  | some (.finite negative coefficient exponent) => do
    let (kept,shown) ← normalizeDecimal coefficient exponent
    let normalized := trimFraction (fixedPoint negative kept shown)
    return if normalized = [] then "0" else String.ofList normalized
  | some _ => .error (readError ("LongBridge reconciliation has non-finite " ++ fieldName ++ "."))

-- A value of an SDK enumeration: its `__name__` if it has one, and what stands for it otherwise
structure EnumValue where
  name : PyVal
  value : PyVal

-- `_enum_name`
def enumName (value : EnumValue) : String := upper (cleanText (value.name.orElse value.value))

def removeLead (lead text : String) : String := if startsWith text lead then String.ofList (text.toList.drop lead.length) else text

structure BrokerPosition where
  symbol : PyVal
  currency : PyVal
  quantity : PyVal

structure PositionRecord where
  accountChannel : String
  symbol : String
  currency : String
  quantity : String
  deriving DecidableEq

-- `_normalize_position`
def normalizePosition (accountChannel : String) (position : BrokerPosition) : Except PyExc PositionRecord := do
  let symbol := upper (cleanText position.symbol)
  let currency := upper (cleanText position.currency)
  if symbol = "" ∨ currency = "" then .error (readError "LongBridge reconciliation received an incomplete position.")
  else do
    let quantity ← decimalText position.quantity "position quantity"
    return ⟨accountChannel,symbol,currency,quantity⟩

structure CashInfo where
  currency : PyVal
  availableCash : PyVal
  frozenCash : PyVal
  settlingCash : PyVal

structure CashInfoRecord where
  currency : String
  availableCash : String
  frozenCash : String
  settlingCash : String
  deriving DecidableEq

def normalizeCashInfo (info : CashInfo) : Except PyExc CashInfoRecord := do
  let currency := upper (cleanText info.currency)
  if currency = "" then .error (readError "LongBridge reconciliation received cash without currency.")
  else do
    let availableCash ← decimalText info.availableCash "available cash"
    let frozenCash ← decimalText info.frozenCash "frozen cash"
    let settlingCash ← decimalText info.settlingCash "settling cash"
    return ⟨currency,availableCash,frozenCash,settlingCash⟩

-- `cash_infos` is none where it is neither a list nor a tuple.
structure BrokerBalance where
  currency : PyVal
  netAssets : PyVal
  totalCash : PyVal
  cashInfos : Option (List CashInfo)

-- json.dumps(record, sort_keys=True) of each kind of record
def CashInfoRecord.json (record : CashInfoRecord) : List Char :=
  jsonEntry "\x7b" "available_cash" (jsonQuote record.availableCash) ++ (jsonEntry ", " "currency" (jsonQuote record.currency) ++
    (jsonEntry ", " "frozen_cash" (jsonQuote record.frozenCash) ++ (jsonEntry ", " "settling_cash" (jsonQuote record.settlingCash) ++ "\x7d".toList)))

structure CashRecord where
  cashInfos : List CashInfoRecord
  deriving DecidableEq

-- `_normalize_cash`
def normalizeCash (balance : BrokerBalance) : Except PyExc CashRecord :=
  match balance.cashInfos with
  | some (info :: infos) => do
    let cashDetail ← (info :: infos).mapM normalizeCashInfo
    return ⟨sortedByText CashInfoRecord.json cashDetail⟩
  | _ => .error (readError "LongBridge reconciliation received incomplete cash data.")

structure BalanceRecord where
  currency : String
  netAssets : String
  totalCash : String
  deriving DecidableEq

-- `_normalize_broker_balance`
def normalizeBrokerBalance (balance : BrokerBalance) : Except PyExc BalanceRecord := do
  let currency := upper (cleanText balance.currency)
  if currency = "" then .error (readError "Account snapshot balance currency is missing.")
  else do
    let netAssets ← decimalText balance.netAssets "net assets"
    let totalCash ← decimalText balance.totalCash "total cash"
    return ⟨currency,netAssets,totalCash⟩

structure BrokerOrder where
  orderId : PyVal
  status : EnumValue
  symbol : PyVal
  currency : PyVal
  side : EnumValue
  orderType : EnumValue
  quantity : PyVal
  executedQuantity : PyVal
  submittedAt : PyVal
  updatedAt : PyVal

structure OrderRecord where
  orderId : String
  status : String
  symbol : String
  currency : String
  side : String
  orderType : String
  quantity : String
  executedQuantity : String
  submittedAt : String
  updatedAt : String
  deriving DecidableEq

-- `_normalize_order`
def normalizeOrder (order : BrokerOrder) : Except PyExc OrderRecord := do
  let orderId := cleanText order.orderId
  let status := removeLead "ORDERSTATUS." (enumName order.status)
  let symbol := upper (cleanText order.symbol)
  let currency := upper (cleanText order.currency)
  if orderId = "" ∨ status = "" ∨ symbol = "" ∨ currency = "" then .error (readError "LongBridge reconciliation received an incomplete order.")
  else do
    let quantity ← decimalText order.quantity "order quantity"
    let executedQuantity ← decimalText order.executedQuantity "order executed quantity"
    return ⟨orderId,status,symbol,currency,enumName order.side,enumName order.orderType,quantity,executedQuantity,
      cleanText order.submittedAt,cleanText order.updatedAt⟩

-- A datetime: what its clock reads and the offset it names, with the fold of a time that is read twice
structure NativeTime where
  wall : ℤ
  offset : Option ℤ
  fold : Bool
  deriving DecidableEq

-- `trade_done_at` as str() shows it, and the datetime it is, if it is one
structure BrokerExecution where
  orderId : PyVal
  tradeId : PyVal
  symbol : PyVal
  tradeDoneAt : PyVal
  tradedAt : Option NativeTime
  quantity : PyVal
  price : PyVal
  side : EnumValue
  currency : PyVal

structure ExecutionRecord where
  orderId : String
  tradeId : String
  symbol : String
  tradeDoneAt : String
  quantity : String
  price : String
  deriving DecidableEq

-- `_normalize_execution`
def normalizeExecution (execution : BrokerExecution) : Except PyExc ExecutionRecord := do
  let orderId := cleanText execution.orderId
  let tradeId := cleanText execution.tradeId
  let symbol := upper (cleanText execution.symbol)
  if orderId = "" ∨ tradeId = "" ∨ symbol = "" then .error (readError "LongBridge reconciliation received an incomplete execution.")
  else do
    let quantity ← decimalText execution.quantity "execution quantity"
    let price ← decimalText execution.price "execution price"
    return ⟨orderId,tradeId,symbol,cleanText execution.tradeDoneAt,quantity,price⟩

end LongBridge.Reconciliation
