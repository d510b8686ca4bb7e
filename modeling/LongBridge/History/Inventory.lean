import Mathlib.Data.Prod.Lex
import LongBridge.History.Financing
import LongBridge.Reconciliation.Amounts

namespace LongBridge.History
open Effects Reconciliation

def rejected (category : String) : PyExc := ⟨"_Rejected",category⟩

-- `Decimal(text).is_finite()`
def decimalFinite (text : String) : Except PyExc Bool :=
  match decimalOfText text with
  | some number => .ok number.isFinite
  | none => .error ⟨"InvalidOperation","[<class 'decimal.ConversionSyntax'>]"⟩

section money

def balanceFields : List String := ["currency","net_assets","total_cash"]

def cashFields : List String := ["currency","available_cash","frozen_cash","settling_cash"]

def moneyCell (refused : PyExc) (seen : List String) (field : String) : PyVal → Except PyExc PyVal
  | .str text =>
    if field = "currency" then do
      require (isCurrency text = true ∧ text ∉ seen) refused
      return .str text
    else do
      require (isDecimalText text = true) refused
      let finite ← decimalFinite text
      require (finite = true) refused
      return .str text
  | _ => .error refused

def moneyRow (refused : PyExc) (fields : List String) (seen : List String) (row : Fields) : Except PyExc Fields :=
  fields.mapM fun field => do
    let cell ← moneyCell refused seen field (row.get field)
    return (field,cell)

-- `_producer_money_rows` and `_money_rows`, which raise their own categories
def moneyRows (refused : PyExc) (fields : List String) : PyVal → Except PyExc (List Fields)
  | .list items =>
    if items.isEmpty then .error refused
    else readRows refused (moneyRow refused fields) (fun seen row => seen ++ [currencyOf row]) [] items
  | _ => .error refused

end money

section positions

-- `[A-Z0-9][A-Z0-9./ -]{0,31}`
def isPositionSymbol (text : String) : Bool :=
  match text.toList with
  | [] => false
  | first :: rest => (first.isUpper || first.isDigit) && decide (rest.length ≤ 31) &&
      rest.all fun char => char.isUpper || char.isDigit || ['.','/',' ','-'].contains char

-- `whole, _, fraction = text.lstrip("-").partition(".")`
def splitQuantity (text : String) : DecimalParts := decimalParts (text.toList.dropWhile (· == '-'))

def symbolOf (row : Fields) : String := textOf (row.get "symbol")

def inventoryKey (row : Fields) : Lex (String × String) := toLex (currencyOf row,symbolOf row)

def costText (text : String) : Option String := if isNativeDetail text then some text else none

def projectBrokerCostPrice : NativeValue → Option String
  | .decimal (.finite negative coefficient exponent) =>
    if 29 < exponent + digitCount coefficient - 1 ∨ exponent < -28 then none
    else costText (String.ofList (fixedPoint negative coefficient exponent))
  | .other (.str text) => costText text
  | _ => none

structure NativePosition where
  position : BrokerPosition
  costPrice : NativeValue

def positionEntries (symbol currency quantity : String) : Fields :=
  [("symbol",.str symbol),("currency",.str currency),("quantity",.str quantity),("market_value",.none)]

def costEntries (cost : Option String) : Fields :=
  match cost with
  | none => []
  | some cost => [("broker_cost_price",.str cost),("broker_cost_method",.str "broker_configured")]

def maxPositions : ℕ := 64

def addPosition (rows : List Fields) (native : NativePosition) : Option (List Fields) :=
  match normalizePosition "" native.position with
  | .error _ => none
  | .ok record =>
    if isPositionSymbol record.symbol && isCurrency record.currency && (splitQuantity record.quantity).within 15 8 &&
        !(rows.map symbolOf).contains record.symbol && decide (rows.length < maxPositions) then
      some (rows ++ [positionEntries record.symbol record.currency record.quantity ++ costEntries (projectBrokerCostPrice native.costPrice)])
    else none

-- None where the channels, or the positions of one, are neither a list nor a tuple
def projectCycleStockPositions (channels : Option (List (Option (List NativePosition)))) : Option (List Fields) := do
  let listed ← channels
  let rows ← listed.foldlM (fun rows positions => do (← positions).foldlM addPosition rows) []
  return rows.insertionSort (byKey inventoryKey)

def snapshotInvalid : PyExc := rejected "snapshot_invalid"

def independentPosition (item : Fields) : Except PyExc Fields :=
  match item.get "symbol",item.get "currency",item.get "quantity" with
  | .str symbol,.str currency,.str quantity => do
    require (isPositionSymbol symbol = true ∧ isCurrency currency = true ∧ isDecimalText quantity = true) snapshotInvalid
    require ((splitQuantity quantity).within 15 8 = true) snapshotInvalid
    let finite ← decimalFinite quantity
    require (finite = true) snapshotInvalid
    let entries := [("symbol",.str symbol),("quantity",.str quantity),("currency",.str currency),("market_value",.none)]
    if item.has "broker_cost_price" || item.has "broker_cost_method" then
      match item.get "broker_cost_price" with
      | .str cost => do
        require ((projectBrokerCostPrice (.other (.str cost))).isSome = true ∧ (item.get "broker_cost_method").isStr "broker_configured" = true)
          snapshotInvalid
        return entries ++ costEntries (some cost)
      | _ => .error snapshotInvalid
    else return entries
  | _,_,_ => .error snapshotInvalid

-- `_independent_position_rows`
def independentPositionRows : PyVal → Except PyExc (List Fields)
  | .list items =>
    if maxPositions < items.length then .error snapshotInvalid
    else do
      let rows ← readDistinct snapshotInvalid independentPosition symbolOf [] items
      return rows.insertionSort (byKey inventoryKey)
  | _ => .error snapshotInvalid

end positions

section balances

structure NativeBalance where
  balance : BrokerBalance
  amount : String → NativeValue
  riskLevel : PyVal

def NativeBalance.account (native : NativeBalance) : NativeAccount := ⟨native.balance.currency,native.amount,native.riskLevel⟩

structure Projection where
  balances : List Fields
  cash : List Fields
  financing : List Fields

def balanceRow (record : BalanceRecord) : Fields :=
  [("currency",.str record.currency),("net_assets",.str record.netAssets),("total_cash",.str record.totalCash)]

def cashRow (record : CashInfoRecord) : Fields :=
  [("currency",.str record.currency),("available_cash",.str record.availableCash),("frozen_cash",.str record.frozenCash),
    ("settling_cash",.str record.settlingCash)]

-- A row of a currency that has none so far
def addRow (rows : List Fields) (row : Fields) : Option (List Fields) :=
  if (rows.map currencyOf).contains (currencyOf row) then none else some (rows ++ [row])

def addBalance (rows : List Fields × List Fields) (native : NativeBalance) : Option (List Fields × List Fields) := do
  let normalized ← (normalizeBrokerBalance native.balance).toOption
  let balances ← addRow rows.1 (balanceRow normalized)
  let record ← (normalizeCash native.balance).toOption
  let cash ← (record.cashInfos.map cashRow).foldlM addRow rows.2
  return (balances,cash)

-- None where the answer is neither a list nor a tuple
def projectCycleHistoryBalances (accountBalance : Option (List NativeBalance)) : Option Projection := do
  let accounts ← accountBalance
  if accounts.isEmpty then none
  else do
    let (balances,cash) ← accounts.foldlM addBalance ([],[])
    if balances.isEmpty || cash.isEmpty then none
    else return ⟨balances.insertionSort (byKey currencyOf),cash.insertionSort (byKey currencyOf),
      projectNativeFinancing (some (accounts.map NativeBalance.account)) (balances.map currencyOf)⟩

end balances

section numbers

theorem digit_ne_zero {value : ℕ} (some : value % 10 ≠ 0) : digit value ≠ '0' := by
  have all : ∀ rest < 10, rest ≠ 0 → Char.ofNat (48 + rest) ≠ '0' := by decide
  exact all (value % 10) (Nat.mod_lt _ (by decide)) some

theorem padded_head {width value : ℕ} (low : 10 ^ width ≤ value) (high : value < 10 ^ (width + 1)) :
    ∃ rest, padded (width + 1) value = digit (value / 10 ^ width) :: rest := by
  induction width generalizing value with
  | zero => exact ⟨[],by simp [padded]⟩
  | succ width ih =>
    have below : 10 ^ width ≤ value / 10 := (Nat.le_div_iff_mul_le (by decide)).mpr (by rwa [← Nat.pow_succ])
    have above : value / 10 < 10 ^ (width + 1) := Nat.div_lt_of_lt_mul (by rwa [Nat.mul_comm,← Nat.pow_succ])
    obtain ⟨rest,same⟩ := ih below above
    refine ⟨rest ++ [digit value],?_⟩
    rw [padded,same,Nat.div_div_eq_div_mul,Nat.pow_succ,Nat.mul_comm 10]
    rfl

theorem isWhole_wholeText (number : ℕ) : isWhole (wholeText number) = true := by
  by_cases zero : number = 0
  · subst zero
    decide
  · have low : 10 ^ Nat.log 10 number ≤ number := Nat.pow_log_le_self 10 zero
    have high : number < 10 ^ (Nat.log 10 number + 1) := Nat.lt_pow_succ_log_self (by decide) number
    obtain ⟨rest,same⟩ := padded_head low high
    have quotient : number / 10 ^ Nat.log 10 number < 10 := Nat.div_lt_of_lt_mul (by rwa [← Nat.pow_succ])
    have positive : 0 < number / 10 ^ Nat.log 10 number := Nat.div_pos low (Nat.pow_pos (by decide))
    have leading : digit (number / 10 ^ Nat.log 10 number) ≠ '0' := digit_ne_zero (by rw [Nat.mod_eq_of_lt quotient]; omega)
    have digits : (wholeText number).all Char.isDigit = true := all_wholeText number
    unfold isWhole
    rw [digits,wholeText,digitCount,same]
    simp [leading]

theorem decimalParts_whole {whole : List Char} (digits : whole.all Char.isDigit = true) : decimalParts whole = ⟨whole,none⟩ := by
  have plain : ∀ char ∈ whole, (char != '.') = true := by
    intro char member
    rw [bne_iff_ne]
    rintro rfl
    exact absurd (List.all_eq_true.mp digits '.' member) (by decide)
  unfold decimalParts
  rw [List.takeWhile_eq_self_iff.mpr plain,List.dropWhile_eq_nil_iff.mpr plain]

theorem decimalParts_point {whole fraction : List Char} (digits : whole.all Char.isDigit = true) :
    decimalParts (whole ++ '.' :: fraction) = ⟨whole,some fraction⟩ := by
  have plain : ∀ char ∈ whole, (char != '.') = true := by
    intro char member
    rw [bne_iff_ne]
    rintro rfl
    exact absurd (List.all_eq_true.mp digits '.' member) (by decide)
  unfold decimalParts
  rw [List.takeWhile_append_of_pos plain,List.dropWhile_append_of_pos plain]
  simp

theorem unsigned_signed {chars : List Char} (negative : Bool) (digit : chars.head?.any Char.isDigit = true) :
    unsigned ((if negative then ['-'] else []) ++ chars) = chars := by
  cases negative with
  | true => rfl
  | false =>
    unfold unsigned
    rw [if_neg Bool.false_ne_true,List.nil_append,if_neg]
    intro dash
    rw [dash] at digit
    cases digit

-- format(number, "f") of a number is a decimal text.
theorem fixedPoint_decimalText (negative : Bool) (coefficient : ℕ) (exponent : ℤ) :
    isDecimalText (String.ofList (fixedPoint negative coefficient exponent)) = true := by
  have whole (number : ℕ) := all_wholeText number
  unfold isDecimalText fixedPoint
  rw [String.toList_ofList]
  by_cases up : 0 ≤ exponent
  · rw [if_pos up]
    have first := head_digit (whole (coefficient * 10 ^ exponent.toNat)) (wholeText_ne_nil _) []
    rw [List.append_nil] at first
    rw [unsigned_signed negative first,decimalParts_whole (whole _)]
    simp [DecimalParts.proper,isWhole_wholeText]
  · rw [if_neg up,unsigned_signed negative (head_digit (whole _) (wholeText_ne_nil _) _),decimalParts_point (whole _)]
    have places : 0 < (-exponent).toNat := by omega
    have some : padded (-exponent).toNat coefficient ≠ [] := List.ne_nil_of_length_pos (by rwa [length_padded])
    simp [DecimalParts.proper,isWhole_wholeText,all_padded,some]

-- What `_decimal_text` returns is a decimal text of a finite number.
theorem decimalText_decimal {value : PyVal} {fieldName text : String} (ran : decimalText value fieldName = .ok text) :
    isDecimalText text = true ∧ decimalFinite text = .ok true := by
  cases stated : amountOf value with
  | none =>
    unfold amountOf at stated
    unfold decimalText at ran
    split at ran
    · cases ran
    · rename_i read
      rw [read] at stated
      cases stated
    · cases ran
  | some amount =>
    obtain ⟨kept,shown,fixed,lowest,normal,_,_,rfl⟩ := decimalText_ok stated ran
    obtain ⟨read,place,back,_⟩ := decimalOfText_fixedPoint amount.negative normal
    refine ⟨fixedPoint_decimalText ..,?_⟩
    unfold decimalFinite
    rw [back]
    rfl

end numbers

end LongBridge.History
