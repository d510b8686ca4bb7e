import LongBridge.Python.DecimalText
import LongBridge.Python.Rows
import Mathlib.Data.String.Basic

namespace LongBridge.History
open Effects

-- `^[A-Z]{3}$`
def isCurrency (text : String) : Bool := decide (text.toList.length = 3) && text.toList.all Char.isUpper

-- A number without a sign, at its point
structure DecimalParts where
  whole : List Char
  fraction : Option (List Char)

def decimalParts (chars : List Char) : DecimalParts :=
  ⟨chars.takeWhile (· != '.'),match chars.dropWhile (· != '.') with
    | [] => none
    | _ :: fraction => some fraction⟩

def unsigned (chars : List Char) : List Char := if chars.head? = some '-' then chars.tail else chars

-- `0|[1-9]\d*`
def isWhole (digits : List Char) : Bool := digits == ['0'] || digits.head?.any (· != '0') && digits.all Char.isDigit

def DecimalParts.proper (parts : DecimalParts) : Bool :=
  isWhole parts.whole && (parts.fraction.map fun digits => !digits.isEmpty && digits.all Char.isDigit).getD true

def DecimalParts.within (parts : DecimalParts) (whole fraction : ℕ) : Bool :=
  decide (parts.whole.length ≤ whole ∧ (parts.fraction.getD []).length ≤ fraction)

-- `^-?(?:0|[1-9]\d*)(?:\.\d+)?$`
def isDecimalText (text : String) : Bool := (decimalParts (unsigned text.toList)).proper

-- `^-?(?:0|[1-9]\d{0,29})(?:\.\d{1,28})?$`
def isNativeDetail (text : String) : Bool := isDecimalText text && (decimalParts (unsigned text.toList)).within 30 28

def moneyFields : List String := ["max_finance_amount","remaining_finance_amount","init_margin","maintenance_margin","margin_call","buy_power"]

def riskLevels : List String := ["0","1","2","3"]

def financingFields : List String := ["currency","risk_level"] ++ moneyFields

def maxRows : ℕ := 32

def financingError : PyExc := ⟨"FinancingPayloadError","financing payload is invalid"⟩

-- `Decimal(text).is_finite()`, where a failed conversion counts as well
def decimalIsFinite (text : String) : Bool := ((decimalOfText text).map PyDecimal.isFinite).getD false

def textOf : PyVal → String
  | .str text => text
  | _ => ""

def currencyOf (row : Fields) : String := textOf (row.get "currency")

section projection

-- What an attribute of an SDK object holds: a Decimal, or any other value
inductive NativeValue where
  | decimal (value : PyDecimal)
  | other (value : PyVal)

-- A balance as far as its financing is concerned; a missing attribute is None.
structure NativeAccount where
  currency : PyVal
  amount : String → NativeValue
  riskLevel : PyVal

-- `_project_currency`
def projectCurrency : PyVal → Option String
  | .str value => if isCurrency (upper (strip value)) then some (upper (strip value)) else none
  | _ => none

def moneyText (text : String) : Option String := if isNativeDetail text && decimalIsFinite text then some text else none

-- `_project_money`
def projectMoney : NativeValue → Option String
  | .decimal (.finite negative coefficient exponent) => moneyText (String.ofList (fixedPoint negative coefficient exponent))
  | .other (.str text) => moneyText text
  | _ => none

-- `_project_risk_level`
def projectRiskLevel : PyVal → Option String
  | .int value => if 0 ≤ value ∧ value ≤ 3 then some (toString value) else none
  | .str value => if riskLevels.contains value then some value else none
  | _ => none

def projectCells (account : NativeAccount) : Fields :=
  (moneyFields.filterMap fun field => (projectMoney (account.amount field)).map fun cell => (field,.str cell)) ++
    ((projectRiskLevel account.riskLevel).map fun risk => ("risk_level",PyVal.str risk)).toList

def projectRows (allowed : List String) : List String → List NativeAccount → List Fields
  | _,[] => []
  | seen,account :: rest => match projectCurrency account.currency with
    | none => projectRows allowed seen rest
    | some currency =>
      if !allowed.contains currency || seen.contains currency || (projectCells account).isEmpty then projectRows allowed seen rest
      else (("currency",.str currency) :: projectCells account) :: projectRows allowed (seen ++ [currency]) rest

-- None where the balances are neither a list nor a tuple
def projectNativeFinancing (accountBalances : Option (List NativeAccount)) (balanceCurrencies : List String) : List Fields :=
  match accountBalances with
  | none => []
  | some accounts =>
    if accounts.isEmpty || balanceCurrencies.isEmpty then []
    else
      let rows := projectRows balanceCurrencies [] accounts
      if rows.isEmpty || decide (maxRows < rows.length) then [] else rows.insertionSort (byKey currencyOf)

end projection

section validation

def isMoneyCell : PyVal → Bool
  | .str cell => isNativeDetail cell && decimalIsFinite cell
  | _ => false

def isRiskCell : PyVal → Bool
  | .str risk => riskLevels.contains risk
  | _ => false

def financingCells : List (String × (PyVal → Bool)) := moneyFields.map (fun field => (field,isMoneyCell)) ++ [("risk_level",isRiskCell)]

-- The cells that an item has, each of them checked
def presentCells (item : Fields) : List (String × (PyVal → Bool)) → Except PyExc Fields
  | [] => .ok []
  | (field,check) :: rest => match item.lookup field with
    | none => presentCells item rest
    | some cell => do
      require (check cell = true) financingError
      let others ← presentCells item rest
      return (field,cell) :: others

-- The currencies seen so far, and the last of them
structure FinancingSeen where
  seen : List String
  previous : Option String

def FinancingSeen.takes (state : FinancingSeen) (allowed : List String) (currency : String) : Bool :=
  isCurrency currency && allowed.contains currency && !state.seen.contains currency && state.previous.all fun old => !decide (currency < old)

def FinancingSeen.next (state : FinancingSeen) (row : Fields) : FinancingSeen := ⟨state.seen ++ [currencyOf row],some (currencyOf row)⟩

def financingRow (allowed : List String) (state : FinancingSeen) (item : Fields) : Except PyExc Fields := do
  require (∀ entry ∈ item, entry.1 ∈ financingFields) financingError
  match item.get "currency" with
  | .str currency => do
    require (state.takes allowed currency = true) financingError
    let cells ← presentCells item financingCells
    require (cells ≠ []) financingError
    return ("currency",.str currency) :: cells
  | _ => .error financingError

def validateFinancingPayload (value : PyVal) (balanceCurrencies : List String) : Except PyExc (List Fields) :=
  match value with
  | .list items =>
    if items.isEmpty || decide (maxRows < items.length) then .error financingError
    else readRows financingError (financingRow balanceCurrencies) FinancingSeen.next ⟨[],none⟩ items
  | _ => .error financingError

-- `financing_shape_ok`
def financingShapeOk : PyVal → Bool
  | .list items => !items.isEmpty && decide (items.length ≤ maxRows)
  | _ => false

end validation

section cells
variable {item other cells : Fields} {checks : List (String × (PyVal → Bool))}

theorem presentCells_congr (same : ∀ entry ∈ checks, other.lookup entry.1 = item.lookup entry.1) : presentCells other checks = presentCells item checks := by
  induction checks with
  | nil => rfl
  | cons entry rest ih =>
    obtain ⟨field,check⟩ := entry
    unfold presentCells
    rw [same (field,check) List.mem_cons_self,ih fun later member => same later (List.mem_cons_of_mem _ member)]

theorem presentCells_cons {field : String} {check : PyVal → Bool} (ran : presentCells item ((field,check) :: checks) = .ok cells) :
    item.lookup field = none ∧ presentCells item checks = .ok cells ∨
      ∃ cell others, item.lookup field = some cell ∧ check cell = true ∧ presentCells item checks = .ok others ∧ cells = (field,cell) :: others := by
  unfold presentCells at ran
  split at ran
  · rename_i missing
    exact .inl ⟨missing,ran⟩
  · rename_i cell there
    obtain ⟨_,checked,rest⟩ := bind_ok.mp ran
    obtain ⟨others,more,same⟩ := bind_return_ok.mp rest
    exact .inr ⟨cell,others,there,require_ok.mp checked,more,same⟩

theorem presentCells_names (ran : presentCells item checks = .ok cells) : (cells.map Prod.fst).Sublist (checks.map Prod.fst) := by
  induction checks generalizing cells with
  | nil =>
    cases ran
    exact List.Sublist.refl _
  | cons entry rest ih =>
    rcases presentCells_cons ran with ⟨_,more⟩ | ⟨cell,others,_,_,more,rfl⟩
    · exact (ih more).cons _
    · exact (ih more).cons_cons _

theorem presentCells_lookup (names : (checks.map Prod.fst).Nodup) (ran : presentCells item checks = .ok cells) :
    ∀ entry ∈ checks, cells.lookup entry.1 = item.lookup entry.1 := by
  induction checks generalizing cells with
  | nil =>
    intro entry member
    cases member
  | cons first rest ih =>
    obtain ⟨field,check⟩ := first
    obtain ⟨fresh,names⟩ := List.nodup_cons.mp names
    have apart : ∀ entry ∈ rest, (entry.1 == field) = false := by
      intro entry member
      rw [beq_eq_false_iff_ne]
      rintro rfl
      exact fresh (List.mem_map.mpr ⟨entry,member,rfl⟩)
    rcases presentCells_cons ran with ⟨missing,more⟩ | ⟨cell,others,there,_,more,rfl⟩
    · intro entry member
      rcases List.mem_cons.mp member with rfl | later
      · rw [missing,List.lookup_eq_none_iff]
        intro entry listed
        rw [bne_iff_ne]
        rintro rfl
        exact fresh ((presentCells_names more).subset (List.mem_map_of_mem listed))
      · exact ih names more entry later
    · intro entry member
      rcases List.mem_cons.mp member with rfl | later
      · rw [List.lookup_cons_self,there]
      · rw [List.lookup_cons,apart entry later]
        exact ih names more entry later

theorem presentCells_checked (ran : presentCells item checks = .ok cells) : ∀ entry ∈ cells, ∃ check, (entry.1,check) ∈ checks ∧ check entry.2 = true := by
  induction checks generalizing cells with
  | nil =>
    cases ran
    intro entry member
    cases member
  | cons first rest ih =>
    obtain ⟨field,check⟩ := first
    have later : ∀ others, presentCells item rest = .ok others → ∀ entry ∈ others, ∃ check', (entry.1,check') ∈ (field,check) :: rest ∧ check' entry.2 = true := by
      intro others more entry member
      obtain ⟨check',listed,held⟩ := ih more entry member
      exact ⟨check',List.mem_cons_of_mem _ listed,held⟩
    rcases presentCells_cons ran with ⟨_,more⟩ | ⟨cell,others,_,checked,more,rfl⟩
    · exact later _ more
    · intro entry member
      rcases List.mem_cons.mp member with rfl | inside
      · exact ⟨check,List.mem_cons_self,checked⟩
      · exact later _ more entry inside

end cells

section rows
variable {allowed : List String} {state : FinancingSeen} {item row cells : Fields} {currency : String}

theorem financingCells_names : (financingCells.map Prod.fst).Nodup := by decide

theorem mem_financingFields (name : String) : name ∈ financingFields ↔ name = "currency" ∨ name ∈ financingCells.map Prod.fst := by
  have perm : financingFields.Perm ("currency" :: financingCells.map Prod.fst) := by decide
  rw [perm.mem_iff,List.mem_cons]

theorem financingCells_plain : ∀ check ∈ financingCells, ∀ value, check.2 value = true → IsPlain value := by
  have money : ∀ value, isMoneyCell value = true → IsPlain value := by
    intro value held
    cases value with
    | str text => trivial
    | _ => cases held
  have risk : ∀ value, isRiskCell value = true → IsPlain value := by
    intro value held
    cases value with
    | str text => trivial
    | _ => cases held
  intro check member
  rcases List.mem_append.mp member with amount | level
  · obtain ⟨field,_,rfl⟩ := List.mem_map.mp amount
    exact money
  · rw [List.mem_singleton.mp level]
    exact risk

theorem financingRow_names (read : presentCells cells financingCells = .ok cells) : ((("currency",PyVal.str currency) :: cells).map Prod.fst).Nodup := by
  rw [List.map_cons,List.nodup_cons]
  refine ⟨fun member => ?_,(presentCells_names read).nodup financingCells_names⟩
  have inside : "currency" ∈ financingCells.map Prod.fst := (presentCells_names read).subset member
  exact absurd inside (by decide)

-- A row that is made of a currency and of cells that are read as themselves
theorem financingRow_of (takes : state.takes allowed currency = true) (read : presentCells cells financingCells = .ok cells) (some : cells ≠ [])
    (perm : item.Perm (("currency",.str currency) :: cells)) : financingRow allowed state item = .ok (("currency",.str currency) :: cells) := by
  have listed : ∀ entry ∈ cells, entry.1 ∈ financingFields := fun entry member =>
    (mem_financingFields _).mpr (.inr ((presentCells_names read).subset (List.mem_map_of_mem member)))
  have names : (("currency",PyVal.str currency) :: cells |>.map Prod.fst).Nodup := financingRow_names read
  have known : ∀ entry ∈ item, entry.1 ∈ financingFields := by
    intro entry member
    rcases List.mem_cons.mp (perm.subset member) with rfl | cell
    · exact List.mem_cons_self
    · exact listed entry cell
  have again : presentCells item financingCells = .ok cells := by
    rw [← read]
    refine presentCells_congr fun entry member => ?_
    rw [lookup_perm names perm,List.lookup_cons]
    have apart : (entry.1 == "currency") = false := by
      rw [beq_eq_false_iff_ne]
      intro same
      have inside : entry.1 ∈ financingCells.map Prod.fst := List.mem_map_of_mem member
      rw [same] at inside
      exact absurd inside (by decide)
    rw [apart]
  unfold financingRow
  rw [get_perm names perm]
  refine bind_ok.mpr ⟨(),require_ok.mpr known,bind_ok.mpr ⟨(),require_ok.mpr takes,bind_ok.mpr ⟨cells,again,bind_ok.mpr ⟨(),require_ok.mpr some,rfl⟩⟩⟩⟩

theorem financingRow_ok (ran : financingRow allowed state item = .ok row) : ∃ currency cells, row = ("currency",.str currency) :: cells ∧
    state.takes allowed currency = true ∧ presentCells cells financingCells = .ok cells ∧ cells ≠ [] ∧
      (∀ entry ∈ item, entry.1 ∈ financingFields) ∧ item.get "currency" = .str currency ∧ presentCells item financingCells = .ok cells := by
  unfold financingRow at ran
  obtain ⟨_,known,rest⟩ := bind_ok.mp ran
  split at rest
  · rename_i currency named
    obtain ⟨_,takes,rest⟩ := bind_ok.mp rest
    obtain ⟨cells,read,rest⟩ := bind_ok.mp rest
    obtain ⟨_,some,same⟩ := bind_ok.mp rest
    refine ⟨currency,cells,(return_ok.mp same).symm,require_ok.mp takes,?_,require_ok.mp some,require_ok.mp known,named,read⟩
    rw [← read]
    exact presentCells_congr (presentCells_lookup financingCells_names read)
  · cases rest

-- A row that is taken has the entries of its item and no others.
theorem financingRow_perm (names : (item.map Prod.fst).Nodup) (ran : financingRow allowed state item = .ok row) : item.Perm row := by
  obtain ⟨currency,cells,rfl,_,again,_,known,named,read⟩ := financingRow_ok ran
  refine perm_of_lookup names (financingRow_names again) fun key => ?_
  by_cases own : key = "currency"
  · subst own
    rw [lookup_of_get named,List.lookup_cons_self]
  · have apart : (key == "currency") = false := beq_eq_false_iff_ne.mpr own
    rw [List.lookup_cons,apart]
    by_cases cell : key ∈ financingCells.map Prod.fst
    · obtain ⟨entry,listed,rfl⟩ := List.mem_map.mp cell
      exact (presentCells_lookup financingCells_names read entry listed).symm
    · have strange : ∀ entry ∈ item, entry.1 ≠ key := by
        rintro entry member rfl
        exact ((mem_financingFields _).mp (known entry member)).elim own cell
      have absent : ∀ entry ∈ cells, entry.1 ≠ key := by
        rintro entry member rfl
        exact cell ((presentCells_names again).subset (List.mem_map_of_mem member))
      rw [lookup_none strange,lookup_none absent]

theorem financingRow_rereads (allowed : List String) (state : FinancingSeen) : Rereads (financingRow allowed state) := by
  constructor
  · intro item row ran
    obtain ⟨currency,cells,rfl,takes,read,some,_⟩ := financingRow_ok ran
    refine ⟨financingRow_names read,fun entry member => ?_⟩
    rcases List.mem_cons.mp member with rfl | cell
    · trivial
    · obtain ⟨check,listed,held⟩ := presentCells_checked read entry cell
      exact financingCells_plain _ listed _ held
  · intro item row copy ran perm
    obtain ⟨currency,cells,rfl,takes,read,some,_⟩ := financingRow_ok ran
    exact financingRow_of takes read some perm

end rows

section normal
variable {allowed : List String} {state : FinancingSeen} {items : List Fields} {rows copies : List Fields}

-- A row as the validation leaves it
structure FinancingCells (currency : String) (cells : Fields) (row : Fields) : Prop where
  built : row = ("currency",.str currency) :: cells
  named : isCurrency currency = true
  checked : presentCells cells financingCells = .ok cells
  some : cells ≠ []

def ProperFinancing (allowed : List String) (row : Fields) : Prop := ∃ currency ∈ allowed, ∃ cells, FinancingCells currency cells row

theorem takes_iff {currency : String} : state.takes allowed currency = true ↔
    isCurrency currency = true ∧ currency ∈ allowed ∧ currency ∉ state.seen ∧ ∀ old ∈ state.previous, old ≤ currency := by
  unfold FinancingSeen.takes
  rw [Bool.and_eq_true,Bool.and_eq_true,Bool.and_eq_true,List.contains_iff_mem,Bool.not_eq_true',← Bool.not_eq_true,List.contains_iff_mem,
    Option.all_eq_true]
  simp only [Bool.not_eq_true',decide_eq_false_iff_not,not_lt,and_assoc,Option.mem_def]

-- What one row leaves: those after it come later in the order.
theorem readRows_rising {items : List PyVal} (ran : readRows financingError (financingRow allowed) FinancingSeen.next state items = .ok rows) :
    (∀ row ∈ rows, ProperFinancing allowed row ∧ currencyOf row ∉ state.seen ∧ ∀ old ∈ state.previous, old ≤ currencyOf row) ∧
      (rows.map currencyOf).Pairwise (· < ·) := by
  induction items generalizing state rows with
  | nil =>
    cases ran
    exact ⟨fun row member => (nomatch member),List.Pairwise.nil⟩
  | cons item rest ih =>
    obtain ⟨entries,first,others,-,one,more,rfl⟩ := readRows_cons.mp ran
    obtain ⟨currency,cells,rfl,taken,checked,some,_⟩ := financingRow_ok one
    obtain ⟨named,permitted,fresh,later⟩ := takes_iff.mp taken
    obtain ⟨proper,rising⟩ := ih more
    have above : ∀ row ∈ others, currency < currencyOf row := by
      intro row member
      obtain ⟨_,unseen,after⟩ := proper row member
      refine lt_of_le_of_ne (after currency rfl) fun same => unseen ?_
      rw [← same]
      exact List.mem_append_right _ (List.mem_singleton_self _)
    refine ⟨fun row member => ?_,?_⟩
    · rcases List.mem_cons.mp member with rfl | inside
      · exact ⟨⟨currency,permitted,cells,rfl,named,checked,some⟩,fresh,later⟩
      · obtain ⟨own,unseen,_⟩ := proper row inside
        exact ⟨own,fun old => unseen (List.mem_append_left _ old),fun old same => (later old same).trans (above row inside).le⟩
    · refine List.pairwise_cons.mpr ⟨fun other member => ?_,rising⟩
      obtain ⟨row,inside,rfl⟩ := List.mem_map.mp member
      exact above row inside

-- Proper rows in the order of their currencies are read as themselves.
theorem readRows_proper (proper : ∀ row ∈ rows, ProperFinancing allowed row) (rising : (rows.map currencyOf).Pairwise (· < ·))
    (before : ∀ row ∈ rows, (∀ old ∈ state.seen, old < currencyOf row) ∧ ∀ old ∈ state.previous, old < currencyOf row) :
    readRows financingError (financingRow allowed) FinancingSeen.next state (rows.map PyVal.dict) = .ok rows := by
  induction rows generalizing state with
  | nil => rfl
  | cons row rest ih =>
    obtain ⟨currency,permitted,cells,rfl,named,checked,some⟩ := proper row List.mem_cons_self
    obtain ⟨above,rising⟩ := List.pairwise_cons.mp rising
    obtain ⟨older,last⟩ := before _ List.mem_cons_self
    have takes : state.takes allowed currency = true :=
      takes_iff.mpr ⟨named,permitted,fun member => lt_irrefl _ (older currency member),fun old same => (last old same).le⟩
    rw [List.map_cons]
    refine readRows_cons.mpr ⟨_,_,rest,rfl,financingRow_of takes checked some (List.Perm.refl _),?_,rfl⟩
    refine ih (fun later member => proper later (List.mem_cons_of_mem _ member)) rising fun later member => ?_
    have next : currency < currencyOf later := above _ (List.mem_map_of_mem member)
    refine ⟨fun old listed => ?_,fun old same => ?_⟩
    · rcases List.mem_append.mp listed with early | own
      · exact (before later (List.mem_cons_of_mem _ member)).1 old early
      · rw [List.mem_singleton.mp own]
        exact next
    · rw [← Option.some.inj same]
      exact next

-- A payload that needs no change
structure NormalFinancing (allowed : List String) (rows : List Fields) : Prop where
  some : rows ≠ []
  few : rows.length ≤ maxRows
  proper : ∀ row ∈ rows, ProperFinancing allowed row
  rising : (rows.map currencyOf).Pairwise (· < ·)

theorem validateFinancing_ok {value : PyVal} : validateFinancingPayload value allowed = .ok rows ↔ ∃ items : List PyVal, value = .list items ∧
    items ≠ [] ∧ items.length ≤ maxRows ∧ readRows financingError (financingRow allowed) FinancingSeen.next ⟨[],none⟩ items = .ok rows := by
  unfold validateFinancingPayload
  split
  · rename_i items
    split
    · rename_i wrong
      rw [Bool.or_eq_true,List.isEmpty_iff,decide_eq_true_eq] at wrong
      constructor
      · exact fun ran => nomatch ran
      · rintro ⟨_,same,some,few,_⟩
        cases same
        rcases wrong with none | many
        · exact absurd none some
        · exact absurd few (by omega)
    · rename_i fits
      rw [Bool.or_eq_true,List.isEmpty_iff,decide_eq_true_eq,not_or,not_lt] at fits
      constructor
      · exact fun ran => ⟨items,rfl,fits.1,fits.2,ran⟩
      · rintro ⟨_,same,_,_,ran⟩
        cases same
        exact ran
  · rename_i other
    constructor
    · exact fun ran => nomatch ran
    · rintro ⟨items,rfl,_⟩
      exact absurd rfl (other items)

theorem normal_validates (normal : NormalFinancing allowed rows) (copied : Copies rows copies) :
    validateFinancingPayload (dictList copies) allowed = .ok rows := by
  have read : readRows financingError (financingRow allowed) FinancingSeen.next ⟨[],none⟩ (rows.map PyVal.dict) = .ok rows :=
    readRows_proper normal.proper normal.rising fun row member => ⟨fun old listed => (nomatch listed),fun old same => (nomatch same)⟩
  refine validateFinancing_ok.mpr ⟨_,rfl,?_,?_,readRows_again (financingRow_rereads allowed) read copied⟩
  · rw [ne_eq,List.map_eq_nil_iff]
    rintro rfl
    exact normal.some (List.forall₂_nil_right_iff.mp copied)
  · rw [List.length_map,← copied.length_eq]
    exact normal.few

theorem validated_normal {value : PyVal} (ran : validateFinancingPayload value allowed = .ok rows) : NormalFinancing allowed rows := by
  obtain ⟨items,-,some,few,read⟩ := validateFinancing_ok.mp ran
  obtain ⟨proper,rising⟩ := readRows_rising read
  have counted := readRows_length read
  refine ⟨?_,counted ▸ few,fun row member => (proper row member).1,rising⟩
  rintro rfl
  exact some (List.length_eq_zero_iff.mp counted)

-- The validation takes a payload in its normal form, whatever the order of the entries in a row, and changes nothing in it.
theorem financing_validates_iff (distinct : ∀ item ∈ items, (item.map Prod.fst).Nodup) : validateFinancingPayload (dictList items) allowed = .ok rows ↔
    NormalFinancing allowed rows ∧ Copies rows items := by
  constructor
  · intro ran
    refine ⟨validated_normal ran,?_⟩
    obtain ⟨_,same,_,_,read⟩ := validateFinancing_ok.mp ran
    cases same
    refine readRows_copies (fun state item listed row one => ?_) read
    exact financingRow_perm (distinct item listed) one
  · rintro ⟨normal,copied⟩
    exact normal_validates normal copied

def marginRow : Fields := [("currency",.str "USD"),("buy_power",.str "100.5"),("risk_level",.str "1")]

def swappedRow : Fields := [("risk_level",.str "1"),("currency",.str "USD"),("buy_power",.str "100.5")]

def callRow : Fields := [("currency",.str "HKD"),("margin_call",.str "-7")]

theorem swappedRow_normal : NormalFinancing ["HKD","USD"] [callRow,marginRow] ∧ Copies [callRow,marginRow] [callRow.reverse,swappedRow] :=
  (financing_validates_iff (by decide)).mp
    (rfl : validateFinancingPayload (dictList [callRow.reverse,swappedRow]) ["HKD","USD"] = .ok [callRow,marginRow])

end normal

section projected
variable {allowed seen : List String} {accounts : List NativeAccount} {rows copies : List Fields}

-- The cells that are given for the names that are checked
def filled (given : String → Option PyVal) (checks : List (String × (PyVal → Bool))) : Fields :=
  checks.filterMap fun entry => (given entry.1).map fun cell => (entry.1,cell)

theorem presentCells_given {given : String → Option PyVal} {item : Fields} {checks : List (String × (PyVal → Bool))}
    (reads : ∀ entry ∈ checks, item.lookup entry.1 = given entry.1)
    (proper : ∀ entry ∈ checks, ∀ cell, given entry.1 = some cell → entry.2 cell = true) :
    presentCells item checks = .ok (filled given checks) := by
  induction checks with
  | nil => rfl
  | cons entry rest ih =>
    obtain ⟨field,check⟩ := entry
    have others := ih (fun later member => reads later (List.mem_cons_of_mem _ member)) fun later member => proper later (List.mem_cons_of_mem _ member)
    unfold presentCells filled
    rw [reads (field,check) List.mem_cons_self,others,List.filterMap_cons]
    dsimp only
    cases there : given field with
    | none => rfl
    | some cell =>
      dsimp only [Option.map_some]
      rw [require,if_pos (proper (field,check) List.mem_cons_self cell there)]
      rfl

theorem lookup_filled {given : String → Option PyVal} {checks : List (String × (PyVal → Bool))} (names : (checks.map Prod.fst).Nodup) :
    ∀ entry ∈ checks, (filled given checks).lookup entry.1 = given entry.1 := by
  induction checks with
  | nil =>
    intro entry member
    cases member
  | cons first rest ih =>
    obtain ⟨field,check⟩ := first
    obtain ⟨fresh,names⟩ := List.nodup_cons.mp names
    intro entry member
    unfold filled
    rw [List.filterMap_cons]
    rcases List.mem_cons.mp member with rfl | later
    · dsimp only
      cases there : given field with
      | some cell =>
        dsimp only [Option.map_some]
        rw [List.lookup_cons_self]
      | none =>
        dsimp only [Option.map_none]
        rw [List.lookup_eq_none_iff]
        intro entry listed
        obtain ⟨other,inside,made⟩ := List.mem_filterMap.mp listed
        obtain ⟨cell,_,rfl⟩ := Option.map_eq_some_iff.mp made
        rw [bne_iff_ne]
        rintro rfl
        exact fresh (List.mem_map.mpr ⟨other,inside,rfl⟩)
    · have apart : (entry.1 == field) = false := by
        rw [beq_eq_false_iff_ne]
        rintro rfl
        exact fresh (List.mem_map.mpr ⟨entry,later,rfl⟩)
      dsimp only
      cases given field with
      | some cell =>
        dsimp only [Option.map_some]
        rw [List.lookup_cons,apart]
        exact ih names entry later
      | none => exact ih names entry later

theorem projectCurrency_named {value : PyVal} {currency : String} (named : projectCurrency value = some currency) : isCurrency currency = true := by
  unfold projectCurrency at named
  split at named
  · split at named
    · rename_i held
      rw [← Option.some.inj named]
      exact held
    · exact absurd named (Option.some_ne_none _).symm
  · exact absurd named (Option.some_ne_none _).symm

-- What the projection finds under the name of a cell
def projectedCell (account : NativeAccount) (field : String) : Option PyVal :=
  if field = "risk_level" then (projectRiskLevel account.riskLevel).map .str else (projectMoney (account.amount field)).map .str

theorem projectCells_filled (account : NativeAccount) : projectCells account = filled (projectedCell account) financingCells := by
  unfold projectCells filled financingCells
  rw [List.filterMap_append,List.filterMap_map]
  congr 1
  · refine List.filterMap_congr fun field member => ?_
    have unlike : field ≠ "risk_level" := by
      rintro rfl
      exact absurd member (by decide)
    rw [Function.comp_apply,projectedCell,if_neg unlike,Option.map_map]
    rfl
  · rw [List.filterMap_cons,projectedCell,if_pos rfl]
    cases projectRiskLevel account.riskLevel <;> rfl

theorem moneyText_checked {text cell : String} (found : moneyText text = some cell) : isMoneyCell (.str cell) = true := by
  unfold moneyText at found
  split at found
  · rename_i held
    cases found
    exact held
  · cases found

theorem projectedCell_checked {account : NativeAccount} {entry : String × (PyVal → Bool)} {cell : PyVal} (member : entry ∈ financingCells)
    (found : projectedCell account entry.1 = some cell) : entry.2 cell = true := by
  rcases List.mem_append.mp member with amount | level
  · obtain ⟨field,listed,rfl⟩ := List.mem_map.mp amount
    have unlike : field ≠ "risk_level" := by
      rintro rfl
      exact absurd listed (by decide)
    unfold projectedCell at found
    rw [if_neg unlike] at found
    obtain ⟨text,there,rfl⟩ := Option.map_eq_some_iff.mp found
    unfold projectMoney at there
    split at there
    · exact moneyText_checked there
    · exact moneyText_checked there
    · cases there
  · obtain rfl := List.mem_singleton.mp level
    unfold projectedCell at found
    rw [if_pos rfl] at found
    obtain ⟨text,there,rfl⟩ := Option.map_eq_some_iff.mp found
    unfold projectRiskLevel at there
    split at there
    · split at there
      · rename_i value _ inside
        cases there
        have small : value = 0 ∨ value = 1 ∨ value = 2 ∨ value = 3 := by omega
        rcases small with rfl | rfl | rfl | rfl <;> decide
      · cases there
    · split at there
      · rename_i held
        cases there
        exact held
      · cases there
    · cases there

theorem projectRows_proper : (∀ row ∈ projectRows allowed seen accounts, ProperFinancing allowed row ∧ currencyOf row ∉ seen) ∧
    ((projectRows allowed seen accounts).map currencyOf).Nodup := by
  induction accounts generalizing seen with
  | nil => exact ⟨fun row member => (nomatch member),List.nodup_nil⟩
  | cons account rest ih =>
    unfold projectRows
    split
    · exact ih
    · rename_i currency named
      split
      · exact ih
      · rename_i taken
        rw [Bool.or_eq_true,Bool.or_eq_true,not_or,not_or,Bool.not_eq_true',Bool.not_eq_false,List.contains_iff_mem,List.contains_iff_mem,
          List.isEmpty_iff] at taken
        obtain ⟨⟨permitted,fresh⟩,some⟩ := taken
        have checked : presentCells (projectCells account) financingCells = .ok (projectCells account) := by
          rw [projectCells_filled]
          exact presentCells_given (lookup_filled financingCells_names) fun entry member cell found => projectedCell_checked member found
        have later : ∀ row ∈ projectRows allowed (seen ++ [currency]) rest, ProperFinancing allowed row ∧ currencyOf row ∉ seen ∧ currencyOf row ≠ currency := by
          intro row member
          obtain ⟨proper,outside⟩ := ih.1 row member
          rw [List.mem_append,List.mem_singleton,not_or] at outside
          exact ⟨proper,outside⟩
        constructor
        · intro row member
          rcases List.mem_cons.mp member with rfl | others
          · exact ⟨⟨currency,permitted,projectCells account,rfl,projectCurrency_named named,checked,some⟩,fresh⟩
          · exact ⟨(later row others).1,(later row others).2.1⟩
        · rw [List.map_cons,List.nodup_cons]
          refine ⟨fun member => ?_,ih.2⟩
          obtain ⟨row,others,same⟩ := List.mem_map.mp member
          exact (later row others).2.2 same

-- What is projected passes the validation as it is, also when it comes back with its entries in another order.
theorem projected_financing_validates {accountBalances : Option (List NativeAccount)} (some : projectNativeFinancing accountBalances allowed ≠ [])
    (copied : Copies (projectNativeFinancing accountBalances allowed) copies) :
    validateFinancingPayload (dictList copies) allowed = .ok (projectNativeFinancing accountBalances allowed) := by
  revert copied some
  unfold projectNativeFinancing
  split
  · exact fun some => absurd rfl some
  · rename_i accounts
    split
    · exact fun some => absurd rfl some
    · dsimp only
      split
      · exact fun some => absurd rfl some
      · rename_i few
        intro some copied
        rw [Bool.or_eq_true,not_or,decide_eq_true_eq,not_lt] at few
        obtain ⟨proper,apart⟩ := @projectRows_proper allowed [] accounts
        have perm := List.perm_insertionSort (byKey currencyOf) (projectRows allowed [] accounts)
        refine normal_validates ⟨some,?_,fun row member => (proper row (perm.subset member)).1,sorted_rising apart⟩ copied
        rw [perm.length_eq]
        exact few.2

def marginAccount : NativeAccount :=
  ⟨.str "usd ",fun field => if field = "buy_power" then .decimal (.finite false 1005 (-1)) else .other .none,.int 1⟩

theorem marginAccount_validates : validateFinancingPayload (dictList [swappedRow]) ["USD"] = .ok (projectNativeFinancing (some [marginAccount]) ["USD"]) := by
  have projected : projectNativeFinancing (some [marginAccount]) ["USD"] = [marginRow] := rfl
  refine projected_financing_validates (by rw [projected]; exact List.cons_ne_nil _ _) ?_
  rw [projected]
  exact .cons ((List.Perm.swap ..).trans (.cons _ (.swap ..))) .nil

end projected

end LongBridge.History
