import LongBridge.Account.State
import LongBridge.Cycle.Submissions
import LongBridge.Python.Symbols
import Mathlib.Algebra.BigOperators.Ring.List

namespace LongBridge.Account
open Effects

-- What some positions of an account add up to.
def totalOver (positions : List RawPosition) (chosen : RawPosition → Bool) (amount : RawPosition → ℚ) : ℚ :=
  ((positions.filter chosen).map amount).sum

theorem totalOver_ite (positions : List RawPosition) (chosen : RawPosition → Bool) (amount : RawPosition → ℚ) :
    totalOver positions chosen amount = (positions.map fun position => if chosen position then amount position else 0).sum := by
  unfold totalOver
  induction positions with
  | nil => rfl
  | cons position rest ih =>
    rw [List.filter_cons,List.map_cons,List.sum_cons,← ih]
    cases chosen position
    · simp
    · simp

theorem totalOver_split (positions : List RawPosition) (chosen among : RawPosition → Bool) (amount : RawPosition → ℚ) :
    totalOver positions chosen amount = totalOver positions (fun position => chosen position && among position) amount +
      totalOver positions (fun position => chosen position && !among position) amount := by
  rw [totalOver_ite,totalOver_ite,totalOver_ite,← List.sum_map_add]
  congr 1
  refine List.map_congr_left fun position _ => ?_
  cases chosen position <;> cases among position <;> simp

theorem totalOver_none {positions : List RawPosition} {chosen : RawPosition → Bool} (amount : RawPosition → ℚ)
    (nobody : ∀ position ∈ positions, chosen position = false) : totalOver positions chosen amount = 0 := by
  rw [totalOver,List.filter_eq_nil_iff.mpr fun position among => by rw [nobody position among]; decide]; rfl

def quantityOf (position : RawPosition) : ℚ := (finiteNumber position.quantity).getD 0

def sellableOf (position : RawPosition) : ℚ := (finiteNumber (rawAvailable position)).getD 0

def valueOf (price : String → ℚ) (position : RawPosition) : ℚ := quantityOf position * price (fullSymbol position)

-- Held under the symbol the cycle orders for a strategy symbol.
def heldAs (settings : Cycle.Settings) (symbol : String) (position : RawPosition) : Bool :=
  fullSymbol position == Cycle.marketSymbol settings symbol

def rootedAt (symbol : String) (position : RawPosition) : Bool := rootOf (fullSymbol position) == symbol

def cashOf (currency : String) (info : CashInfo) : ℚ :=
  if normalizedSymbol info.currency.textOrEmpty ≠ "" ∧ normalizedSymbol info.currency.textOrEmpty = currency then
    (finiteNumber (info.availableCash.getD (.float (.finite 0) "0.0"))).getD 0 else 0

def cashIn (currency : String) (infos : List CashInfo) : ℚ := (infos.map (cashOf currency)).sum

-- Every strategy symbol has the positions its orders trade, and the equity is cash and values.
structure Attributed (settings : Cycle.Settings) (symbols : List String) (positions : List RawPosition)
    (infos : List CashInfo) (price : String → ℚ) (state : AccountState) : Prop where
  quantities : ∀ symbol ∈ strategyAssets symbols,
    state.quantities.lookup symbol = some (totalOver positions (heldAs settings symbol) quantityOf)
  sellable : ∀ symbol ∈ strategyAssets symbols,
    state.sellableQuantities.lookup symbol = some (totalOver positions (heldAs settings symbol) sellableOf)
  values : ∀ symbol ∈ strategyAssets symbols,
    state.marketValues.lookup symbol = some (totalOver positions (heldAs settings symbol) (valueOf price))
  equity : state.totalStrategyEquity = cashIn state.tradingCurrency infos + (state.marketValues.map Prod.snd).sum

-- The positions that only share the first part of the symbol with the market symbol.
def strayAt (settings : Cycle.Settings) (symbol : String) (position : RawPosition) : Bool :=
  rootedAt symbol position && !heldAs settings symbol position

def Dotted (symbol : String) : Prop := '.' ∈ symbol.toList

instance (symbol : String) : Decidable (Dotted symbol) := inferInstanceAs (Decidable ('.' ∈ symbol.toList))

-- A suffix such as ".US", or none at all.
def PlainSuffix (suffix : String) : Prop := suffix = "" ∨ suffix.toList.head? = some '.'

instance (suffix : String) : Decidable (PlainSuffix suffix) :=
  inferInstanceAs (Decidable (suffix = "" ∨ suffix.toList.head? = some '.'))

def SameTotals (positions : List RawPosition) (price : String → ℚ) (one two : RawPosition → Bool) : Prop :=
  totalOver positions one quantityOf = totalOver positions two quantityOf ∧
  totalOver positions one sellableOf = totalOver positions two sellableOf ∧
  totalOver positions one (valueOf price) = totalOver positions two (valueOf price)

-- A dotted symbol has nothing to attribute; nothing of another market stands under a plain one.
def Separate (settings : Cycle.Settings) (positions : List RawPosition) (price : String → ℚ) (symbol : String) : Prop :=
  if Dotted symbol then totalOver positions (heldAs settings symbol) quantityOf = 0 ∧
    totalOver positions (heldAs settings symbol) sellableOf = 0
  else if PlainSuffix (normalizedSymbol settings.symbolSuffix) then
    totalOver positions (strayAt settings symbol) quantityOf = 0 ∧
    totalOver positions (strayAt settings symbol) sellableOf = 0 ∧
    totalOver positions (strayAt settings symbol) (valueOf price) = 0
  else SameTotals positions price (rootedAt symbol) (heldAs settings symbol)

section Symbols

theorem lowerLetters_undotted : (lowerLetters.all fun char => char.toUpper != '.') = true := by decide

theorem upper_dot {text : String} (plain : '.' ∉ text.toList) : '.' ∉ (upper text).toList := by
  unfold upper
  rw [String.toList_ofList]
  intro member
  obtain ⟨char,inside,dot⟩ := List.mem_map.mp member
  rcases toUpper_cases char with same | letter
  · rw [same] at dot; subst dot; exact plain inside
  · have undotted := List.all_eq_true.mp lowerLetters_undotted char letter
    rw [dot] at undotted; exact absurd undotted (by decide)

theorem trimmed_subset {chars : List Char} {char : Char} (member : char ∈ trimmed chars) : char ∈ chars := by
  unfold trimmed at member
  exact (List.dropWhile_suffix _).subset ((List.rdropWhile_prefix _ _).subset member)

theorem rootOf_undotted (symbol : String) : ¬Dotted (rootOf symbol) := by
  refine upper_dot fun member => ?_
  rw [strip_eq,String.toList_ofList] at member
  have inside := trimmed_subset member
  rw [String.toList_ofList] at inside
  simpa using List.mem_takeWhile_imp inside

theorem takeWhile_append_dot {chars rest : List Char} (plain : '.' ∉ chars) (suffix : rest = [] ∨ rest.head? = some '.') :
    (chars ++ rest).takeWhile (· ≠ '.') = chars := by
  induction chars with
  | nil =>
    rcases suffix with rfl | dot
    · rfl
    · cases rest with
      | nil => rfl
      | cons char more => cases dot; rfl
  | cons char more ih =>
    rw [List.mem_cons,not_or] at plain
    rw [List.cons_append,List.takeWhile_cons,ih plain.2,if_pos (by simpa using Ne.symm plain.1)]

theorem rootOf_market {settings : Cycle.Settings} {symbol : String} (own : normalizedSymbol symbol = symbol)
    (undotted : ¬Dotted symbol) (suffix : PlainSuffix (normalizedSymbol settings.symbolSuffix)) :
    rootOf (Cycle.marketSymbol settings symbol) = symbol := by
  have plain : '.' ∉ symbol.toList := undotted
  unfold Cycle.marketSymbol
  simp only [own]
  split
  · rename_i empty; subst empty; decide
  · rw [if_neg (by simpa using plain)]
    unfold rootOf
    rw [String.toList_append,takeWhile_append_dot plain,String.ofList_toList,own]
    rcases suffix with empty | dot
    · left; rw [empty]; rfl
    · exact .inr dot

theorem strategyAssets_own {symbols : List String} {symbol : String} (listed : symbol ∈ strategyAssets symbols) :
    normalizedSymbol symbol = symbol := by
  obtain ⟨raw,_,rfl⟩ := List.mem_map.mp listed
  exact normalizedSymbol_idem raw

theorem market_dotted {settings : Cycle.Settings} {symbol : String} (own : normalizedSymbol symbol = symbol)
    (dotted : Dotted symbol) : Cycle.marketSymbol settings symbol = symbol := by
  have inside : symbol.toList.contains '.' = true := List.contains_iff_mem.mpr dotted
  unfold Cycle.marketSymbol
  simp only [own,inside,if_true]
  split <;> rfl

end Symbols

section Sums

variable {broker : Broker} {symbols : List String} {currency : String} {reading : Reading}

theorem readFinite_ok {error : PyExc} {value : PyVal} {number : ℚ} (read : readFinite error value = .ok number) :
    finiteNumber value = some number := by
  unfold readFinite at read
  unfold finiteNumber
  split at read
  · rename_i found; cases read; rw [found]
  · cases read
  · cases read

theorem plus_lookup {amounts : Amounts} {symbol : String} {held : ℚ} (found : amounts.lookup symbol = some held)
    (key : String) (amount : ℚ) :
    (plus amounts key amount).lookup symbol = some (held + if key = symbol then amount else 0) := by
  unfold plus
  by_cases same : key = symbol
  · subst same
    rw [Amounts.lookup_set_same,Amounts.getOrZero,found,if_pos rfl]; rfl
  · rw [Amounts.lookup_set_other _ _ (Ne.symm same),found,if_neg same,add_zero]

theorem zeroAmounts_lookup {symbols : List String} {symbol : String} (listed : symbol ∈ symbols) :
    (zeroAmounts symbols).lookup symbol = some 0 := by
  have all : ∀ kept : Amounts, kept.lookup symbol = some 0 ∨ symbol ∈ symbols →
      (symbols.foldl (fun kept symbol => kept.set symbol 0) kept).lookup symbol = some 0 := by
    clear listed
    induction symbols with
    | nil => exact fun kept own => own.resolve_right fun member => nomatch member
    | cons name rest ih =>
      intro kept own
      rw [List.foldl_cons]
      refine ih _ ?_
      by_cases same : symbol = name
      · subst same; exact .inl (Amounts.lookup_set_same ..)
      · rw [Amounts.lookup_set_other _ _ same]
        exact own.imp_right fun member => (List.mem_cons.mp member).resolve_left same
  exact all [] (.inr listed)

-- What the rows of an inventory hold of a symbol.
def rowsTotal (symbol : String) (amount : PositionRow → ℚ) (rows : List PositionRow) : ℚ :=
  (rows.map fun row => if row.rootSymbol = symbol then amount row else 0).sum

def rowQuantity (row : PositionRow) : ℚ := (finiteNumber row.rawQuantity).getD 0

def rowSellable (row : PositionRow) : ℚ := (finiteNumber row.rawAvailableQuantity).getD 0

def rowValue (price : String → ℚ) (row : PositionRow) : ℚ := rowQuantity row * price row.fullSymbol

def keptRow (position : RawPosition) : PositionRow :=
  ⟨rootOf (fullSymbol position),fullSymbol position,position.quantity,rawAvailable position⟩

theorem addPosition_kept {inventory next : Inventory} {position : RawPosition} {symbol : String}
    (open_ : (inventory.holdings.marketValues.lookup symbol).isSome = true) (amount : PositionRow → ℚ)
    (added : addPosition true inventory position = .ok next) :
    next.holdings = inventory.holdings ∧ rowsTotal symbol amount next.rows = rowsTotal symbol amount inventory.rows +
      if rootedAt symbol position then amount (keptRow position) else 0 := by
  obtain ⟨_,_,rest⟩ := bind_ok.mp added
  obtain ⟨_,_,rest⟩ := bind_ok.mp rest
  split at rest
  · rename_i unknown
    cases rest
    have apart : rootedAt symbol position = false := by
      rw [rootedAt,beq_eq_false_iff_ne]
      rintro same
      rw [same,Bool.true_and,Option.isNone_iff_eq_none] at unknown
      rw [unknown] at open_; cases open_
    rw [apart]
    exact ⟨rfl,by simp⟩
  · rename_i known
    have present : (inventory.holdings.marketValues.lookup (rootOf (fullSymbol position))).isSome = true := by
      rw [Bool.true_and,Option.isNone_iff_eq_none] at known
      exact Option.isSome_iff_ne_none.mpr known
    have row : ∀ quantity, position.quantity = quantity → Except.ok (⟨inventory.rows ++
        [⟨rootOf (fullSymbol position),fullSymbol position,quantity,rawAvailable position⟩],
          inventory.holdings.opened (rootOf (fullSymbol position)),
          noteCurrency (rootOf (fullSymbol position)) (positionCurrency position) inventory.currencies⟩ : Inventory) =
            Except.ok (ε := PyExc) next →
        next.holdings = inventory.holdings ∧ rowsTotal symbol amount next.rows =
          rowsTotal symbol amount inventory.rows + if rootedAt symbol position then amount (keptRow position) else 0 := by
      rintro quantity rfl same
      cases same
      refine ⟨if_pos present,?_⟩
      simp only [rowsTotal,List.map_append,List.sum_append,List.map_cons,List.map_nil,List.sum_cons,List.sum_nil,
        add_zero,rootedAt,beq_iff_eq,keptRow]
    split at rest
    · cases rest
    · exact row _ rfl rest

theorem inventory_totals (read : readAccount broker symbols currency = .ok reading) {symbol : String}
    (listed : symbol ∈ strategyAssets symbols) (amount : PositionRow → ℚ) :
    ∃ positions, positionsOf broker = .ok positions ∧
      reading.inventory.holdings = ⟨zeroAmounts (strategyAssets symbols),zeroAmounts (strategyAssets symbols),
        zeroAmounts (strategyAssets symbols)⟩ ∧
      rowsTotal symbol amount reading.inventory.rows =
        totalOver positions (rootedAt symbol) fun position => amount (keptRow position) := by
  obtain ⟨balances,_,rest⟩ := bind_ok.mp read
  obtain ⟨cash,_,rest⟩ := bind_ok.mp rest
  obtain ⟨positions,held,rest⟩ := bind_ok.mp rest
  obtain ⟨inventory,ran,rest⟩ := bind_ok.mp rest
  obtain ⟨prices,_,same⟩ := bind_ok.mp rest
  cases same
  have filtering : (!(strategyAssets symbols).isEmpty) = true := by
    cases assets : strategyAssets symbols with
    | nil => rw [assets] at listed; cases listed
    | cons => rfl
  rw [filtering] at ran
  have start := zeroAmounts_lookup listed
  obtain ⟨kept,total⟩ := foldlM_sum (fun inventory : Inventory => inventory.holdings =
      ⟨zeroAmounts (strategyAssets symbols),zeroAmounts (strategyAssets symbols),zeroAmounts (strategyAssets symbols)⟩)
    (fun inventory => rowsTotal symbol amount inventory.rows)
    (fun position => if rootedAt symbol position then amount (keptRow position) else 0)
    (fun inventory position next _ kept added => by
      obtain ⟨same,more⟩ := addPosition_kept (by rw [kept,start]; rfl) amount added
      exact ⟨same.trans kept,more⟩) rfl ran
  refine ⟨positions,held,kept,?_⟩
  rw [totalOver_ite]
  exact total.trans (by simp [rowsTotal])

-- The three amounts of a symbol that is already held.
structure HeldOf (symbol : String) (holdings : Holdings) (value quantity sellable : ℚ) : Prop where
  value : holdings.marketValues.lookup symbol = some value
  quantity : holdings.quantities.lookup symbol = some quantity
  sellable : holdings.sellableQuantities.lookup symbol = some sellable

theorem valueRow_adds {prices : Amounts} {price : String → ℚ}
    (quoted : ∀ symbol worth, prices.lookup symbol = some worth → price symbol = worth) {symbol : String}
    {holdings next : Holdings} {row : PositionRow} {value quantity sellable : ℚ}
    (held : HeldOf symbol holdings value quantity sellable) (valued : valueRow prices holdings row = .ok next) :
    HeldOf symbol next (value + if row.rootSymbol = symbol then rowValue price row else 0)
      (quantity + if row.rootSymbol = symbol then rowQuantity row else 0)
      (sellable + if row.rootSymbol = symbol then rowSellable row else 0) := by
  obtain ⟨own,readOwn,rest⟩ := bind_ok.mp valued
  obtain ⟨available,readAvailable,rest⟩ := bind_ok.mp rest
  obtain ⟨worth,found,same⟩ := bind_ok.mp rest
  cases same
  unfold addWorth at found
  have ownQuantity : rowQuantity row = own := by rw [rowQuantity,readFinite_ok readOwn]; rfl
  have ownSellable : rowSellable row = available := by rw [rowSellable,readFinite_ok readAvailable]; rfl
  refine ⟨?_,?_,?_⟩
  · rw [rowValue,ownQuantity]
    split_ifs at found with nothing
    · cases found
      subst nothing
      rw [zero_mul,ite_self,add_zero]
      exact held.value
    · cases asked : prices.lookup row.fullSymbol with
      | none => rw [asked] at found; cases found
      | some answer =>
        rw [asked] at found
        cases found
        rw [quoted _ _ asked]
        exact plus_lookup held.value _ _
  · rw [ownQuantity]; exact plus_lookup held.quantity _ _
  · rw [ownSellable]; exact plus_lookup held.sellable _ _

theorem valueRows_add {prices : Amounts} {price : String → ℚ}
    (quoted : ∀ symbol worth, prices.lookup symbol = some worth → price symbol = worth) {symbol : String}
    {rows : List PositionRow} {holdings last : Holdings} {value quantity sellable : ℚ}
    (held : HeldOf symbol holdings value quantity sellable) (ran : rows.foldlM (valueRow prices) holdings = .ok last) :
    HeldOf symbol last (value + rowsTotal symbol (rowValue price) rows) (quantity + rowsTotal symbol rowQuantity rows)
      (sellable + rowsTotal symbol rowSellable rows) := by
  induction rows generalizing holdings value quantity sellable with
  | nil =>
    rw [List.foldlM_nil,return_ok] at ran
    subst ran
    simpa [rowsTotal] using held
  | cons row rest ih =>
    obtain ⟨middle,one,others⟩ := bind_ok.mp (by rwa [List.foldlM_cons] at ran)
    have total := ih (valueRow_adds quoted held one) others
    simpa [rowsTotal,add_assoc] using total

theorem addCash_adds {totals next : CashTotals} {info : CashInfo} (added : addCash currency totals info = .ok next) :
    next.available = totals.available + cashOf currency info := by
  unfold addCash at added
  unfold cashOf
  simp only at added
  split at added
  · rename_i unnamed
    cases added
    rw [if_neg fun both => both.1 unnamed,add_zero]
  · rename_i named
    obtain ⟨amount,read,same⟩ := bind_ok.mp added
    rw [return_ok] at same
    rw [← same,readFinite_ok read]
    by_cases own : normalizedSymbol info.currency.textOrEmpty = currency
    · rw [if_pos own,if_pos ⟨named,own⟩]; rfl
    · rw [if_neg own,if_neg fun both => own both.2,add_zero]

theorem cash_total (read : readAccount broker symbols currency = .ok reading) :
    balancesOf broker = .ok reading.balances ∧
      reading.cash.available = cashIn currency (reading.balances.flatMap Balance.cashInfos) := by
  obtain ⟨balances,held,rest⟩ := bind_ok.mp read
  obtain ⟨cash,ran,rest⟩ := bind_ok.mp rest
  obtain ⟨positions,_,rest⟩ := bind_ok.mp rest
  obtain ⟨inventory,_,rest⟩ := bind_ok.mp rest
  obtain ⟨prices,_,same⟩ := bind_ok.mp rest
  cases same
  obtain ⟨_,total⟩ := foldlM_sum (fun _ => True) CashTotals.available (cashOf currency)
    (fun totals info next _ _ added => ⟨trivial,addCash_adds added⟩) trivial ran
  refine ⟨held,?_⟩
  rw [total,cashIn,zero_add]

-- What the state says of a strategy symbol: the positions with that first part, priced.
theorem state_totals (read : readAccount broker symbols currency = .ok reading) {price : String → ℚ}
    (quoted : ∀ symbol worth, reading.prices.lookup symbol = some worth → price symbol = worth) {last : Holdings}
    (ran : reading.inventory.rows.foldlM (valueRow reading.prices) reading.inventory.holdings = .ok last) {symbol : String}
    (listed : symbol ∈ strategyAssets symbols) : ∃ positions, positionsOf broker = .ok positions ∧
      HeldOf symbol last (totalOver positions (rootedAt symbol) (valueOf price))
        (totalOver positions (rootedAt symbol) quantityOf) (totalOver positions (rootedAt symbol) sellableOf) := by
  have start := zeroAmounts_lookup listed
  obtain ⟨positions,held,opened,value⟩ := inventory_totals read listed (rowValue price)
  obtain ⟨_,again,_,quantity⟩ := inventory_totals read listed rowQuantity
  obtain ⟨_,oneMore,_,sellable⟩ := inventory_totals read listed rowSellable
  rw [held,Except.ok.injEq] at again oneMore
  subst again
  subst oneMore
  have total := valueRows_add quoted (⟨by rw [opened,start],by rw [opened,start],by rw [opened,start]⟩ :
    HeldOf symbol reading.inventory.holdings 0 0 0) ran
  rw [zero_add,zero_add,zero_add,value,quantity,sellable] at total
  exact ⟨positions,held,total⟩

end Sums

-- The totals by first part are the totals by market symbol exactly when these are separate.
theorem separate_iff {settings : Cycle.Settings} {symbol : String} (own : normalizedSymbol symbol = symbol)
    (positions : List RawPosition) (price : String → ℚ) :
    SameTotals positions price (rootedAt symbol) (heldAs settings symbol) ↔ Separate settings positions price symbol := by
  unfold Separate
  split_ifs with dotted suffix
  · have unrooted : ∀ amount, totalOver positions (rootedAt symbol) amount = 0 := fun amount =>
      totalOver_none amount fun position _ => by
        rw [rootedAt,beq_eq_false_iff_ne]
        rintro rfl
        exact rootOf_undotted _ dotted
    have onePrice : totalOver positions (heldAs settings symbol) (valueOf price) =
        totalOver positions (heldAs settings symbol) quantityOf * price symbol := by
      have same : (positions.filter (heldAs settings symbol)).map (valueOf price) =
          (positions.filter (heldAs settings symbol)).map fun position => quantityOf position * price symbol := by
        refine List.map_congr_left fun position among => ?_
        have held := (List.mem_filter.mp among).2
        rw [heldAs,market_dotted own dotted,beq_iff_eq] at held
        rw [valueOf,held]
      rw [totalOver,totalOver,same,List.sum_map_mul_right]
    rw [SameTotals,unrooted,unrooted,unrooted,onePrice]
    constructor
    · exact fun ⟨quantity,sellable,_⟩ => ⟨quantity.symm,sellable.symm⟩
    · exact fun ⟨quantity,sellable⟩ => ⟨quantity.symm,sellable.symm,by rw [quantity,zero_mul]⟩
  · have inside : ∀ position, heldAs settings symbol position = true → rootedAt symbol position = true := by
      intro position held
      rw [heldAs,beq_iff_eq] at held
      rw [rootedAt,held,rootOf_market own dotted suffix,beq_self_eq_true]
    have split : ∀ amount, totalOver positions (rootedAt symbol) amount =
        totalOver positions (heldAs settings symbol) amount + totalOver positions (strayAt settings symbol) amount := by
      intro amount
      have both : (fun position => rootedAt symbol position && heldAs settings symbol position) = heldAs settings symbol := by
        funext position
        cases held : heldAs settings symbol position with
        | true => rw [inside position held,Bool.and_true]
        | false => rw [Bool.and_false]
      have stray : strayAt settings symbol = fun position => rootedAt symbol position && !heldAs settings symbol position := rfl
      rw [totalOver_split positions (rootedAt symbol) (heldAs settings symbol),both,stray]
    rw [SameTotals,split,split,split,add_eq_left,add_eq_left,add_eq_left]
  · exact Iff.rfl

-- In an account that holds the symbol in one market only, nothing is astray.
theorem separate_of_one_market {settings : Cycle.Settings} {positions : List RawPosition} (price : String → ℚ)
    {symbol : String} (undotted : ¬Dotted symbol) (suffix : PlainSuffix (normalizedSymbol settings.symbolSuffix))
    (own : ∀ position ∈ positions, rootedAt symbol position = true → heldAs settings symbol position = true) :
    Separate settings positions price symbol := by
  have nothing : ∀ amount, totalOver positions (strayAt settings symbol) amount = 0 := fun amount =>
    totalOver_none amount fun position among => by
      rw [strayAt]
      cases rooted : rootedAt symbol position with
      | false => rfl
      | true => rw [own position among rooted]; rfl
  rw [Separate,if_neg undotted,if_pos suffix]
  exact ⟨nothing _,nothing _,nothing _⟩

-- Every strategy symbol has exactly what its orders trade when no symbol is dotted and
-- nothing of another market is held under the same first part, or such holdings cancel.
theorem positions_are_attributed_exactly (settings : Cycle.Settings) (digest : ℚ → String → String → String)
    (observedAt : String) (broker : Broker) (symbols : List String) (cashCurrency : String) (reading : Reading)
    (read : readAccount broker symbols (tradingCurrencyOf cashCurrency) = .ok reading) (positions : List RawPosition)
    (held : positionsOf broker = .ok positions) (price : String → ℚ)
    (quoted : ∀ symbol worth, reading.prices.lookup symbol = some worth → price symbol = worth) (state : AccountState)
    (fetched : fetchStrategyAccountState digest observedAt broker symbols cashCurrency = .ok state) :
    Attributed settings symbols positions (reading.balances.flatMap Balance.cashInfos) price state ↔
      ∀ symbol ∈ strategyAssets symbols, Separate settings positions price symbol := by
  obtain ⟨again,readAgain,rest⟩ := bind_ok.mp fetched
  rw [read,Except.ok.injEq] at readAgain
  subst readAgain
  obtain ⟨last,ran,same⟩ := bind_ok.mp rest
  cases same
  have totals : ∀ symbol ∈ strategyAssets symbols, HeldOf symbol last (totalOver positions (rootedAt symbol) (valueOf price))
      (totalOver positions (rootedAt symbol) quantityOf) (totalOver positions (rootedAt symbol) sellableOf) := by
    intro symbol listed
    obtain ⟨others,again,total⟩ := state_totals read quoted ran listed
    rw [held,Except.ok.injEq] at again
    rwa [again]
  constructor
  · intro attributed symbol listed
    have own := totals symbol listed
    refine (separate_iff (strategyAssets_own listed) positions price).mp ⟨?_,?_,?_⟩
    · exact Option.some.inj (own.quantity.symm.trans (attributed.quantities symbol listed))
    · exact Option.some.inj (own.sellable.symm.trans (attributed.sellable symbol listed))
    · exact Option.some.inj (own.value.symm.trans (attributed.values symbol listed))
  · intro separate
    have same : ∀ symbol ∈ strategyAssets symbols,
        SameTotals positions price (rootedAt symbol) (heldAs settings symbol) :=
      fun symbol listed => (separate_iff (strategyAssets_own listed) positions price).mpr (separate symbol listed)
    refine ⟨?_,?_,?_,?_⟩
    · intro symbol listed
      rw [← (same symbol listed).1]
      exact (totals symbol listed).quantity
    · intro symbol listed
      rw [← (same symbol listed).2.1]
      exact (totals symbol listed).sellable
    · intro symbol listed
      rw [← (same symbol listed).2.2]
      exact (totals symbol listed).value
    · exact congrArg (· + _) (cash_total read).2

def soldAt : String → ℚ
  | "SOXL.US" => 50
  | "QQQI.US" => 20
  | "00700.HK" => 320
  | _ => 1

def whole (number : ℚ) : PyVal := .float (.finite number) ""

-- One quote for each symbol asked for, and cash in two currencies.
def quotingBroker (channels : List (List RawPosition)) : Broker where
  accountBalance := .ok [⟨.str "USD",whole 250,[⟨.str "USD",some (whole 100)⟩,⟨.str "HKD",some (whole 8000)⟩]⟩]
  stockPositions := .ok (some channels)
  quote asked := .ok (asked.map fun symbol => ⟨.str symbol,whole (soldAt symbol)⟩)

def position (symbol : String) (quantity available : ℚ) : RawPosition :=
  ⟨.str symbol,whole quantity,whole available,.str "USD"⟩

def twoChannels : List (List RawPosition) :=
  [[position "SOXL.US" 3 3,position "00700.HK" 2 2],[position "QQQI.US" 2 1,position "soxl.us" 4 0]]

-- Two channels of one market, with a position outside the strategy.
theorem plain_symbols_are_attributed : ∃ reading state,
    readAccount (quotingBroker twoChannels) ["SOXL","QQQI"] "USD" = .ok reading ∧
    fetchStrategyAccountState (fun _ _ _ => "") "" (quotingBroker twoChannels) ["SOXL","QQQI"] "USD" = .ok state ∧
    state.quantities.lookup "SOXL" = some 7 ∧
    Attributed (Cycle.wholeShareSettings false) ["SOXL","QQQI"] twoChannels.flatten
      (reading.balances.flatMap Balance.cashInfos) soldAt state := by
  have prices : (readAccount (quotingBroker twoChannels) ["SOXL","QQQI"] "USD").toOption.map Reading.prices =
      some [("SOXL.US",50),("QQQI.US",20)] := by decide +kernel
  have quantities : (fetchStrategyAccountState (fun _ _ _ => "") "" (quotingBroker twoChannels) ["SOXL","QQQI"]
      "USD").toOption.map AccountState.quantities = some [("SOXL",7),("QQQI",2)] := by decide +kernel
  cases read : readAccount (quotingBroker twoChannels) ["SOXL","QQQI"] "USD" with
  | error exc => rw [read] at prices; cases prices
  | ok reading =>
    cases fetched : fetchStrategyAccountState (fun _ _ _ => "") "" (quotingBroker twoChannels) ["SOXL","QQQI"] "USD" with
    | error exc => rw [fetched] at quantities; cases quantities
    | ok state =>
      rw [read] at prices
      rw [fetched] at quantities
      have own : reading.prices = [("SOXL.US",50),("QQQI.US",20)] := Option.some.inj prices
      have held : state.quantities = [("SOXL",7),("QQQI",2)] := Option.some.inj quantities
      refine ⟨reading,state,rfl,rfl,by rw [held]; decide,(positions_are_attributed_exactly (Cycle.wholeShareSettings false)
        (fun _ _ _ => "") "" (quotingBroker twoChannels) ["SOXL","QQQI"] "USD" reading read twoChannels.flatten rfl soldAt
        ?_ state fetched).mpr ?_⟩
      · intro symbol worth asked
        rw [own,List.lookup_eq_some_iff] at asked
        obtain ⟨before,after,same,_⟩ := asked
        have listed : (symbol,worth) ∈ [("SOXL.US",(50 : ℚ)),("QQQI.US",20)] := by rw [same]; simp
        simp only [List.mem_cons,List.not_mem_nil,or_false,Prod.mk.injEq] at listed
        rcases listed with ⟨rfl,rfl⟩ | ⟨rfl,rfl⟩
        · rfl
        · rfl
      · intro symbol listed
        rw [show strategyAssets ["SOXL","QQQI"] = ["SOXL","QQQI"] by decide] at listed
        simp only [List.mem_cons,List.not_mem_nil,or_false] at listed
        rcases listed with rfl | rfl
        · rw [Separate,if_neg (by decide),if_pos (by decide)]
          decide +kernel
        · rw [Separate,if_neg (by decide),if_pos (by decide)]
          decide +kernel

-- A share-class ticker is ordered as it stands and read back as held by nobody.
theorem dotted_holding_is_lost : ∃ state,
    fetchStrategyAccountState (fun _ _ _ => "") "" (quotingBroker [[position "BRK.B" 10 10]]) ["BRK.B"] "USD" = .ok state ∧
    Cycle.marketSymbol (Cycle.wholeShareSettings false) "BRK.B" = "BRK.B" ∧
    state.quantities.lookup "BRK.B" = some 0 ∧
    ∀ infos price, ¬Attributed (Cycle.wholeShareSettings false) ["BRK.B"] [position "BRK.B" 10 10] infos price state := by
  refine ⟨_,rfl,by decide,by decide +kernel,fun infos price attributed => ?_⟩
  exact absurd (attributed.quantities "BRK.B" (by decide)) (by decide +kernel)

end LongBridge.Account
