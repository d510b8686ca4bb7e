import LongBridge.Cycle.Dealings

namespace LongBridge.Cycle
open Effects

variable {frame : Frame} {before middle after : Locals} {events first second : List Happening}

-- One placing at most, at whatever price.
def PlacesOnce (settings : Settings) (symbol : String) (side : Side) (kind : OrderType) (quantity : ℚ) (events : List Happening) : Prop :=
  ∃ price, PlacesAt settings symbol side kind quantity price events

section once
variable {settings : Settings} {symbol : String} {side : Side} {kind : OrderType} {quantity : ℚ}

theorem placesOnce_idle (idle : ∀ event ∈ events, isOrder event = false) : PlacesOnce settings symbol side kind quantity events := ⟨0,.inl idle⟩

theorem placesOnce_behind (idle : ∀ event ∈ first, isOrder event = false) (once : PlacesOnce settings symbol side kind quantity second) :
    PlacesOnce settings symbol side kind quantity (first ++ second) := once.imp fun _ places => placesAt_behind idle places

theorem placesOnce_before (idle : ∀ event ∈ second, isOrder event = false) (once : PlacesOnce settings symbol side kind quantity first) :
    PlacesOnce settings symbol side kind quantity (first ++ second) := once.imp fun _ places => placesAt_before idle places

end once

theorem submittedSale_le {settings : Settings} {symbol : String} {quantity : ℚ} (nonneg : 0 ≤ quantity) :
    submittedQuantity settings symbol .sell quantity ≤ quantity := by
  unfold submittedQuantity
  rw [if_neg (by simp)]
  split
  · exact floorToQuantityStep_le _ nonneg
  · exact floorToQuantityStep_le _ nonneg

-- The size of a rebalancing sale: whole, within what can be sold, and at a target above zero within the overweight.
structure SaleSized (value target price sellable quantity : ℚ) : Prop where
  whole : ∃ count : ℤ, quantity = count
  nonneg : 0 ≤ quantity
  sellable : quantity ≤ max 0 sellable
  overweight : 0 < target → 0 < quantity → 0 < price ∧ quantity ≤ (value - target) / price

theorem sellOrderQuantity_sized (value target price sellable : ℚ) (lotSize : ℤ) :
    SaleSized value target price sellable (sellOrderQuantity value target price sellable lotSize) := by
  unfold sellOrderQuantity
  dsimp only
  split
  · exact ⟨⟨0,by norm_num⟩,le_rfl,le_max_left 0 sellable,fun _ wrong => absurd wrong (lt_irrefl 0)⟩
  split
  · rename_i exits
    refine ⟨normalizeTradeQuantity_whole _ _,normalizeTradeQuantity_nonneg _ _,?_,?_⟩
    · exact (normalizeTradeQuantity_le _ _).trans (max_le (le_max_left 0 sellable) le_rfl)
    · intro wanted
      exact absurd (exits.trans_lt' (lt_of_lt_of_le wanted (le_max_right 0 target))) (lt_irrefl _)
  split
  · exact ⟨⟨0,by norm_num⟩,le_rfl,le_max_left 0 sellable,fun _ wrong => absurd wrong (lt_irrefl 0)⟩
  · rename_i trades
    obtain ⟨gap,priced⟩ := not_or.mp trades
    have positive : 0 < price := not_le.mp priced
    refine ⟨normalizeTradeQuantity_whole _ _,normalizeTradeQuantity_nonneg _ _,?_,?_⟩
    · refine (normalizeTradeQuantity_le _ _).trans (max_le (le_max_left 0 sellable) ?_)
      exact (min_le_right _ _)
    · intro wanted _
      refine ⟨positive,?_⟩
      have heavy : 0 < value - max 0 target := by
        by_contra small
        exact gap (max_le le_rfl (not_lt.mp small))
      rw [max_eq_right heavy.le,max_eq_right wanted.le] at *
      refine (normalizeTradeQuantity_le _ _).trans (max_le (div_nonneg heavy.le positive.le) (min_le_left _ _))

theorem saleSized_zero (value target price sellable : ℚ) : SaleSized value target price sellable 0 :=
  ⟨⟨0,by norm_num⟩,le_rfl,le_max_left 0 sellable,fun _ wrong => absurd wrong (lt_irrefl 0)⟩

theorem item_getOrZero {amounts : Amounts} {key : String} {value : ℚ} (found : amounts.item key = .ok value) : amounts.getOrZero key = value := by
  unfold Amounts.item at found
  unfold Amounts.getOrZero
  split at found
  · rename_i known
    cases found
    rw [known]
    rfl
  · cases found

theorem placeSell_once {symbol : String} {isLimit : Bool} {quantity price : ℚ} {result : Except PyExc Bool}
    (steps : (placeSell frame symbol isLimit quantity price).Steps false before events result after) :
    ∃ kind, PlacesOnce frame.settings symbol .sell kind quantity events := by
  unfold placeSell at steps
  split at steps
  · exact ⟨_,_,placeOrder_once steps⟩
  · rcases steps_bind.mp steps with ⟨one,two,submitted,middle,rfl,placed,rest⟩ | ⟨_,_,placed⟩
    · refine ⟨_,placesOnce_before ?_ ⟨_,placeOrder_once placed⟩⟩
      have still : Keeps Steady false (whenever (frame.settings.dryRunOnly && submitted) (changeBook fun book =>
          { book with dryRunSaleProceeds := book.dryRunSaleProceeds + quantity * roundTo 2 price }) >>= fun _ => (pure submitted : Step Bool)) := by
        refine steady_bind (steady_whenever (steady_modify fun _ => rfl)) fun _ => ?_
        exact steady_quiet (quiet_pure _)
      exact (still _ _ _ _ rest).idle
    · exact ⟨_,_,placeOrder_once placed⟩

theorem settleSell_idle {symbol : String} {holding : Holding} {held : ℚ} {submitted : Bool} :
    Keeps Idle false (settleSell frame symbol holding held submitted) := by
  have noted : ∀ change, Keeps Idle false (changeBook change) := fun change => keeps_modify fun _ _ member => by cases member
  have told : ∀ {key kind : String} {args : List (String × Arg)}, Keeps Quiet false (translate key args) → Keeps Idle false (translate key args >>= fun detail => recordSkipLog kind detail) := by
    intro key kind args quiet
    exact keeps_weaken idle_events (quiet_bind quiet fun _ => quiet_recordSkipLog _ _)
  refine keeps_ite (noted _) (keeps_ite ?_ (keeps_ite ?_ ?_))
  · exact told (quiet_translate (by simp))
  · exact keeps_bind idle_composes (noted _) fun _ => told (quiet_translate (by simp))
  · exact keeps_weaken idle_events (quiet_pure ())

-- One symbol of the sell loop places at most one sale, sized by the state the loop found.
theorem sellQuoted_once {symbol : String} {holding : Holding} {price : ℚ} {result : Except PyExc Bool}
    (steps : (sellQuoted frame symbol holding price).Steps false before events result after) :
    ∃ kind quantity, PlacesOnce frame.settings symbol .sell kind quantity events ∧
      SaleSized holding.marketValue holding.target price (before.view.portfolio.sellableQuantities.getOrZero symbol) quantity := by
  unfold sellQuoted at steps
  rw [steps_get_bind] at steps
  rcases steps_fromExcept_bind.mp steps with ⟨sellable,found,rest⟩ | ⟨error,_,rfl,_,rfl⟩
  · rw [item_getOrZero found]
    dsimp only at rest
    split at rest
    · exact ⟨.market,0,placesOnce_idle (idle_events (quiet_pure _ _ _ _ _ rest)),saleSized_zero _ _ _ _⟩
    · have sized := sellOrderQuantity_sized holding.marketValue holding.target price sellable (lotFor frame.settings symbol)
      rcases steps_bind.mp rest with ⟨one,two,submitted,middle,rfl,placed,rest⟩ | ⟨_,_,placed⟩
      · obtain ⟨kind,once⟩ := placeSell_once placed
        refine ⟨kind,_,placesOnce_before ?_ once,sized⟩
        rw [steps_get_bind] at rest
        split at rest
        · exact idle_events (quiet_pure _ _ _ _ _ rest)
        · rcases steps_fromExcept_bind.mp rest with ⟨held,_,settling⟩ | ⟨error,_,rfl,_,rfl⟩
          · rcases steps_bind.mp settling with ⟨first,second,_,last,rfl,settled,ended⟩ | ⟨error,_,settled⟩
            · obtain ⟨rfl,_,_⟩ := steps_pure.mp ended
              rw [List.append_nil]
              exact settleSell_idle _ _ _ _ settled
            · exact settleSell_idle _ _ _ _ settled
          · simp [isOrder]
      · obtain ⟨kind,once⟩ := placeSell_once placed
        exact ⟨kind,_,once,sized⟩
  · exact ⟨.market,0,placesOnce_idle (by simp [isOrder]),saleSized_zero _ _ _ _⟩

theorem sellSymbol_once {symbol : String} {result : Except PyExc Bool}
    (steps : (sellSymbol frame symbol).Steps false before events result after) :
    ∃ kind quantity price, PlacesOnce frame.settings symbol .sell kind quantity events ∧
      SaleSized (before.view.portfolio.marketValues.getOrZero symbol) (before.view.allocation.targets.getOrZero symbol) price
        (before.view.portfolio.sellableQuantities.getOrZero symbol) quantity ∧
      (0 < quantity → (marketSymbol frame.settings symbol,price) ∈ events.filterMap quoteOf) := by
  have nothing : ∀ {events : List Happening}, (∀ event ∈ events, isOrder event = false) → ∃ kind quantity price,
      PlacesOnce frame.settings symbol .sell kind quantity events ∧
      SaleSized (before.view.portfolio.marketValues.getOrZero symbol) (before.view.allocation.targets.getOrZero symbol) price
        (before.view.portfolio.sellableQuantities.getOrZero symbol) quantity ∧
      (0 < quantity → (marketSymbol frame.settings symbol,price) ∈ events.filterMap quoteOf) :=
    fun idle => ⟨.market,0,0,placesOnce_idle idle,saleSized_zero _ _ _ _,fun wrong => absurd wrong (lt_irrefl 0)⟩
  unfold sellSymbol at steps
  rw [steps_get_bind] at steps
  rcases steps_fromExcept_bind.mp steps with ⟨holding,found,rest⟩ | ⟨error,_,rfl,_,rfl⟩
  · obtain ⟨value,valued,rest_⟩ := bind_ok.mp found
    obtain ⟨target,wanted,same⟩ := bind_ok.mp rest_
    obtain rfl := return_ok.mp same
    split at rest
    · rcases steps_bind.mp rest with ⟨one,two,price,middle,rfl,ran,ended⟩ | ⟨_,_,ran⟩
      · have quiet := quiet_safeQuoteLastPrice _ _ _ _ _ ran
        cases price with
        | none =>
          apply nothing
          intro event member
          exact (List.mem_append.mp member).elim (idle_events quiet event) (idle_events (quiet_pure _ _ _ _ _ ended) event)
        | some price =>
          obtain ⟨kind,quantity,once,sized⟩ := sellQuoted_once ended
          rw [quiet.view] at sized
          rw [item_getOrZero valued,item_getOrZero wanted]
          refine ⟨kind,quantity,price,placesOnce_behind (idle_events quiet) once,sized,fun _ => ?_⟩
          obtain ⟨answer,tail,rfl,_,⟨snapshot,other,rfl,known,_,same⟩ | ⟨_,lost⟩⟩ := safeQuoteLastPrice_run ran
          · cases same
            simp [quoteOf,known]
          · cases lost _ rfl
      · exact nothing (idle_events (quiet_safeQuoteLastPrice _ _ _ _ _ ran))
    · exact nothing (idle_events (quiet_pure _ _ _ _ _ rest))
  · exact nothing (by simp [isOrder])

-- What the sell loop does for one symbol: orders of that symbol only, within
-- its sellable quantity, and at a target above zero within the overweight at
-- the price it was quoted.
structure SaleWithin (frame : Frame) (view : View) (symbol : String) (events : List Happening) : Prop where
  nonneg : 0 ≤ dealt .sell events
  orders : ∀ event ∈ events, ∀ name, orderSymbol event = some name →
    name = marketSymbol frame.settings symbol ∨ name = normalizedSymbol (marketSymbol frame.settings symbol)
  sellable : dealt .sell events ≤ max 0 (view.portfolio.sellableQuantities.getOrZero symbol)
  overweight : 0 < view.allocation.targets.getOrZero symbol → 0 < dealt .sell events →
    ∃ price, (marketSymbol frame.settings symbol,price) ∈ events.filterMap quoteOf ∧ 0 < price ∧
      dealt .sell events ≤ (view.portfolio.marketValues.getOrZero symbol - view.allocation.targets.getOrZero symbol) / price

theorem once_nonneg {settings : Settings} {symbol : String} {kind : OrderType} {count : ℤ}
    (once : PlacesOnce settings symbol .sell kind count events) (nonneg : (0 : ℚ) ≤ count) : 0 ≤ dealt .sell events := by
  obtain ⟨price,places⟩ := once
  rcases dealt_once places with none | ⟨shown,_⟩ | submitted
  · rw [none]
  · rw [shown,shownQuantity_whole]
    exact nonneg
  · rw [submitted]
    unfold submittedQuantity
    rw [if_neg (by simp)]
    split
    · exact floorToQuantityStep_nonneg _ _
    · exact floorToQuantityStep_nonneg _ _

-- At most the quantity it was placed for, when that is whole.
theorem once_sold {settings : Settings} {symbol : String} {kind : OrderType} {count : ℤ}
    (once : PlacesOnce settings symbol .sell kind count events) (nonneg : (0 : ℚ) ≤ count) : dealt .sell events ≤ count := by
  obtain ⟨price,places⟩ := once
  rcases dealt_once places with none | ⟨shown,_⟩ | submitted
  · rw [none]
    exact nonneg
  · rw [shown,shownQuantity_whole]
  · rw [submitted]
    exact submittedSale_le nonneg

theorem sellSymbol_within {symbol : String} {result : Except PyExc Bool}
    (steps : (sellSymbol frame symbol).Steps false before events result after) : SaleWithin frame before.view symbol events := by
  obtain ⟨kind,quantity,price,once,sized,quoted⟩ := sellSymbol_once steps
  obtain ⟨count,whole⟩ := sized.whole
  subst whole
  have most := once_sold once sized.nonneg
  refine ⟨once_nonneg once sized.nonneg,once_orders once.choose_spec,most.trans sized.sellable,?_⟩
  intro wanted sells
  have trades : (0 : ℚ) < count := lt_of_lt_of_le sells most
  obtain ⟨positive,heavy⟩ := sized.overweight wanted trades
  exact ⟨price,quoted trades,positive,most.trans heavy⟩

-- The sell loop falls into parts, at most one for each symbol and in their order.
theorem sellLoop_parts {symbols : List String} {result : Except PyExc Unit}
    (steps : (sellLoop frame symbols).Steps false before events result after) :
    ∃ parts : List (String × List Happening), (parts.map Prod.fst).Sublist symbols ∧ events = parts.flatMap Prod.snd ∧
      ∀ part ∈ parts, SaleWithin frame before.view part.1 part.2 := by
  induction symbols generalizing before events with
  | nil =>
    obtain ⟨rfl,_,_⟩ := steps_pure.mp steps
    exact ⟨[],List.Sublist.refl _,rfl,by simp⟩
  | cons symbol rest ih =>
    unfold sellLoop at steps
    rw [steps_get_bind] at steps
    split at steps
    · obtain ⟨rfl,_,_⟩ := steps_pure.mp steps
      exact ⟨[],List.nil_sublist _,rfl,by simp⟩
    · rename_i placing
      rcases steps_bind.mp steps with ⟨one,two,stopped,middle,rfl,sold_,ended⟩ | ⟨_,_,sold_⟩
      · have view := (walk_sellSymbol (placed_walks frame.settings .sell) (by simpa using placing) _ _ _ sold_).view
        have within := sellSymbol_within sold_
        split at ended
        · obtain ⟨rfl,_,_⟩ := steps_pure.mp ended
          exact ⟨[(symbol,one)],(List.nil_sublist rest).cons_cons symbol,by simp,by simpa using within⟩
        · obtain ⟨parts,order,rfl,sales⟩ := ih ended
          refine ⟨(symbol,one) :: parts,order.cons_cons symbol,rfl,?_⟩
          intro part member
          rcases List.mem_cons.mp member with rfl | later
          · exact within
          · rw [← view]
            exact sales part later
      · exact ⟨[(symbol,events)],(List.nil_sublist rest).cons_cons symbol,by simp,by simpa using sellSymbol_within sold_⟩

def SubmittedKept (before : Locals) (_ : List Happening) (after : Locals) : Prop :=
  before.book.sellSubmitted = true → after.book.sellSubmitted = true

theorem submittedKept_composes : Composes SubmittedKept where
  refl _ := id
  trans one two := fun flag => two (one flag)

theorem submittedKept_same {script : Step α} (same : Keeps FlagSame false script) : Keeps SubmittedKept false script := by
  intro before events result after steps flag
  have kept : after.book.sellSubmitted = before.book.sellSubmitted := congrArg Prod.snd (same before events result after steps)
  rw [kept]
  exact flag

theorem submittedKept_quiet {script : Step α} (quiet : Keeps Quiet false script) : Keeps SubmittedKept false script :=
  submittedKept_same (flagSame_quiet quiet)

theorem submittedKept_bind {script : Step α} {rest : α → Step β} (first : Keeps SubmittedKept false script)
    (second : ∀ value, Keeps SubmittedKept false (rest value)) : Keeps SubmittedKept false (script >>= rest) :=
  keeps_bind submittedKept_composes first second

theorem submittedKept_settleSell {symbol : String} {holding : Holding} {held : ℚ} {submitted : Bool} :
    Keeps SubmittedKept false (settleSell frame symbol holding held submitted) := by
  refine keeps_ite ?_ (keeps_ite ?_ (keeps_ite ?_ ?_))
  · exact keeps_modify fun _ _ => rfl
  · exact submittedKept_quiet (quiet_bind (quiet_translate (by simp)) fun _ => quiet_recordSkipLog _ _)
  · refine submittedKept_bind (submittedKept_same (flagSame_changeBook fun _ => rfl)) fun _ => ?_
    exact submittedKept_quiet (quiet_bind (quiet_translate (by simp)) fun _ => quiet_recordSkipLog _ _)
  · exact submittedKept_quiet (quiet_pure ())

theorem flagSame_placeSell {symbol : String} {isLimit : Bool} {quantity price : ℚ} :
    Keeps FlagSame false (placeSell frame symbol isLimit quantity price) := by
  apply keeps_ite flagSame_placeOrder
  apply flagSame_bind flagSame_placeOrder
  intro submitted
  apply flagSame_bind
  · exact keeps_ite (flagSame_changeBook fun _ => rfl) (flagSame_quiet (quiet_pure ()))
  · intro _
    exact flagSame_quiet (quiet_pure _)

theorem submittedKept_sellSymbol {symbol : String} : Keeps SubmittedKept false (sellSymbol frame symbol) := by
  apply keeps_get_bind
  intro locals
  refine submittedKept_bind (submittedKept_quiet (quiet_fromExcept _)) (fun holding => ?_) locals
  refine keeps_ite ?_ (submittedKept_quiet (quiet_pure _))
  apply submittedKept_bind (submittedKept_quiet (quiet_safeQuoteLastPrice _))
  intro price
  cases price with
  | none => exact submittedKept_quiet (quiet_pure _)
  | some price =>
    apply keeps_get_bind
    intro start
    refine submittedKept_bind (submittedKept_quiet (quiet_fromExcept _)) (fun sellable => ?_) start
    apply keeps_ite (submittedKept_quiet (quiet_pure _))
    apply submittedKept_bind (submittedKept_same flagSame_placeSell)
    intro submitted
    apply keeps_get_bind
    intro last
    refine keeps_ite (submittedKept_quiet (quiet_pure _)) ?_ last
    apply submittedKept_bind (submittedKept_quiet (quiet_fromExcept _))
    intro held
    exact submittedKept_bind submittedKept_settleSell fun _ => submittedKept_quiet (quiet_pure _)

theorem submittedKept_sellLoop (symbols : List String) : Keeps SubmittedKept false (sellLoop frame symbols) := by
  induction symbols with
  | nil => exact submittedKept_quiet (quiet_pure ())
  | cons symbol rest ih =>
    apply keeps_get_bind
    intro locals
    refine keeps_ite (submittedKept_quiet (quiet_pure ())) ?_ locals
    apply submittedKept_bind submittedKept_sellSymbol
    intro stopped
    exact keeps_ite (submittedKept_quiet (quiet_pure ())) ih

theorem placeSell_noted {symbol : String} {isLimit : Bool} {quantity price : ℚ} {submitted : Bool}
    (steps : (placeSell frame symbol isLimit quantity price).Steps false before events (.ok submitted) after)
    (sells : dealt .sell events ≠ 0) : submitted = true ∨ after.book.submissionHalted = true := by
  unfold placeSell at steps
  split at steps
  · exact placeOrder_noted steps sells
  · obtain ⟨one,two,placed,middle,rfl,placing,rest⟩ := steps_bind_ok steps
    obtain ⟨first,second,_,last,rfl,noting,ended⟩ := steps_bind_ok rest
    obtain ⟨rfl,same,rfl⟩ := steps_pure.mp ended
    obtain rfl : submitted = placed := Except.ok.inj same
    have still : first = [] ∧ after.book.submissionHalted = middle.book.submissionHalted := by
      unfold whenever at noting
      split at noting
      · obtain ⟨none,_,rfl⟩ := steps_modify.mp noting
        exact ⟨none,rfl⟩
      · obtain ⟨none,_,rfl⟩ := steps_pure.mp noting
        exact ⟨none,rfl⟩
    rw [still.1,List.append_nil,List.append_nil] at sells
    rw [still.2]
    exact placeOrder_noted placing sells

theorem sellQuoted_noted {symbol : String} {holding : Holding} {price : ℚ} {stopped : Bool}
    (steps : (sellQuoted frame symbol holding price).Steps false before events (.ok stopped) after)
    (sells : dealt .sell events ≠ 0) : after.book.sellSubmitted = true ∨ after.book.submissionHalted = true := by
  unfold sellQuoted at steps
  rw [steps_get_bind] at steps
  rcases steps_fromExcept_bind.mp steps with ⟨sellable,_,rest⟩ | ⟨_,_,_,wrong,_⟩
  · dsimp only at rest
    split at rest
    · exact absurd (dealt_idle (idle_events (quiet_pure _ _ _ _ _ rest))) sells
    · obtain ⟨one,two,submitted,middle,rfl,placed,rest⟩ := steps_bind_ok rest
      rw [steps_get_bind] at rest
      split at rest
      · rename_i refused
        obtain ⟨_,_,rfl⟩ := steps_pure.mp rest
        simp only [Bool.and_eq_true] at refused
        exact .inr refused.1
      · rename_i accepted
        rcases steps_fromExcept_bind.mp rest with ⟨held,_,settling⟩ | ⟨_,_,_,wrong,_⟩
        · obtain ⟨first,second,_,last,rfl,settled,ended⟩ := steps_bind_ok settling
          obtain ⟨rfl,_,rfl⟩ := steps_pure.mp ended
          have quiet : dealt .sell (first ++ []) = 0 := by
            rw [List.append_nil]
            exact dealt_idle (settleSell_idle _ _ _ _ settled)
          rw [dealt_append,quiet,add_zero] at sells
          have noted := placeSell_noted placed sells
          cases submitted with
          | true =>
            left
            unfold settleSell at settled
            rw [if_pos rfl] at settled
            obtain ⟨_,_,rfl⟩ := steps_modify.mp settled
            rfl
          | false =>
            rcases noted with wrong | halted
            · cases wrong
            · exact absurd (by rw [halted]; rfl) accepted
        · cases wrong
  · cases wrong

theorem sellSymbol_noted {symbol : String} {stopped : Bool}
    (steps : (sellSymbol frame symbol).Steps false before events (.ok stopped) after)
    (sells : dealt .sell events ≠ 0) : after.book.sellSubmitted = true ∨ after.book.submissionHalted = true := by
  unfold sellSymbol at steps
  rw [steps_get_bind] at steps
  rcases steps_fromExcept_bind.mp steps with ⟨holding,_,rest⟩ | ⟨_,_,_,wrong,_⟩
  · split at rest
    · obtain ⟨one,two,price,middle,rfl,quoted,ended⟩ := steps_bind_ok rest
      rw [dealt_append,dealt_idle (idle_events (quiet_safeQuoteLastPrice _ _ _ _ _ quoted)),zero_add] at sells
      cases price with
      | none => exact absurd (dealt_idle (idle_events (quiet_pure _ _ _ _ _ ended))) sells
      | some price => exact sellQuoted_noted ended sells
    · exact absurd (dealt_idle (idle_events (quiet_pure _ _ _ _ _ rest))) sells
  · cases wrong

theorem sellLoop_halted {symbols : List String} {result : Except PyExc Unit} (halted : before.book.submissionHalted = true)
    (steps : (sellLoop frame symbols).Steps false before events result after) : after.book.submissionHalted = true := by
  cases symbols with
  | nil =>
    obtain ⟨_,_,rfl⟩ := steps_pure.mp steps
    exact halted
  | cons symbol rest =>
    unfold sellLoop at steps
    rw [steps_get_bind,if_pos halted] at steps
    obtain ⟨_,_,rfl⟩ := steps_pure.mp steps
    exact halted

-- Where the loop has sold, the cycle knows of it.
theorem sellLoop_noted {symbols : List String} (steps : (sellLoop frame symbols).Steps false before events (.ok ()) after)
    (sells : dealt .sell events ≠ 0) : after.book.sellSubmitted = true ∨ after.book.submissionHalted = true := by
  induction symbols generalizing before events with
  | nil => exact absurd (dealt_idle (idle_events (quiet_pure _ _ _ _ _ steps))) sells
  | cons symbol rest ih =>
    unfold sellLoop at steps
    rw [steps_get_bind] at steps
    split at steps
    · exact absurd (dealt_idle (idle_events (quiet_pure _ _ _ _ _ steps))) sells
    · obtain ⟨one,two,stopped,middle,rfl,sale,ended⟩ := steps_bind_ok steps
      by_cases late : dealt .sell two = 0
      · rw [dealt_append,late,add_zero] at sells
        have noted := sellSymbol_noted sale sells
        split at ended
        · obtain ⟨_,_,rfl⟩ := steps_pure.mp ended
          exact noted
        · rcases noted with submitted | halted
          · exact .inl (submittedKept_sellLoop rest _ _ _ _ ended submitted)
          · exact .inr (sellLoop_halted halted ended)
      · split at ended
        · exact absurd (dealt_idle (idle_events (quiet_pure _ _ _ _ _ ended))) late
        · exact ih ended late

theorem sellSweep_once {candidates : List String} {price : ℚ} {result : Except PyExc Unit}
    (steps : (sellSweep frame candidates price).Steps false before events result after) :
    ∃ kind, PlacesOnce frame.settings frame.cashSweepSymbol .sell kind
      (before.view.portfolio.sellableQuantities.getOrZero frame.cashSweepSymbol) events := by
  unfold sellSweep at steps
  rw [steps_get_bind] at steps
  rcases steps_bind.mp steps with ⟨first,second,needs,start,rfl,asked,selling⟩ | ⟨_,_,asked⟩
  · have silent := idle_events (quiet_fundingNeeds _ _ _ _ _ _ _ asked)
    dsimp only at selling
    split at selling
    · rcases steps_bind.mp selling with ⟨third,fourth,submitted,last,rfl,placing,noting⟩ | ⟨_,_,placing⟩
      · obtain ⟨kind,once⟩ := placeSell_once placing
        refine ⟨kind,placesOnce_behind silent (placesOnce_before ?_ once)⟩
        have kept : Keeps Idle false (whenever submitted (changeBook fun book =>
            { book with actionDone := true, sellSubmitted := true, cashSweepSold := true })) := by
          apply keeps_ite
          · exact keeps_modify fun _ _ member => by cases member
          · exact keeps_weaken idle_events (quiet_pure ())
        exact kept _ _ _ _ noting
      · obtain ⟨kind,once⟩ := placeSell_once placing
        exact ⟨kind,placesOnce_behind silent once⟩
    · exact ⟨.market,placesOnce_behind silent (placesOnce_idle (idle_events (quiet_pure _ _ _ _ _ selling)))⟩
  · exact ⟨.market,placesOnce_idle (idle_events (quiet_fundingNeeds _ _ _ _ _ _ _ asked))⟩

-- The sale of the sweep, placed only where the loop has left no sale behind.
theorem fundFromSweep_once {result : Except PyExc Unit} (steps : (fundFromSweep frame).Steps false before events result after) :
    ∃ kind, PlacesOnce frame.settings frame.cashSweepSymbol .sell kind
        (before.view.portfolio.sellableQuantities.getOrZero frame.cashSweepSymbol) events ∧
      (dealt .sell events ≠ 0 → before.book.sellSubmitted = false ∧ before.book.submissionHalted = false ∧
        0 < before.view.portfolio.sellableQuantities.getOrZero frame.cashSweepSymbol) := by
  have nothing : ∀ {events : List Happening}, (∀ event ∈ events, isOrder event = false) → ∃ kind,
      PlacesOnce frame.settings frame.cashSweepSymbol .sell kind
        (before.view.portfolio.sellableQuantities.getOrZero frame.cashSweepSymbol) events ∧
      (dealt .sell events ≠ 0 → before.book.sellSubmitted = false ∧ before.book.submissionHalted = false ∧
        0 < before.view.portfolio.sellableQuantities.getOrZero frame.cashSweepSymbol) :=
    fun idle => ⟨.market,placesOnce_idle idle,fun sells => absurd (dealt_idle idle) sells⟩
  unfold fundFromSweep at steps
  rw [steps_get_bind] at steps
  rcases steps_fromExcept_bind.mp steps with ⟨candidates,_,rest⟩ | ⟨_,_,rfl,_,rfl⟩
  · dsimp only at rest
    generalize (if (frame.smallAccountBuyBlocked || before.gate.buyBlocked) = true then []
      else candidates.filter (· ≠ frame.cashSweepSymbol)) = waiting at rest
    split at rest
    · rename_i guard
      simp only [Bool.and_eq_true,Bool.not_eq_true',decide_eq_true_eq] at guard
      rcases steps_bind.mp rest with ⟨one,two,price,middle,rfl,quoted,ended⟩ | ⟨_,_,quoted⟩
      · have quiet := quiet_safeQuoteLastPrice _ _ _ _ _ quoted
        have ending : ∃ kind, PlacesOnce frame.settings frame.cashSweepSymbol .sell kind
            (before.view.portfolio.sellableQuantities.getOrZero frame.cashSweepSymbol) two := by
          cases price with
          | none => exact ⟨.market,placesOnce_idle (idle_events (quiet_pure _ _ _ _ _ ended))⟩
          | some price =>
            dsimp only at ended
            split at ended
            · rw [← quiet.view]
              exact sellSweep_once ended
            · exact ⟨.market,placesOnce_idle (idle_events (quiet_pure _ _ _ _ _ ended))⟩
        obtain ⟨kind,once⟩ := ending
        exact ⟨kind,placesOnce_behind (idle_events quiet) once,fun _ => ⟨guard.1.1.1.2,guard.1.1.1.1,guard.2⟩⟩
      · exact nothing (idle_events (quiet_safeQuoteLastPrice _ _ _ _ _ quoted))
    · exact nothing (idle_events (quiet_pure _ _ _ _ _ rest))
  · exact nothing (by simp [isOrder])

end LongBridge.Cycle
