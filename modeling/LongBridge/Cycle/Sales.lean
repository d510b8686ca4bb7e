import LongBridge.Cycle.SellParts
import LongBridge.Cycle.SweepBuyback

namespace LongBridge.Cycle
open Effects

variable {frame : Frame} {before middle after : Locals} {events first second : List Happening}

theorem unselling_purchases : Keeps (Undealt .sell) false (gateBuys frame >>= fun candidates => buyPhase frame candidates) := by
  have walks : Walks frame.settings .buy (Undealt .sell) := undealt_walks frame.settings (by simp)
  have pays : ∀ cost before, Undealt .sell before [] (paid before cost) := by
    intro cost before event member
    cases member
  apply walk_bind walks (walk_quiet walks (quiet_gateBuys frame))
  intro candidates
  apply walk_bind walks (walk_buyLoop walks pays candidates)
  intro _
  apply walk_bind walks (walk_rebuyCashSweep walks)
  intro _
  exact walk_quiet walks (quiet_finishCycle frame)

theorem evaluateGate_portfolio {portfolio : Portfolio} {execution : Execution} {evaluated : Evaluated}
    (found : evaluateGate frame portfolio execution = .ok evaluated) : ∃ fields, evaluated.portfolio = { portfolio with fields } := by
  unfold evaluateGate at found
  obtain ⟨projection,_,found⟩ := bind_ok.mp found
  obtain ⟨admission,_,found⟩ := bind_ok.mp found
  obtain ⟨snapshot,_,found⟩ := bind_ok.mp found
  obtain rfl := return_ok.mp found
  exact ⟨_,rfl⟩

-- What is held and can be sold.
def Portfolio.holdings (portfolio : Portfolio) : Amounts × Amounts := (portfolio.marketValues,portfolio.sellableQuantities)

-- The holdings stay, or become those of the opening.
def Holdings (frame : Frame) (before : Locals) (_ : List Happening) (after : Locals) : Prop :=
  after.view.portfolio.holdings = before.view.portfolio.holdings ∨ after.view.portfolio.holdings = frame.opening.portfolio.holdings

theorem holdings_composes : Composes (Holdings frame) where
  refl _ := .inl rfl
  trans one two := by
    rcases two with same | opening
    · rcases one with again | opening
      · exact .inl (same.trans again)
      · exact .inr (same.trans opening)
    · exact .inr opening

theorem holdings_quiet {script : Step α} (quiet : Keeps Quiet false script) : Keeps (Holdings frame) false script := by
  intro before events result after steps
  left
  rw [(quiet before events result after steps).view]

theorem holdings_openCycle : Keeps (Holdings frame) false (openCycle frame) := by
  have told : ∀ message, Keeps (Holdings frame) false (diagnostic frame message) := fun message => holdings_quiet (quiet_diagnostic frame message)
  have bind : ∀ {α β : Type} {script : Step α} {rest : α → Step β}, Keeps (Holdings frame) false script →
      (∀ value, Keeps (Holdings frame) false (rest value)) → Keeps (Holdings frame) false (script >>= rest) := keeps_bind holdings_composes
  have scaling : ∀ scale, Keeps (Holdings frame) false (scaleAllocation frame scale) := by
    intro scale
    apply keeps_get_bind
    intro locals
    refine bind (holdings_quiet (quiet_fromExcept _)) (fun targets => ?_) locals
    exact keeps_modify fun _ => .inl rfl
  have opening : Keeps (Holdings frame) false (openGate frame) := by
    apply keeps_ite
    · intro before
      refine keepsFrom_bind holdings_composes (holdings_quiet (quiet_fromExcept _) before) fun _ evaluated middle ran => ?_
      obtain ⟨fields,same⟩ := evaluateGate_portfolio (steps_fromExcept.mp ran).1.symm
      refine bind (keeps_modify fun _ => .inr ?_) (fun _ => ?_) middle
      · show evaluated.portfolio.holdings = frame.opening.portfolio.holdings
        rw [same]
        rfl
      refine bind (keeps_mark fun _ => .inl rfl) fun _ => ?_
      apply bind (told _)
      intro _
      refine bind (keeps_invoke fun _ _ => .inl rfl) fun counts => ?_
      apply bind (told _)
      intro _
      apply bind (scaling _)
      intro _
      cases evaluated.admission.combinedScale with
      | none => exact holdings_quiet (quiet_pure ())
      | some scale => exact told _
    · exact keeps_mark fun _ => .inl rfl
  apply bind opening
  intro _
  apply keeps_get_bind
  intro locals
  exact holdings_quiet (quiet_fromExcept _) locals

theorem openCycle_holdings {result : Except PyExc Bool}
    (steps : (openCycle frame).Steps false (openingLocals frame.opening) events result after) :
    after.view.portfolio.holdings = frame.opening.portfolio.holdings := by
  rcases holdings_openCycle _ _ _ _ steps with same | opening
  · exact same
  · exact opening

-- What the parts of one symbol sell.
def soldOf (parts : List (String × List Happening)) (symbol : String) : ℚ :=
  ((parts.filter fun part => part.1 == symbol).map fun part => dealt .sell part.2).sum

theorem soldOf_absent {parts : List (String × List Happening)} {symbol : String} (absent : symbol ∉ parts.map Prod.fst) :
    soldOf parts symbol = 0 := by
  unfold soldOf
  have none : (parts.filter fun part => part.1 == symbol) = [] := by
    rw [List.filter_eq_nil_iff]
    intro part member same
    exact absent (List.mem_map.mpr ⟨part,member,by simpa using same⟩)
  rw [none]
  rfl

-- With distinct symbols there is one part at most.
theorem soldOf_le {view : View} {parts : List (String × List Happening)} (distinct : (parts.map Prod.fst).Nodup)
    (sales : ∀ part ∈ parts, SaleWithin frame view part.1 part.2) (symbol : String) :
    soldOf parts symbol ≤ max 0 (view.portfolio.sellableQuantities.getOrZero symbol) := by
  induction parts with
  | nil => exact le_max_left _ _
  | cons part rest ih =>
    rw [List.map_cons,List.nodup_cons] at distinct
    by_cases same : part.1 = symbol
    · have alone : soldOf (part :: rest) symbol = dealt .sell part.2 + soldOf rest symbol := by
        unfold soldOf
        rw [List.filter_cons_of_pos (by simpa using same),List.map_cons,List.sum_cons]
      subst same
      rw [alone,soldOf_absent distinct.1,add_zero]
      exact (sales part List.mem_cons_self).sellable
    · have others : soldOf (part :: rest) symbol = soldOf rest symbol := by
        unfold soldOf
        rw [List.filter_cons_of_neg (by simpa using same)]
      rw [others]
      exact ih distinct.2 fun other member => sales other (List.mem_cons_of_mem _ member)

theorem soldOf_between {view : View} {parts : List (String × List Happening)} (sales : ∀ part ∈ parts, SaleWithin frame view part.1 part.2)
    (symbol : String) : 0 ≤ soldOf parts symbol ∧ soldOf parts symbol ≤ dealt .sell (parts.flatMap Prod.snd) := by
  induction parts with
  | nil => exact ⟨le_rfl,le_rfl⟩
  | cons part rest ih =>
    obtain ⟨nonneg,most⟩ := ih fun other member => sales other (List.mem_cons_of_mem _ member)
    have here := (sales part List.mem_cons_self).nonneg
    rw [List.flatMap_cons,dealt_append]
    by_cases same : part.1 = symbol
    · have both : soldOf (part :: rest) symbol = dealt .sell part.2 + soldOf rest symbol := by
        unfold soldOf
        rw [List.filter_cons_of_pos (by simpa using same),List.map_cons,List.sum_cons]
      rw [both]
      exact ⟨add_nonneg here nonneg,by linarith⟩
    · have others : soldOf (part :: rest) symbol = soldOf rest symbol := by
        unfold soldOf
        rw [List.filter_cons_of_neg (by simpa using same)]
      rw [others]
      exact ⟨nonneg,by linarith⟩

-- The sells of a cycle: the parts of the loop, and the sale of the sweep, of which at most one sells.
structure Sales (frame : Frame) (view : View) (parts : List (String × List Happening)) (funding : List Happening) : Prop where
  names : (parts.map Prod.fst).Sublist view.allocation.strategySymbols
  within : ∀ part ∈ parts, SaleWithin frame view part.1 part.2
  placed : ∃ kind, PlacesOnce frame.settings frame.cashSweepSymbol .sell kind
    (view.portfolio.sellableQuantities.getOrZero frame.cashSweepSymbol) funding
  apart : dealt .sell funding = 0 ∨ dealt .sell (parts.flatMap Prod.snd) = 0 ∧ 0 < view.portfolio.sellableQuantities.getOrZero frame.cashSweepSymbol

-- What is sold of one symbol altogether.
theorem Sales.total {view : View} {parts : List (String × List Happening)} {funding : List Happening} (sales : Sales frame view parts funding)
    (distinct : view.allocation.strategySymbols.Nodup) (symbol : String) :
    soldOf parts symbol + (if symbol = frame.cashSweepSymbol then dealt .sell funding else 0) ≤
        max 0 (view.portfolio.sellableQuantities.getOrZero symbol) ∨
      frame.settings.dryRunOnly = true ∧ symbol = frame.cashSweepSymbol ∧ soldOf parts symbol = 0 ∧
        dealt .sell funding = shownQuantity (view.portfolio.sellableQuantities.getOrZero symbol) := by
  have loop := soldOf_le (sales.names.nodup distinct) sales.within symbol
  by_cases sweep : symbol = frame.cashSweepSymbol
  · subst sweep
    rw [if_pos rfl]
    rcases sales.apart with nothing | ⟨none,positive⟩
    · left
      rw [nothing,add_zero]
      exact loop
    · obtain ⟨nonneg,most⟩ := soldOf_between sales.within frame.cashSweepSymbol
      have idle : soldOf parts frame.cashSweepSymbol = 0 := le_antisymm (most.trans none.le) nonneg
      obtain ⟨kind,once⟩ := sales.placed
      rw [idle,zero_add]
      obtain ⟨price,places⟩ := once
      rcases dealt_once places with nothing | ⟨shown,dry⟩ | submitted
      · left
        rw [nothing]
        exact le_max_left _ _
      · exact .inr ⟨dry,rfl,rfl,shown⟩
      · left
        rw [submitted]
        exact (submittedSale_le positive.le).trans (le_max_right _ _)
  · left
    rw [if_neg sweep,add_zero]
    exact loop

-- From the adjusted targets on.
theorem sellAndFund_sales {result : Except PyExc Unit} (steps : (sellAndFund frame).Steps false before events result after) :
    (∀ event ∈ events, dealtBy .sell event = 0) ∨ ∃ adjusting start parts funding rest,
      events = adjusting ++ (parts.flatMap Prod.snd ++ (funding ++ rest)) ∧
      (adjustTargets frame true).Steps false before adjusting (.ok ()) start ∧ Sales frame start.view parts funding ∧
      ∀ event ∈ adjusting ++ rest, dealtBy .sell event = 0 := by
  have calm : ∀ {before after : Locals} {events : List Happening}, Steady before events after → ∀ event ∈ events, dealtBy .sell event = 0 :=
    fun steady event member => dealtBy_idle (steady.idle event member)
  rcases steps_bind.mp steps with ⟨adjusting,rest,_,start,rfl,adjusted,selling⟩ | ⟨_,_,adjusted⟩
  · right
    have quiet := calm (steady_adjustTargets true _ _ _ _ adjusted)
    rw [steps_get_bind] at selling
    have unplaced : ∀ quantity, PlacesOnce frame.settings frame.cashSweepSymbol .sell .market quantity [] := fun _ => placesOnce_idle (by simp)
    rcases steps_bind.mp selling with ⟨loop,later,_,middle,rfl,looping,funding_⟩ | ⟨_,_,looping⟩
    · obtain ⟨parts,names,rfl,within⟩ := sellLoop_parts looping
      have view := (walk_sellLoop (placed_walks frame.settings .sell) _ _ _ _ _ looping).view
      have apart : ∀ {funding : List Happening}, (dealt .sell funding ≠ 0 → middle.book.sellSubmitted = false ∧ middle.book.submissionHalted = false ∧
            0 < middle.view.portfolio.sellableQuantities.getOrZero frame.cashSweepSymbol) →
          dealt .sell funding = 0 ∨ dealt .sell (parts.flatMap Prod.snd) = 0 ∧ 0 < start.view.portfolio.sellableQuantities.getOrZero frame.cashSweepSymbol := by
        intro funding guard
        by_cases nothing : dealt .sell funding = 0
        · exact .inl nothing
        · obtain ⟨unsold,open_,positive⟩ := guard nothing
          right
          rw [view] at positive
          refine ⟨?_,positive⟩
          by_contra sells
          rcases sellLoop_noted looping sells with submitted | halted
          · rw [unsold] at submitted
            cases submitted
          · rw [open_] at halted
            cases halted
      rcases steps_bind.mp funding_ with ⟨funding,last,_,funded,rfl,sweeping,refreshing⟩ | ⟨_,_,sweeping⟩
      · obtain ⟨kind,once,guard⟩ := fundFromSweep_once sweeping
        rw [view] at once
        refine ⟨adjusting,start,parts,funding,last,rfl,adjusted,⟨names,within,⟨kind,once⟩,apart guard⟩,?_⟩
        intro event member
        exact (List.mem_append.mp member).elim (quiet event) (calm (steady_fundFromSells _ _ _ _ refreshing) event)
      · obtain ⟨kind,once,guard⟩ := fundFromSweep_once sweeping
        rw [view] at once
        refine ⟨adjusting,start,parts,later,[],by rw [List.append_nil],adjusted,⟨names,within,⟨kind,once⟩,apart guard⟩,?_⟩
        rw [List.append_nil]
        exact quiet
    · obtain ⟨parts,names,rfl,within⟩ := sellLoop_parts looping
      refine ⟨adjusting,start,parts,[],[],by rw [List.append_nil,List.append_nil],adjusted,⟨names,within,⟨.market,unplaced _⟩,.inl rfl⟩,?_⟩
      rw [List.append_nil]
      exact quiet
  · exact .inl (calm (steady_adjustTargets true _ _ _ _ adjusted))

-- Nothing is sold in a cycle, or all its sales are the parts of its sell loop
-- and the sale of the sweep: of every symbol together what could be sold of it
-- at the opening, and of the loop's part at a target above zero the overweight.
theorem sells_stay_within_the_holdings {result : Except PyExc CycleResult} (distinct : frame.opening.allocation.strategySymbols.Nodup)
    (run : (executeRebalanceCycle frame).Steps false (openingLocals frame.opening) events result after) :
    (∀ event ∈ events, dealtBy .sell event = 0) ∨ ∃ first opened adjusting start parts funding rest,
      events = first ++ (adjusting ++ (parts.flatMap Prod.snd ++ (funding ++ rest))) ∧
      (openCycle frame).Steps false (openingLocals frame.opening) first (.ok false) opened ∧
      (adjustTargets frame true).Steps false opened adjusting (.ok ()) start ∧
      start.view.portfolio.holdings = frame.opening.portfolio.holdings ∧
      (∀ event ∈ first ++ (adjusting ++ rest), dealtBy .sell event = 0) ∧ Sales frame start.view parts funding ∧
      ∀ symbol, soldOf parts symbol + (if symbol = frame.cashSweepSymbol then dealt .sell funding else 0) ≤
          max 0 (frame.opening.portfolio.sellableQuantities.getOrZero symbol) ∨
        frame.settings.dryRunOnly = true ∧ symbol = frame.cashSweepSymbol ∧ soldOf parts symbol = 0 ∧
          dealt .sell funding = shownQuantity (frame.opening.portfolio.sellableQuantities.getOrZero symbol) := by
  have silent : ∀ {before after : Locals} {events : List Happening} {result : Except PyExc Bool},
      (openCycle frame).Steps false before events result after → ∀ event ∈ events, dealtBy .sell event = 0 :=
    fun steps event member => dealtBy_idle (idle_of_quiet ((opened_openCycle _ _ _ _ steps).events event member))
  rcases steps_bind.mp run with ⟨first,trading,blocked,opened,rfl,opening,rest⟩ | ⟨_,_,opening⟩
  · cases blocked with
    | true =>
      left
      rw [if_pos rfl,steps_get_bind] at rest
      obtain ⟨rfl,_,_⟩ := steps_pure.mp rest
      rw [List.append_nil]
      exact silent opening
    | false =>
      rw [if_neg Bool.false_ne_true] at rest
      -- Whatever comes after the funding sells nothing.
      have parted : ∃ sells later, trading = sells ++ later ∧ (∀ event ∈ later, dealtBy .sell event = 0) ∧
          ∃ outcome funded, (sellAndFund frame).Steps false opened sells outcome funded := by
        rcases steps_bind.mp rest with ⟨sells,later,_,funded,rfl,selling,buying⟩ | ⟨error,_,selling⟩
        · exact ⟨sells,later,rfl,unselling_purchases _ _ _ _ buying,_,funded,selling⟩
        · exact ⟨trading,[],by rw [List.append_nil],by simp,_,after,selling⟩
      obtain ⟨sells,later,rfl,quiet,outcome,funded,selling⟩ := parted
      rcases sellAndFund_sales selling with nothing | ⟨adjusting,start,parts,funding,last,rfl,adjusted,sales,calm⟩
      · left
        intro event member
        rcases List.mem_append.mp member with early | late
        · exact silent opening event early
        · exact (List.mem_append.mp late).elim (nothing event) (quiet event)
      · right
        have kept := (adjustTargets_run adjusted).choose_spec.2.portfolio
        have holdings : start.view.portfolio.holdings = frame.opening.portfolio.holdings := by
          rw [kept]
          exact openCycle_holdings opening
        have symbols : start.view.allocation.strategySymbols = frame.opening.allocation.strategySymbols :=
          congrArg Prod.fst ((symbolsKept_adjustTargets true _ _ _ _ adjusted).trans (symbolsKept_openCycle _ _ _ _ opening))
        have sellable : start.view.portfolio.sellableQuantities = frame.opening.portfolio.sellableQuantities := congrArg Prod.snd holdings
        refine ⟨first,opened,adjusting,start,parts,funding,last ++ later,?_,opening,adjusted,holdings,?_,sales,?_⟩
        · simp only [List.append_assoc]
        · intro event member
          rcases List.mem_append.mp member with early | late
          · exact silent opening event early
          rw [← List.append_assoc] at late
          exact (List.mem_append.mp late).elim (calm event) (quiet event)
        · intro symbol
          have total := sales.total (by rw [symbols]; exact distinct) symbol
          rw [sellable] at total
          exact total
  · exact .inl (silent opening)

def soldUnder (traded : String) (events : List Happening) : ℚ := dealt .sell (events.filter fun event => orderSymbol event == some traded)

-- A sweep whose quantity has more digits than a dry run shows.
def fineSweep : Observation :=
  observe (hold [("SPY",0),("BOXX",4000)] [("SPY",0),("BOXX",2469135 / 2)] 0 "BOXX") (approved 0 0)
    (allocate ["SPY","BOXX"] ["SPY"] [("SPY",1000),("BOXX",4000)])

def fineFrame : Frame := ⟨wholeShareSettings true,testedKit,gateOff,fineSweep⟩

-- Forty shares of the sweep are sold at 100 although it is worth what its target
-- asks; and a dry run shows more than can be sold when it rounds to six digits.
theorem sweep_is_sold_below_its_target : (∃ (frame : Frame) (events : List Happening) (result : Except PyExc CycleResult) (after : Locals),
    frame.opening.allocation.strategySymbols.Nodup ∧
    (executeRebalanceCycle frame).Steps false (openingLocals frame.opening) events result after ∧
    (∀ quote ∈ events.filterMap quoteOf, quote.2 = 100) ∧ 0 < frame.opening.allocation.targets.getOrZero frame.cashSweepSymbol ∧
    (frame.opening.portfolio.marketValues.getOrZero frame.cashSweepSymbol -
      frame.opening.allocation.targets.getOrZero frame.cashSweepSymbol) / 100 < soldUnder frame.sweepTraded events) ∧
  ∃ (frame : Frame) (events : List Happening) (result : Except PyExc CycleResult) (after : Locals),
    frame.opening.allocation.strategySymbols.Nodup ∧
    (executeRebalanceCycle frame).Steps false (openingLocals frame.opening) events result after ∧
    frame.opening.portfolio.sellableQuantities.getOrZero frame.cashSweepSymbol < soldUnder frame.sweepTraded events := by
  constructor
  · refine ⟨parkedFrame,_,_,_,by decide,play_runs (calmWorld (emptiedSweep 0)) [] _,?_,?_,?_⟩
    · decide +kernel
    · decide +kernel
    · decide +kernel
  · refine ⟨fineFrame,_,_,_,by decide,play_runs (calmWorld fineSweep) [] _,?_⟩
    decide +kernel

theorem parked_sweep_is_sold_once : ∃ first opened adjusting start parts funding rest,
    (parkedRun 0).1 = first ++ (adjusting ++ (parts.flatMap Prod.snd ++ (funding ++ rest))) ∧
    (openCycle parkedFrame).Steps false (openingLocals parkedFrame.opening) first (.ok false) opened ∧
    (adjustTargets parkedFrame true).Steps false opened adjusting (.ok ()) start ∧ Sales parkedFrame start.view parts funding := by
  rcases sells_stay_within_the_holdings (by decide) (play_runs (calmWorld (emptiedSweep 0)) []
      ((executeRebalanceCycle parkedFrame).run false (openingLocals parkedFrame.opening))) with
    nothing | ⟨first,opened,adjusting,start,parts,funding,rest,split,opening,adjusted,_,_,sales,_⟩
  · have sells : ((parkedRun 0).1.all fun event => decide (dealtBy .sell event = 0)) = false := by decide +kernel
    have none : ((parkedRun 0).1.all fun event => decide (dealtBy .sell event = 0)) = true :=
      List.all_eq_true.mpr fun event member => decide_eq_true (nothing event member)
    rw [sells] at none
    cases none
  · exact ⟨first,opened,adjusting,start,parts,funding,rest,split,opening,adjusted,sales⟩

end LongBridge.Cycle
