import LongBridge.Cycle.SweepFlag

namespace LongBridge.Cycle
open Effects

variable {frame : Frame} {before middle after : Locals} {events : List Happening}

-- Nothing of a sale in the buy phase.
def Unsold (traded : String) (_ : Locals) (events : List Happening) (_ : Locals) : Prop := ∀ event ∈ events, acceptedSale traded event = false

theorem unsold_composes (traded : String) : Composes (Unsold traded) where
  refl _ := by
    intro event member
    cases member
  trans one two := fun event member => (List.mem_append.mp member).elim (one event) (two event)

theorem unsold_walks {settings : Settings} (traded : String) (live : settings.dryRunOnly = false) : Walks settings .buy (Unsold traded) where
  composes := unsold_composes traded
  quiet quiet := (quiet_steady quiet).unsold traded
  book _ _ := by
    intro event member
    cases member
  place _ := by
    intro events result after steps event member
    by_contra sale
    have placing := placeOrder_placing live steps
    obtain ⟨_,wrong,_⟩ := placing.sale traded event member (by simpa using sale)
    cases wrong

theorem unsold_purchases (traded : String) (live : frame.settings.dryRunOnly = false) :
    Keeps (Unsold traded) false (gateBuys frame >>= fun candidates => buyPhase frame candidates) := by
  have walks := unsold_walks traded live
  have pays : ∀ cost before, Unsold traded before [] (paid before cost) := by
    intro cost before event member
    cases member
  apply walk_bind walks (walk_quiet walks (quiet_gateBuys frame))
  intro candidates
  apply walk_bind walks (walk_buyLoop walks pays candidates)
  intro _
  apply walk_bind walks (walk_rebuyCashSweep walks)
  intro _
  exact walk_quiet walks (quiet_finishCycle frame)

-- Every strategy symbol that trades as the sweep is the sweep itself.
def SweepNamed (frame : Frame) (symbols : List String) : Prop :=
  ∀ symbol ∈ symbols, marketSymbol frame.settings symbol = frame.sweepTraded → symbol = frame.cashSweepSymbol

theorem sellAndFund_flagged (live : frame.settings.dryRunOnly = false)
    (named : SweepNamed frame before.view.allocation.strategySymbols) : KeepsFrom (Flagged frame) false before (sellAndFund frame) := by
  refine keepsFrom_bind flagged_composes (keeps_weaken steady_flagged (steady_adjustTargets true) before) fun _ _ middle adjusted => ?_
  have same : middle.view.allocation.strategySymbols = before.view.allocation.strategySymbols :=
    congrArg Prod.fst (symbolsKept_adjustTargets true _ _ _ _ adjusted)
  apply keepsFrom_get_bind
  refine keepsFrom_bind flagged_composes (sellLoop_flagged live ?_ middle) fun _ _ sold _ => ?_
  · rw [same]
    exact named
  · refine keepsFrom_bind flagged_composes (fundFromSweep_flagged live sold) fun _ _ last _ => ?_
    exact keeps_weaken steady_flagged steady_fundFromSells last

-- No purchase of the sweep, and its flag as it was.
structure Unswept (frame : Frame) (before : Locals) (events : List Happening) (after : Locals) : Prop where
  unbought : ∀ event ∈ events, purchase frame.sweepTraded event = false
  flag : after.book.cashSweepSold = before.book.cashSweepSold

theorem unswept_composes : Composes (Unswept frame) where
  refl _ := ⟨by simp,rfl⟩
  trans one two := ⟨fun event member =>
    (List.mem_append.mp member).elim (one.unbought event) (two.unbought event),two.flag.trans one.flag⟩

theorem unswept_bind {script : Step α} {rest : α → Step β} (first : Keeps (Unswept frame) false script)
    (second : ∀ value, Keeps (Unswept frame) false (rest value)) : Keeps (Unswept frame) false (script >>= rest) :=
  keeps_bind unswept_composes first second

theorem steady_unswept {script : Step α} (steady : Keeps Steady false script) : Keeps (Unswept frame) false script :=
  keeps_weaken (fun found => ⟨fun event member => unbought_of_idle (found.idle event member),found.flag⟩) steady

theorem unswept_quiet {script : Step α} (quiet : Keeps Quiet false script) : Keeps (Unswept frame) false script :=
  steady_unswept (steady_quiet quiet)

section buying
variable {symbol : String} (live : frame.settings.dryRunOnly = false) (other : marketSymbol frame.settings symbol ≠ frame.sweepTraded)
include live other

theorem unswept_placeBuy {kind : OrderType} {quantity reference price : ℚ} :
    Keeps (Unswept frame) false (placeBuy frame symbol kind quantity reference price) := by
  refine unswept_bind ?_ fun submitted => ?_
  · intro before events result after steps
    refine ⟨?_,(placeOrder_placing live steps).flag⟩
    intro event member
    by_contra bought
    exact other (placeOrder_purchase live steps event member (by simpa using bought)).2
  · apply keeps_ite
    · apply steady_unswept
      refine steady_bind (steady_changeView _) fun _ => ?_
      exact steady_modify fun _ => rfl
    · exact unswept_quiet (quiet_pure ())

theorem unswept_buyQuoted {gap price : ℚ} : Keeps (Unswept frame) false (buyQuoted frame symbol gap price) := by
  apply keeps_get_bind
  intro locals
  refine unswept_bind (unswept_quiet (quiet_fromExcept _)) (fun holding => ?_) locals
  apply keeps_ite
  · apply unswept_bind (unswept_quiet (quiet_estimateBuyQuantityCandidate frame _ _ _ _))
    intro candidate
    cases candidate with
    | none => exact unswept_quiet (quiet_pure ())
    | some candidate => exact keeps_ite (unswept_quiet (quiet_recordNoteLog _ _)) (unswept_placeBuy live other)
  · exact unswept_quiet (quiet_noteUnaffordable _ _ _ _ _)

theorem unswept_buySymbol : Keeps (Unswept frame) false (buySymbol frame symbol) := by
  apply keeps_get_bind
  intro locals
  refine unswept_bind (unswept_quiet (quiet_fromExcept _)) (fun gap => ?_) locals
  apply unswept_bind (unswept_quiet (quiet_safeQuoteLastPrice _))
  intro price
  cases price with
  | none => exact unswept_quiet (quiet_pure ())
  | some price => exact unswept_buyQuoted live other

end buying

theorem unswept_buyLoop {candidates : List String} (live : frame.settings.dryRunOnly = false)
    (others : ∀ symbol ∈ candidates, marketSymbol frame.settings symbol ≠ frame.sweepTraded) :
    Keeps (Unswept frame) false (buyLoop frame candidates) := by
  induction candidates with
  | nil => exact unswept_quiet (quiet_pure ())
  | cons symbol rest ih =>
    apply keeps_get_bind
    intro locals
    apply keepsFrom_ite
    · intro _
      exact unswept_quiet (quiet_pure ()) locals
    · intro _
      refine unswept_bind (unswept_buySymbol live (others symbol List.mem_cons_self)) (fun _ => ?_) locals
      exact ih fun symbol held => others symbol (List.mem_cons_of_mem _ held)

theorem unswept_buyPhase {candidates : List String} (live : frame.settings.dryRunOnly = false)
    (others : ∀ symbol ∈ candidates, marketSymbol frame.settings symbol ≠ frame.sweepTraded)
    (flag : before.book.cashSweepSold = true) : KeepsFrom (Unswept frame) false before (buyPhase frame candidates) := by
  refine keepsFrom_bind unswept_composes (unswept_buyLoop live others before) fun _ _ middle bought => ?_
  have kept := (unswept_buyLoop live others _ _ _ _ bought).flag.trans flag
  -- The flag is what keeps the rebuy away.
  have idle : KeepsFrom (Unswept frame) false middle (rebuyCashSweep frame) := by
    apply keepsFrom_get_bind
    apply keepsFrom_ite
    · intro allowed
      simp [rebuyAllowed,kept] at allowed
    · intro _
      exact unswept_quiet (quiet_pure ()) middle
  exact keepsFrom_bind unswept_composes idle fun _ _ last _ => unswept_quiet (quiet_finishCycle frame) last

theorem blockBuys_subset {candidates left : List String}
    (steps : (blockBuys frame candidates).Steps false before events (.ok left) after) : left = [] ∨ left = candidates := by
  unfold blockBuys at steps
  rw [steps_get_bind] at steps
  split at steps
  · obtain ⟨_,same,_⟩ := steps_pure.mp steps
    exact .inl (Except.ok.inj same)
  split at steps
  · exact .inl (deferBuys_run steps).1
  split at steps
  · exact .inl (deferBuys_run steps).1
  split at steps
  · unfold awaitRelease at steps
    obtain ⟨_,_,cost,estimated,_,_,rest⟩ := steps_bind_ok steps
    rw [steps_modify_bind,steps_get_bind] at rest
    split at rest
    · exact .inl (deferBuys_run rest).1
    · obtain ⟨_,same,_⟩ := steps_pure.mp rest
      exact .inr (Except.ok.inj same)
  · obtain ⟨_,same,_⟩ := steps_pure.mp steps
    exact .inr (Except.ok.inj same)

-- What the gate lets through was a candidate of the state it looked at.
theorem gateBuys_subset {candidates : List String} (steps : (gateBuys frame).Steps false before events (.ok candidates) after) :
    ∃ found, buyCandidates frame.settings before.view = .ok found ∧ ∀ symbol ∈ candidates, symbol ∈ found := by
  unfold gateBuys at steps
  obtain ⟨_,_,_,noted,_,ran,steps⟩ := steps_bind_ok steps
  have quiet := quiet_noteForeignCash _ _ _ _ ran
  rw [steps_get_bind] at steps
  rcases steps_fromExcept_bind.mp steps with ⟨found,known,rest⟩ | ⟨_,_,_,wrong,_⟩
  · rw [steps_modify_bind] at rest
    obtain ⟨_,_,open_,blocking,_,ran,rest⟩ := steps_bind_ok rest
    refine ⟨found,by rw [← quiet.view]; exact known,?_⟩
    intro symbol member
    obtain ⟨_,rfl | ⟨rfl,_⟩⟩ := requireCash_run rest
    · cases member
    rcases blockBuys_subset ran with rfl | rfl
    · cases member
    · split at member
      · cases member
      · exact member
  · cases wrong

-- No buy candidate of this state trades as the sweep.
def NoSweepCandidate (frame : Frame) (view : View) : Prop :=
  ∀ found, buyCandidates frame.settings view = .ok found → ∀ symbol ∈ found, marketSymbol frame.settings symbol ≠ frame.sweepTraded

theorem purchases_unswept (live : frame.settings.dryRunOnly = false) (settled : NoSweepCandidate frame before.view)
    (flag : before.book.cashSweepSold = true) :
    KeepsFrom (Unswept frame) false before (gateBuys frame >>= fun candidates => buyPhase frame candidates) := by
  refine keepsFrom_bind unswept_composes (unswept_quiet (quiet_gateBuys frame) before) fun _ candidates middle gated => ?_
  have kept := (quiet_steady (quiet_gateBuys frame _ _ _ _ gated)).flag.trans flag
  obtain ⟨found,known,subset⟩ := gateBuys_subset gated
  exact unswept_buyPhase live (fun symbol member => settled found known symbol (subset symbol member)) kept

-- The condition on a run: where a sale of the sweep was accepted, the state the
-- buys start from has no candidate that trades as the sweep.
def SweepSettled (frame : Frame) (events : List Happening) : Prop :=
  ∀ first sold rest opened funded, events = first ++ (sold ++ rest) →
    (openCycle frame).Steps false (openingLocals frame.opening) first (.ok false) opened →
    (sellAndFund frame).Steps false opened sold (.ok ()) funded →
    (∃ event ∈ sold, acceptedSale frame.sweepTraded event = true) → NoSweepCandidate frame funded.view

theorem executeRebalanceCycle_unswept {result : Except PyExc CycleResult} (live : frame.settings.dryRunOnly = false)
    (named : SweepNamed frame frame.opening.allocation.strategySymbols) (settled : SweepSettled frame events)
    (run : (executeRebalanceCycle frame).Steps false (openingLocals frame.opening) events result after)
    (sale : ∃ event ∈ events, acceptedSale frame.sweepTraded event = true) :
    ∀ event ∈ events, purchase frame.sweepTraded event = false := by
  have still : ∀ {events : List Happening}, (∀ event ∈ events, isQuiet event = true) →
      ∀ event ∈ events, purchase frame.sweepTraded event = false :=
    fun quiet event member => unbought_of_idle (idle_of_quiet (quiet event member))
  rcases steps_bind.mp run with ⟨first,trading,blocked,opened,rfl,opening,rest⟩ | ⟨error,_,opening⟩
  · have quiet := (opened_openCycle _ _ _ _ opening).events
    cases blocked with
    | true =>
      rw [if_pos rfl,steps_get_bind] at rest
      obtain ⟨rfl,_,_⟩ := steps_pure.mp rest
      rw [List.append_nil]
      exact still quiet
    | false =>
      rw [if_neg Bool.false_ne_true] at rest
      have symbols : opened.view.allocation.strategySymbols = frame.opening.allocation.strategySymbols :=
        congrArg Prod.fst (symbolsKept_openCycle _ _ _ _ opening)
      have unbought := unbought_sellAndFund frame.sweepTraded live
      rcases steps_bind.mp rest with ⟨sold,buys,_,funded,rfl,selling,buying⟩ | ⟨error,_,selling⟩
      · intro event member
        rcases List.mem_append.mp member with early | late
        · exact still quiet event early
        rcases List.mem_append.mp late with selling_ | buying_
        · exact unbought _ _ _ _ selling event selling_
        obtain ⟨sold_,held,accepted⟩ := sale
        -- An accepted sale can only be one of the sells.
        have inside : sold_ ∈ sold := by
          rcases List.mem_append.mp held with opening_ | later
          · rw [unsold_of_idle (idle_of_quiet (quiet sold_ opening_))] at accepted
            cases accepted
          rcases List.mem_append.mp later with found | wrong
          · exact found
          · rw [unsold_purchases frame.sweepTraded live _ _ _ _ buying sold_ wrong] at accepted
            cases accepted
        have flagged := sellAndFund_flagged live (by rw [symbols]; exact named) _ _ _ selling
        have open_ := settled first sold buys opened funded rfl opening selling ⟨sold_,inside,accepted⟩
        exact (purchases_unswept live open_ (flagged.sold ⟨sold_,inside,accepted⟩) _ _ _ buying).unbought event buying_
      · intro event member
        rcases List.mem_append.mp member with early | late
        · exact still quiet event early
        · exact unbought _ _ _ _ selling event late
  · exact still (opened_openCycle _ _ _ _ opening).events

-- After an accepted sale of the sweep nothing buys it back, in every run whose
-- funded state has no candidate that trades as the sweep.
theorem sold_sweep_is_not_bought_back {result : Except PyExc CycleResult} (live : frame.settings.dryRunOnly = false)
    (named : SweepNamed frame frame.opening.allocation.strategySymbols) (settled : SweepSettled frame events)
    (run : (executeRebalanceCycle frame).Steps false (openingLocals frame.opening) events result after) :
    ∀ early late, events = early ++ late → (∃ event ∈ early, acceptedSale frame.sweepTraded event = true) →
      ∀ event ∈ late, purchase frame.sweepTraded event = false := by
  intro early late split sale event member
  obtain ⟨sold,inside,accepted⟩ := sale
  apply executeRebalanceCycle_unswept live named settled run
  · exact ⟨sold,by rw [split]; exact List.mem_append_left _ inside,accepted⟩
  · rw [split]
    exact List.mem_append_right _ member

-- The sweep holds what the allocation wants; the cash for the other symbol is missing.
def parkedSweep : Observation :=
  observe (hold [("SPY",0),("BOXX",4000)] [("SPY",0),("BOXX",40)] 0 "BOXX") (approved 0 0)
    (allocate ["SPY","BOXX"] ["SPY"] [("SPY",1000),("BOXX",4000)])

-- The same account once the sweep was sold.
def emptiedSweep (target : ℚ) : Observation :=
  observe (hold [("SPY",0),("BOXX",0)] [("SPY",0),("BOXX",0)] 4000 "BOXX") (approved 4000 0)
    (allocate ["SPY","BOXX"] ["SPY"] [("SPY",1000),("BOXX",target)])

def parkedFrame : Frame := ⟨wholeShareSettings false,testedKit,gateOff,parkedSweep⟩

def parkedRun (target : ℚ) : List Happening × Except PyExc CycleResult × Locals :=
  play (calmWorld (emptiedSweep target)) [] ((executeRebalanceCycle parkedFrame).run false (openingLocals parkedSweep))

-- Forty shares are sold to fund nine of the other symbol, and thirty are bought back.
theorem sold_sweep_is_bought_back : ∃ (frame : Frame) (events early late : List Happening) (result : Except PyExc CycleResult)
    (after : Locals), frame.settings.dryRunOnly = false ∧
    (executeRebalanceCycle frame).Steps false (openingLocals frame.opening) events result after ∧ events = early ++ late ∧
    (∃ event ∈ early, acceptedSale frame.sweepTraded event = true) ∧ ∃ event ∈ late, purchase frame.sweepTraded event = true := by
  refine ⟨parkedFrame,_,(parkedRun 4000).1.take 10,(parkedRun 4000).1.drop 10,_,_,rfl,play_runs _ _ _,
    (List.take_append_drop 10 _).symm,?_,?_⟩
  · exact List.any_eq_true.mp (by decide +kernel)
  · exact List.any_eq_true.mp (by decide +kernel)

theorem dropped_sweep_stays_sold : ∃ (events : List Happening) (result : Except PyExc CycleResult) (after : Locals),
    (executeRebalanceCycle parkedFrame).Steps false (openingLocals parkedSweep) events result after ∧
    (∃ event ∈ events, acceptedSale parkedFrame.sweepTraded event = true) ∧
    ∀ early late, events = early ++ late → (∃ event ∈ early, acceptedSale parkedFrame.sweepTraded event = true) →
      ∀ event ∈ late, purchase parkedFrame.sweepTraded event = false := by
  have opens := play_steps (openedRun (calmWorld (emptiedSweep 0)) parkedFrame) false rfl (by decide +kernel)
  have funds := play_steps (fundedRun (calmWorld (emptiedSweep 0)) parkedFrame) () rfl (by decide +kernel)
  have trades := play_runs (calmWorld (emptiedSweep 0)) ((openedRun (calmWorld (emptiedSweep 0)) parkedFrame).1 ++
    (fundedRun (calmWorld (emptiedSweep 0)) parkedFrame).1) ((gateBuys parkedFrame >>= fun candidates =>
      buyPhase parkedFrame candidates).run false (fundedRun (calmWorld (emptiedSweep 0)) parkedFrame).2.2)
  have run : (executeRebalanceCycle parkedFrame).Steps false (openingLocals parkedFrame.opening) _ _ _ :=
    steps_bind.mpr (.inl ⟨_,_,false,_,rfl,opens,steps_bind.mpr (.inl ⟨_,_,(),_,rfl,funds,trades⟩)⟩)
  refine ⟨_,_,_,run,?_,sold_sweep_is_not_bought_back rfl ?_ ?_ run⟩
  · refine List.any_eq_true.mp ?_
    rw [List.any_append,List.any_append]
    decide +kernel
  · unfold SweepNamed
    decide +kernel
  · intro first sold rest opened funded split opening selling _ found known
    obtain ⟨rfl,same⟩ := runs_unique opening opens split.symm
    cases same
    obtain ⟨rfl,same⟩ := runs_unique selling funds (List.append_cancel_left split).symm
    cases same
    obtain rfl : ["SPY"] = found := Except.ok.inj (Eq.trans (by decide +kernel) known)
    decide +kernel

end LongBridge.Cycle
