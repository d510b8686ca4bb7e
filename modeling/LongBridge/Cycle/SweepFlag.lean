import LongBridge.Cycle.BuyBlocks

namespace LongBridge.Cycle
open Effects

-- A sale of the symbol that the broker has taken.
def acceptedSale (symbol : String) : Happening → Bool
  | .answered _ (.submitOrder intent) (.ok (some report)) =>
    intent.side == .sell && intent.symbol == symbol && isKnownSubmission (reportStatus (some report))
  | _ => false

def purchase (symbol : String) : Happening → Bool
  | .answered _ (.submitOrder intent) _ => intent.side == .buy && intent.symbol == symbol
  | _ => false

def Frame.sweepTraded (frame : Frame) : String := marketSymbol frame.settings frame.cashSweepSymbol

variable {frame : Frame} {before middle after : Locals} {events : List Happening}

theorem unsold_of_idle {symbol : String} {event : Happening} (idle : isOrder event = false) : acceptedSale symbol event = false := by
  unfold acceptedSale
  split
  · cases idle
  · rfl

theorem unbought_of_idle {symbol : String} {event : Happening} (idle : isOrder event = false) : purchase symbol event = false := by
  unfold purchase
  split
  · cases idle
  · rfl

theorem idle_of_quiet {event : Happening} (quiet : isQuiet event = true) : isOrder event = false :=
  (quiet_parts quiet).1

-- Nothing is submitted, and the flag of the sweep stays as it is.
structure Steady (before : Locals) (events : List Happening) (after : Locals) : Prop where
  idle : ∀ event ∈ events, isOrder event = false
  flag : after.book.cashSweepSold = before.book.cashSweepSold

theorem Steady.unsold (steady : Steady before events after) (symbol : String) :
    ∀ event ∈ events, acceptedSale symbol event = false := fun event member => unsold_of_idle (steady.idle event member)

theorem steady_composes : Composes Steady where
  refl _ := ⟨by simp,rfl⟩
  trans one two := ⟨fun event member =>
    (List.mem_append.mp member).elim (one.idle event) (two.idle event),two.flag.trans one.flag⟩

theorem steady_bind {script : Step α} {rest : α → Step β} (first : Keeps Steady false script)
    (second : ∀ value, Keeps Steady false (rest value)) : Keeps Steady false (script >>= rest) :=
  keeps_bind steady_composes first second

theorem quiet_steady (quiet : Quiet before events after) : Steady before events after :=
  ⟨fun event member => idle_of_quiet (quiet.events event member),by rw [quiet.book]⟩

theorem steady_quiet {script : Step α} (quiet : Keeps Quiet false script) : Keeps Steady false script := keeps_weaken quiet_steady quiet

theorem steady_modify {change : Locals → Locals} (same : ∀ locals, (change locals).book.cashSweepSold = locals.book.cashSweepSold) :
    Keeps Steady false (Script.modify (P := ports) (ε := PyExc) change) := keeps_modify fun before => ⟨by simp,same before⟩

theorem steady_changeView (change : View → View) : Keeps Steady false (changeView change) := steady_modify fun _ => rfl

theorem steady_mark {label : Mark} (idle : isOrder (.marked label) = false) :
    Keeps Steady false (Script.mark (P := ports) (ε := PyExc) (σ := Locals) label) := keeps_mark fun _ => ⟨by simpa using idle,rfl⟩

theorem steady_whenever {condition : Bool} {script : Step Unit} (steady : Keeps Steady false script) :
    Keeps Steady false (whenever condition script) := keeps_ite steady (steady_quiet (quiet_pure ()))

theorem steady_adjustTargets (announce : Bool) : Keeps Steady false (adjustTargets frame announce) := by
  intro before events result after steps
  obtain ⟨tail,rfl,adjusted⟩ := adjustTargets_run steps
  refine ⟨?_,by rw [adjusted.book]⟩
  intro event member
  cases List.mem_cons.mp member with
  | inl here =>
    rw [here]
    rfl
  | inr inside => exact idle_of_quiet (adjusted.events event inside)

theorem steady_scaleAllocation (scale : Option ℚ) : Keeps Steady false (scaleAllocation frame scale) :=
  keeps_get_bind fun locals => steady_bind (steady_quiet (quiet_fromExcept _)) (fun _ => steady_changeView _) locals

theorem steady_halt : Keeps Steady false halt := steady_modify fun _ => rfl

theorem steady_constrain (observation : Observation) : Keeps Steady false (constrain frame observation) := by
  apply steady_bind (steady_quiet (quiet_fromExcept _))
  intro blocked
  apply steady_bind (steady_whenever steady_halt)
  intro _
  apply keeps_ite
  · apply steady_bind (steady_quiet (quiet_fromExcept _))
    intro evaluated
    refine steady_bind ?_ fun _ => ?_
    · exact steady_modify fun _ => rfl
    · exact steady_bind (steady_mark rfl) fun _ => steady_quiet (quiet_pure _)
  · exact steady_quiet (quiet_pure _)

theorem steady_refreshOnce (best projected : ℚ) : Keeps Steady false (refreshOnce frame best projected) := by
  apply steady_bind (keeps_invoke fun _ _ => ⟨by simp [isOrder],rfl⟩)
  intro observation
  apply steady_bind (steady_constrain observation)
  intro constrained
  exact steady_quiet (quiet_measureRefresh frame best projected constrained)

theorem steady_refreshAgain (previous : ℚ) (attempts : ℕ) (found : Refresh) :
    Keeps Steady false (refreshAgain frame previous attempts found) := by
  induction attempts generalizing found with
  | zero => exact steady_quiet (quiet_pure _)
  | succ attempts ih =>
    apply keeps_ite (steady_quiet (quiet_pure _))
    apply steady_bind (steady_quiet (quiet_call fun _ => rfl))
    intro _
    exact steady_bind (steady_refreshOnce _ _) fun next => ih next

theorem steady_fundFromSells : Keeps Steady false (fundFromSells frame) := by
  apply keeps_get_bind
  intro locals
  apply keepsFrom_ite
  · intro _
    apply keepsFrom_ite
    · intro _
      exact keeps_get_bind (fun _ => steady_bind (steady_changeView _) (fun _ => steady_quiet (quiet_noteLog _)) _) locals
    · intro _
      have refreshing : Keeps Steady false (refreshLoop frame locals.view.investableCash) :=
        steady_bind (steady_refreshOnce _ _) fun first => steady_refreshAgain _ _ first
      apply steady_bind refreshing
      intro refresh
      apply keeps_get_bind
      intro middle
      apply steady_bind (steady_changeView _)
      intro _
      apply steady_bind (steady_whenever (steady_scaleAllocation _))
      intro _
      exact steady_bind (steady_adjustTargets false) fun _ => steady_changeView _
  · intro _
    exact steady_quiet (quiet_pure ()) locals

-- Whatever is sold of the sweep, the flag says so, and says so from then on.
structure Flagged (frame : Frame) (before : Locals) (events : List Happening) (after : Locals) : Prop where
  kept : before.book.cashSweepSold = true → after.book.cashSweepSold = true
  sold : (∃ event ∈ events, acceptedSale frame.sweepTraded event = true) → after.book.cashSweepSold = true

theorem flagged_composes : Composes (Flagged frame) where
  refl _ := ⟨id,by simp⟩
  trans one two := by
    refine ⟨fun flag => two.kept (one.kept flag),?_⟩
    intro found
    obtain ⟨event,member,sale⟩ := found
    cases List.mem_append.mp member with
    | inl early => exact two.kept (one.sold ⟨event,early,sale⟩)
    | inr late => exact two.sold ⟨event,late,sale⟩

theorem steady_flagged (steady : Steady before events after) : Flagged frame before events after := by
  refine ⟨fun flag => by rw [steady.flag]; exact flag,?_⟩
  intro found
  obtain ⟨event,member,sale⟩ := found
  rw [steady.unsold _ event member] at sale
  cases sale

theorem flagged_quiet {script : Step α} (quiet : Keeps Quiet false script) : Keeps (Flagged frame) false script :=
  keeps_weaken (fun found => steady_flagged (quiet_steady found)) quiet

-- What the cycle remembers of its sells.
def OrderBook.flags (book : OrderBook) : Bool × Bool := (book.cashSweepSold,book.sellSubmitted)

-- The flags while one order is placed; only the loops write them.
def FlagSame (before : Locals) (_ : List Happening) (after : Locals) : Prop := after.book.flags = before.book.flags

theorem flagSame_composes : Composes FlagSame where
  refl _ := rfl
  trans one two := two.trans one

theorem flagSame_bind {script : Step α} {rest : α → Step β} (first : Keeps FlagSame false script)
    (second : ∀ value, Keeps FlagSame false (rest value)) : Keeps FlagSame false (script >>= rest) :=
  keeps_bind flagSame_composes first second

theorem flagSame_quiet {script : Step α} (quiet : Keeps Quiet false script) : Keeps FlagSame false script :=
  keeps_weaken (fun found => congrArg OrderBook.flags found.book) quiet

theorem flagSame_changeBook {change : OrderBook → OrderBook} (same : ∀ book, (change book).flags = book.flags) :
    Keeps FlagSame false (changeBook change) := keeps_modify fun before => same before.book

theorem flagSame_halt : Keeps FlagSame false halt := keeps_modify fun _ => rfl

theorem flagSame_recordPending (order : OrderPayload) : Keeps FlagSame false (recordPending order) := keeps_modify fun _ => rfl

theorem flagSame_recordSubmitted (order : OrderPayload) : Keeps FlagSame false (recordSubmitted order) := keeps_modify fun _ => rfl

theorem flagSame_notify (title detail : String) (value : α) :
    Keeps FlagSame false (notifySubmissionIssue title detail >>= fun _ => (pure value : Step α)) :=
  flagSame_quiet (quiet_bind (quiet_notifySubmissionIssue _ _) fun _ => quiet_pure _)

theorem flagSame_recordUnknown {intent : OrderIntent} {answer : Except PyExc (Option ExecutionReport)} {brokerOrderId : Option String} :
    Keeps FlagSame false (recordUnknown intent answer brokerOrderId) := by
  unfold recordUnknown
  apply flagSame_bind flagSame_halt
  intro _
  apply flagSame_bind (flagSame_recordPending _)
  intro _
  exact flagSame_notify _ _ _

theorem flagSame_recordKnown {settings : Settings} {intent : OrderIntent} {report : ExecutionReport} {message : String} :
    Keeps FlagSame false (recordKnown settings intent report message) := by
  unfold recordKnown
  apply flagSame_bind (flagSame_recordPending _)
  intro _
  apply flagSame_bind (flagSame_recordSubmitted _)
  intro _
  have hooks : Keeps FlagSame false (afterSubmission settings intent report message).attempt := by
    apply keeps_attempt
    exact keeps_weaken (fun placid => congrArg OrderBook.flags placid.book) (placid_afterSubmission settings intent report message)
  apply flagSame_bind hooks
  intro finished
  cases finished with
  | ok _ => exact flagSame_quiet (quiet_pure _)
  | error _ =>
    apply flagSame_bind flagSame_halt
    intro _
    exact flagSame_notify _ _ _

theorem flagSame_recordAnswer {settings : Settings} {intent : OrderIntent} {message : String}
    {answer : Except PyExc (Option ExecutionReport)} : Keeps FlagSame false (recordAnswer settings intent message answer) := by
  rcases answer with exc | ⟨_ | report⟩
  · exact flagSame_recordUnknown
  · exact flagSame_recordUnknown
  · unfold recordAnswer
    exact keeps_ite (flagSame_notify _ _ _) (keeps_ite flagSame_recordKnown flagSame_recordUnknown)

theorem notified {title detail : String} {value : α} {result : Except PyExc α}
    (steps : (notifySubmissionIssue title detail >>= fun _ => (pure value : Step α)).Steps false before events result after) :
    result = .ok value := by
  rcases steps_bind.mp steps with ⟨_,_,_,_,_,_,ended⟩ | ⟨_,_,ran⟩
  · exact (steps_pure.mp ended).2.1
  · rcases steps_bind.mp ran with ⟨_,_,_,_,_,_,ended⟩ | ⟨_,_,asked⟩
    · cases (steps_pure.mp ended).2.1
    · obtain ⟨_,wrong,_⟩ := steps_attempt.mp asked
      cases wrong

-- A known submission always counts as placed.
theorem recordKnown_placed {settings : Settings} {intent : OrderIntent} {report : ExecutionReport} {message : String}
    {result : Except PyExc Bool} (steps : (recordKnown settings intent report message).Steps false before events result after) :
    result = .ok true := by
  unfold recordKnown recordPending recordSubmitted at steps
  rw [changeBook_bind,changeBook_bind] at steps
  rcases steps_bind.mp steps with ⟨_,_,finished,_,_,_,ended⟩ | ⟨_,_,ran⟩
  · cases finished with
    | ok _ => exact (steps_pure.mp ended).2.1
    | error _ =>
      unfold halt at ended
      exact notified (changeBook_bind.mp ended)
  · obtain ⟨_,wrong,_⟩ := steps_attempt.mp ran
    cases wrong

theorem known_not_rejected {status : String} (known : isKnownSubmission status = true) : status ≠ "rejected" := by
  intro rejected
  rw [rejected] at known
  exact absurd known (by decide)

-- What one placing does to the flag, and what an accepted sale in it tells.
structure Placing (symbol : String) (side : Side) (before : Locals) (events : List Happening)
    (result : Except PyExc Bool) (after : Locals) : Prop where
  flag : after.book.cashSweepSold = before.book.cashSweepSold
  sale : ∀ traded, ∀ event ∈ events, acceptedSale traded event = true →
    traded = symbol ∧ side = .sell ∧ result = .ok true

theorem orderIntent_traded {settings : Settings} {symbol : String} {orderType : OrderType} {side : Side} {quantity : ℚ} {price : Option ℚ} :
    (orderIntent settings symbol orderType side quantity price).symbol = symbol ∧
      (orderIntent settings symbol orderType side quantity price).side = side := ⟨rfl,rfl⟩

theorem submitOrderViaPort_placing {settings : Settings} {symbol : String} {orderType : OrderType} {side : Side} {quantity : ℚ}
    {message : String} {price : Option ℚ} {result : Except PyExc Bool}
    (steps : (submitOrderViaPort settings symbol orderType side quantity message price).Steps false before events result after) :
    Placing symbol side before events result after := by
  have silent : ∀ {events : List Happening} {result : Except PyExc Bool} {after : Locals}, Steady before events after →
      Placing symbol side before events result after := by
    intro events result after steady
    refine ⟨steady.flag,?_⟩
    intro traded event member sale
    rw [steady.unsold traded event member] at sale
    cases sale
  unfold submitOrderViaPort at steps
  rw [steps_get_bind] at steps
  split at steps
  · exact silent (quiet_steady (quiet_pure _ _ _ _ _ steps))
  · dsimp only at steps
    split at steps
    · exact silent (quiet_steady (quiet_bind (quiet_call fun _ => rfl) (fun _ => quiet_pure _) _ _ _ _ steps))
    · obtain ⟨answer,tail,rfl,recorded⟩ := steps_attempt_invoke_bind.mp steps
      have settled := recordAnswer_settled recorded
      refine ⟨congrArg Prod.fst (flagSame_recordAnswer _ _ _ _ recorded),?_⟩
      intro traded event member sale
      cases List.mem_cons.mp member with
      | inl here =>
        subst here
        rcases answer with exc | ⟨_ | report⟩
        · cases sale
        · cases sale
        · simp only [acceptedSale,Bool.and_eq_true,beq_iff_eq] at sale
          obtain ⟨⟨sold,same⟩,known⟩ := sale
          rw [orderIntent_traded.2] at sold
          rw [orderIntent_traded.1] at same
          refine ⟨same.symm,sold,?_⟩
          unfold recordAnswer at recorded
          dsimp only at recorded
          rw [if_neg (known_not_rejected known),if_pos known] at recorded
          exact recordKnown_placed recorded
      | inr inside =>
        have order := (settled.harmless event inside).1
        have sold := @unsold_of_idle traded _ order
        rw [sale] at sold
        cases sold

theorem placeOrder_placing {settings : Settings} {symbol : String} {side : Side} {orderType : OrderType} {quantity price : ℚ}
    {result : Except PyExc Bool} (live : settings.dryRunOnly = false)
    (steps : (placeOrder settings symbol side orderType quantity price).Steps false before events result after) :
    Placing (marketSymbol settings symbol) side before events result after := by
  unfold placeOrder at steps
  rw [if_neg (by rw [live]; exact Bool.false_ne_true)] at steps
  rcases steps_bind.mp steps with ⟨one,two,message,middle,rfl,told,submitted⟩ | ⟨_,rfl,told⟩
  · have steady := quiet_steady (quiet_translate (by simp) _ _ _ _ told)
    have placing := submitOrderViaPort_placing submitted
    refine ⟨placing.flag.trans steady.flag,?_⟩
    intro traded event member sale
    cases List.mem_append.mp member with
    | inl early =>
      rw [steady.unsold traded event early] at sale
      cases sale
    | inr late => exact placing.sale traded event late sale
  · have steady := quiet_steady (quiet_translate (by simp) _ _ _ _ told)
    refine ⟨steady.flag,?_⟩
    intro traded event member sale
    rw [steady.unsold traded event member] at sale
    cases sale

theorem placing_then {symbol : String} {side : Side} {first second : List Happening} {submitted : Bool}
    (placing : Placing symbol side before first (.ok submitted) middle) (quiet : Quiet middle second after) :
    Placing symbol side before (first ++ second) (.ok submitted) after := by
  have steady := quiet_steady quiet
  refine ⟨steady.flag.trans placing.flag,?_⟩
  intro traded event member sale
  cases List.mem_append.mp member with
  | inl early => exact placing.sale traded event early sale
  | inr late =>
    rw [steady.unsold traded event late] at sale
    cases sale

theorem placeSell_placing {symbol : String} {isLimit : Bool} {quantity price : ℚ} {result : Except PyExc Bool}
    (live : frame.settings.dryRunOnly = false)
    (steps : (placeSell frame symbol isLimit quantity price).Steps false before events result after) :
    Placing (marketSymbol frame.settings symbol) .sell before events result after := by
  unfold placeSell at steps
  split at steps
  · exact placeOrder_placing live steps
  · rcases steps_bind.mp steps with ⟨one,two,submitted,middle,rfl,placed,rest⟩ | ⟨error,rfl,placed⟩
    · have still : Keeps Quiet false (whenever (frame.settings.dryRunOnly && submitted) (changeBook fun book =>
          { book with dryRunSaleProceeds := book.dryRunSaleProceeds + quantity * roundTo 2 price })) := by
        rw [live]
        exact quiet_pure ()
      rcases steps_bind.mp rest with ⟨first,second,_,last,rfl,kept,ended⟩ | ⟨error,_,kept⟩
      · obtain ⟨rfl,same,rfl⟩ := steps_pure.mp ended
        rw [same,List.append_nil]
        exact placing_then (placeOrder_placing live placed) (still _ _ _ _ kept)
      · rw [live] at kept
        cases (steps_pure.mp kept).2.1
    · exact placeOrder_placing live placed

-- An answered sale of the sweep sets its flag.
theorem settleSell_flag {symbol : String} {holding : Holding} {held : ℚ} {result : Except PyExc Unit}
    (steps : (settleSell frame symbol holding held true).Steps false before events result after) :
    after.book.cashSweepSold = (before.book.cashSweepSold || (symbol == frame.cashSweepSymbol)) := by
  unfold settleSell at steps
  rw [if_pos rfl] at steps
  obtain ⟨_,_,rfl⟩ := steps_modify.mp steps
  rfl

theorem settleSell_flagged {symbol : String} {holding : Holding} {held : ℚ} (submitted : Bool) :
    Keeps (Flagged frame) false (settleSell frame symbol holding held submitted) := by
  refine keeps_ite ?_ (keeps_ite ?_ (keeps_ite ?_ ?_))
  · apply keeps_modify
    intro before
    refine ⟨?_,by simp⟩
    intro flag
    show (before.book.cashSweepSold || _) = true
    rw [flag,Bool.true_or]
  · exact flagged_quiet (quiet_bind (quiet_translate (by simp)) fun _ => quiet_recordSkipLog _ _)
  · refine keeps_bind flagged_composes ?_ fun _ => ?_
    · exact keeps_weaken steady_flagged (keeps_modify fun _ => ⟨by simp,rfl⟩)
    · exact flagged_quiet (quiet_bind (quiet_translate (by simp)) fun _ => quiet_recordSkipLog _ _)
  · exact flagged_quiet (quiet_pure ())

-- What follows a placing: with an accepted sale of the sweep in it, the flag is set at the end.
theorem flagged_of_placing {symbol : String} {first second : List Happening} {submitted : Bool}
    (placing : Placing (marketSymbol frame.settings symbol) .sell before first (.ok submitted) middle)
    (rest : Flagged frame middle second after)
    (settled : submitted = true → marketSymbol frame.settings symbol = frame.sweepTraded → after.book.cashSweepSold = true) :
    Flagged frame before (first ++ second) after := by
  refine ⟨fun flag => rest.kept (by rw [placing.flag]; exact flag),?_⟩
  intro found
  obtain ⟨event,member,sale⟩ := found
  cases List.mem_append.mp member with
  | inl early =>
    obtain ⟨same,_,placed⟩ := placing.sale _ event early sale
    exact settled (Except.ok.inj placed) same.symm
  | inr late => exact rest.sold ⟨event,late,sale⟩

theorem sellQuoted_flagged {symbol : String} {holding : Holding} {price : ℚ} (live : frame.settings.dryRunOnly = false)
    (named : marketSymbol frame.settings symbol = frame.sweepTraded → symbol = frame.cashSweepSymbol) :
    Keeps (Flagged frame) false (sellQuoted frame symbol holding price) := by
  apply keeps_get_bind
  intro locals
  refine keepsFrom_bind flagged_composes (flagged_quiet (quiet_fromExcept _) locals) fun _ sellable start _ => ?_
  apply keepsFrom_ite
  · intro _
    exact flagged_quiet (quiet_pure _) start
  · intro _ events result after steps
    rcases steps_bind.mp steps with ⟨one,two,submitted,middle,rfl,placed,rest⟩ | ⟨error,rfl,placed⟩
    · have placing := placeSell_placing live placed
      rw [steps_get_bind] at rest
      split at rest
      · rename_i refused
        have quiet := quiet_pure _ _ _ _ _ rest
        refine flagged_of_placing placing (steady_flagged (quiet_steady quiet)) ?_
        intro sold _
        rw [sold] at refused
        simp at refused
      · rcases steps_fromExcept_bind.mp rest with ⟨held,looked,settling⟩ | ⟨error,failed,rfl,_,rfl⟩
        · rcases steps_bind.mp settling with ⟨first,second,_,last,rfl,settled,ended⟩ | ⟨error,_,settled⟩
          · obtain ⟨rfl,_,rfl⟩ := steps_pure.mp ended
            rw [List.append_nil]
            refine flagged_of_placing placing (settleSell_flagged _ _ _ _ _ settled) ?_
            intro sold same
            rw [sold] at settled
            rw [settleSell_flag settled,named same]
            simp
          · refine flagged_of_placing placing (settleSell_flagged _ _ _ _ _ settled) ?_
            intro sold same
            rw [sold] at settled
            rw [settleSell_flag settled,named same]
            simp
        · refine flagged_of_placing placing (steady_flagged ⟨by simp [isOrder],rfl⟩) ?_
          intro sold _
          rw [sold] at failed
          simp [heldUnsellable] at failed
    · have placing := placeSell_placing live placed
      refine ⟨fun flag => by rw [placing.flag]; exact flag,?_⟩
      intro found
      obtain ⟨event,member,sale⟩ := found
      cases (placing.sale _ event member sale).2.2

theorem sellSymbol_flagged {symbol : String} (live : frame.settings.dryRunOnly = false)
    (named : marketSymbol frame.settings symbol = frame.sweepTraded → symbol = frame.cashSweepSymbol) :
    Keeps (Flagged frame) false (sellSymbol frame symbol) := by
  apply keeps_get_bind
  intro locals
  refine keepsFrom_bind flagged_composes (flagged_quiet (quiet_fromExcept _) locals) fun _ holding start _ => ?_
  apply keepsFrom_ite
  · intro _
    refine keepsFrom_bind flagged_composes (flagged_quiet (quiet_safeQuoteLastPrice _) start) fun _ price last _ => ?_
    cases price with
    | none => exact flagged_quiet (quiet_pure _) last
    | some price => exact sellQuoted_flagged live named last
  · intro _
    exact flagged_quiet (quiet_pure _) start

theorem sellLoop_flagged {symbols : List String} (live : frame.settings.dryRunOnly = false)
    (named : ∀ symbol ∈ symbols, marketSymbol frame.settings symbol = frame.sweepTraded → symbol = frame.cashSweepSymbol) :
    Keeps (Flagged frame) false (sellLoop frame symbols) := by
  induction symbols with
  | nil => exact flagged_quiet (quiet_pure ())
  | cons symbol rest ih =>
    apply keeps_get_bind
    intro locals
    apply keepsFrom_ite
    · intro _
      exact flagged_quiet (quiet_pure ()) locals
    · intro _
      refine keepsFrom_bind flagged_composes (sellSymbol_flagged live (named symbol List.mem_cons_self) locals) fun _ stops middle _ => ?_
      apply keepsFrom_ite
      · intro _
        exact flagged_quiet (quiet_pure ()) middle
      · intro _
        exact ih (fun other held => named other (List.mem_cons_of_mem _ held)) middle

theorem sellSweep_flagged {candidates : List String} {price : ℚ} (live : frame.settings.dryRunOnly = false) :
    Keeps (Flagged frame) false (sellSweep frame candidates price) := by
  apply keeps_get_bind
  intro locals
  refine keepsFrom_bind flagged_composes (flagged_quiet (quiet_fundingNeeds _ _ _) locals) fun _ needs start _ => ?_
  apply keepsFrom_ite
  · intro _ events result after steps
    rcases steps_bind.mp steps with ⟨one,two,submitted,middle,rfl,placed,rest⟩ | ⟨error,rfl,placed⟩
    · have placing := placeSell_placing live placed
      have kept : Keeps (Flagged frame) false (whenever submitted (changeBook fun book =>
          { book with actionDone := true, sellSubmitted := true, cashSweepSold := true })) := by
        apply keeps_ite
        · exact keeps_modify fun _ => ⟨fun _ => rfl,by simp⟩
        · exact flagged_quiet (quiet_pure ())
      refine flagged_of_placing placing (kept _ _ _ _ rest) ?_
      intro sold _
      rw [sold] at rest
      obtain ⟨_,_,rfl⟩ := steps_modify.mp rest
      rfl
    · have placing := placeSell_placing live placed
      refine ⟨fun flag => by rw [placing.flag]; exact flag,?_⟩
      intro found
      obtain ⟨event,member,sale⟩ := found
      cases (placing.sale _ event member sale).2.2
  · intro _
    exact flagged_quiet (quiet_pure ()) start

theorem fundFromSweep_flagged (live : frame.settings.dryRunOnly = false) : Keeps (Flagged frame) false (fundFromSweep frame) := by
  apply keeps_get_bind
  intro locals
  refine keepsFrom_bind flagged_composes (flagged_quiet (quiet_fromExcept _) locals) fun _ candidates start _ => ?_
  apply keepsFrom_ite
  · intro _
    refine keepsFrom_bind flagged_composes (flagged_quiet (quiet_safeQuoteLastPrice _) start) fun _ price last _ => ?_
    cases price with
    | none => exact flagged_quiet (quiet_pure ()) last
    | some price =>
      apply keepsFrom_ite
      · intro _
        exact sellSweep_flagged live last
      · intro _
        exact flagged_quiet (quiet_pure ()) last
  · intro _
    exact flagged_quiet (quiet_pure ()) start

theorem submission_side {intent : OrderIntent} {answer : Except PyExc (Option ExecutionReport)} {held : Bool} {symbol : String}
    (bought : purchase symbol (.answered held (.submitOrder intent) answer) = true) : intent.side = .buy ∧ intent.symbol = symbol := by
  simpa [purchase] using bought

-- Which purchases there can be in one placing.
theorem submitOrderViaPort_purchase {settings : Settings} {symbol traded : String} {orderType : OrderType} {side : Side} {quantity : ℚ}
    {message : String} {price : Option ℚ} {result : Except PyExc Bool}
    (steps : (submitOrderViaPort settings symbol orderType side quantity message price).Steps false before events result after) :
    ∀ event ∈ events, purchase traded event = true → side = .buy ∧ symbol = traded := by
  have silent : ∀ {events : List Happening} {after : Locals}, Steady before events after →
      ∀ event ∈ events, purchase traded event = true → side = .buy ∧ symbol = traded := by
    intro events after steady event member bought
    rw [unbought_of_idle (steady.idle event member)] at bought
    cases bought
  unfold submitOrderViaPort at steps
  rw [steps_get_bind] at steps
  split at steps
  · exact silent (quiet_steady (quiet_pure _ _ _ _ _ steps))
  · dsimp only at steps
    split at steps
    · exact silent (quiet_steady (quiet_bind (quiet_call fun _ => rfl) (fun _ => quiet_pure _) _ _ _ _ steps))
    · obtain ⟨answer,tail,rfl,recorded⟩ := steps_attempt_invoke_bind.mp steps
      have settled := recordAnswer_settled recorded
      intro event member bought
      cases List.mem_cons.mp member with
      | inl here =>
        subst here
        have placed := submission_side bought
        rw [orderIntent_traded.1,orderIntent_traded.2] at placed
        exact placed
      | inr inside =>
        have idle := (settled.harmless event inside).1
        rw [unbought_of_idle idle] at bought
        cases bought

theorem placeOrder_purchase {settings : Settings} {symbol traded : String} {side : Side} {orderType : OrderType} {quantity price : ℚ}
    {result : Except PyExc Bool} (live : settings.dryRunOnly = false)
    (steps : (placeOrder settings symbol side orderType quantity price).Steps false before events result after) :
    ∀ event ∈ events, purchase traded event = true → side = .buy ∧ marketSymbol settings symbol = traded := by
  have told : ∀ {events : List Happening} {after : Locals}, Quiet before events after →
      ∀ event ∈ events, purchase traded event = false := fun quiet event member => unbought_of_idle (idle_of_quiet (quiet.events event member))
  unfold placeOrder at steps
  rw [if_neg (by rw [live]; exact Bool.false_ne_true)] at steps
  rcases steps_bind.mp steps with ⟨one,two,message,middle,rfl,telling,submitted⟩ | ⟨_,rfl,telling⟩
  · intro event member bought
    cases List.mem_append.mp member with
    | inl early =>
      rw [told (quiet_translate (by simp) _ _ _ _ telling) event early] at bought
      cases bought
    | inr late => exact submitOrderViaPort_purchase submitted event late bought
  · intro event member bought
    rw [told (quiet_translate (by simp) _ _ _ _ telling) event member] at bought
    cases bought

-- The sells buy nothing.
def Unbought (traded : String) (_ : Locals) (events : List Happening) (_ : Locals) : Prop := ∀ event ∈ events, purchase traded event = false

theorem unbought_composes (traded : String) : Composes (Unbought traded) where
  refl _ := by
    intro event member
    cases member
  trans one two := fun event member => (List.mem_append.mp member).elim (one event) (two event)

theorem steady_unbought {traded : String} (steady : Steady before events after) : Unbought traded before events after :=
  fun event member => unbought_of_idle (steady.idle event member)

theorem unbought_walks {settings : Settings} (traded : String) (live : settings.dryRunOnly = false) : Walks settings .sell (Unbought traded) where
  composes := unbought_composes traded
  quiet quiet := steady_unbought (quiet_steady quiet)
  book _ _ := by
    intro event member
    cases member
  place _ := by
    intro events result after steps event member
    by_contra bought
    obtain ⟨wrong,_⟩ := placeOrder_purchase live steps event member (by simpa using bought)
    cases wrong

theorem unbought_sellAndFund (traded : String) (live : frame.settings.dryRunOnly = false) :
    Keeps (Unbought traded) false (sellAndFund frame) := by
  refine keeps_bind (unbought_composes traded) (keeps_weaken steady_unbought (steady_adjustTargets true)) fun _ => ?_
  apply keeps_get_bind
  intro locals
  refine keeps_bind (unbought_composes traded) (walk_sellLoop (unbought_walks traded live) _) (fun _ => ?_) locals
  refine keeps_bind (unbought_composes traded) (walk_fundFromSweep (unbought_walks traded live)) fun _ => ?_
  exact keeps_weaken steady_unbought steady_fundFromSells

-- The symbols an allocation names, each in its role.
def Allocation.symbols (allocation : Allocation) : List String × List String × List String :=
  (allocation.strategySymbols,allocation.riskSymbols,allocation.incomeSymbols)

-- The symbols of the opening, as long as no refreshed state is adopted.
def SymbolsKept (before : Locals) (_ : List Happening) (after : Locals) : Prop :=
  after.view.allocation.symbols = before.view.allocation.symbols

theorem symbolsKept_composes : Composes SymbolsKept where
  refl _ := rfl
  trans one two := two.trans one

theorem symbolsKept_quiet {held : Bool} {script : Step α} (quiet : Keeps Quiet held script) : Keeps SymbolsKept held script := by
  intro before events result after steps
  show after.view.allocation.symbols = before.view.allocation.symbols
  rw [(quiet before events result after steps).view]

theorem symbolsKept_bind {script : Step α} {rest : α → Step β} (first : Keeps SymbolsKept false script)
    (second : ∀ value, Keeps SymbolsKept false (rest value)) : Keeps SymbolsKept false (script >>= rest) :=
  keeps_bind symbolsKept_composes first second

theorem symbolsKept_modify {change : Locals → Locals}
    (same : ∀ locals, (change locals).view.allocation.symbols = locals.view.allocation.symbols) :
    Keeps SymbolsKept false (Script.modify (P := ports) (ε := PyExc) change) := keeps_modify same

theorem substitution_symbols {threshold : ℚ} {plan : Plan} {portfolio : Portfolio} {allocation : Allocation} :
    (applySafeHavenCashSubstitution threshold plan portfolio allocation).2.symbols = allocation.symbols := by
  unfold applySafeHavenCashSubstitution
  dsimp only
  split
  · rfl
  · rfl

theorem symbolsKept_adjustTargets (announce : Bool) : Keeps SymbolsKept false (adjustTargets frame announce) := by
  apply keeps_get_bind
  intro locals
  refine symbolsKept_bind (keeps_mark fun _ => rfl) (fun _ => ?_) locals
  refine symbolsKept_bind (symbolsKept_modify fun _ => substitution_symbols) fun _ => ?_
  apply symbolsKept_bind (keeps_ite (symbolsKept_quiet quiet_announceCompatibility) (symbolsKept_quiet (quiet_pure ())))
  intro _
  have adjusting : Keeps SymbolsKept false (adjustWholeShares frame) := by
    apply keeps_get_bind
    intro start
    refine symbolsKept_bind (symbolsKept_quiet (quiet_compatibilityPrices _ _ _)) (fun prices => ?_) start
    exact symbolsKept_modify fun _ => rfl
  apply symbolsKept_bind (keeps_ite adjusting (symbolsKept_quiet (quiet_pure ())))
  intro _
  apply keeps_get_bind
  intro adjusted
  exact symbolsKept_quiet (quiet_bind (quiet_recordCashNotes _) fun _ => quiet_recordBootstrapNotes _ _) adjusted

theorem symbolsKept_openCycle : Keeps SymbolsKept false (openCycle frame) := by
  have scaling : ∀ scale, Keeps SymbolsKept false (scaleAllocation frame scale) := by
    intro scale
    apply keeps_get_bind
    intro locals
    refine symbolsKept_bind (symbolsKept_quiet (quiet_fromExcept _)) (fun targets => ?_) locals
    exact symbolsKept_modify fun _ => rfl
  have told : ∀ message, Keeps SymbolsKept false (diagnostic frame message) := fun message => symbolsKept_quiet (quiet_diagnostic frame message)
  have opening : Keeps SymbolsKept false (openGate frame) := by
    apply keeps_ite
    · apply symbolsKept_bind (symbolsKept_quiet (quiet_fromExcept _))
      intro evaluated
      refine symbolsKept_bind (symbolsKept_modify fun _ => rfl) fun _ => ?_
      refine symbolsKept_bind (keeps_mark fun _ => rfl) fun _ => ?_
      apply symbolsKept_bind (told _)
      intro _
      refine symbolsKept_bind (keeps_invoke fun _ _ => rfl) fun counts => ?_
      apply symbolsKept_bind (told _)
      intro _
      apply symbolsKept_bind (scaling _)
      intro _
      cases evaluated.admission.combinedScale with
      | none => exact symbolsKept_quiet (quiet_pure ())
      | some scale => exact told _
    · exact keeps_mark fun _ => rfl
  apply symbolsKept_bind opening
  intro _
  apply keeps_get_bind
  intro locals
  exact symbolsKept_quiet (quiet_fromExcept _) locals

end LongBridge.Cycle
