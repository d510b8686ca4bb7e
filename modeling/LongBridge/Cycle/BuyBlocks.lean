import LongBridge.Cycle.Observations

namespace LongBridge.Cycle
open Effects

def isBuyOrder : Happening → Bool
  | .answered _ (.submitOrder intent) _ => intent.side == .buy
  | .marked (.dryRun order) => order.side == .buy
  | _ => false

theorem isBuyOrder_order {event : Happening} (other : isOrder event = false) : isBuyOrder event = false := by
  cases event with
  | answered held request answer =>
    cases request with
    | submitOrder intent => simp [isOrder] at other
    | _ => rfl
  | fault held error => rfl
  | marked label =>
    cases label with
    | dryRun order => simp [isOrder] at other
    | _ => rfl

-- What forbids every buy when the buy phase is reached.
def BuyBlocked (frame : Frame) (seen : List Observation) (funded gated : Locals) : Prop :=
  frame.smallAccountBuyBlocked = true ∨
  (frame.gateEnabled = true ∧ ∃ observation ∈ seen, admissionProhibits frame observation = true) ∨
  (frame.settings.cashOnlyExecution = true ∧ funded.book.pendingSellReleaseSymbols ≠ [] ∧
    ∃ cost, gated.estimatedBuyCost = some cost ∧ funded.view.investableCash < cost) ∨
  (frame.settings.cashOnlyExecution = true ∧ funded.view.availableCash < 0)

-- Only texts and quotes.
def Journaled (before : Locals) (_ : List Happening) (after : Locals) : Prop :=
  ∃ journal, after = { before with journal := journal }

theorem journaled_composes : Composes Journaled where
  refl before := ⟨before.journal,rfl⟩
  trans one two := by
    obtain ⟨_,rfl⟩ := one
    obtain ⟨journal,rfl⟩ := two
    exact ⟨journal,rfl⟩

variable {frame : Frame} {held : Bool} {before after funded gated : Locals} {events : List Happening}

theorem journaled_bind {script : Step α} {rest : α → Step β} (first : Keeps Journaled held script)
    (second : ∀ value, Keeps Journaled held (rest value)) : Keeps Journaled held (script >>= rest) :=
  keeps_bind journaled_composes first second

theorem journaled_pure (value : α) : Keeps Journaled held (pure value : Step α) := keeps_pure journaled_composes value

theorem journaled_call (request : Call) : Keeps Journaled held (call request) :=
  keeps_invoke (fun before _ => ⟨before.journal,rfl⟩)

theorem journaled_changeJournal (change : Journal → Journal) : Keeps Journaled held (changeJournal change) :=
  keeps_modify (fun before => ⟨change before.journal,rfl⟩)

theorem journaled_fromExcept (value : Except PyExc α) : Keeps Journaled held (Script.fromExcept value : Step α) :=
  keeps_fromExcept journaled_composes (fun before _ => ⟨before.journal,rfl⟩)

theorem journaled_printPrefixed (message : String) : Keeps Journaled held (printPrefixed message) :=
  journaled_bind (journaled_call _) (fun _ => journaled_pure _)

theorem journaled_noteLog (message : String) : Keeps Journaled held (noteLog message) :=
  journaled_bind (journaled_changeJournal _) (fun _ => journaled_printPrefixed message)

theorem journaled_whenever {condition : Bool} {script : Step Unit} (journaled : Keeps Journaled held script) :
    Keeps Journaled held (whenever condition script) := keeps_ite journaled (journaled_pure ())

theorem journaled_recordQuoteSnapshot (snapshot : QuoteSnapshot) : Keeps Journaled held (recordQuoteSnapshot snapshot) :=
  journaled_whenever (journaled_changeJournal _)

theorem journaled_quotedPrice (symbol : String) : Keeps Journaled held (quotedPrice symbol) := by
  refine journaled_bind (journaled_call _) (fun snapshot => ?_)
  exact journaled_bind (journaled_recordQuoteSnapshot snapshot) (fun _ => journaled_fromExcept _)

theorem journaled_safeQuoteLastPrice (symbol : String) : Keeps Journaled held (safeQuoteLastPrice symbol) := by
  refine journaled_bind (keeps_attempt (journaled_quotedPrice symbol)) (fun quoted => ?_)
  cases quoted with
  | ok price => exact journaled_pure _
  | error exc => exact journaled_bind (journaled_call _) (fun _ => journaled_pure _)

theorem journaled_estimateBuyCost (symbols : List String) : Keeps Journaled held (estimateBuyCost frame symbols) := by
  induction symbols with
  | nil => exact journaled_pure _
  | cons symbol rest ih =>
    refine keeps_get_bind (fun locals => journaled_bind (journaled_fromExcept _) (fun holding => ?_) locals)
    refine journaled_bind (journaled_safeQuoteLastPrice _) (fun price => ?_)
    exact journaled_bind ih (fun others => journaled_pure _)

theorem deferBuys_run {reason key : String} {args : List (String × Arg)} {left : List String}
    (steps : (deferBuys reason key args).Steps false before events (.ok left) after) :
    left = [] ∧ after.estimatedBuyCost = before.estimatedBuyCost := by
  unfold deferBuys at steps
  rw [steps_modify_bind] at steps
  obtain ⟨_,_,message,asked,_,asking,noting⟩ := steps_bind_ok steps
  obtain ⟨_,rfl⟩ := steps_invoke.mp asking
  obtain ⟨_,_,_,noted,_,ran,ended⟩ := steps_bind_ok noting
  obtain ⟨journal,rfl⟩ := journaled_noteLog message _ _ _ _ ran
  obtain ⟨_,same,rfl⟩ := steps_pure.mp ended
  exact ⟨Except.ok.inj same,rfl⟩

-- The candidates come through unchanged, or nothing is left of them.
structure Passed (frame : Frame) (before after : Locals) : Prop where
  largeAccount : frame.smallAccountBuyBlocked = false
  allowed : before.gate.buyBlocked = false
  reason : after.buysBlockedReason = before.buysBlockedReason
  released : after.estimatedBuyCost = before.estimatedBuyCost ∨
    ∃ cost, after.estimatedBuyCost = some cost ∧ cost ≤ before.view.investableCash

theorem awaitRelease_run {candidates left : List String}
    (steps : (awaitRelease frame candidates).Steps false before events (.ok left) after) :
    left = [] ∨ after.buysBlockedReason = before.buysBlockedReason ∧
      ∃ cost, after.estimatedBuyCost = some cost ∧ cost ≤ before.view.investableCash := by
  unfold awaitRelease at steps
  obtain ⟨_,_,cost,estimated,_,ran,rest⟩ := steps_bind_ok steps
  obtain ⟨journal,rfl⟩ := journaled_estimateBuyCost candidates _ _ _ _ ran
  rw [steps_modify_bind,steps_get_bind] at rest
  split at rest
  · exact .inl (deferBuys_run rest).1
  · rename_i enough
    obtain ⟨_,_,rfl⟩ := steps_pure.mp rest
    exact .inr ⟨rfl,cost,rfl,not_lt.mp enough⟩

theorem blockBuys_run {candidates left : List String}
    (steps : (blockBuys frame candidates).Steps false before events (.ok left) after) :
    left = [] ∨ Passed frame before after := by
  unfold blockBuys at steps
  rw [steps_get_bind] at steps
  split at steps
  · obtain ⟨_,same,_⟩ := steps_pure.mp steps
    exact .inl (Except.ok.inj same)
  split at steps
  · exact .inl (deferBuys_run steps).1
  rename_i large
  split at steps
  · exact .inl (deferBuys_run steps).1
  rename_i allowed
  split at steps
  · rcases awaitRelease_run steps with none | ⟨reason,released⟩
    · exact .inl none
    · exact .inr ⟨by simpa using large,by simpa using allowed,reason,.inr released⟩
  · obtain ⟨_,_,rfl⟩ := steps_pure.mp steps
    exact .inr ⟨by simpa using large,by simpa using allowed,rfl,.inl rfl⟩

theorem requireCash_run {candidates left : List String}
    (steps : (requireCash frame candidates).Steps false before events (.ok left) after) :
    after.estimatedBuyCost = before.estimatedBuyCost ∧ (left = [] ∨ left = candidates ∧
      ¬(frame.settings.cashOnlyExecution = true ∧ before.view.availableCash < 0 ∧ before.buysBlockedReason = none)) := by
  unfold requireCash at steps
  rw [steps_get_bind] at steps
  split at steps
  · obtain ⟨none,same⟩ := deferBuys_run steps
    exact ⟨same,.inl none⟩
  rename_i notNegative
  split at steps
  · obtain ⟨_,same,rfl⟩ := steps_pure.mp steps
    exact ⟨rfl,.inl (Except.ok.inj same)⟩
  · obtain ⟨_,same,rfl⟩ := steps_pure.mp steps
    refine ⟨rfl,?_⟩
    cases candidates with
    | nil => exact .inl (Except.ok.inj same)
    | cons symbol rest =>
      refine .inr ⟨Except.ok.inj same,?_⟩
      rintro ⟨cashOnly,negative,none⟩
      exact notNegative (by simp [cashOnly,negative,none])

-- Under any of the four conditions no candidate is left.
theorem gateBuys_blocked {seen : List Observation} {candidates : List String} (tracks : Tracks frame seen funded)
    (steps : (gateBuys frame).Steps false funded events (.ok candidates) gated)
    (blocked : BuyBlocked frame seen funded gated) : candidates = [] := by
  unfold gateBuys at steps
  obtain ⟨_,_,_,noted,_,ran,steps⟩ := steps_bind_ok steps
  have quiet := quiet_noteForeignCash _ _ _ _ ran
  rw [steps_get_bind] at steps
  rcases steps_fromExcept_bind.mp steps with ⟨found,_,steps⟩ | ⟨_,_,_,wrong,_⟩
  · rw [steps_modify_bind] at steps
    obtain ⟨_,_,open_,blocking,_,ran,steps⟩ := steps_bind_ok steps
    have still := quiet_blockBuys frame _ _ _ _ _ ran
    obtain ⟨estimated,none | ⟨same,noDebt⟩⟩ := requireCash_run steps
    · exact none
    rcases blockBuys_run ran with none | passed
    · rw [same,none]
    · exfalso
      have gate : funded.gate.buyBlocked = false := by rw [← quiet.gate]; exact passed.allowed
      rcases blocked with small | ⟨enabled,observation,member,prohibits⟩ | ⟨_,_,cost,known,short⟩ | ⟨cashOnly,negative⟩
      · rw [passed.largeAccount] at small; cases small
      · rw [tracks.buyBlocked,enabled,Bool.true_and,List.any_eq_false] at gate
        exact gate observation member prohibits
      · rw [estimated] at known
        rcases passed.released with untouched | ⟨found,asked,enough⟩
        · rw [untouched] at known; cases known
        · rw [known] at asked
          obtain rfl := Option.some.inj asked
          have cash : (cost : ℚ) ≤ funded.view.investableCash := by rw [← quiet.view]; exact enough
          exact absurd short (not_lt.mpr cash)
      · refine noDebt ⟨cashOnly,?_,passed.reason⟩
        rw [still.view]
        show noted.view.availableCash < 0
        rw [quiet.view]; exact negative
  · cases wrong

-- The order of the rebuy is recorded, or its text is translated and it is submitted.
def RebuyPlaced (frame : Frame) (quantity reference : ℚ) (events : List Happening) : Prop :=
  frame.settings.dryRunOnly = true ∨
  (0 < submittedQuantity frame.settings (marketSymbol frame.settings frame.cashSweepSymbol) .buy quantity ∧
    ∃ message tail, events = .answered false (.translator "limit_buy" [("symbol",.text frame.cashSweepSymbol),
      ("qty",.quantity quantity),("price",.number reference)]) (.ok message) :: tail)

-- What the ports have to answer for the rebuy of the cash sweep to place an order.
def RebuyOrders (frame : Frame) (locals : Locals) (events : List Happening) : Prop :=
  rebuyAllowed frame locals = true ∧ ∃ snapshot price ratio limit rest,
    events = .answered true (.getQuote (marketSymbol frame.settings frame.cashSweepSymbol)) (.ok snapshot) ::
      .answered true (.estimateMaxPurchaseQuantity (marketSymbol frame.settings frame.cashSweepSymbol) .limit
        (rebuyReference frame price) false) (.ok limit) :: rest ∧
    snapshot.lastPrice = some price ∧ 0 < price ∧ price * 2 < locals.view.investableCash ∧
    clearsThreshold frame.settings locals.view.investableCash = true ∧
    divide locals.view.investableCash (rebuyReference frame price) = .ok ratio ∧
    0 < rebuyQuantity frame (floorToQuantityStep ratio 1) limit ∧
    RebuyPlaced frame (rebuyQuantity frame (floorToQuantityStep ratio 1) limit) (rebuyReference frame price) rest

def HasBuy (events : List Happening) : Prop := ∃ event ∈ events, isBuyOrder event = true

theorem hasBuy_append {first second : List Happening} : HasBuy (first ++ second) ↔ HasBuy first ∨ HasBuy second := by
  simp only [HasBuy,List.mem_append,or_and_right,exists_or]

theorem hasBuy_silent {silent : List Happening} (none : ∀ event ∈ silent, isOrder event = false) : ¬HasBuy silent := by
  rintro ⟨event,member,buys⟩
  rw [isBuyOrder_order (none event member)] at buys; cases buys

theorem hasBuy_cons {event : Happening} {rest : List Happening} (other : isOrder event = false) :
    HasBuy (event :: rest) ↔ HasBuy rest := by
  have one : ¬HasBuy [event] := hasBuy_silent (by simpa using other)
  rw [← List.singleton_append,hasBuy_append]
  exact ⟨fun found => found.resolve_left one,.inr⟩

theorem quiet_silent {script : Step α} {result : Except PyExc α} (quiet : Keeps Quiet false script)
    (steps : script.Steps false before events result after) : ∀ event ∈ events, isOrder event = false :=
  fun event member => (quiet_parts ((quiet _ _ _ _ steps).events event member)).1

theorem recordDryRun_buys {symbol : String} {quantity price : ℚ} {orderType : OrderType} {result : Except PyExc Bool}
    (steps : (recordDryRun symbol .buy quantity price orderType).Steps false before events result after) : HasBuy events := by
  unfold recordDryRun at steps
  simp only at steps
  rw [changeBook_bind] at steps
  obtain ⟨tail,rfl,_⟩ := steps_mark_bind.mp steps
  exact ⟨_,List.mem_cons_self,rfl⟩

theorem submitOrderViaPort_buys {settings : Settings} {symbol : String} {orderType : OrderType} {quantity : ℚ}
    {message : String} {price : Option ℚ} {result : Except PyExc Bool} (placing : before.book.submissionHalted = false)
    (steps : (submitOrderViaPort settings symbol orderType .buy quantity message price).Steps false before events result after) :
    HasBuy events ↔ 0 < submittedQuantity settings symbol .buy quantity := by
  unfold submitOrderViaPort at steps
  rw [steps_get_bind,placing] at steps
  simp only [Bool.false_eq_true,if_false] at steps
  split at steps
  · rename_i none
    have nothing : ¬0 < submittedQuantity settings symbol .buy quantity := not_lt.mpr none
    refine ⟨fun found => absurd found (hasBuy_silent (quiet_silent ?_ steps)),fun wrong => absurd wrong nothing⟩
    exact quiet_bind (quiet_call (fun _ => rfl)) (fun _ => quiet_pure _)
  · rename_i some_
    obtain ⟨answer,tail,rfl,_⟩ := steps_attempt_invoke_bind.mp steps
    exact ⟨fun _ => not_le.mp some_,fun _ => ⟨_,List.mem_cons_self,rfl⟩⟩

variable {quantity reference : ℚ} {more : List Happening}

theorem placeOrder_buys {result : Except PyExc Bool} (placing : before.book.submissionHalted = false)
    (steps : (placeOrder frame.settings frame.cashSweepSymbol .buy .limit quantity reference).Steps false before events result after)
    (silent : ∀ event ∈ more, isOrder event = false) :
    HasBuy (events ++ more) ↔ RebuyPlaced frame quantity reference (events ++ more) := by
  have only : HasBuy (events ++ more) ↔ HasBuy events :=
    hasBuy_append.trans ⟨fun found => found.resolve_right (hasBuy_silent silent),.inl⟩
  rw [only]
  unfold placeOrder at steps
  split at steps
  · rename_i dryRun
    exact ⟨fun _ => .inl dryRun,fun _ => recordDryRun_buys steps⟩
  · rename_i live
    rcases steps_invoke_bind.mp steps with ⟨message,tail,rfl,submitting⟩ | ⟨exc,rfl,_,_⟩
    · rw [hasBuy_cons rfl,submitOrderViaPort_buys placing submitting]
      refine ⟨fun positive => .inr ⟨positive,message,tail ++ more,rfl⟩,fun placed => ?_⟩
      exact (placed.resolve_left live).1
    · refine ⟨fun found => absurd found (hasBuy_silent (by simp [isOrder])),fun placed => ?_⟩
      obtain ⟨_,_,_,wrong⟩ := placed.resolve_left live
      cases wrong

theorem placeRebuy_buys {result : Except PyExc Unit} (placing : before.book.submissionHalted = false)
    (steps : (placeRebuy frame quantity reference).Steps false before events result after)
    (silent : ∀ event ∈ more, isOrder event = false) :
    HasBuy (events ++ more) ↔ RebuyPlaced frame quantity reference (events ++ more) := by
  rcases steps_bind.mp steps with ⟨one,two,submitted,middle,rfl,ran,rest⟩ | ⟨_,_,ran⟩
  · have noted : Keeps (Only fun event => !isOrder event) false (whenever submitted (do
        let message ← translate "cash_sweep_rebuy" [("symbol",.text (marketSymbol frame.settings frame.cashSweepSymbol)),
          ("qty",.quantity quantity),("price",.text (fixedText 2 reference))]
        noteLog message
        changeBook fun book => { book with actionDone := true })) := by
      refine keeps_ite (keeps_bind (only_composes _) ?_ (fun message => keeps_bind (only_composes _) ?_ (fun _ => ?_))) ?_
      · exact keeps_weaken (fun found event member => by simpa using (quiet_parts (found.events event member)).1)
          (quiet_translate (by simp))
      · exact keeps_weaken (fun found event member => by simpa using (quiet_parts (found.events event member)).1)
          (quiet_noteLog message)
      · exact keeps_modify (fun _ => by simp [Only])
      · exact keeps_pure (only_composes _) ()
    have quiet : ∀ event ∈ two ++ more, isOrder event = false := fun event member =>
      (List.mem_append.mp member).elim (fun inside => by simpa using noted _ _ _ _ rest event inside) (silent event)
    rw [List.append_assoc]
    exact placeOrder_buys placing ran quiet
  · exact placeOrder_buys placing ran silent

-- The estimator is asked first, and a failure of it leaves no quantity.
theorem estimateCashBuyQuantitySafe_run {symbol : String} {kind : OrderType} {price : ℚ} {fractional : Bool}
    {result : Except PyExc (Option ℚ)}
    (steps : (estimateCashBuyQuantitySafe symbol kind price fractional).Steps false before events result after) :
    (∃ limit, events = [.answered true (.estimateMaxPurchaseQuantity symbol kind price fractional) (.ok limit)] ∧
      result = .ok limit) ∨
    ∃ exc tail, events = .answered true (.estimateMaxPurchaseQuantity symbol kind price fractional) (.error exc) :: tail ∧
      (∀ event ∈ tail, isOrder event = false) ∧ ∀ limit, result = .ok limit → limit = none := by
  obtain ⟨answer,tail,rfl,rest⟩ := steps_attempt_invoke_bind.mp steps
  cases answer with
  | ok limit =>
    obtain ⟨rfl,rfl,_⟩ := steps_pure.mp rest
    exact .inl ⟨limit,rfl,rfl⟩
  | error exc =>
    refine .inr ⟨exc,tail,rfl,quiet_silent ?_ rest,?_⟩
    · exact quiet_bind (quiet_call (fun _ => rfl)) (fun _ => quiet_pure _)
    · rintro limit rfl
      obtain ⟨_,_,_,_,_,_,ended⟩ := steps_bind_ok rest
      obtain ⟨_,same,_⟩ := steps_pure.mp ended
      exact Except.ok.inj same

theorem rebuyQuantity_none (budget : ℚ) : ¬0 < rebuyQuantity frame budget none := by simp [rebuyQuantity]

-- What the rebuy still needs once a quote was found good enough.
def RebuySized (frame : Frame) (investableCash price : ℚ) (events : List Happening) : Prop := ∃ ratio limit rest,
  events = .answered true (.estimateMaxPurchaseQuantity (marketSymbol frame.settings frame.cashSweepSymbol) .limit
    (rebuyReference frame price) false) (.ok limit) :: rest ∧
  divide investableCash (rebuyReference frame price) = .ok ratio ∧
  0 < rebuyQuantity frame (floorToQuantityStep ratio 1) limit ∧
  RebuyPlaced frame (rebuyQuantity frame (floorToQuantityStep ratio 1) limit) (rebuyReference frame price) rest

theorem rebuySized_buys {investableCash price : ℚ} {result : Except PyExc Unit} (placing : before.book.submissionHalted = false)
    (steps : (rebuySized frame investableCash price).Steps false before events result after)
    (silent : ∀ event ∈ more, isOrder event = false) :
    HasBuy (events ++ more) ↔ RebuySized frame investableCash price (events ++ more) := by
  unfold rebuySized at steps
  simp only at steps
  rcases steps_fromExcept_bind.mp steps with ⟨ratio,divided,sizing⟩ | ⟨exc,failed,rfl,_,_⟩
  · rcases steps_bind.mp sizing with ⟨one,two,limit,middle,rfl,ran,placing_⟩ | ⟨exc,rfl,ran⟩
    · have book := (quiet_estimateCashBuyQuantitySafe _ _ _ _ _ _ _ _ ran).book
      rcases estimateCashBuyQuantitySafe_run ran with ⟨answer,rfl,same⟩ | ⟨exc,tail,rfl,none,lost⟩
      · obtain rfl := Except.ok.inj same
        rw [List.append_assoc,List.singleton_append,hasBuy_cons rfl]
        split at placing_
        · rename_i positive
          rw [placeRebuy_buys (by rw [book]; exact placing) placing_ silent]
          constructor
          · intro placed
            exact ⟨ratio,limit,two ++ more,rfl,divided,positive,placed⟩
          · rintro ⟨other,answer,rest,same,again,_,placed⟩
            obtain rfl : ratio = other := Except.ok.inj (divided.symm.trans again)
            injection same with head tail
            injection head with _ _ answers
            obtain rfl : limit = answer := Except.ok.inj answers
            rw [tail]; exact placed
        · rename_i nothing
          have quiet : ∀ event ∈ two ++ more, isOrder event = false := fun event member =>
            (List.mem_append.mp member).elim (quiet_silent (quiet_recordNoteLog _ _) placing_ event) (silent event)
          refine ⟨fun found => absurd found (hasBuy_silent quiet),?_⟩
          rintro ⟨other,answer,rest,same,again,positive,_⟩
          obtain rfl : ratio = other := Except.ok.inj (divided.symm.trans again)
          injection same with head _
          injection head with _ _ answers
          obtain rfl : limit = answer := Except.ok.inj answers
          exact absurd positive nothing
      · obtain rfl := lost limit rfl
        rw [if_neg (rebuyQuantity_none _)] at placing_
        have quiet : ∀ event ∈ tail ++ (two ++ more), isOrder event = false := fun event member =>
          (List.mem_append.mp member).elim (none event) (fun later => (List.mem_append.mp later).elim
            (quiet_silent (quiet_recordNoteLog _ _) placing_ event) (silent event))
        rw [List.append_assoc,List.cons_append,hasBuy_cons rfl]
        refine ⟨fun found => absurd found (hasBuy_silent quiet),?_⟩
        rintro ⟨_,_,_,same,_⟩
        injection same with head _
        injection head with _ _ answers
        cases answers
    · rcases estimateCashBuyQuantitySafe_run ran with ⟨_,_,wrong⟩ | ⟨exc,tail,rfl,none,_⟩
      · cases wrong
      · have quiet : ∀ event ∈ tail ++ more, isOrder event = false := fun event member =>
          (List.mem_append.mp member).elim (none event) (silent event)
        rw [List.cons_append,hasBuy_cons rfl]
        refine ⟨fun found => absurd found (hasBuy_silent quiet),?_⟩
        rintro ⟨_,_,_,same,_⟩
        injection same with head _
        injection head with _ _ answers
        cases answers
  · rw [List.singleton_append,hasBuy_cons rfl]
    refine ⟨fun found => absurd found (hasBuy_silent silent),?_⟩
    rintro ⟨_,_,_,same,_⟩
    cases same

theorem recordQuoteSnapshot_run {snapshot : QuoteSnapshot} {result : Except PyExc Unit}
    (steps : (recordQuoteSnapshot snapshot).Steps held before events result after) : events = [] ∧ result = .ok () := by
  unfold recordQuoteSnapshot whenever at steps
  simp only at steps
  split at steps
  · obtain ⟨rfl,rfl,_⟩ := steps_modify.mp steps; exact ⟨rfl,rfl⟩
  · obtain ⟨rfl,rfl,_⟩ := steps_pure.mp steps; exact ⟨rfl,rfl⟩

theorem quotedPrice_run {symbol : String} {result : Except PyExc ℚ}
    (steps : (quotedPrice symbol).Steps held before events result after) :
    ∃ answer tail, events = .answered held (.getQuote symbol) answer :: tail ∧ (∀ event ∈ tail, isOrder event = false) ∧
      ((∃ snapshot price, answer = .ok snapshot ∧ snapshot.lastPrice = some price ∧ tail = [] ∧ result = .ok price) ∨
       (∀ snapshot price, answer = .ok snapshot → snapshot.lastPrice ≠ some price) ∧ ∃ exc, result = .error exc) := by
  rcases steps_invoke_bind.mp steps with ⟨snapshot,tail,rfl,rest⟩ | ⟨exc,rfl,rfl,_⟩
  · rcases steps_bind.mp rest with ⟨one,two,_,_,rfl,ran,pricing⟩ | ⟨_,_,ran⟩
    · obtain ⟨rfl,_⟩ := recordQuoteSnapshot_run ran
      cases known : snapshot.lastPrice with
      | none =>
        have failed : lastPrice snapshot = .error ⟨"TypeError","float() argument must be a string or a real number"⟩ := by
          unfold lastPrice; rw [known]
        rw [failed] at pricing
        obtain ⟨rfl,rfl,_⟩ := steps_raise.mp pricing
        refine ⟨.ok snapshot,_,rfl,by simp [isOrder],.inr ⟨?_,_,rfl⟩⟩
        rintro other price same found
        obtain rfl : snapshot = other := Except.ok.inj same
        rw [known] at found; cases found
      | some amount =>
        have priced : lastPrice snapshot = .ok amount := by unfold lastPrice; rw [known]
        rw [priced] at pricing
        obtain ⟨rfl,rfl,_⟩ := steps_pure.mp pricing
        exact ⟨.ok snapshot,[],rfl,by simp,.inl ⟨snapshot,amount,rfl,known,rfl,rfl⟩⟩
    · obtain ⟨_,wrong⟩ := recordQuoteSnapshot_run ran
      cases wrong
  · exact ⟨.error exc,[],rfl,by simp,.inr ⟨fun _ _ wrong => (by cases wrong),exc,rfl⟩⟩

theorem safeQuoteLastPrice_run {symbol : String} {result : Except PyExc (Option ℚ)}
    (steps : (safeQuoteLastPrice symbol).Steps false before events result after) :
    ∃ answer tail, events = .answered true (.getQuote symbol) answer :: tail ∧ (∀ event ∈ tail, isOrder event = false) ∧
      ((∃ snapshot price, answer = .ok snapshot ∧ snapshot.lastPrice = some price ∧ tail = [] ∧ result = .ok (some price)) ∨
       (∀ snapshot price, answer = .ok snapshot → snapshot.lastPrice ≠ some price) ∧
        ∀ price, result = .ok price → price = none) := by
  rcases steps_bind.mp steps with ⟨one,two,quoted,_,rfl,ran,rest⟩ | ⟨_,_,ran⟩
  · obtain ⟨reply,same,inside⟩ := steps_attempt.mp ran
    obtain rfl := Except.ok.inj same
    obtain ⟨answer,tail,rfl,none,⟨snapshot,price,good,found,ended,rfl⟩ | ⟨unpriced,exc,rfl⟩⟩ := quotedPrice_run inside
    · obtain ⟨rfl,rfl,_⟩ := steps_pure.mp rest
      refine ⟨answer,tail,by rw [List.append_nil],none,.inl ⟨snapshot,price,good,found,ended,rfl⟩⟩
    · have quiet := quiet_silent (quiet_bind (quiet_call (fun _ => rfl)) (fun _ => quiet_pure _)) rest
      refine ⟨answer,tail ++ two,rfl,?_,.inr ⟨unpriced,?_⟩⟩
      · exact fun event member => (List.mem_append.mp member).elim (none event) (quiet event)
      · rintro price rfl
        obtain ⟨_,_,_,_,_,_,ended⟩ := steps_bind_ok rest
        obtain ⟨_,same,_⟩ := steps_pure.mp ended
        exact Except.ok.inj same
  · obtain ⟨_,wrong,_⟩ := steps_attempt.mp ran
    cases wrong

theorem rebuyCashSweep_buys {result : Except PyExc Unit}
    (steps : (rebuyCashSweep frame).Steps false before events result after)
    (silent : ∀ event ∈ more, isOrder event = false) : HasBuy (events ++ more) ↔ RebuyOrders frame before (events ++ more) := by
  unfold rebuyCashSweep at steps
  rw [steps_get_bind] at steps
  split at steps
  · rename_i allowed
    have placing := rebuyAllowed_placing allowed
    rcases steps_bind.mp steps with ⟨one,two,price,middle,rfl,ran,rest⟩ | ⟨exc,rfl,ran⟩
    · have book := (quiet_safeQuoteLastPrice _ _ _ _ _ ran).book
      obtain ⟨answer,tail,rfl,none,⟨snapshot,found,rfl,priced,rfl,same⟩ | ⟨unpriced,lost⟩⟩ := safeQuoteLastPrice_run ran
      · obtain rfl := Except.ok.inj same
        rw [List.append_assoc,List.singleton_append,hasBuy_cons rfl]
        simp only at rest
        split at rest
        · rename_i good
          rw [rebuySized_buys (by rw [book]; exact placing) rest silent]
          constructor
          · rintro ⟨ratio,limit,left,split,divided,positive,placed⟩
            exact ⟨allowed,snapshot,found,ratio,limit,left,by rw [split],priced,good.1,good.2.1,good.2.2,divided,positive,placed⟩
          · rintro ⟨_,other,price,ratio,limit,left,split,known,_,_,_,divided,positive,placed⟩
            injection split with head tail
            injection head with _ _ answers
            obtain rfl : snapshot = other := Except.ok.inj answers
            obtain rfl : found = price := Option.some.inj (priced.symm.trans known)
            exact ⟨ratio,limit,left,tail,divided,positive,placed⟩
        · rename_i bad
          obtain ⟨rfl,_,_⟩ := steps_pure.mp rest
          refine ⟨fun buys => absurd buys (hasBuy_silent silent),?_⟩
          rintro ⟨_,other,price,_,_,_,split,known,positive,more_,clears,_⟩
          injection split with head _
          injection head with _ _ answers
          obtain rfl : snapshot = other := Except.ok.inj answers
          obtain rfl : found = price := Option.some.inj (priced.symm.trans known)
          exact absurd ⟨positive,more_,clears⟩ bad
      · obtain rfl := lost price rfl
        obtain ⟨rfl,_,_⟩ := steps_pure.mp rest
        have quiet : ∀ event ∈ tail ++ more, isOrder event = false := fun event member =>
          (List.mem_append.mp member).elim (none event) (silent event)
        rw [List.append_nil,List.cons_append,hasBuy_cons rfl]
        refine ⟨fun buys => absurd buys (hasBuy_silent quiet),?_⟩
        rintro ⟨_,other,price,_,_,_,split,known,_⟩
        injection split with head _
        injection head with _ _ answers
        exact absurd known (unpriced other price answers)
    · obtain ⟨answer,tail,rfl,none,⟨_,_,_,_,_,wrong⟩ | ⟨unpriced,_⟩⟩ := safeQuoteLastPrice_run ran
      · cases wrong
      · have quiet : ∀ event ∈ tail ++ more, isOrder event = false := fun event member =>
          (List.mem_append.mp member).elim (none event) (silent event)
        rw [List.cons_append,hasBuy_cons rfl]
        refine ⟨fun buys => absurd buys (hasBuy_silent quiet),?_⟩
        rintro ⟨_,other,price,_,_,_,split,known,_⟩
        injection split with head _
        injection head with _ _ answers
        exact absurd known (unpriced other price answers)
  · rename_i forbidden
    obtain ⟨rfl,_,_⟩ := steps_pure.mp steps
    exact ⟨fun buys => absurd buys (hasBuy_silent silent),fun orders => absurd orders.1 forbidden⟩

theorem buyPhase_buys {result : Except PyExc CycleResult}
    (steps : (buyPhase frame []).Steps false before events result after) : HasBuy events ↔ RebuyOrders frame before events := by
  unfold buyPhase at steps
  rcases steps_bind.mp steps with ⟨one,two,_,_,rfl,none,rest⟩ | ⟨_,_,none⟩
  · obtain ⟨rfl,_,rfl⟩ := steps_pure.mp none
    rw [List.nil_append]
    rcases steps_bind.mp rest with ⟨first,second,_,_,rfl,ran,ended⟩ | ⟨_,_,ran⟩
    · exact rebuyCashSweep_buys ran (quiet_silent (quiet_finishCycle frame) ended)
    · have alone := @rebuyCashSweep_buys _ _ _ _ [] _ ran (by simp)
      rwa [List.append_nil] at alone
  · obtain ⟨_,wrong,_⟩ := steps_pure.mp none
    cases wrong

theorem funding_tracks {seen : List Observation} (tracks : Tracks frame seen before)
    (funding : Funding frame before events after) : Tracks frame (seen ++ observed events) after := by
  cases funding with
  | untouched => rw [observed,List.filterMap_nil,List.append_nil]; exact tracks
  | simulated dryRun proceeds quiet book gate view =>
    rw [observed_other (fun event member => quiet_other (quiet event member)),List.append_nil]
    exact tracks_same gate tracks
  | refreshed live found other scaled adopted =>
    rw [observed_append,observed_cons,observed_other other]
    simpa [observation?] using tracks_same adopted.gate (found.tracks seen tracks)

theorem sellAndFund_tracks (opened : GateOpened frame before)
    (steps : (sellAndFund frame).Steps false before events (.ok ()) after) :
    Tracks frame (frame.opening :: observed events) after := by
  obtain ⟨sells,other,⟨_,wrong⟩ | ⟨middle,rest,rfl,sold,funding⟩⟩ := sellAndFund_parts steps
  · exact absurd rfl wrong
  · have tracks := funding_tracks (tracks_same sold.gate (gateOpened_tracks opened)) (fundFromSells_run funding)
    rw [observed_append,observed_cons,observed_other other]
    simpa [observation?] using tracks

theorem rebuyOrders_large {locals : Locals} (orders : RebuyOrders frame locals events) : frame.smallAccountBuyBlocked = false := by
  have allowed := orders.1
  unfold rebuyAllowed at allowed
  simp only [Bool.and_eq_true,Bool.not_eq_true'] at allowed
  exact allowed.1.2

-- Under a blocking condition the candidates are gone, and the only order that can still be placed is the
-- rebuy of the cash sweep, which asks for the small account only.
theorem blocked_buys_leave_the_rebuy {opened : Locals} {first sold gates buys : List Happening} {candidates : List String}
    {result : Except PyExc CycleResult}
    (opening : (openCycle frame).Steps false (openingLocals frame.opening) first (.ok false) opened)
    (selling : (sellAndFund frame).Steps false opened sold (.ok ()) funded)
    (gating : (gateBuys frame).Steps false funded gates (.ok candidates) gated)
    (buying : (buyPhase frame candidates).Steps false gated buys result after)
    (blocked : BuyBlocked frame (frame.opening :: observed sold) funded gated) :
    ((∀ event ∈ gates ++ buys, isBuyOrder event = false) ↔ ¬RebuyOrders frame gated buys) ∧
      (frame.smallAccountBuyBlocked = true → ∀ event ∈ gates ++ buys, isBuyOrder event = false) := by
  obtain rfl := gateBuys_blocked (sellAndFund_tracks (openCycle_run opening).1 selling) gating blocked
  have silent : ¬HasBuy gates := hasBuy_silent (quiet_silent (quiet_gateBuys frame) gating)
  have never : ¬HasBuy buys → ∀ event ∈ gates ++ buys, isBuyOrder event = false := by
    intro none event member
    by_contra buys_
    rcases hasBuy_append.mp ⟨event,member,by simpa using buys_⟩ with early | late
    · exact silent early
    · exact none late
  constructor
  · rw [← buyPhase_buys buying]
    refine ⟨?_,never⟩
    rintro none ⟨event,member,buys_⟩
    rw [none event (List.mem_append_right _ member)] at buys_; cases buys_
  · intro small
    apply never
    intro bought
    have large := rebuyOrders_large ((buyPhase_buys buying).mp bought)
    rw [small] at large
    cases large

-- An account at its loss limit, with cash and an empty cash-sweep position.
def idleSweep (cashSweepSymbol : String) : Observation :=
  observe { hold [("BOXX",0)] [("BOXX",0)] 10000 cashSweepSymbol with fields := OrderAdapter.lossAtLimit } (approved 10000 0)
    (allocate ["BOXX"] [] [("BOXX",0)])

def idleSweepFrame (cashSweepSymbol : String) : Frame :=
  ⟨wholeShareSettings false,testedKit,fun _ => none,idleSweep cashSweepSymbol⟩

def gatedRun (world : World ports PyExc) (frame : Frame) : List Happening × Except PyExc (List String) × Locals :=
  play world [] ((gateBuys frame).run false (fundedRun world frame).2.2)

def boughtRun (world : World ports PyExc) (frame : Frame) : List Happening × Except PyExc CycleResult × Locals :=
  play world [] ((buyPhase frame []).run false (gatedRun world frame).2.2)

-- New risk is prohibited from the start, and the sweep symbol is bought all the same.
theorem prohibited_risk_is_bought : ∃ (frame : Frame) (first sold gates buys : List Happening) (opened funded gated after : Locals)
    (candidates : List String) (result : Except PyExc CycleResult),
    (openCycle frame).Steps false (openingLocals frame.opening) first (.ok false) opened ∧
    (sellAndFund frame).Steps false opened sold (.ok ()) funded ∧
    (gateBuys frame).Steps false funded gates (.ok candidates) gated ∧
    (buyPhase frame candidates).Steps false gated buys result after ∧
    BuyBlocked frame (frame.opening :: observed sold) funded gated ∧ ∃ event ∈ gates ++ buys, isBuyOrder event = true := by
  have opens := play_steps (openedRun (calmWorld (idleSweep "BOXX")) (idleSweepFrame "BOXX")) false rfl (by decide +kernel)
  have funds := play_steps (fundedRun (calmWorld (idleSweep "BOXX")) (idleSweepFrame "BOXX")) () rfl (by decide +kernel)
  have gates := play_steps (gatedRun (calmWorld (idleSweep "BOXX")) (idleSweepFrame "BOXX")) [] rfl (by decide +kernel)
  refine ⟨idleSweepFrame "BOXX",_,_,_,_,_,_,_,_,[],_,opens,funds,gates,
    play_runs (calmWorld (idleSweep "BOXX")) [] ((buyPhase (idleSweepFrame "BOXX") []).run false _),?_,?_⟩
  · exact .inr (.inl ⟨by decide +kernel,idleSweep "BOXX",List.mem_cons_self,by decide +kernel⟩)
  · exact List.any_eq_true.mp (by decide +kernel)

-- The same account with a symbol to buy, and too little cash for the sweep.
def waitingSymbol : Observation :=
  observe { hold [("SPY",0),("BOXX",0)] [("SPY",0),("BOXX",0)] 900 "BOXX" with fields := OrderAdapter.lossAtLimit } (approved 900 0)
    (allocate ["SPY","BOXX"] ["SPY"] [("SPY",400),("BOXX",0)])

def waitingFrame : Frame := ⟨wholeShareSettings false,testedKit,fun _ => none,waitingSymbol⟩

theorem prohibited_risk_buys_nothing :
    buyCandidates waitingFrame.settings (fundedRun (calmWorld waitingSymbol) waitingFrame).2.2.view = .ok ["SPY"] ∧
    ((gatedRun (calmWorld waitingSymbol) waitingFrame).1 ++ (boughtRun (calmWorld waitingSymbol) waitingFrame).1).any isBuyOrder = false := by
  have opens := play_steps (openedRun (calmWorld waitingSymbol) waitingFrame) false rfl (by decide +kernel)
  have funds := play_steps (fundedRun (calmWorld waitingSymbol) waitingFrame) () rfl (by decide +kernel)
  have gates := play_steps (gatedRun (calmWorld waitingSymbol) waitingFrame) [] rfl (by decide +kernel)
  have none := (blocked_buys_leave_the_rebuy opens funds gates
    (play_runs (calmWorld waitingSymbol) [] ((buyPhase waitingFrame []).run false _)) ?_).1.mpr ?_
  · refine ⟨by decide +kernel,List.any_eq_false.mpr ?_⟩
    intro event member
    simpa using none event member
  · exact .inr (.inl ⟨by decide +kernel,waitingSymbol,List.mem_cons_self,by decide +kernel⟩)
  · rintro ⟨_,_,_,_,_,_,_,_,_,_,clears,_⟩
    exact absurd clears (by decide +kernel)

end LongBridge.Cycle
