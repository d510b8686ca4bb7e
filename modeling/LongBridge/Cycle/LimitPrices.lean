import LongBridge.Cycle.Divisions

namespace LongBridge.Cycle
open Effects

-- A quote the market data port has answered.
def quoteOf : Happening → Option (String × ℚ)
  | .answered _ (.getQuote symbol) (.ok snapshot) => snapshot.lastPrice.map fun price => (symbol,price)
  | _ => none

-- What a quote leaves of itself once it is multiplied and rounded to cents: a
-- limit to sell at, a price to divide by, and a limit to buy the sweep back at.
def CentsFit (frame : Frame) (symbol : String) (price : ℚ) : Prop :=
  (∀ name ∈ frame.opening.allocation.riskSymbols ++ frame.opening.allocation.incomeSymbols,
    marketSymbol frame.settings name = symbol → 0 < roundTo 2 (price * frame.settings.limitSellDiscount)) ∧
  (frame.settings.fractionalBuyExecution = true → roundTo 2 price ≠ 0) ∧
  (symbol = frame.sweepTraded → 0 < price → limitBuyPrice frame.settings frame.cashSweepSymbol price ≠ 0)

instance (frame : Frame) (symbol : String) (price : ℚ) : Decidable (CentsFit frame symbol price) :=
  inferInstanceAs (Decidable ((∀ name ∈ frame.opening.allocation.riskSymbols ++ frame.opening.allocation.incomeSymbols,
    marketSymbol frame.settings name = symbol → 0 < roundTo 2 (price * frame.settings.limitSellDiscount)) ∧
    (frame.settings.fractionalBuyExecution = true → roundTo 2 price ≠ 0) ∧
    (symbol = frame.sweepTraded → 0 < price → limitBuyPrice frame.settings frame.cashSweepSymbol price ≠ 0)))

def QuotesFit (frame : Frame) (events : List Happening) : Prop :=
  ∀ quote ∈ events.filterMap quoteOf, CentsFit frame quote.1 quote.2

theorem quotesFit_append {frame : Frame} {first second : List Happening} :
    QuotesFit frame (first ++ second) ↔ QuotesFit frame first ∧ QuotesFit frame second := by
  unfold QuotesFit
  rw [List.filterMap_append]
  constructor
  · intro fits
    exact ⟨fun quote member => fits quote (List.mem_append_left _ member),fun quote member => fits quote (List.mem_append_right _ member)⟩
  · intro fits quote member
    exact (List.mem_append.mp member).elim (fits.1 quote) (fits.2 quote)

theorem roundHalfEven_whole (value : ℤ) : roundHalfEven value = value := by
  unfold roundHalfEven
  simp

-- Cents are a fortiori hundredths of a cent.
theorem roundTo_cents (value : ℚ) : roundTo 4 (roundTo 2 value) = roundTo 2 value := by
  have whole : roundTo 2 value * 10 ^ 4 = ((roundHalfEven (value * 10 ^ 2) * 100 : ℤ) : ℚ) := by
    unfold roundTo
    push_cast
    ring
  show (roundHalfEven (roundTo 2 value * 10 ^ 4) : ℚ) / 10 ^ 4 = roundTo 2 value
  rw [whole,roundHalfEven_whole,← whole]
  ring

theorem limitBuyPrice_cents (settings : Settings) (symbol : String) (price : ℚ) :
    ∃ value, limitBuyPrice settings symbol price = roundTo 2 value := ⟨_,rfl⟩

variable {frame : Frame} {held : Bool} {before middle after : Locals} {events : List Happening} {allowed : Happening → Bool}

theorem sound_afterSubmission (settings : Settings) (intent : OrderIntent) (report : ExecutionReport) (message : String) :
    Keeps Sound held (afterSubmission settings intent report message) := by
  have suffixed : Keeps Sound held (appendOrderIdSuffix message report.brokerOrderId) :=
    keeps_ite (sound_pure _) (sound_bind sound_translate fun _ => sound_pure _)
  apply sound_bind suffixed
  intro shown
  apply sound_bind sound_translate
  intro pending
  apply sound_bind (sound_changeJournal _)
  intro _
  apply sound_bind (sound_printPrefixed _)
  intro _
  exact sound_whenever (sound_call fun _ => rfl)

theorem sound_recordUnknown {intent : OrderIntent} {answer : Except PyExc (Option ExecutionReport)} {brokerOrderId : Option String} :
    Keeps Sound held (recordUnknown intent answer brokerOrderId) := by
  apply sound_bind (sound_changeBook _)
  intro _
  apply sound_bind (sound_changeBook _)
  intro _
  exact sound_bind (sound_notifySubmissionIssue _ _) fun _ => sound_pure _

theorem sound_recordKnown {settings : Settings} {intent : OrderIntent} {report : ExecutionReport} {message : String} :
    Keeps Sound held (recordKnown settings intent report message) := by
  apply sound_bind (sound_changeBook _)
  intro _
  apply sound_bind (sound_changeBook _)
  intro _
  apply sound_bind (keeps_attempt (sound_afterSubmission settings intent report message))
  intro finished
  cases finished with
  | ok _ => exact sound_pure _
  | error _ =>
    apply sound_bind (sound_changeBook _)
    intro _
    exact sound_bind (sound_notifySubmissionIssue _ _) fun _ => sound_pure _

theorem sound_recordAnswer {settings : Settings} {intent : OrderIntent} {message : String}
    {answer : Except PyExc (Option ExecutionReport)} : Keeps Sound held (recordAnswer settings intent message answer) := by
  rcases answer with exc | ⟨_ | report⟩
  · exact sound_recordUnknown
  · exact sound_recordUnknown
  · unfold recordAnswer
    apply keeps_ite
    · exact sound_bind (sound_notifySubmissionIssue _ _) fun _ => sound_pure _
    · exact keeps_ite sound_recordKnown sound_recordUnknown

section placing
variable {settings : Settings} {symbol : String} {side : Side} {orderType : OrderType} {quantity price : ℚ}

theorem limitStands_of_positive (positive : orderType = .limit → 0 < price) :
    limitStands orderType (if orderType = .limit then some price else none) = true := by
  cases orderType with
  | market => rfl
  | limit => simpa [limitStands] using positive rfl

theorem sound_submitOrderViaPort {message : String} (positive : orderType = .limit → 0 < price) :
    Keeps Sound false (submitOrderViaPort settings symbol orderType side quantity message (if orderType = .limit then some price else none)) := by
  apply keeps_get_bind
  intro locals
  apply keeps_ite (sound_pure false)
  apply keeps_ite
  · exact sound_bind (sound_call fun _ => rfl) fun _ => sound_pure _
  · refine sound_bind (keeps_attempt (sound_call fun answer => ?_)) fun _ => sound_recordAnswer
    show (limitStands orderType (if orderType = .limit then some price else none) && true) = true
    rw [limitStands_of_positive positive]
    rfl

theorem sound_recordDryRun (positive : orderType = .limit → 0 < roundTo 4 price) :
    Keeps Sound false (recordDryRun symbol side quantity price orderType) := by
  apply sound_bind (sound_changeBook _)
  intro _
  refine sound_bind (sound_mark ?_) fun _ => ?_
  · show (limitStands orderType (if orderType = .limit then some (roundTo 4 price) else none) && true) = true
    rw [limitStands_of_positive positive]
    rfl
  · apply sound_bind sound_translate
    intro sideText
    apply sound_bind sound_translate
    intro typeText
    apply sound_bind sound_translate
    intro message
    apply sound_bind (sound_changeJournal _)
    intro _
    exact sound_bind (sound_printPrefixed _) fun _ => sound_pure _

-- Every limit of the cycle is in cents; a positive one is recorded and submitted as such.
theorem sound_placeOrder (cents : orderType = .limit → (∃ value, price = roundTo 2 value) ∧ 0 < price) :
    Keeps Sound false (placeOrder settings symbol side orderType quantity price) := by
  apply keeps_ite
  · apply sound_recordDryRun
    intro limit
    obtain ⟨⟨value,rounded⟩,positive⟩ := cents limit
    rw [rounded,roundTo_cents,← rounded]
    exact positive
  · exact sound_bind sound_translate fun _ => sound_submitOrderViaPort fun limit => (cents limit).2

end placing

-- The buys: their only divisions are by a price in cents.

theorem sound_divide {dividend divisor : ℚ} (nonzero : divisor ≠ 0) : Keeps Sound held (Script.fromExcept (divide dividend divisor) : Step ℚ) := by
  apply sound_fromExcept
  intro exc failed
  unfold divide at failed
  rw [if_neg nonzero] at failed
  cases failed

theorem sound_estimateCashBuyQuantitySafe (symbol : String) (kind : OrderType) (price : ℚ) (fractional : Bool) :
    Keeps Sound held (estimateCashBuyQuantitySafe symbol kind price fractional) := by
  apply sound_bind (keeps_attempt (sound_call fun _ => rfl))
  intro estimated
  cases estimated with
  | ok quantity => exact sound_pure _
  | error exc => exact sound_bind (sound_call fun _ => rfl) fun _ => sound_pure _

theorem sound_estimateBuyQuantityCandidate {symbol : String} {kind : OrderType} {reference value : ℚ} (nonzero : reference ≠ 0) :
    Keeps Sound held (estimateBuyQuantityCandidate frame symbol kind reference value) := by
  apply sound_bind (sound_divide nonzero)
  intro ratio
  exact sound_bind (sound_estimateCashBuyQuantitySafe _ _ _ _) fun _ => sound_pure _

theorem sound_finishCycle : Keeps Sound false (finishCycle frame) := by
  apply keeps_get_bind
  intro locals
  refine sound_bind (sound_call fun _ => rfl) (fun notes => ?_) locals
  apply sound_bind (sound_changeJournal _)
  intro _
  apply sound_bind (sound_mark rfl)
  intro _
  apply keeps_get_bind
  intro finished
  exact sound_pure _ finished

-- A planned whole-share quantity needs a positive price.
theorem planned_price {target value quantity budget available reference step : ℚ} {topUp : Bool}
    (planned : 0 < plannedWholeShareBuyQuantity target value quantity budget available reference step topUp) : 0 < reference := by
  by_contra small
  unfold plannedWholeShareBuyQuantity at planned
  rw [max_eq_left (not_lt.mp small)] at planned
  simp at planned

theorem sound_placeBuy {symbol : String} {kind : OrderType} {quantity reference price : ℚ}
    (cents : kind = .limit → (∃ value, reference = roundTo 2 value) ∧ 0 < reference) :
    Keeps Sound false (placeBuy frame symbol kind quantity reference price) := by
  apply sound_bind
  · apply sound_placeOrder
    intro limit
    rw [if_pos limit]
    exact cents limit
  · intro submitted
    exact sound_whenever (sound_bind sound_modify fun _ => sound_changeBook _)

-- What the price of a buy is divided by, and set as its limit.
theorem sound_buyQuoted {symbol : String} {gap price : ℚ}
    (fit : frame.settings.fractionalBuyExecution = true → roundTo 2 price ≠ 0) :
    Keeps Sound false (buyQuoted frame symbol gap price) := by
  apply keeps_get_bind
  intro locals
  refine sound_bind (sound_fromExcept undividing_buyHolding) (fun holding => ?_) locals
  intro start
  apply keepsFrom_ite
  · intro affordable
    have reference : (frame.settings.fractionalBuyExecution = true ∧ buyOrderType frame locals.view symbol = .market ∧
          buyReference frame locals.view symbol price ≠ 0) ∨ 0 < buyReference frame locals.view symbol price := by
      cases fractional : frame.settings.fractionalBuyExecution with
      | true =>
        left
        have market : buyOrderType frame locals.view symbol = .market := by
          unfold buyOrderType
          rw [fractional]
          rfl
        refine ⟨rfl,market,?_⟩
        unfold buyReference
        rw [market,if_neg (by decide)]
        exact fit fractional
      | false =>
        right
        rw [fractional] at affordable
        exact planned_price (of_decide_eq_true affordable)
    have nonzero : buyReference frame locals.view symbol price ≠ 0 := by
      rcases reference with ⟨_,_,nonzero⟩ | positive
      · exact nonzero
      · exact ne_of_gt positive
    refine sound_bind (sound_estimateBuyQuantityCandidate nonzero) (fun candidate => ?_) start
    cases candidate with
    | none => exact sound_pure ()
    | some candidate =>
      apply keeps_ite (sound_recordNoteLog _ _)
      apply sound_placeBuy
      intro limit
      rcases reference with ⟨_,market,_⟩ | positive
      · rw [market] at limit
        cases limit
      · refine ⟨?_,positive⟩
        unfold buyReference
        rw [if_pos limit]
        exact limitBuyPrice_cents _ _ _
  · intro _
    exact keeps_ite (sound_recordNoteLog _ _) (sound_recordNoteLog _ _) start

-- What holds of a run as long as its quotes leave something.
def Fitting (frame : Frame) (allowed : Happening → Bool) (_ : Locals) (events : List Happening) (_ : Locals) : Prop :=
  QuotesFit frame events → ∀ event ∈ events, allowed event = true

theorem fitting_composes : Composes (Fitting frame allowed) where
  refl _ := by
    intro _ event member
    cases member
  trans one two := by
    intro fits event member
    obtain ⟨early,late⟩ := quotesFit_append.mp fits
    exact (List.mem_append.mp member).elim (one early event) (two late event)

theorem fitting_only {script : Step α} (only : Keeps (Only allowed) false script) : Keeps (Fitting frame allowed) false script :=
  keeps_weaken (fun found _ => found) only

theorem fitting_weaken {narrow : Happening → Bool} (wider : ∀ event, narrow event = true → allowed event = true)
    (found : Fitting frame narrow before events after) : Fitting frame allowed before events after :=
  fun fits event member => wider event (found fits event member)

theorem fitting_bind {script : Step α} {rest : α → Step β} (first : Keeps (Fitting frame allowed) false script)
    (second : ∀ value, Keeps (Fitting frame allowed) false (rest value)) : Keeps (Fitting frame allowed) false (script >>= rest) :=
  keeps_bind fitting_composes first second

-- After a quote the rest may use that its price fits.
theorem fitting_quoted {symbol : String} {rest : Option ℚ → Step β} (quote : Keeps (Only allowed) false (safeQuoteLastPrice symbol))
    (unquoted : ∀ middle, KeepsFrom (Fitting frame allowed) false middle (rest none))
    (quoted : ∀ price middle, CentsFit frame symbol price → middle.view = before.view → middle.book = before.book →
      KeepsFrom (Fitting frame allowed) false middle (rest (some price))) :
    KeepsFrom (Fitting frame allowed) false before (safeQuoteLastPrice symbol >>= rest) := by
  intro events result after steps fits event member
  rcases steps_bind.mp steps with ⟨one,two,price,middle,rfl,ran,ended⟩ | ⟨error,rfl,ran⟩
  · obtain ⟨early,late⟩ := quotesFit_append.mp fits
    have quiet := quiet_safeQuoteLastPrice _ _ _ _ _ ran
    have later : ∀ event ∈ two, allowed event = true := by
      cases price with
      | none => exact unquoted middle _ _ _ ended late
      | some price =>
        refine quoted price middle ?_ quiet.view quiet.book _ _ _ ended late
        obtain ⟨answer,tail,rfl,_,⟨snapshot,found,rfl,known,_,same⟩ | ⟨_,lost⟩⟩ := safeQuoteLastPrice_run ran
        · cases same
          apply early (symbol,price)
          simp [quoteOf,known]
        · cases lost _ rfl
    exact (List.mem_append.mp member).elim (quote _ _ _ _ ran event) (later event)
  · exact quote _ _ _ _ ran event member

theorem fitting_buySymbol {symbol : String} : Keeps (Fitting frame isSound) false (buySymbol frame symbol) := by
  apply keeps_get_bind
  intro locals
  refine keepsFrom_bind fitting_composes (fitting_only (sound_fromExcept undividing_targetGap) locals) fun _ gap start _ => ?_
  apply fitting_quoted (sound_safeQuoteLastPrice _)
  · intro middle
    exact fitting_only (sound_pure ()) middle
  · intro price middle fit _ _
    exact fitting_only (sound_buyQuoted fit.2.1) middle

theorem fitting_buyLoop (candidates : List String) : Keeps (Fitting frame isSound) false (buyLoop frame candidates) := by
  induction candidates with
  | nil => exact fitting_only (sound_pure ())
  | cons symbol rest ih =>
    apply keeps_get_bind
    intro locals
    exact keeps_ite (fitting_only (sound_pure ())) (fitting_bind fitting_buySymbol fun _ => ih) locals

-- A rebuy needs a positive budget, and that a positive price.
theorem rebuy_price {budget investable reference : ℚ} {limit : Option ℚ} (funds : 0 < investable)
    (sized : budget = floorToQuantityStep (investable / reference) 1) (positive : 0 < rebuyQuantity frame budget limit) : 0 < reference := by
  by_contra small
  have none : investable / reference ≤ 0 := div_nonpos_of_nonneg_of_nonpos funds.le (not_lt.mp small)
  have empty : budget = 0 := by
    rw [sized]
    unfold floorToQuantityStep
    rw [if_pos none]
  cases limit with
  | none => exact absurd positive (lt_irrefl 0)
  | some limit =>
    unfold rebuyQuantity at positive
    dsimp only at positive
    rw [empty] at positive
    unfold normalizeTradeQuantity at positive
    rw [max_eq_left (min_le_left 0 limit)] at positive
    simp at positive

theorem sound_rebuySized {investable price : ℚ} (funds : 0 < investable) (nonzero : rebuyReference frame price ≠ 0) : Keeps Sound false (rebuySized frame investable price) := by
  intro before
  refine keepsFrom_bind sound_composes (sound_divide nonzero before) fun _ ratio middle divided => ?_
  have sized : ratio = investable / rebuyReference frame price := by
    obtain ⟨found,_,_⟩ := steps_fromExcept.mp divided
    unfold divide at found
    rw [if_neg nonzero] at found
    exact Except.ok.inj found
  refine sound_bind (sound_estimateCashBuyQuantitySafe _ _ _ _) (fun limit => ?_) middle
  intro start
  apply keepsFrom_ite
  · intro positive
    refine sound_bind ?_ (fun submitted => ?_) start
    · apply sound_placeOrder
      intro _
      refine ⟨limitBuyPrice_cents _ _ _,rebuy_price funds ?_ positive⟩
      rw [sized]
    · apply sound_whenever
      apply sound_bind sound_translate
      intro message
      exact sound_bind (sound_noteLog _) fun _ => sound_changeBook _
  · intro _
    exact sound_recordNoteLog _ _ start

theorem fitting_rebuyCashSweep : Keeps (Fitting frame isSound) false (rebuyCashSweep frame) := by
  apply keeps_get_bind
  intro locals
  apply keepsFrom_ite
  · intro _
    apply fitting_quoted (sound_safeQuoteLastPrice _)
    · intro middle
      exact fitting_only (sound_pure ()) middle
    · intro price middle fit _ _
      apply keepsFrom_ite
      · intro rebuys
        have funds : 0 < locals.view.investableCash := by linarith [rebuys.1,rebuys.2.1]
        exact fitting_only (sound_rebuySized funds (fit.2.2 rfl rebuys.1)) middle
      · intro _
        exact fitting_only (sound_pure ()) middle
  · intro _
    exact fitting_only (sound_pure ()) locals

theorem fitting_buyPhase (candidates : List String) : Keeps (Fitting frame isSound) false (buyPhase frame candidates) := by
  apply fitting_bind (fitting_buyLoop candidates)
  intro _
  apply fitting_bind fitting_rebuyCashSweep
  intro _
  exact fitting_only sound_finishCycle

-- The sells: a limit sale takes its limit from the quote.

theorem sound_placeSell {symbol : String} {isLimit : Bool} {quantity price : ℚ}
    (positive : isLimit = true → 0 < roundTo 2 (price * frame.settings.limitSellDiscount)) :
    Keeps Sound false (placeSell frame symbol isLimit quantity price) := by
  intro before
  apply keepsFrom_ite
  · intro limit
    exact sound_placeOrder (fun _ => ⟨⟨_,rfl⟩,positive limit⟩) before
  · intro _
    refine sound_bind ?_ (fun submitted => ?_) before
    · apply sound_placeOrder
      intro wrong
      cases wrong
    · exact sound_bind (sound_whenever (sound_changeBook _)) fun _ => sound_pure _

theorem sound_settleSell {symbol : String} {holding : Holding} {amount : ℚ} {submitted : Bool} :
    Keeps Sound held (settleSell frame symbol holding amount submitted) := by
  have told : ∀ {key kind : String} {args : List (String × Arg)},
      Keeps Sound held (translate key args >>= fun detail => recordSkipLog kind detail) :=
    sound_bind sound_translate fun _ => sound_recordSkipLog _ _
  apply keeps_ite (sound_changeBook _)
  apply keeps_ite told
  exact keeps_ite (sound_bind (sound_changeBook _) fun _ => told) (sound_pure ())

theorem sound_sellQuoted {symbol : String} {holding : Holding} {price : ℚ}
    (fit : CentsFit frame (marketSymbol frame.settings symbol) price)
    (symbols : before.view.allocation.symbols = frame.opening.allocation.symbols) :
    KeepsFrom Sound false before (sellQuoted frame symbol holding price) := by
  have limit : isLimitOrderSymbol before.view symbol = true → 0 < roundTo 2 (price * frame.settings.limitSellDiscount) := by
    intro listed
    refine fit.1 symbol ?_ rfl
    have risk := congrArg (fun lists => lists.2.1) symbols
    have income := congrArg (fun lists => lists.2.2) symbols
    dsimp only [Allocation.symbols] at risk income
    rw [← risk,← income]
    exact List.contains_iff_mem.mp listed
  apply keepsFrom_get_bind
  refine keepsFrom_bind sound_composes (sound_fromExcept undividing_item before) fun _ sellable middle _ => ?_
  apply keepsFrom_ite
  · intro _
    exact sound_pure _ middle
  · intro _
    refine sound_bind (sound_placeSell limit) (fun submitted => ?_) middle
    apply keeps_get_bind
    intro last
    refine keeps_ite (sound_pure _) ?_ last
    apply sound_bind (sound_fromExcept undividing_heldUnsellable)
    intro held
    exact sound_bind sound_settleSell fun _ => sound_pure _

theorem fitting_sellSymbol {symbol : String} (symbols : before.view.allocation.symbols = frame.opening.allocation.symbols) :
    KeepsFrom (Fitting frame isSound) false before (sellSymbol frame symbol) := by
  apply keepsFrom_get_bind
  refine keepsFrom_bind fitting_composes (fitting_only (sound_fromExcept undividing_sellHolding) before) fun _ holding start ran => ?_
  have view := (quiet_fromExcept _ _ _ _ _ ran).view
  apply keepsFrom_ite
  · intro _
    apply fitting_quoted (sound_safeQuoteLastPrice _)
    · intro middle
      exact fitting_only (sound_pure _) middle
    · intro price middle fit again _ events result after steps _
      exact sound_sellQuoted fit (by rw [again,view]; exact symbols) _ _ _ steps
  · intro _
    exact fitting_only (sound_pure _) start

theorem fitting_sellLoop (names : List String) (symbols : before.view.allocation.symbols = frame.opening.allocation.symbols) :
    KeepsFrom (Fitting frame isSound) false before (sellLoop frame names) := by
  induction names generalizing before with
  | nil => exact fitting_only (sound_pure ()) before
  | cons symbol rest ih =>
    apply keepsFrom_get_bind
    apply keepsFrom_ite
    · intro _
      exact fitting_only (sound_pure ()) before
    · intro placing
      refine keepsFrom_bind fitting_composes (fitting_sellSymbol symbols) fun _ stops middle sold => ?_
      have view := (walk_sellSymbol (placed_walks frame.settings .sell) (by simpa using placing) _ _ _ sold).view
      apply keepsFrom_ite
      · intro _
        exact fitting_only (sound_pure ()) middle
      · intro _
        apply ih
        rw [view]
        exact symbols

-- The sweep is sold at the market.
theorem sound_fundFromSweep : Keeps Sound false (fundFromSweep frame) := by
  apply keeps_get_bind
  intro locals
  refine sound_bind (sound_fromExcept undividing_buyCandidates) (fun candidates => ?_) locals
  refine keeps_ite ?_ (sound_pure ())
  apply sound_bind (sound_safeQuoteLastPrice _)
  intro price
  cases price with
  | none => exact sound_pure ()
  | some price =>
    refine keeps_ite ?_ (sound_pure ())
    apply keeps_get_bind
    intro start
    refine sound_bind (sound_fundingNeeds _ _) (fun needs => ?_) start
    refine keeps_ite ?_ (sound_pure ())
    refine sound_bind (sound_placeSell fun wrong => by cases wrong) fun submitted => ?_
    exact sound_whenever (sound_changeBook _)

-- A whole cycle keeps what its own steps keep, where the two parts that ask the kit keep it too.
section cycle
variable (wider : ∀ event, isSound event = true → allowed event = true)
include wider

theorem fitting_sound {script : Step α} (sound : Keeps Sound false script) : Keeps (Fitting frame allowed) false script :=
  fitting_only (keeps_weaken (fun found event member => wider event (found event member)) sound)

theorem fitting_sellAndFund (funds : Keeps (Only allowed) false (fundFromSells frame))
    (symbols : before.view.allocation.symbols = frame.opening.allocation.symbols) :
    KeepsFrom (Fitting frame allowed) false before (sellAndFund frame) := by
  refine keepsFrom_bind fitting_composes (fitting_sound wider (sound_adjustTargets true) before) fun _ _ middle adjusted => ?_
  have same := symbolsKept_adjustTargets true _ _ _ _ adjusted
  apply keepsFrom_get_bind
  refine keepsFrom_bind fitting_composes ?_ fun _ _ sold _ => ?_
  · intro events result after steps
    exact fitting_weaken wider (fitting_sellLoop _ (same.trans symbols) _ _ _ steps)
  · exact fitting_bind (fitting_sound wider sound_fundFromSweep) (fun _ => fitting_only funds) sold

theorem fitting_executeRebalanceCycle (opens : Keeps (Only allowed) false (openCycle frame))
    (funds : Keeps (Only allowed) false (fundFromSells frame)) :
    KeepsFrom (Fitting frame allowed) false (openingLocals frame.opening) (executeRebalanceCycle frame) := by
  refine keepsFrom_bind fitting_composes (fitting_only opens _) fun _ blocked opened opening => ?_
  have symbols := symbolsKept_openCycle _ _ _ _ opening
  apply keepsFrom_ite
  · intro _
    exact keepsFrom_get_bind (fitting_sound wider (sound_pure _) opened)
  · intro _
    refine keepsFrom_bind fitting_composes (fitting_sellAndFund wider funds symbols) fun _ _ funded _ => ?_
    refine fitting_bind (fitting_sound wider sound_gateBuys) (fun candidates => ?_) funded
    exact keeps_weaken (fitting_weaken wider) (fitting_buyPhase candidates)

end cycle

theorem sound_parts {event : Happening} (sound : isSound event = true) : isPriced event = true ∧ dividesByZero event = false := by
  simpa [isSound] using sound

theorem priced_openCycle : Keeps Priced false (openCycle frame) :=
  keeps_weaken (fun found event member => priced_of_idle (idle_of_quiet (found.events event member))) opened_openCycle

-- With quotes that leave something in cents every limit of the cycle is
-- positive, the buys divide by no zero, and nor does anything else of the cycle
-- unless the kit does.
theorem cent_prices_keep_orders_sound {result : Except PyExc CycleResult} (fits : QuotesFit frame events)
    (run : (executeRebalanceCycle frame).Steps false (openingLocals frame.opening) events result after) :
    (∀ event ∈ events, isPriced event = true) ∧
    (∀ first buys gated candidates outcome last, events = first ++ buys →
      (buyPhase frame candidates).Steps false gated buys outcome last → ∀ event ∈ buys, dividesByZero event = false) ∧
    (frame.library.Undivided → ∀ event ∈ events, dividesByZero event = false) := by
  refine ⟨?_,?_,?_⟩
  · have funds : Keeps Priced false (fundFromSells frame) := priced_steady steady_fundFromSells
    exact fitting_executeRebalanceCycle (fun event sound => (sound_parts sound).1) priced_openCycle funds _ _ _ run fits
  · intro first buys gated candidates outcome last split steps event member
    rw [split] at fits
    exact (sound_parts (fitting_buyPhase candidates _ _ _ _ steps (quotesFit_append.mp fits).2 event member)).2
  · intro kit event member
    have sound := fitting_executeRebalanceCycle (fun event sound => sound) (sound_openCycle kit) (sound_fundFromSells kit) _ _ _ run fits
    exact (sound_parts (sound event member)).2

theorem testedKit_undivided : testedKit.Undivided where
  scaled _ _ := undividing_ok
  validated _ := undividing_ok
  admitted _ _ := undividing_ok

-- A market that quotes nothing but zero.
def zeroQuotes (refreshed : Observation) : World ports PyExc := fun past request =>
  match request with
  | .getQuote symbol => .ok ⟨symbol,"",some 0,none,none,"USD"⟩
  | request => calmWorld refreshed past request

-- One symbol to buy, with the cash for it.
def oneBuy : Observation :=
  observe (hold [("SPY",0)] [("SPY",0)] 2000 "") (approved 2000 0) (allocate ["SPY"] ["SPY"] [("SPY",1000)])

def fractionalFrame : Frame := ⟨{ wholeShareSettings false with fractionalBuyExecution := true },testedKit,gateOff,oneBuy⟩

-- A full exit is offered at 0.00, and a fractional buy divides its budget by zero.
theorem zero_quote_is_taken : ∃ (frame : Frame) (events : List Happening) (result : Except PyExc CycleResult) (after : Locals),
    (executeRebalanceCycle frame).Steps false (openingLocals frame.opening) events result after ∧
    (∃ event ∈ events, isPriced event = false) ∧
    ∃ (other : Frame) (divided : List Happening) (outcome : Except PyExc CycleResult) (last : Locals),
      (executeRebalanceCycle other).Steps false (openingLocals other.opening) divided outcome last ∧
      ∃ event ∈ divided, dividesByZero event = true := by
  refine ⟨twoSellsFrame,_,_,_,play_runs (zeroQuotes twoSells) [] _,?_,fractionalFrame,_,_,_,play_runs (zeroQuotes oneBuy) [] _,?_⟩
  · have found : ((play (zeroQuotes twoSells) [] ((executeRebalanceCycle twoSellsFrame).run false
        (openingLocals twoSellsFrame.opening))).1.any fun event => !isPriced event) = true := by decide +kernel
    obtain ⟨event,member,unpriced⟩ := List.any_eq_true.mp found
    exact ⟨event,member,by simpa using unpriced⟩
  · exact List.any_eq_true.mp (by decide +kernel)

def exitRun : List Happening × Except PyExc CycleResult × Locals :=
  play (calmWorld twoSells) [] ((executeRebalanceCycle twoSellsFrame).run false (openingLocals twoSells))

theorem quoted_exit_is_priced : exitRun.1.all isPriced = true ∧ exitRun.1.any dividesByZero = false := by
  have run : (executeRebalanceCycle twoSellsFrame).Steps false (openingLocals twoSellsFrame.opening) exitRun.1 exitRun.2.1 exitRun.2.2 :=
    play_runs _ _ _
  have fits : QuotesFit twoSellsFrame exitRun.1 := by
    unfold QuotesFit
    decide +kernel
  have sound := cent_prices_keep_orders_sound fits run
  refine ⟨List.all_eq_true.mpr sound.1,?_⟩
  rw [List.any_eq_false]
  intro event member
  rw [sound.2.2 testedKit_undivided event member]
  exact Bool.false_ne_true

end LongBridge.Cycle
