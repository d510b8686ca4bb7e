import LongBridge.Cycle.SweepFlag

namespace LongBridge.Cycle
open Effects

-- A limit order has a limit, and a positive one.
def limitStands (orderType : OrderType) (limitPrice : Option ℚ) : Bool :=
  orderType != .limit || limitPrice.any fun price => decide (0 < price)

def isPriced : Happening → Bool
  | .answered _ (.submitOrder intent) _ => limitStands intent.orderType intent.limitPrice
  | .marked (.dryRun order) => limitStands order.orderType order.limitPrice
  | _ => true

def dividesByZero : Happening → Bool
  | .fault _ exc => exc.kind == "ZeroDivisionError"
  | _ => false

def isSound (event : Happening) : Bool := isPriced event && !dividesByZero event

theorem priced_of_idle {event : Happening} (idle : isOrder event = false) : isPriced event = true := by
  unfold isPriced
  split
  · cases idle
  · cases idle
  · rfl

variable {frame : Frame} {held : Bool} {before middle after : Locals} {events : List Happening}

abbrev Priced (before : Locals) (events : List Happening) (after : Locals) : Prop := Only isPriced before events after

abbrev Sound (before : Locals) (events : List Happening) (after : Locals) : Prop := Only isSound before events after

theorem sound_composes : Composes Sound := only_composes isSound

theorem priced_steady {script : Step α} (steady : Keeps Steady false script) : Keeps Priced false script :=
  keeps_weaken (fun found event member => priced_of_idle (found.idle event member)) steady

theorem sound_pure (value : α) : Keeps Sound held (pure value : Step α) := keeps_pure sound_composes value

theorem sound_bind {script : Step α} {rest : α → Step β} (first : Keeps Sound held script)
    (second : ∀ value, Keeps Sound held (rest value)) : Keeps Sound held (script >>= rest) := keeps_bind sound_composes first second

theorem sound_modify {change : Locals → Locals} : Keeps Sound held (Script.modify (P := ports) (ε := PyExc) change) :=
  keeps_modify fun _ _ member => by cases member

theorem sound_whenever {condition : Bool} {script : Step Unit} (sound : Keeps Sound held script) :
    Keeps Sound held (whenever condition script) := keeps_ite sound (sound_pure ())

theorem sound_call {request : Call} (sound : ∀ answer : Except PyExc (Result request), isSound (.answered held request answer) = true) :
    Keeps Sound held (call request) := by
  apply keeps_invoke
  intro before answer event member
  rw [List.mem_singleton.mp member]
  exact sound answer

theorem sound_mark {label : Mark} (sound : isSound (.marked label) = true) :
    Keeps Sound held (Script.mark (P := ports) (ε := PyExc) (σ := Locals) label) := by
  apply keeps_mark
  intro before event member
  rw [List.mem_singleton.mp member]
  exact sound

-- A value, or a failure that is no division by zero.
def Undividing (value : Except PyExc α) : Prop := ∀ exc, value = .error exc → exc.kind ≠ "ZeroDivisionError"

theorem undividing_ok {value : α} : Undividing (.ok value) := by
  intro exc failed
  cases failed

theorem undividing_error {exc : PyExc} (other : exc.kind ≠ "ZeroDivisionError") : Undividing (.error exc : Except PyExc α) := by
  intro found failed
  cases failed
  exact other

theorem undividing_bind {value : Except PyExc α} {rest : α → Except PyExc β} (first : Undividing value)
    (second : ∀ found, Undividing (rest found)) : Undividing (value >>= rest) := by
  cases value with
  | ok found => exact second found
  | error exc =>
    intro other failed
    cases failed
    exact first exc rfl

theorem undividing_anyOk {test : α → Except PyExc Bool} (each : ∀ item, Undividing (test item)) (items : List α) :
    Undividing (anyOk test items) := by
  induction items with
  | nil => exact undividing_ok
  | cons item rest ih =>
    apply undividing_bind (each item)
    intro found
    cases found with
    | true => exact undividing_ok
    | false => exact ih

theorem undividing_selectOk {test : α → Except PyExc Bool} (each : ∀ item, Undividing (test item)) (items : List α) :
    Undividing (selectOk test items) := by
  induction items with
  | nil => exact undividing_ok
  | cons item rest ih =>
    apply undividing_bind (each item)
    intro chosen
    exact undividing_bind ih fun _ => undividing_ok

theorem undividing_item {amounts : Amounts} {symbol : String} : Undividing (amounts.item symbol) := by
  unfold Amounts.item
  split
  · exact undividing_ok
  · exact undividing_error (by simp)

theorem undividing_lastPrice {snapshot : QuoteSnapshot} : Undividing (lastPrice snapshot) := by
  unfold lastPrice
  split
  · exact undividing_ok
  · exact undividing_error (by simp)

theorem undividing_targetGap {view : View} {symbol : String} : Undividing (targetGap view symbol) :=
  undividing_bind undividing_item fun _ => undividing_bind undividing_item fun _ => undividing_ok

theorem undividing_buyHolding {view : View} {symbol : String} : Undividing (buyHolding view symbol) :=
  undividing_bind undividing_item fun _ => undividing_bind undividing_item fun _ => undividing_ok

theorem undividing_sellHolding {view : View} {symbol : String} : Undividing (sellHolding view symbol) :=
  undividing_bind undividing_item fun _ => undividing_bind undividing_item fun _ => undividing_ok

theorem undividing_heldUnsellable {view : View} {symbol : String} {submitted : Bool} {sellable : ℚ} :
    Undividing (heldUnsellable view symbol submitted sellable) := by
  unfold heldUnsellable
  split
  · exact undividing_ok
  · exact undividing_item

theorem undividing_buyCandidates {settings : Settings} {view : View} : Undividing (buyCandidates settings view) :=
  undividing_selectOk (fun _ => undividing_bind undividing_targetGap fun _ => undividing_ok) _

theorem undividing_iterate (value : PyVal) : Undividing value.iterate := by
  unfold PyVal.iterate
  split
  all_goals first | exact undividing_ok | exact undividing_error (by simp)

theorem undividing_payloadBlocked (payload : Fields) : Undividing (payloadBlocked payload) := by
  have flags : Undividing (riskFlags payload) := by
    unfold riskFlags
    split
    · exact undividing_ok
    · split
      · exact undividing_bind (undividing_iterate _) fun _ => undividing_ok
      · exact undividing_ok
  unfold payloadBlocked
  split
  · exact undividing_ok
  split
  · exact undividing_ok
  split
  · exact undividing_ok
  · exact undividing_bind flags fun _ => undividing_ok

theorem undividing_executionIsBlocked {plan : Plan} {execution : Execution} {allocation : Allocation} :
    Undividing (executionIsBlocked plan execution allocation) := by
  unfold executionIsBlocked
  split
  · exact undividing_ok
  · exact undividing_anyOk undividing_payloadBlocked _

theorem undividing_failClosed {admission : Except PyExc NewRiskGate.Admission} (known : Undividing admission) :
    Undividing (NewRiskGate.failClosed admission) := by
  cases admission with
  | ok admission => exact undividing_ok
  | error exc =>
    show Undividing (if exc.kind = NewRiskGate.gateError then _ else Except.error exc)
    split
    · exact undividing_ok
    · exact known

-- The kit the cycle calls without a port fails for its own reasons, but divides by no zero.
structure Library.Undivided (library : Library) : Prop where
  scaled : ∀ targets scale, Undividing (library.applyCombinedScaleToTargets targets scale)
  validated : ∀ snapshot, Undividing (library.gate.validateSnapshot snapshot)
  admitted : ∀ snapshot limits, Undividing (library.gate.evaluateNewRiskAdmission snapshot limits)

-- The gate's evaluation, whose other failures are the snapshot's own and the kit's.
theorem undividing_evaluateGate (kit : frame.library.Undivided) {portfolio : Portfolio} {execution : Execution} :
    Undividing (evaluateGate frame portfolio execution) := by
  have built : ∀ fields : Fields, Undividing (NewRiskGate.buildAccountNewRiskSnapshot frame.library.gate fields (some execution.fields)) := by
    intro fields
    refine undividing_bind ?_ fun _ => undividing_ok
    unfold NewRiskGate.statedProjection
    split
    · exact undividing_ok
    · split
      · exact undividing_error (by simp)
      · exact undividing_ok
  have snapshot : ∀ fields : Fields, Undividing (NewRiskGate.buildSnapshotFromPortfolio frame.library.gate frame.environment fields
      (some execution.fields)) := by
    intro fields
    apply undividing_bind (built fields)
    intro projection
    exact undividing_bind (kit.validated _) fun _ => undividing_ok
  have admitted : ∀ fields : Fields, Undividing (NewRiskGate.evaluatePortfolioNewRiskAdmission frame.library.gate frame.environment
      fields (some execution.fields)) := by
    intro fields
    have evaluated := undividing_bind (snapshot fields) fun found => kit.admitted found
      (NewRiskGate.runtimeRiskLimitsForDailyLossAxis
        (NewRiskGate.resolveMaxDailyLossUsd frame.library.gate frame.environment (some fields)))
    exact undividing_failClosed evaluated
  apply undividing_bind (built _)
  intro projection
  apply undividing_bind (admitted _)
  intro admission
  exact undividing_bind (snapshot _) fun _ => undividing_ok

theorem sound_fromExcept {value : Except PyExc α} (sound : Undividing value) :
    Keeps Sound held (Script.fromExcept value : Step α) := by
  cases value with
  | ok value => exact sound_pure value
  | error exc =>
    apply keeps_raise
    intro before event member
    rw [List.mem_singleton.mp member]
    simpa [isSound,isPriced,dividesByZero] using sound exc rfl

theorem sound_translate {key : String} {args : List (String × Arg)} : Keeps Sound held (translate key args) := sound_call fun _ => rfl

theorem sound_changeJournal (change : Journal → Journal) : Keeps Sound held (changeJournal change) := sound_modify

theorem sound_changeBook (change : OrderBook → OrderBook) : Keeps Sound held (changeBook change) := sound_modify

theorem sound_printPrefixed (message : String) : Keeps Sound held (printPrefixed message) :=
  sound_bind (sound_call fun _ => rfl) fun _ => sound_pure _

theorem sound_noteLog (message : String) : Keeps Sound held (noteLog message) :=
  sound_bind (sound_changeJournal _) fun _ => sound_printPrefixed message

theorem sound_recordNoteLog (kind : String) (args : List (String × Arg)) : Keeps Sound held (recordNoteLog kind args) := by
  apply sound_bind sound_translate
  intro detail
  exact sound_bind sound_translate fun message => sound_noteLog message

theorem sound_notifySubmissionIssue (title detail : String) : Keeps Sound held (notifySubmissionIssue title detail) :=
  sound_bind (keeps_attempt (sound_call fun _ => rfl)) fun _ => sound_pure _

theorem sound_quotedPrice (symbol : String) : Keeps Sound held (quotedPrice symbol) := by
  apply sound_bind (sound_call fun _ => rfl)
  intro snapshot
  apply sound_bind (sound_whenever (sound_changeJournal _))
  intro _
  exact sound_fromExcept undividing_lastPrice

theorem sound_safeQuoteLastPrice (symbol : String) : Keeps Sound held (safeQuoteLastPrice symbol) := by
  apply sound_bind (keeps_attempt (sound_quotedPrice symbol))
  intro quoted
  cases quoted with
  | ok price => exact sound_pure _
  | error exc => exact sound_bind (sound_call fun _ => rfl) fun _ => sound_pure _

theorem sound_recordSkipLog (kind detail : String) : Keeps Sound held (recordSkipLog kind detail) := by
  apply sound_bind sound_translate
  intro message
  exact sound_bind (sound_changeJournal _) fun _ => sound_printPrefixed _

theorem sound_diagnostic (message : String) : Keeps Sound held (diagnostic frame message) :=
  sound_bind (sound_printPrefixed message) fun _ => sound_whenever (sound_changeJournal _)

theorem sound_changeView (change : View → View) : Keeps Sound held (changeView change) := sound_modify

-- Quotes that fail are left out, so the whole-share rules divide by none of them.
theorem sound_adjustWholeShares : Keeps Sound held (adjustWholeShares frame) := by
  have prices : ∀ (symbols : List String) (known : Amounts), Keeps Sound held (compatibilityPrices frame.settings symbols known) := by
    intro symbols
    induction symbols with
    | nil => exact fun known => sound_pure known
    | cons symbol rest ih =>
      intro known
      refine sound_bind (keeps_attempt ?_) fun quoted => ih _
      exact sound_bind (sound_call fun _ => rfl) fun _ => sound_fromExcept undividing_lastPrice
  apply keeps_get_bind
  intro locals
  exact sound_bind (prices _ _) (fun _ => sound_changeView _) locals

theorem sound_recordCashNotes (notes : List CashNote) : Keeps Sound held (recordCashNotes notes) := by
  induction notes with
  | nil => exact sound_pure ()
  | cons note rest ih =>
    apply sound_bind (sound_call fun _ => rfl)
    intro messages
    refine sound_bind ?_ fun _ => ih
    cases messages with
    | nil => exact sound_pure ()
    | cons message others =>
      apply keeps_get_bind
      intro locals
      exact sound_whenever (sound_bind (sound_changeJournal _) fun _ => sound_noteLog message) locals

theorem sound_recordBootstrapNotes (settings : Settings) (symbols : List String) :
    Keeps Sound held (recordBootstrapNotes settings symbols) := by
  refine keeps_ite (sound_pure ()) ?_
  apply sound_bind (keeps_attempt sound_translate)
  intro translated
  apply keeps_get_bind
  intro locals
  exact sound_whenever (sound_bind (sound_changeJournal _) fun _ => sound_noteLog _) locals

theorem sound_adjustTargets (announce : Bool) : Keeps Sound held (adjustTargets frame announce) := by
  apply keeps_get_bind
  intro locals
  refine sound_bind (sound_mark rfl) (fun _ => ?_) locals
  apply sound_bind (sound_changeView _)
  intro _
  have announced : Keeps Sound held announceCompatibility :=
    sound_bind sound_translate fun _ => sound_bind sound_translate fun note => sound_noteLog note
  apply sound_bind (sound_whenever announced)
  intro _
  apply sound_bind (sound_whenever sound_adjustWholeShares)
  intro _
  apply keeps_get_bind
  intro adjusted
  exact sound_bind (sound_recordCashNotes _) (fun _ => sound_recordBootstrapNotes _ _) adjusted

theorem sound_measureRefresh (best projected : ℚ) (constrained : Observation) :
    Keeps Sound held (measureRefresh frame best projected constrained) := by
  have filled : ∀ orders : List OrderPayload, Keeps Sound held (filledSellReleaseValue orders) := by
    intro orders
    induction orders with
    | nil => exact sound_pure _
    | cons order rest ih =>
      apply keeps_ite ih
      apply sound_bind (keeps_attempt (sound_call fun _ => rfl))
      intro report
      exact sound_bind ih fun others => sound_pure _
  apply keeps_get_bind
  intro locals
  exact sound_bind (keeps_ite (filled _) (sound_pure _)) (fun _ => sound_pure _) locals

-- Opening a cycle and taking over a refreshed state, where the kit is asked.
section kit
variable (kit : frame.library.Undivided)
include kit

theorem sound_scaleAllocation (scale : Option ℚ) : Keeps Sound held (scaleAllocation frame scale) :=
  keeps_get_bind fun locals => sound_bind (sound_fromExcept (kit.scaled _ _)) (fun _ => sound_changeView _) locals

theorem sound_openGate : Keeps Sound held (openGate frame) := by
  refine keeps_ite ?_ (sound_mark rfl)
  apply sound_bind (sound_fromExcept (undividing_evaluateGate kit))
  intro evaluated
  apply sound_bind sound_modify
  intro _
  apply sound_bind (sound_mark rfl)
  intro _
  apply sound_bind (sound_diagnostic _)
  intro _
  apply sound_bind (sound_call fun _ => rfl)
  intro counts
  apply sound_bind (sound_diagnostic _)
  intro _
  apply sound_bind (sound_scaleAllocation kit _)
  intro _
  cases evaluated.admission.combinedScale with
  | none => exact sound_pure ()
  | some scale => exact sound_diagnostic _

theorem sound_openCycle : Keeps Sound held (openCycle frame) := by
  apply sound_bind (sound_openGate kit)
  intro _
  exact keeps_get_bind fun locals => sound_fromExcept undividing_executionIsBlocked locals

theorem sound_constrain (observation : Observation) : Keeps Sound held (constrain frame observation) := by
  apply sound_bind (sound_fromExcept undividing_executionIsBlocked)
  intro blocked
  apply sound_bind (sound_whenever (sound_changeBook _))
  intro _
  refine keeps_ite ?_ (sound_pure _)
  apply sound_bind (sound_fromExcept (undividing_evaluateGate kit))
  intro evaluated
  apply sound_bind sound_modify
  intro _
  exact sound_bind (sound_mark rfl) fun _ => sound_pure _

theorem sound_refreshOnce (best projected : ℚ) : Keeps Sound held (refreshOnce frame best projected) := by
  apply sound_bind (sound_call fun _ => rfl)
  intro observation
  exact sound_bind (sound_constrain kit observation) fun constrained => sound_measureRefresh _ _ constrained

theorem sound_refreshAgain (previous : ℚ) (attempts : ℕ) (found : Refresh) :
    Keeps Sound held (refreshAgain frame previous attempts found) := by
  induction attempts generalizing found with
  | zero => exact sound_pure _
  | succ attempts ih =>
    apply keeps_ite (sound_pure _)
    apply sound_bind (sound_call fun _ => rfl)
    intro _
    exact sound_bind (sound_refreshOnce kit _ _) fun next => ih next

theorem sound_fundFromSells : Keeps Sound held (fundFromSells frame) := by
  have simulated : Keeps Sound held simulateProceeds :=
    keeps_get_bind fun locals => sound_bind (sound_changeView _) (fun _ => sound_noteLog _) locals
  have adopted : ∀ previous refresh, Keeps Sound held (adoptRefresh frame previous refresh) := by
    intro previous refresh
    apply keeps_get_bind
    intro locals
    refine sound_bind (sound_changeView _) (fun _ => ?_) locals
    apply sound_bind (sound_whenever (sound_scaleAllocation kit _))
    intro _
    exact sound_bind (sound_adjustTargets false) fun _ => sound_changeView _
  apply keeps_get_bind
  intro locals
  refine keeps_ite (keeps_ite simulated ?_) (sound_pure ()) locals
  apply sound_bind
  · exact sound_bind (sound_refreshOnce kit _ _) fun first => sound_refreshAgain kit _ _ first
  · intro refresh
    exact adopted _ refresh

end kit

theorem sound_fundingNeeds (view : View) (symbols : List String) : Keeps Sound held (fundingNeeds frame view symbols) := by
  induction symbols with
  | nil => exact sound_pure _
  | cons symbol rest ih =>
    apply sound_bind (sound_safeQuoteLastPrice _)
    intro price
    cases price with
    | none => exact ih
    | some price =>
      apply sound_bind (sound_fromExcept undividing_targetGap)
      intro gap
      exact sound_bind ih fun others => sound_pure _

theorem sound_deferBuys (reason key : String) (args : List (String × Arg)) : Keeps Sound held (deferBuys reason key args) := by
  apply sound_bind sound_modify
  intro _
  apply sound_bind sound_translate
  intro message
  exact sound_bind (sound_noteLog message) fun _ => sound_pure _

-- A cost is a product; a planned quantity is divided by a price only when that is positive.
theorem sound_estimateBuyCost (symbols : List String) : Keeps Sound held (estimateBuyCost frame symbols) := by
  induction symbols with
  | nil => exact sound_pure _
  | cons symbol rest ih =>
    apply keeps_get_bind
    intro locals
    refine sound_bind (sound_fromExcept undividing_buyHolding) (fun holding => ?_) locals
    apply sound_bind (sound_safeQuoteLastPrice _)
    intro price
    exact sound_bind ih fun others => sound_pure _

theorem sound_blockBuys (candidates : List String) : Keeps Sound held (blockBuys frame candidates) := by
  have awaiting : Keeps Sound held (awaitRelease frame candidates) := by
    apply sound_bind (sound_estimateBuyCost candidates)
    intro cost
    apply sound_bind sound_modify
    intro _
    exact keeps_get_bind fun locals => keeps_ite (sound_deferBuys _ _ _) (sound_pure _) locals
  apply keeps_get_bind
  intro locals
  refine keeps_ite (sound_pure _) ?_ locals
  apply keeps_ite (sound_deferBuys _ _ _)
  apply keeps_ite (sound_deferBuys _ _ _)
  exact keeps_ite awaiting (sound_pure _)

theorem sound_gateBuys : Keeps Sound held (gateBuys frame) := by
  have foreign : Keeps Sound held noteForeignCash :=
    keeps_get_bind fun locals => keeps_ite (sound_recordNoteLog _ _) (sound_pure ()) locals
  apply sound_bind foreign
  intro _
  apply keeps_get_bind
  intro locals
  refine sound_bind (sound_fromExcept undividing_buyCandidates) (fun candidates => ?_) locals
  apply sound_bind sound_modify
  intro _
  apply sound_bind (sound_blockBuys _)
  intro open_
  apply keeps_get_bind
  intro blocked
  exact keeps_ite (sound_deferBuys _ _ _) (keeps_ite (sound_pure _) (sound_pure _)) blocked

end LongBridge.Cycle
