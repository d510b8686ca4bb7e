import LongBridge.Cycle.Rebalance
import LongBridge.Effects.Invariant

namespace LongBridge.Cycle
open Effects

abbrev Happening := Event ports PyExc

def isSubmission : Happening → Bool
  | .answered _ (.submitOrder _) _ => true
  | _ => false

-- An order that reaches the port, or the list of a dry run.
def isOrder : Happening → Bool
  | .answered _ (.submitOrder _) _ => true
  | .marked (.dryRun _) => true
  | _ => false

def isFetch : Happening → Bool
  | .answered _ .fetchReplannedState _ => true
  | _ => false

def isAdjustment : Happening → Bool
  | .marked (.adjusting _) => true
  | _ => false

def isError (answer : Except PyExc α) : Bool :=
  match answer with
  | .ok _ => false
  | .error _ => true

-- A failure inside the handler that stands around everything after a known
-- submission: only there are these calls handled.
def hookFailed : Happening → Bool
  | .answered true (.translator key _) answer =>
    (key == "order_id_suffix" || key == "order_pending_confirmation") && isError answer
  | .answered true (.withPrefix _) answer => isError answer
  | .answered true (.postSubmitOrder _ _) answer => isError answer
  | _ => false

def isQuiet (event : Happening) : Bool :=
  !isOrder event && !isFetch event && !isAdjustment event && !hookFailed event

theorem quiet_parts {event : Happening} (quiet : isQuiet event = true) :
    isOrder event = false ∧ isFetch event = false ∧ isAdjustment event = false ∧ hookFailed event = false := by
  simpa [isQuiet,and_assoc] using quiet

-- Nothing but texts, quotes and reasons.
structure Quiet (before : Locals) (events : List Happening) (after : Locals) : Prop where
  events : ∀ event ∈ events, isQuiet event = true
  book : after.book = before.book
  gate : after.gate = before.gate
  view : after.view = before.view

theorem quiet_composes : Composes Quiet where
  refl before := ⟨by simp,rfl,rfl,rfl⟩
  trans one two :=
    ⟨fun event member => (List.mem_append.mp member).elim (one.events event) (two.events event),
      two.book.trans one.book,two.gate.trans one.gate,two.view.trans one.view⟩

variable {held : Bool}

theorem quiet_event {before : Locals} {event : Happening} (quiet : isQuiet event = true) :
    Quiet before [event] before := ⟨by simpa using quiet,rfl,rfl,rfl⟩

theorem quiet_pure (value : α) : Keeps Quiet held (pure value : Step α) := keeps_pure quiet_composes value

theorem quiet_bind {script : Step α} {rest : α → Step β} (first : Keeps Quiet held script)
    (second : ∀ value, Keeps Quiet held (rest value)) : Keeps Quiet held (script >>= rest) :=
  keeps_bind quiet_composes first second

theorem quiet_get {rest : Locals → Step β} (second : ∀ locals, Keeps Quiet held (rest locals)) :
    Keeps Quiet held (Script.get >>= rest) := keeps_get_bind (fun before => second before before)

theorem quiet_whenever {condition : Bool} {script : Step Unit} (quiet : Keeps Quiet held script) :
    Keeps Quiet held (whenever condition script) := keeps_ite quiet (quiet_pure ())

theorem quiet_fromExcept (value : Except PyExc α) : Keeps Quiet held (Script.fromExcept value : Step α) :=
  keeps_fromExcept quiet_composes (fun _ _ => quiet_event rfl)

theorem quiet_changeJournal (change : Journal → Journal) : Keeps Quiet held (changeJournal change) :=
  keeps_modify (fun _ => ⟨by simp,rfl,rfl,rfl⟩)

theorem quiet_call {request : Call} (quiet : ∀ answer : Except PyExc (Result request),
    isQuiet (.answered held request answer : Happening) = true) : Keeps Quiet held (call request) :=
  keeps_invoke (fun _ answer => quiet_event (quiet answer))

theorem quiet_translate {key : String} {args : List (String × Arg)}
    (other : held = true → key ≠ "order_id_suffix" ∧ key ≠ "order_pending_confirmation") :
    Keeps Quiet held (translate key args) := by
  refine quiet_call (fun answer => ?_)
  cases held with
  | false => rfl
  | true => simp [isQuiet,isOrder,isFetch,isAdjustment,hookFailed,other rfl]

theorem quiet_printPrefixed (message : String) : Keeps Quiet false (printPrefixed message) :=
  quiet_bind (quiet_call (fun _ => rfl)) (fun _ => quiet_pure _)

theorem quiet_noteLog (message : String) : Keeps Quiet false (noteLog message) :=
  quiet_bind (quiet_changeJournal _) (fun _ => quiet_printPrefixed message)

theorem quiet_recordSkipLog (kind detail : String) : Keeps Quiet false (recordSkipLog kind detail) := by
  refine quiet_bind (quiet_translate (by simp)) (fun message => ?_)
  exact quiet_bind (quiet_changeJournal _) (fun _ => quiet_printPrefixed message)

theorem quiet_recordNoteLog (kind : String) (args : List (String × Arg)) : Keeps Quiet false (recordNoteLog kind args) := by
  refine quiet_bind (quiet_translate (by simp)) (fun detail => ?_)
  exact quiet_bind (quiet_translate (by simp)) (fun message => quiet_noteLog message)

theorem quiet_recordQuoteSnapshot (snapshot : QuoteSnapshot) : Keeps Quiet held (recordQuoteSnapshot snapshot) :=
  quiet_whenever (quiet_changeJournal _)

theorem quiet_quotedPrice (symbol : String) : Keeps Quiet held (quotedPrice symbol) := by
  refine quiet_bind (quiet_call (fun _ => by cases held <;> rfl)) (fun snapshot => ?_)
  exact quiet_bind (quiet_recordQuoteSnapshot snapshot) (fun _ => quiet_fromExcept _)

theorem quiet_safeQuoteLastPrice (symbol : String) : Keeps Quiet held (safeQuoteLastPrice symbol) := by
  refine quiet_bind (keeps_attempt (quiet_quotedPrice symbol)) (fun quoted => ?_)
  cases quoted with
  | ok price => exact quiet_pure _
  | error exc => exact quiet_bind (quiet_call (fun _ => by cases held <;> rfl)) (fun _ => quiet_pure _)

theorem quiet_notifySubmissionIssue (title detail : String) : Keeps Quiet held (notifySubmissionIssue title detail) :=
  quiet_bind (keeps_attempt (quiet_call (fun _ => rfl))) (fun _ => quiet_pure _)

theorem quiet_diagnostic (frame : Frame) (message : String) : Keeps Quiet false (diagnostic frame message) :=
  quiet_bind (quiet_printPrefixed message) (fun _ => quiet_whenever (quiet_changeJournal _))

theorem quiet_compatibilityPrices (settings : Settings) (symbols : List String) (prices : Amounts) :
    Keeps Quiet held (compatibilityPrices settings symbols prices) := by
  induction symbols generalizing prices with
  | nil => exact quiet_pure _
  | cons symbol rest ih =>
    refine quiet_bind (keeps_attempt ?_) (fun quoted => ih _)
    exact quiet_bind (quiet_call (fun _ => rfl)) (fun _ => quiet_fromExcept _)

theorem quiet_recordCashNote (note : CashNote) (messages : List String) :
    Keeps Quiet false (recordCashNote note messages) := by
  cases messages with
  | nil => exact quiet_pure ()
  | cons message others =>
    refine quiet_get (fun locals => quiet_whenever ?_)
    exact quiet_bind (quiet_changeJournal _) (fun _ => quiet_noteLog message)

theorem quiet_recordCashNotes (notes : List CashNote) : Keeps Quiet false (recordCashNotes notes) := by
  induction notes with
  | nil => exact quiet_pure ()
  | cons note rest ih =>
    refine quiet_bind (quiet_call (fun _ => rfl)) (fun messages => ?_)
    exact quiet_bind (quiet_recordCashNote note messages) (fun _ => ih)

theorem quiet_recordBootstrapNotes (settings : Settings) (symbols : List String) :
    Keeps Quiet false (recordBootstrapNotes settings symbols) := by
  refine keeps_ite (quiet_pure ()) ?_
  refine quiet_bind (keeps_attempt (quiet_translate (by decide))) (fun translated => ?_)
  refine quiet_get (fun locals => quiet_whenever ?_)
  exact quiet_bind (quiet_changeJournal _) (fun _ => quiet_noteLog _)

theorem quiet_announceCompatibility : Keeps Quiet false announceCompatibility := by
  refine quiet_bind (quiet_translate (by simp)) (fun detail => ?_)
  exact quiet_bind (quiet_translate (by simp)) (fun note => quiet_noteLog note)

theorem quiet_fundingNeeds (frame : Frame) (view : View) (symbols : List String) :
    Keeps Quiet held (fundingNeeds frame view symbols) := by
  induction symbols with
  | nil => exact quiet_pure _
  | cons symbol rest ih =>
    refine quiet_bind (quiet_safeQuoteLastPrice _) (fun price => ?_)
    cases price with
    | none => exact ih
    | some price =>
      refine quiet_bind (quiet_fromExcept _) (fun gap => ?_)
      exact quiet_bind ih (fun others => quiet_pure _)

theorem quiet_filledSellReleaseValue (orders : List OrderPayload) :
    Keeps Quiet held (filledSellReleaseValue orders) := by
  induction orders with
  | nil => exact quiet_pure _
  | cons order rest ih =>
    refine keeps_ite ih (quiet_bind (keeps_attempt (quiet_call (fun _ => rfl))) (fun report => ?_))
    exact quiet_bind ih (fun others => quiet_pure _)

theorem quiet_sellReleaseValue (settings : Settings) (orders : List OrderPayload) :
    Keeps Quiet held (sellReleaseValue settings orders) :=
  keeps_ite (quiet_filledSellReleaseValue orders) (quiet_pure _)

theorem quiet_measureRefresh (frame : Frame) (best projected : ℚ) (constrained : Observation) :
    Keeps Quiet false (measureRefresh frame best projected constrained) :=
  quiet_get (fun _ => quiet_bind (quiet_sellReleaseValue _ _) (fun _ => quiet_pure _))

theorem quiet_noteForeignCash : Keeps Quiet false noteForeignCash :=
  quiet_get (fun _ => keeps_ite (quiet_recordNoteLog _ _) (quiet_pure ()))

theorem quiet_deferBuys (reason key : String) (args : List (String × Arg)) :
    Keeps Quiet false (deferBuys reason key args) := by
  refine quiet_bind (keeps_modify (fun _ => ⟨by simp,rfl,rfl,rfl⟩)) (fun _ => ?_)
  refine quiet_bind (quiet_translate (by simp)) (fun message => ?_)
  exact quiet_bind (quiet_noteLog message) (fun _ => quiet_pure _)

theorem quiet_estimateBuyCost (frame : Frame) (symbols : List String) : Keeps Quiet held (estimateBuyCost frame symbols) := by
  induction symbols with
  | nil => exact quiet_pure _
  | cons symbol rest ih =>
    refine quiet_get (fun _ => quiet_bind (quiet_fromExcept _) (fun holding => ?_))
    refine quiet_bind (quiet_safeQuoteLastPrice _) (fun price => ?_)
    exact quiet_bind ih (fun others => quiet_pure _)

theorem quiet_awaitRelease (frame : Frame) (candidates : List String) : Keeps Quiet false (awaitRelease frame candidates) := by
  refine quiet_bind (quiet_estimateBuyCost frame candidates) (fun cost => ?_)
  refine quiet_bind (keeps_modify (fun _ => ⟨by simp,rfl,rfl,rfl⟩)) (fun _ => ?_)
  exact quiet_get (fun locals => keeps_ite (quiet_deferBuys _ _ _) (quiet_pure _))

theorem quiet_blockBuys (frame : Frame) (candidates : List String) : Keeps Quiet false (blockBuys frame candidates) := by
  refine quiet_get (fun _ => keeps_ite (quiet_pure _) ?_)
  refine keeps_ite (quiet_deferBuys _ _ _) (keeps_ite (quiet_deferBuys _ _ _) ?_)
  exact keeps_ite (quiet_awaitRelease frame candidates) (quiet_pure _)

theorem quiet_requireCash (frame : Frame) (candidates : List String) : Keeps Quiet false (requireCash frame candidates) :=
  quiet_get (fun _ => keeps_ite (quiet_deferBuys _ _ _) (keeps_ite (quiet_pure _) (quiet_pure _)))

-- The buy gate places nothing and changes no order, no cash and no target.
theorem quiet_gateBuys (frame : Frame) : Keeps Quiet false (gateBuys frame) := by
  refine quiet_bind quiet_noteForeignCash (fun _ => quiet_get (fun locals => ?_))
  refine quiet_bind (quiet_fromExcept _) (fun candidates => ?_)
  refine quiet_bind (keeps_modify (fun _ => ⟨by simp,rfl,rfl,rfl⟩)) (fun _ => ?_)
  exact quiet_bind (quiet_blockBuys frame _) (fun open_ => quiet_requireCash frame open_)

theorem quiet_estimateCashBuyQuantitySafe (symbol : String) (kind : OrderType) (price : ℚ) (fractional : Bool) :
    Keeps Quiet held (estimateCashBuyQuantitySafe symbol kind price fractional) := by
  refine quiet_bind (keeps_attempt (quiet_call (fun _ => rfl))) (fun estimated => ?_)
  cases estimated with
  | ok quantity => exact quiet_pure _
  | error exc => exact quiet_bind (quiet_call (fun _ => by cases held <;> rfl)) (fun _ => quiet_pure _)

theorem quiet_estimateBuyQuantityCandidate (frame : Frame) (symbol : String) (kind : OrderType) (reference value : ℚ) :
    Keeps Quiet held (estimateBuyQuantityCandidate frame symbol kind reference value) := by
  refine quiet_bind (quiet_fromExcept _) (fun ratio => ?_)
  exact quiet_bind (quiet_estimateCashBuyQuantitySafe _ _ _ _) (fun limit => quiet_pure _)

theorem quiet_noteUnaffordable (settings : Settings) (view : View) (symbol : String) (gap price : ℚ) :
    Keeps Quiet false (noteUnaffordable settings view symbol gap price) :=
  keeps_ite (quiet_recordNoteLog _ _) (quiet_recordNoteLog _ _)

theorem quiet_finishCycle (frame : Frame) : Keeps Quiet false (finishCycle frame) := by
  refine quiet_get (fun locals => quiet_bind (quiet_call (fun _ => rfl)) (fun notes => ?_))
  refine quiet_bind (quiet_changeJournal _) (fun _ => ?_)
  refine quiet_bind (keeps_mark (fun _ => quiet_event rfl)) (fun _ => ?_)
  exact quiet_get (fun finished => quiet_pure _)

end LongBridge.Cycle
