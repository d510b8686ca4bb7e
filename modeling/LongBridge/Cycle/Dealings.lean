import LongBridge.Cycle.LimitPrices

namespace LongBridge.Cycle
open Effects

-- What an event buys or sells: an order the broker has not rejected, or the record of a dry run.
def dealtBy (side : Side) : Happening → ℚ
  | .answered _ (.submitOrder intent) answer =>
    if intent.side = side ∧ (recordedOrder intent answer).isSome then intent.quantity else 0
  | .marked (.dryRun order) => if order.side = side then order.quantity else 0
  | _ => 0

def dealt (side : Side) (events : List Happening) : ℚ := (events.map (dealtBy side)).sum

def orderSymbol : Happening → Option String
  | .answered _ (.submitOrder intent) _ => some intent.symbol
  | .marked (.dryRun order) => some order.symbol
  | _ => none

variable {frame : Frame} {before middle after : Locals} {events first second : List Happening} {side : Side}

theorem dealtBy_submitted {held : Bool} {intent : OrderIntent} {answer : Except PyExc (Option ExecutionReport)} :
    dealtBy side (.answered held (.submitOrder intent) answer) =
      if intent.side = side ∧ (recordedOrder intent answer).isSome then intent.quantity else 0 := rfl

theorem dealtBy_dryRun {order : OrderPayload} : dealtBy side (.marked (.dryRun order)) = if order.side = side then order.quantity else 0 := rfl

theorem orderSymbol_submitted {held : Bool} {intent : OrderIntent} {answer : Except PyExc (Option ExecutionReport)} :
    orderSymbol (.answered held (.submitOrder intent) answer) = some intent.symbol := rfl

theorem orderSymbol_dryRun {order : OrderPayload} : orderSymbol (.marked (.dryRun order)) = some order.symbol := rfl

theorem dryRunOrder_symbol {symbol : String} {side : Side} {quantity price : ℚ} {kind : OrderType} :
    (dryRunOrder symbol side quantity price kind).symbol = normalizedSymbol symbol := rfl

theorem dealt_append : dealt side (first ++ second) = dealt side first + dealt side second := by
  unfold dealt
  rw [List.map_append,List.sum_append]

theorem dealtBy_idle {event : Happening} (idle : isOrder event = false) : dealtBy side event = 0 := by
  unfold dealtBy
  split
  · cases idle
  · cases idle
  · rfl

theorem orderSymbol_idle {event : Happening} (idle : isOrder event = false) : orderSymbol event = none := by
  unfold orderSymbol
  split
  · cases idle
  · cases idle
  · rfl

theorem dealt_idle (idle : ∀ event ∈ events, isOrder event = false) : dealt side events = 0 := by
  unfold dealt
  apply List.sum_eq_zero
  intro amount member
  obtain ⟨event,held,rfl⟩ := List.mem_map.mp member
  exact dealtBy_idle (idle event held)

-- The one order a placing can make: the record of a dry run, or a submission of a positive quantity.
def IsPlacing (settings : Settings) (symbol : String) (side : Side) (kind : OrderType) (quantity price : ℚ) (order : Happening) : Prop :=
  (settings.dryRunOnly = true ∧ order = .marked (.dryRun (dryRunOrder (marketSymbol settings symbol) side quantity price kind))) ∨
  ∃ answer : Except PyExc (Option ExecutionReport), order = .answered true (.submitOrder (orderIntent settings
      (marketSymbol settings symbol) kind side quantity (if kind = .limit then some price else none))) answer ∧
    0 < submittedQuantity settings (marketSymbol settings symbol) side quantity

def PlacesAt (settings : Settings) (symbol : String) (side : Side) (kind : OrderType) (quantity price : ℚ) (events : List Happening) : Prop :=
  (∀ event ∈ events, isOrder event = false) ∨
  ∃ front order back, events = front ++ order :: back ∧ (∀ event ∈ front ++ back, isOrder event = false) ∧
    IsPlacing settings symbol side kind quantity price order

section placing
variable {settings : Settings} {symbol : String} {kind : OrderType} {quantity price : ℚ}

theorem placesAt_behind (idle : ∀ event ∈ first, isOrder event = false) (once : PlacesAt settings symbol side kind quantity price second) :
    PlacesAt settings symbol side kind quantity price (first ++ second) := by
  rcases once with none | ⟨front,order,back,rfl,quiet,placing⟩
  · left
    intro event member
    exact (List.mem_append.mp member).elim (idle event) (none event)
  · right
    refine ⟨first ++ front,order,back,(List.append_assoc _ _ _).symm,?_,placing⟩
    intro event member
    rw [List.append_assoc] at member
    exact (List.mem_append.mp member).elim (idle event) (quiet event)

theorem placesAt_before (idle : ∀ event ∈ second, isOrder event = false) (once : PlacesAt settings symbol side kind quantity price first) :
    PlacesAt settings symbol side kind quantity price (first ++ second) := by
  rcases once with none | ⟨front,order,back,rfl,quiet,placing⟩
  · left
    intro event member
    exact (List.mem_append.mp member).elim (none event) (idle event)
  · right
    refine ⟨front,order,back ++ second,by rw [List.append_assoc,List.cons_append],?_,placing⟩
    intro event member
    rw [← List.append_assoc] at member
    exact (List.mem_append.mp member).elim (quiet event) (idle event)

theorem idle_events (quiet : Quiet before events after) : ∀ event ∈ events, isOrder event = false :=
  fun event member => idle_of_quiet (quiet.events event member)

theorem submitOrderViaPort_once {message : String} {result : Except PyExc Bool}
    (steps : (submitOrderViaPort settings (marketSymbol settings symbol) kind side quantity message
      (if kind = .limit then some price else none)).Steps false before events result after) :
    PlacesAt settings symbol side kind quantity price events := by
  generalize limited : (if kind = .limit then some price else none) = limitPrice at steps
  unfold submitOrderViaPort at steps
  rw [steps_get_bind] at steps
  split at steps
  · exact .inl (idle_events (quiet_pure _ _ _ _ _ steps))
  · dsimp only at steps
    split at steps
    · exact .inl (idle_events (quiet_bind (quiet_call fun _ => rfl) (fun _ => quiet_pure _) _ _ _ _ steps))
    · rename_i positive
      obtain ⟨answer,tail,rfl,recorded⟩ := steps_attempt_invoke_bind.mp steps
      right
      refine ⟨[],_,tail,rfl,?_,.inr ⟨answer,by rw [limited],not_le.mp positive⟩⟩
      intro event member
      exact ((recordAnswer_settled recorded).harmless event member).1

theorem recordDryRun_once {result : Except PyExc Bool} (dry : settings.dryRunOnly = true)
    (steps : (recordDryRun (marketSymbol settings symbol) side quantity price kind).Steps false before events result after) :
    PlacesAt settings symbol side kind quantity price events := by
  unfold recordDryRun at steps
  rw [changeBook_bind] at steps
  obtain ⟨tail,rfl,rest⟩ := steps_mark_bind.mp steps
  right
  refine ⟨[],_,tail,rfl,?_,.inl ⟨dry,rfl⟩⟩
  refine idle_events (quiet_bind (quiet_translate (by simp)) (fun sideText => ?_) _ _ _ _ rest)
  refine quiet_bind (quiet_translate (by simp)) (fun typeText => quiet_bind (quiet_translate (by simp)) (fun message => ?_))
  exact quiet_bind (quiet_changeJournal _) (fun _ => quiet_bind (quiet_printPrefixed _) (fun _ => quiet_pure _))

theorem placeOrder_once {result : Except PyExc Bool}
    (steps : (placeOrder settings symbol side kind quantity price).Steps false before events result after) :
    PlacesAt settings symbol side kind quantity price events := by
  unfold placeOrder at steps
  split at steps
  · rename_i dry
    exact recordDryRun_once dry steps
  · rcases steps_bind.mp steps with ⟨one,two,message,told,rfl,telling,submitting⟩ | ⟨_,rfl,telling⟩
    · exact placesAt_behind (idle_events (quiet_translate (by simp) _ _ _ _ telling)) (submitOrderViaPort_once submitting)
    · exact .inl (idle_events (quiet_translate (by simp) _ _ _ _ telling))

theorem dealt_alone {front back : List Happening} {order : Happening} (quiet : ∀ event ∈ front ++ back, isOrder event = false) :
    dealt side (front ++ order :: back) = dealtBy side order := by
  have before_ : dealt side front = 0 := dealt_idle fun event member => quiet event (List.mem_append_left _ member)
  have behind : dealt side back = 0 := dealt_idle fun event member => quiet event (List.mem_append_right _ member)
  rw [dealt_append,before_,zero_add]
  show dealtBy side order + dealt side back = dealtBy side order
  rw [behind,add_zero]

theorem dealt_once {other : Side} (once : PlacesAt settings symbol side kind quantity price events) :
    dealt other events = 0 ∨ dealt other events = shownQuantity quantity ∧ settings.dryRunOnly = true ∨
      dealt other events = submittedQuantity settings (marketSymbol settings symbol) side quantity := by
  rcases once with none | ⟨front,order,back,rfl,quiet,placing⟩
  · exact .inl (dealt_idle none)
  · rw [dealt_alone quiet]
    rcases placing with ⟨dry,rfl⟩ | ⟨answer,rfl,_⟩
    · rw [dealtBy_dryRun]
      split
      · exact .inr (.inl ⟨rfl,dry⟩)
      · exact .inl rfl
    · rw [dealtBy_submitted]
      generalize (if kind = .limit then some price else none) = limitPrice
      split
      · exact .inr (.inr rfl)
      · exact .inl rfl

theorem once_orders (once : PlacesAt settings symbol side kind quantity price events) : ∀ event ∈ events, ∀ name, orderSymbol event = some name →
    name = marketSymbol settings symbol ∨ name = normalizedSymbol (marketSymbol settings symbol) := by
  intro event member name named
  rcases once with none | ⟨front,order,back,rfl,quiet,placing⟩
  · rw [orderSymbol_idle (none event member)] at named
    cases named
  · have others : event ∈ front ++ back → False := by
      intro other
      rw [orderSymbol_idle (quiet event other)] at named
      cases named
    rcases List.mem_append.mp member with early | late
    · exact (others (List.mem_append_left _ early)).elim
    rcases List.mem_cons.mp late with rfl | later
    · rcases placing with ⟨_,rfl⟩ | ⟨answer,rfl,_⟩
      · rw [orderSymbol_dryRun,dryRunOrder_symbol] at named
        exact .inr (Option.some.inj named).symm
      · rw [orderSymbol_submitted,orderIntent_traded.1] at named
        exact .inl (Option.some.inj named).symm
    · exact (others (List.mem_append_right _ later)).elim

theorem once_opposite {other : Side} (unlike : side ≠ other) (once : PlacesAt settings symbol side kind quantity price events) :
    ∀ event ∈ events, dealtBy other event = 0 := by
  intro event member
  rcases once with none | ⟨front,order,back,rfl,quiet,placing⟩
  · exact dealtBy_idle (none event member)
  · rcases List.mem_append.mp member with early | late
    · exact dealtBy_idle (quiet event (List.mem_append_left _ early))
    rcases List.mem_cons.mp late with rfl | later
    · rcases placing with ⟨_,rfl⟩ | ⟨answer,rfl,_⟩
      · exact dealtBy_dryRun.trans (if_neg unlike)
      · refine dealtBy_submitted.trans (if_neg ?_)
        rw [orderIntent_traded.2]
        exact fun both => unlike both.1
    · exact dealtBy_idle (quiet event (List.mem_append_right _ later))

theorem flagSame_submitOrderViaPort {message : String} {limitPrice : Option ℚ} :
    Keeps FlagSame false (submitOrderViaPort settings symbol kind side quantity message limitPrice) := by
  apply keeps_get_bind
  intro locals
  apply keeps_ite (flagSame_quiet (quiet_pure false))
  apply keeps_ite
  · exact flagSame_quiet (quiet_bind (quiet_call fun _ => rfl) fun _ => quiet_pure _)
  · exact flagSame_bind (keeps_attempt (keeps_invoke fun _ _ => rfl)) fun _ => flagSame_recordAnswer

theorem flagSame_placeOrder : Keeps FlagSame false (placeOrder settings symbol side kind quantity price) := by
  apply keeps_ite
  · refine flagSame_bind (flagSame_changeBook fun _ => rfl) fun _ => ?_
    refine flagSame_bind (keeps_mark fun _ => rfl) fun _ => ?_
    apply flagSame_bind (flagSame_quiet (quiet_translate (by simp)))
    intro sideText
    apply flagSame_bind (flagSame_quiet (quiet_translate (by simp)))
    intro typeText
    apply flagSame_bind (flagSame_quiet (quiet_translate (by simp)))
    intro message
    apply flagSame_bind (flagSame_quiet (quiet_changeJournal _))
    intro _
    exact flagSame_quiet (quiet_bind (quiet_printPrefixed _) fun _ => quiet_pure _)
  · exact flagSame_bind (flagSame_quiet (quiet_translate (by simp))) fun _ => flagSame_submitOrderViaPort

theorem unknown_of_recorded {intent : OrderIntent} {answer : Except PyExc (Option ExecutionReport)}
    (recorded : (recordedOrder intent answer).isSome = true) :
    outcomeUnknown answer = true ∨ ∃ report, answer = .ok (some report) ∧ isKnownSubmission (reportStatus (some report)) = true := by
  rcases answer with exc | ⟨_ | report⟩
  · exact .inl rfl
  · exact .inl (by decide)
  · cases known : isKnownSubmission (reportStatus (some report)) with
    | true => exact .inr ⟨report,rfl,known⟩
    | false =>
      left
      have accepted : reportStatus (some report) ≠ "rejected" := by
        intro rejected
        unfold recordedOrder at recorded
        dsimp only at recorded
        rw [if_pos rejected] at recorded
        cases recorded
      simp [outcomeUnknown,known,accepted]

-- An order that counts is noted: it was placed, or everything is halted.
theorem submitOrderViaPort_noted {message : String} {limitPrice : Option ℚ} {submitted : Bool}
    (steps : (submitOrderViaPort settings symbol kind side quantity message limitPrice).Steps false before events (.ok submitted) after)
    (counts : dealt side events ≠ 0) : submitted = true ∨ after.book.submissionHalted = true := by
  unfold submitOrderViaPort at steps
  rw [steps_get_bind] at steps
  split at steps
  · exact absurd (dealt_idle (idle_events (quiet_pure _ _ _ _ _ steps))) counts
  · dsimp only at steps
    split at steps
    · have none := quiet_bind (quiet_call fun _ => rfl) (fun _ => quiet_pure _) _ _ _ _ steps
      exact absurd (dealt_idle (idle_events none)) counts
    · obtain ⟨answer,tail,rfl,recorded⟩ := steps_attempt_invoke_bind.mp steps
      have settled := recordAnswer_settled recorded
      have counted : (recordedOrder (orderIntent settings symbol kind side quantity limitPrice) answer).isSome = true := by
        by_contra missing
        apply counts
        have behind : dealt side tail = 0 := dealt_idle fun event member => (settled.harmless event member).1
        have nothing : dealtBy side (.answered true (.submitOrder (orderIntent settings symbol kind side quantity limitPrice)) answer) = 0 :=
          dealtBy_submitted.trans (if_neg fun both => missing both.2)
        show dealtBy side _ + dealt side tail = 0
        rw [behind,add_zero]
        exact nothing
      rcases unknown_of_recorded counted with unknown | ⟨report,rfl,known⟩
      · exact .inr (settled.unknown unknown)
      · left
        unfold recordAnswer at recorded
        dsimp only at recorded
        rw [if_neg (known_not_rejected known),if_pos known] at recorded
        exact Except.ok.inj (recordKnown_placed recorded)

theorem placeOrder_noted {submitted : Bool} (steps : (placeOrder settings symbol side kind quantity price).Steps false before events (.ok submitted) after)
    (counts : dealt side events ≠ 0) : submitted = true ∨ after.book.submissionHalted = true := by
  unfold placeOrder at steps
  split at steps
  · left
    unfold recordDryRun at steps
    rw [changeBook_bind] at steps
    obtain ⟨_,_,steps⟩ := steps_mark_bind.mp steps
    obtain ⟨_,_,_,_,_,_,steps⟩ := steps_bind_ok steps
    obtain ⟨_,_,_,_,_,_,steps⟩ := steps_bind_ok steps
    obtain ⟨_,_,_,_,_,_,steps⟩ := steps_bind_ok steps
    obtain ⟨_,_,_,_,_,_,steps⟩ := steps_bind_ok steps
    obtain ⟨_,_,_,_,_,_,steps⟩ := steps_bind_ok steps
    exact Except.ok.inj (steps_pure.mp steps).2.1
  · obtain ⟨one,two,message,told,rfl,telling,submitting⟩ := steps_bind_ok steps
    have quiet : dealt side one = 0 := dealt_idle (idle_events (quiet_translate (by simp) _ _ _ _ telling))
    rw [dealt_append,quiet,zero_add] at counts
    exact submitOrderViaPort_noted submitting counts

end placing

-- No order is placed.
def Idle (_ : Locals) (events : List Happening) (_ : Locals) : Prop := ∀ event ∈ events, isOrder event = false

theorem idle_composes : Composes Idle where
  refl _ := by
    intro event member
    cases member
  trans one two := fun event member => (List.mem_append.mp member).elim (one event) (two event)

-- Nothing is dealt on a side.
def Undealt (side : Side) (_ : Locals) (events : List Happening) (_ : Locals) : Prop := ∀ event ∈ events, dealtBy side event = 0

theorem undealt_composes (side : Side) : Composes (Undealt side) where
  refl _ := by
    intro event member
    cases member
  trans one two := fun event member => (List.mem_append.mp member).elim (one event) (two event)

theorem undealt_walks (settings : Settings) {side other : Side} (unlike : side ≠ other) : Walks settings side (Undealt other) where
  composes := undealt_composes other
  quiet quiet := fun event member => dealtBy_idle (idle_events quiet event member)
  book _ _ := by
    intro event member
    cases member
  place _ := fun _ _ _ steps => once_opposite unlike (placeOrder_once steps)

-- A whole number is shown as it is.
theorem shownQuantity_whole (count : ℤ) : shownQuantity count = count := by
  unfold shownQuantity
  rw [if_pos (Rat.den_intCast count)]

theorem floorToQuantityStep_whole (raw : ℚ) {unit : ℤ} (positive : 0 < unit) : ∃ count : ℤ, floorToQuantityStep raw unit = count := by
  unfold floorToQuantityStep
  split
  · exact ⟨0,by norm_num⟩
  · refine ⟨⌊raw / normalizeQuantityStep unit⌋ * unit,?_⟩
    have same : normalizeQuantityStep (unit : ℚ) = unit := by
      unfold normalizeQuantityStep
      rw [if_neg (not_le.mpr (by exact_mod_cast positive))]
    rw [same]
    push_cast
    ring

theorem normalizeTradeQuantity_whole (quantity : ℚ) (lotSize : ℤ) : ∃ count : ℤ, normalizeTradeQuantity quantity lotSize = count := by
  unfold normalizeTradeQuantity
  dsimp only
  split
  · exact ⟨0,by norm_num⟩
  split
  · unfold floorLotQuantity
    obtain ⟨count,found⟩ := floorToQuantityStep_whole (max 0 quantity) (lt_of_lt_of_le one_pos (le_max_left 1 lotSize))
    exact ⟨count,by rw [← found]; push_cast; rfl⟩
  · obtain ⟨count,found⟩ := floorToQuantityStep_whole (max 0 quantity) one_pos
    exact ⟨count,by rw [← found]; push_cast; rfl⟩

theorem normalizeTradeQuantity_nonneg (quantity : ℚ) (lotSize : ℤ) : 0 ≤ normalizeTradeQuantity quantity lotSize := by
  unfold normalizeTradeQuantity
  dsimp only
  split
  · exact le_rfl
  split
  · exact floorToQuantityStep_nonneg _ _
  · exact floorToQuantityStep_nonneg _ _

theorem normalizeTradeQuantity_le (quantity : ℚ) (lotSize : ℤ) : normalizeTradeQuantity quantity lotSize ≤ max 0 quantity := by
  unfold normalizeTradeQuantity
  dsimp only
  split
  · exact le_max_left 0 quantity
  split
  · exact floorToQuantityStep_le _ (le_max_left 0 quantity)
  · exact floorToQuantityStep_le _ (le_max_left 0 quantity)

end LongBridge.Cycle
