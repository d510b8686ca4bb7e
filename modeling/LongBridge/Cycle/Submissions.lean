import LongBridge.Cycle.Walk
import LongBridge.Cycle.Placement
import LongBridge.Risk.OrderAdapter

namespace LongBridge.Cycle
open Effects

-- The facts the answers of the port leave behind, in the order of the answers.
def recordedOrders (events : List Happening) : List OrderPayload :=
  events.filterMap fun event => match event with
    | .answered _ (.submitOrder intent) answer => recordedOrder intent answer
    | _ => none

def unknownOutcome : Happening → Bool
  | .answered _ (.submitOrder _) answer => outcomeUnknown answer
  | _ => false

def observesBlock : Happening → Bool
  | .answered _ .fetchReplannedState (.ok observation) =>
    match executionIsBlocked observation.plan observation.execution observation.allocation with
    | .ok blocked => blocked
    | .error _ => false
  | _ => false

-- What ends all placing: an outcome nobody knows, a hook that failed, a blocked state.
def stops (event : Happening) : Bool := unknownOutcome event || hookFailed event || observesBlock event

structure Orderly (before : Locals) (events : List Happening) (after : Locals) : Prop where
  pending : after.book.pendingOrders = before.book.pendingOrders ++ recordedOrders events
  frozen : before.book.submissionHalted = true →
    (∀ event ∈ events, isOrder event = false) ∧ after.book.submissionHalted = true
  stopped : ∀ first event rest, events = first ++ event :: rest → stops event = true →
    (∀ later ∈ rest, isOrder later = false) ∧ after.book.submissionHalted = true

theorem recordedOrders_append (first second : List Happening) :
    recordedOrders (first ++ second) = recordedOrders first ++ recordedOrders second := List.filterMap_append ..

theorem orderly_composes : Composes Orderly where
  refl before := ⟨by simp [recordedOrders],fun halted => ⟨by simp,halted⟩,by simp⟩
  trans {before middle after one two} left right := by
    refine ⟨?_,?_,?_⟩
    · rw [right.pending,left.pending,recordedOrders_append,List.append_assoc]
    · intro halted
      obtain ⟨none,still⟩ := left.frozen halted
      obtain ⟨never,last⟩ := right.frozen still
      exact ⟨fun event member => (List.mem_append.mp member).elim (none event) (never event),last⟩
    · intro first event rest split stop
      rcases List.append_eq_append_iff.mp split.symm with ⟨later,rfl,same⟩ | ⟨later,rfl,same⟩
      · cases later with
        | nil =>
          obtain rfl : two = event :: rest := by simpa using same.symm
          exact right.stopped [] event rest rfl stop
        | cons head tail =>
          obtain ⟨rfl,rfl⟩ : event = head ∧ rest = tail ++ two := by simpa using same
          obtain ⟨none,halted⟩ := left.stopped first event tail rfl stop
          obtain ⟨never,last⟩ := right.frozen halted
          exact ⟨fun event member => (List.mem_append.mp member).elim (none event) (never event),last⟩
      · exact right.stopped later event rest same stop

theorem quiet_recordedOrders {events : List Happening} (quiet : ∀ event ∈ events, isOrder event = false) :
    recordedOrders events = [] := by
  refine List.filterMap_eq_nil_iff.mpr ?_
  intro event member
  have none := quiet event member
  cases event with
  | answered held request answer =>
    cases request with
    | submitOrder intent => simp [isOrder] at none
    | _ => rfl
  | fault held error => rfl
  | marked label => rfl

theorem quiet_stops {event : Happening} (quiet : isQuiet event = true) : stops event = false := by
  obtain ⟨order,fetch,_,hook⟩ := quiet_parts quiet
  unfold stops
  rw [hook]
  cases event with
  | answered held request answer =>
    cases request with
    | submitOrder intent => simp [isOrder] at order
    | fetchReplannedState => simp [isFetch] at fetch
    | _ => rfl
  | fault held error => rfl
  | marked label => rfl

theorem quiet_orderly {before after : Locals} {events : List Happening} (quiet : Quiet before events after) :
    Orderly before events after where
  pending := by
    rw [quiet_recordedOrders (fun event member => (quiet_parts (quiet.events event member)).1),quiet.book,List.append_nil]
  frozen halted := ⟨fun event member => (quiet_parts (quiet.events event member)).1,by rw [quiet.book]; exact halted⟩
  stopped first event rest split stop := by
    have silent := quiet_stops (quiet.events event (by rw [split]; simp))
    rw [silent] at stop
    cases stop

-- Everything that leaves the book's list and the halt as they are.
theorem orderly_changeBook {change : OrderBook → OrderBook} {held : Bool}
    (same : ∀ book, (change book).pendingOrders = book.pendingOrders ∧
      (change book).submissionHalted = book.submissionHalted) : Keeps Orderly held (changeBook change) := by
  refine keeps_modify (fun before => ⟨?_,fun halted => ⟨by simp,?_⟩,by simp⟩)
  · simp [(same before.book).1,recordedOrders]
  · rw [← halted]; exact (same before.book).2

theorem orderly_modify {change : Locals → Locals} {held : Bool} (same : ∀ locals, (change locals).book = locals.book) :
    Keeps Orderly held (Script.modify (P := ports) (ε := PyExc) change) := by
  refine keeps_modify (fun before => ⟨?_,fun halted => ⟨by simp,?_⟩,by simp⟩)
  · simp [same,recordedOrders]
  · rw [same]; exact halted

-- A submission from a state that is not halted.
theorem submission_orderly {intent : OrderIntent} {answer : Except PyExc (Option ExecutionReport)} {before after : Locals}
    {events : List Happening} (placing : before.book.submissionHalted = false)
    (settled : Settled intent answer before events after) :
    Orderly before (.answered true (.submitOrder intent) answer :: events) after where
  pending := by
    rw [settled.pending]
    congr 1
    have none : recordedOrders events = [] := quiet_recordedOrders (fun event member => (settled.harmless event member).1)
    simp only [recordedOrders,List.filterMap_cons] at none ⊢
    rw [none]
    cases recordedOrder intent answer <;> rfl
  frozen halted := by rw [placing] at halted; cases halted
  stopped first event rest split stop := by
    cases first with
    | nil =>
      obtain ⟨rfl,rfl⟩ : event = _ ∧ rest = events := by simpa [eq_comm] using split
      refine ⟨fun later member => (settled.harmless later member).1,settled.unknown ?_⟩
      simpa [stops,hookFailed,observesBlock,unknownOutcome] using stop
    | cons head tail =>
      obtain ⟨rfl,rfl⟩ : head = _ ∧ events = tail ++ event :: rest := by simpa [eq_comm] using split
      refine ⟨fun later member => (settled.harmless later (by simp [member])).1,settled.hook ⟨event,by simp,?_⟩⟩
      obtain ⟨order,fetch,_⟩ := settled.harmless event (by simp)
      cases event with
      | answered held request answer =>
        cases request with
        | submitOrder intent => simp [isOrder] at order
        | fetchReplannedState => simp [isFetch] at fetch
        | _ => simpa [stops,unknownOutcome,observesBlock] using stop
      | fault held error => simp [stops,unknownOutcome,hookFailed,observesBlock] at stop
      | marked label => simp [stops,unknownOutcome,hookFailed,observesBlock] at stop

theorem orderly_submitOrderViaPort {settings : Settings} {symbol : String} {orderType : OrderType} {side : Side}
    {quantity : ℚ} {message : String} {price : Option ℚ} {before : Locals} :
    KeepsFrom Orderly false before (submitOrderViaPort settings symbol orderType side quantity message price) := by
  refine keepsFrom_get_bind (keepsFrom_ite ?_ (fun placing => keepsFrom_ite ?_ ?_))
  · intro _
    exact keeps_pure orderly_composes false before
  · intro _
    refine keeps_weaken quiet_orderly ?_ before
    exact quiet_bind (quiet_call (fun _ => rfl)) (fun _ => quiet_pure _)
  · intro _ events result after steps
    obtain ⟨answer,tail,rfl,ended⟩ := steps_attempt_invoke_bind.mp steps
    exact submission_orderly (by simpa using placing) (recordAnswer_settled ended)

variable {before : Locals} {frame : Frame}

theorem orderly_bind {script : Step α} {rest : α → Step β} (first : Keeps Orderly false script)
    (second : ∀ value, Keeps Orderly false (rest value)) : Keeps Orderly false (script >>= rest) :=
  keeps_bind orderly_composes first second

theorem orderly_quiet {script : Step α} (quiet : Keeps Quiet false script) : Keeps Orderly false script :=
  keeps_weaken quiet_orderly quiet

theorem orderly_whenever {condition : Bool} {script : Step Unit} (orderly : Keeps Orderly false script) :
    Keeps Orderly false (whenever condition script) := keeps_ite orderly (orderly_quiet (quiet_pure ()))

-- A quiet step first: what follows starts with the same book, gate and view.
theorem orderly_after_quiet {script : Step α} {rest : α → Step β} (quiet : Keeps Quiet false script)
    (second : ∀ value middle, middle.book = before.book → middle.view = before.view →
      KeepsFrom Orderly false middle (rest value)) : KeepsFrom Orderly false before (script >>= rest) := by
  refine keepsFrom_bind orderly_composes (orderly_quiet quiet before) ?_
  intro events value middle ran
  have same := quiet before events _ middle ran
  exact second value middle same.book same.view

theorem orderly_recordDryRun {symbol : String} {side : Side} {quantity price : ℚ} {orderType : OrderType}
    (placing : before.book.submissionHalted = false) :
    KeepsFrom Orderly false before (recordDryRun symbol side quantity price orderType) := by
  refine keepsFrom_bind orderly_composes (orderly_changeBook (by simp) before) ?_
  intro events value middle ran
  obtain ⟨_,_,rfl⟩ := steps_modify.mp ran
  refine keepsFrom_bind orderly_composes ?_ ?_
  · intro events result after steps
    obtain ⟨rfl,_,rfl⟩ := steps_mark.mp steps
    refine ⟨by simp [recordedOrders],fun halted => ?_,?_⟩
    · exact absurd (placing.symm.trans halted) (by decide)
    · intro first event rest split stop
      obtain ⟨rfl,rfl,rfl⟩ : first = [] ∧ event = _ ∧ rest = [] := by
        simpa [List.append_eq_cons_iff,eq_comm] using split
      cases stop
  · intro _ _ middle _
    refine orderly_quiet ?_ middle
    refine quiet_bind (quiet_translate (by simp)) (fun sideText => ?_)
    refine quiet_bind (quiet_translate (by simp)) (fun typeText => ?_)
    refine quiet_bind (quiet_translate (by simp)) (fun message => ?_)
    exact quiet_bind (quiet_changeJournal _) (fun _ => quiet_bind (quiet_printPrefixed _) (fun _ => quiet_pure _))

theorem orderly_placeOrder {settings : Settings} {symbol : String} {side : Side} {orderType : OrderType}
    {quantity price : ℚ} (placing : before.book.submissionHalted = false) :
    KeepsFrom Orderly false before (placeOrder settings symbol side orderType quantity price) := by
  refine keepsFrom_ite (fun _ => orderly_recordDryRun placing) (fun _ => ?_)
  exact orderly_after_quiet (quiet_translate (by simp)) (fun _ _ _ _ => orderly_submitOrderViaPort)

theorem keepsLists_orderly {change : OrderBook → OrderBook} (keeps : KeepsLists change) (before : Locals) :
    Orderly before [] { before with book := change before.book } where
  pending := by rw [(keeps before.book).2.2.1,recordedOrders,List.filterMap_nil,List.append_nil]
  frozen halted := ⟨by simp,by rw [(keeps before.book).2.2.2.2]; exact halted⟩
  stopped := by simp

theorem orderly_walks (settings : Settings) (side : Side) : Walks settings side Orderly where
  composes := orderly_composes
  quiet := quiet_orderly
  book := keepsLists_orderly
  place := orderly_placeOrder

theorem orderly_mark {label : Mark} (other : isOrder (.marked label : Happening) = false) :
    Keeps Orderly false (Script.mark (P := ports) (ε := PyExc) (σ := Locals) label) := by
  refine keeps_mark (fun before => ⟨?_,fun halted => ⟨by simpa using other,halted⟩,?_⟩)
  · rw [quiet_recordedOrders (by simpa using other),List.append_nil]
  · intro first event rest split stop
    obtain ⟨rfl,rfl,rfl⟩ : first = [] ∧ event = _ ∧ rest = [] := by
      simpa [List.append_eq_cons_iff,eq_comm] using split
    cases stop

theorem orderly_changeView (change : View → View) : Keeps Orderly false (changeView change) := orderly_modify (fun _ => rfl)

theorem orderly_scaleAllocation (scale : Option ℚ) : Keeps Orderly false (scaleAllocation frame scale) :=
  keeps_get_bind (fun locals => orderly_bind (orderly_quiet (quiet_fromExcept _)) (fun _ => orderly_changeView _) locals)

theorem orderly_openGate : Keeps Orderly false (openGate frame) := by
  refine keeps_ite ?_ (orderly_mark rfl)
  refine orderly_bind (orderly_quiet (quiet_fromExcept _)) (fun evaluated => ?_)
  refine orderly_bind (orderly_modify (fun _ => rfl)) (fun _ => orderly_bind (orderly_mark rfl) (fun _ => ?_))
  refine orderly_bind (orderly_quiet (quiet_diagnostic frame _)) (fun _ => ?_)
  refine orderly_bind (orderly_quiet (quiet_call (fun _ => rfl))) (fun counts => ?_)
  refine orderly_bind (orderly_quiet (quiet_diagnostic frame _)) (fun _ => ?_)
  refine orderly_bind (orderly_scaleAllocation _) (fun _ => ?_)
  split
  · exact orderly_quiet (quiet_diagnostic frame _)
  · exact orderly_quiet (quiet_pure ())

theorem orderly_openCycle : Keeps Orderly false (openCycle frame) :=
  orderly_bind orderly_openGate (fun _ => keeps_get_bind (fun locals => orderly_quiet (quiet_fromExcept _) locals))

theorem orderly_adjustWholeShares : Keeps Orderly false (adjustWholeShares frame) :=
  keeps_get_bind (fun locals =>
    orderly_bind (orderly_quiet (quiet_compatibilityPrices _ _ _)) (fun _ => orderly_changeView _) locals)

theorem orderly_adjustTargets (announce : Bool) : Keeps Orderly false (adjustTargets frame announce) := by
  refine keeps_get_bind (fun locals => orderly_bind (orderly_mark rfl) (fun _ => ?_) locals)
  refine orderly_bind (orderly_changeView _) (fun _ => ?_)
  refine orderly_bind (orderly_whenever (orderly_quiet quiet_announceCompatibility)) (fun _ => ?_)
  refine orderly_bind (orderly_whenever orderly_adjustWholeShares) (fun _ => ?_)
  refine keeps_get_bind (fun adjusted => orderly_bind (orderly_quiet (quiet_recordCashNotes _)) (fun _ => ?_) adjusted)
  exact orderly_quiet (quiet_recordBootstrapNotes _ _)

theorem orderly_halt : Keeps Orderly false halt :=
  keeps_modify (fun before => ⟨by simp [recordedOrders],fun _ => ⟨by simp,rfl⟩,by simp⟩)

theorem orderly_constrainGate (observation : Observation) : Keeps Orderly false (constrainGate frame observation) := by
  refine keeps_ite (orderly_bind (orderly_quiet (quiet_fromExcept _)) (fun evaluated => ?_)) (orderly_quiet (quiet_pure _))
  refine orderly_bind (orderly_modify (fun _ => rfl)) (fun _ => ?_)
  exact orderly_bind (orderly_mark rfl) (fun _ => orderly_quiet (quiet_pure _))

-- Events without any order, any further state or any failed hook.
abbrev Hushed : Locals → List Happening → Locals → Prop := Only isQuiet

theorem hushed_composes : Composes Hushed := only_composes isQuiet

theorem hushed_quiet {script : Step α} (quiet : Keeps Quiet false script) : Keeps Hushed false script :=
  keeps_weaken (fun found => found.events) quiet

theorem hushed_modify (change : Locals → Locals) :
    Keeps Hushed false (Script.modify (P := ports) (ε := PyExc) change) :=
  keeps_modify (fun _ event member => by cases member)

theorem hushed_constrainGate (observation : Observation) : Keeps Hushed false (constrainGate frame observation) := by
  refine keeps_ite (keeps_bind hushed_composes (hushed_quiet (quiet_fromExcept _)) (fun evaluated => ?_))
    (hushed_quiet (quiet_pure _))
  refine keeps_bind hushed_composes (hushed_modify _) (fun _ => ?_)
  refine keeps_bind hushed_composes (keeps_mark (fun _ event member => ?_)) (fun _ => hushed_quiet (quiet_pure _))
  rw [List.mem_singleton.mp member]; rfl

theorem orderly_whenever_halt (blocked : Bool) : Keeps Orderly false (whenever blocked halt) := orderly_whenever orderly_halt

theorem orderly_constrain (observation : Observation) : Keeps Orderly false (constrain frame observation) := by
  refine orderly_bind (orderly_quiet (quiet_fromExcept _)) (fun blocked => ?_)
  exact orderly_bind (orderly_whenever_halt blocked) (fun _ => orderly_constrainGate observation)

theorem hushed_constrain (observation : Observation) : Keeps Hushed false (constrain frame observation) := by
  refine keeps_bind hushed_composes (hushed_quiet (quiet_fromExcept _)) (fun blocked => ?_)
  refine keeps_bind hushed_composes ?_ (fun _ => hushed_constrainGate observation)
  exact keeps_ite (hushed_modify _) (hushed_quiet (quiet_pure ()))

-- A blocked state halts the cycle, however the attempt goes on.
theorem constrain_halts {observation : Observation} {events : List Happening} {after : Locals} {result : Except PyExc Observation}
    (blocked : executionIsBlocked observation.plan observation.execution observation.allocation = .ok true)
    (steps : (constrain frame observation).Steps false before events result after) : after.book.submissionHalted = true := by
  rcases steps_fromExcept_bind.mp steps with ⟨found,same,steps⟩ | ⟨error,wrong,_⟩
  · rw [blocked] at same
    cases same
    simp only [whenever,halt,if_true] at steps
    rw [changeBook_bind] at steps
    exact ((orderly_constrainGate observation _ _ _ _ steps).frozen rfl).2
  · rw [blocked] at wrong; cases wrong

-- An event that is no order in front of events that do nothing.
theorem orderly_cons {event : Happening} {events : List Happening} {after : Locals}
    (noOrder : isOrder event = false) (orderly : Orderly before events after) (hushed : Hushed before events after)
    (stop : stops event = true → after.book.submissionHalted = true) : Orderly before (event :: events) after where
  pending := by
    have none : recordedOrders [event] = [] := quiet_recordedOrders (by simpa using noOrder)
    rw [← List.singleton_append,recordedOrders_append,none,List.nil_append]
    exact orderly.pending
  frozen halted := by
    obtain ⟨never,still⟩ := orderly.frozen halted
    exact ⟨by simpa using ⟨noOrder,never⟩,still⟩
  stopped first found rest split stopping := by
    cases first with
    | nil =>
      obtain ⟨rfl,rfl⟩ : found = event ∧ rest = events := by simpa [eq_comm] using split
      exact ⟨fun later member => (quiet_parts (hushed later member)).1,stop stopping⟩
    | cons head tail =>
      obtain ⟨rfl,rfl⟩ : head = event ∧ events = tail ++ found :: rest := by simpa [eq_comm] using split
      rw [quiet_stops (hushed found (by simp))] at stopping
      cases stopping

theorem observesBlock_blocked {held : Bool} {observation : Observation}
    (blocks : observesBlock (.answered held .fetchReplannedState (.ok observation)) = true) :
    executionIsBlocked observation.plan observation.execution observation.allocation = .ok true := by
  simp only [observesBlock] at blocks
  split at blocks
  · rename_i found same; rw [same,blocks]
  · cases blocks

theorem orderly_refreshOnce (best projected : ℚ) : Keeps Orderly false (refreshOnce frame best projected) := by
  intro before events result after steps
  rcases steps_invoke_bind.mp steps with ⟨observation,tail,rfl,rest⟩ | ⟨error,rfl,_,rfl⟩
  · have orderly := orderly_bind (orderly_constrain observation)
      (fun constrained => orderly_quiet (quiet_measureRefresh frame best projected constrained)) _ _ _ _ rest
    have hushed := keeps_bind hushed_composes (hushed_constrain observation)
      (fun constrained => hushed_quiet (quiet_measureRefresh frame best projected constrained)) _ _ _ _ rest
    refine orderly_cons rfl orderly hushed (fun stopping => ?_)
    have blocked := observesBlock_blocked (by simpa [stops,unknownOutcome,hookFailed] using stopping)
    rcases steps_bind.mp rest with ⟨one,two,constrained,middle,_,ran,ended⟩ | ⟨error,_,ran⟩
    · rw [(quiet_measureRefresh frame best projected constrained _ _ _ _ ended).book]
      exact constrain_halts blocked ran
    · exact constrain_halts blocked ran
  · refine orderly_cons rfl (orderly_composes.refl _) (hushed_composes.refl _) (fun stopping => ?_)
    simp [stops,unknownOutcome,hookFailed,observesBlock] at stopping

theorem orderly_refreshAgain (previous : ℚ) (attempts : ℕ) (found : Refresh) :
    Keeps Orderly false (refreshAgain frame previous attempts found) := by
  induction attempts generalizing found with
  | zero => exact orderly_quiet (quiet_pure _)
  | succ attempts ih =>
    refine keeps_ite (orderly_quiet (quiet_pure _)) ?_
    refine orderly_bind (orderly_quiet (quiet_call (fun _ => rfl))) (fun _ => ?_)
    exact orderly_bind (orderly_refreshOnce _ _) (fun next => ih next)

theorem orderly_refreshLoop (previous : ℚ) : Keeps Orderly false (refreshLoop frame previous) :=
  orderly_bind (orderly_refreshOnce _ _) (fun first => orderly_refreshAgain _ _ first)

theorem orderly_adoptRefresh (previous : ℚ) (refresh : Refresh) : Keeps Orderly false (adoptRefresh frame previous refresh) := by
  refine keeps_get_bind (fun locals => orderly_bind (orderly_changeView _) (fun _ => ?_) locals)
  refine orderly_bind (orderly_whenever (orderly_scaleAllocation _)) (fun _ => ?_)
  exact orderly_bind (orderly_adjustTargets false) (fun _ => orderly_changeView _)

theorem orderly_simulateProceeds : Keeps Orderly false simulateProceeds :=
  keeps_get_bind (fun locals => orderly_bind (orderly_changeView _) (fun _ => orderly_quiet (quiet_noteLog _)) locals)

theorem orderly_fundFromSells : Keeps Orderly false (fundFromSells frame) := by
  refine keeps_get_bind (fun locals => ?_)
  refine keepsFrom_ite (fun _ => ?_) (fun _ => orderly_quiet (quiet_pure ()) locals)
  refine keepsFrom_ite (fun _ => orderly_simulateProceeds locals) (fun _ => ?_)
  exact orderly_bind (orderly_refreshLoop _) (fun refresh => orderly_adoptRefresh _ refresh) locals

theorem orderly_sellAndFund : Keeps Orderly false (sellAndFund frame) := by
  refine orderly_bind (orderly_adjustTargets true) (fun _ => keeps_get_bind (fun locals => ?_))
  refine orderly_bind (walk_sellLoop (orderly_walks _ _) _) (fun _ => ?_) locals
  exact orderly_bind (walk_fundFromSweep (orderly_walks _ _)) (fun _ => orderly_fundFromSells)

theorem paid_book (locals : Locals) (cost : ℚ) : (paid locals cost).book = locals.book := rfl

theorem orderly_pays (cost : ℚ) (before : Locals) : Orderly before [] (paid before cost) :=
  ⟨by simp [recordedOrders,paid_book],fun halted => ⟨by simp,halted⟩,by simp⟩

theorem orderly_buyPhase (candidates : List String) : Keeps Orderly false (buyPhase frame candidates) := by
  refine orderly_bind (walk_buyLoop (orderly_walks _ _) orderly_pays candidates) (fun _ => orderly_bind (walk_rebuyCashSweep (orderly_walks _ _)) (fun _ => ?_))
  exact orderly_quiet (quiet_finishCycle frame)

theorem orderly_tradeCycle : Keeps Orderly false (tradeCycle frame) := by
  refine orderly_bind orderly_sellAndFund (fun _ => orderly_bind (orderly_quiet (quiet_gateBuys frame)) (fun candidates => ?_))
  exact orderly_buyPhase candidates

theorem orderly_executeRebalanceCycle : Keeps Orderly false (executeRebalanceCycle frame) := by
  refine orderly_bind orderly_openCycle (fun blocked => keeps_ite ?_ orderly_tradeCycle)
  exact keeps_get_bind (fun locals => orderly_quiet (quiet_pure _) locals)

-- Opening a cycle places nothing.
structure Opened (before : Locals) (events : List Happening) (after : Locals) : Prop where
  events : ∀ event ∈ events, isQuiet event = true
  book : after.book = before.book

theorem opened_composes : Composes Opened where
  refl _ := ⟨by simp,rfl⟩
  trans one two :=
    ⟨fun event member => (List.mem_append.mp member).elim (one.events event) (two.events event),two.book.trans one.book⟩

theorem opened_bind {script : Step α} {rest : α → Step β} (first : Keeps Opened false script)
    (second : ∀ value, Keeps Opened false (rest value)) : Keeps Opened false (script >>= rest) :=
  keeps_bind opened_composes first second

theorem opened_quiet {script : Step α} (quiet : Keeps Quiet false script) : Keeps Opened false script :=
  keeps_weaken (fun found => ⟨found.events,found.book⟩) quiet

theorem opened_modify {change : Locals → Locals} (same : ∀ locals, (change locals).book = locals.book) :
    Keeps Opened false (Script.modify (P := ports) (ε := PyExc) change) :=
  keeps_modify (fun before => ⟨by simp,same before⟩)

theorem opened_changeView (change : View → View) : Keeps Opened false (changeView change) := opened_modify (fun _ => rfl)

theorem opened_snapshot (snapshot : Option NewRiskGate.Snapshot) :
    Keeps Opened false (Script.mark (P := ports) (ε := PyExc) (σ := Locals) (.cycleSnapshot snapshot)) :=
  keeps_mark (fun _ => ⟨by simp [isQuiet,isOrder,isFetch,isAdjustment,hookFailed],rfl⟩)

theorem opened_openGate : Keeps Opened false (openGate frame) := by
  refine keeps_ite ?_ (opened_snapshot none)
  refine opened_bind (opened_quiet (quiet_fromExcept _)) (fun evaluated => ?_)
  refine opened_bind (opened_modify (fun _ => rfl)) (fun _ => opened_bind (opened_snapshot _) (fun _ => ?_))
  refine opened_bind (opened_quiet (quiet_diagnostic frame _)) (fun _ => ?_)
  refine opened_bind (opened_quiet (quiet_call (fun _ => rfl))) (fun counts => ?_)
  refine opened_bind (opened_quiet (quiet_diagnostic frame _)) (fun _ => ?_)
  refine opened_bind (keeps_get_bind (fun locals => ?_)) (fun _ => ?_)
  · exact opened_bind (opened_quiet (quiet_fromExcept _)) (fun _ => opened_changeView _) locals
  · split
    · exact opened_quiet (quiet_diagnostic frame _)
    · exact opened_quiet (quiet_pure ())

theorem opened_openCycle : Keeps Opened false (openCycle frame) :=
  opened_bind opened_openGate (fun _ => keeps_get_bind (fun locals => opened_quiet (quiet_fromExcept _) locals))

-- The result is read off the locals at the end, or off the opened cycle when it is blocked.
theorem finishCycle_result {after : Locals} {events : List Happening} {cycle : CycleResult}
    (steps : (finishCycle frame).Steps false before events (.ok cycle) after) : cycle = cycleResult after := by
  unfold finishCycle at steps
  rw [steps_get_bind] at steps
  rcases steps_bind.mp steps with ⟨_,_,notes,middle,_,_,steps⟩ | ⟨_,wrong,_⟩
  · rcases steps_bind.mp steps with ⟨_,_,_,last,_,_,steps⟩ | ⟨_,wrong,_⟩
    · obtain ⟨_,_,steps⟩ := steps_mark_bind.mp steps
      rw [steps_get_bind] at steps
      obtain ⟨_,same,rfl⟩ := steps_pure.mp steps
      exact Except.ok.inj same
    · cases wrong
  · cases wrong

theorem buyPhase_result {after : Locals} {events : List Happening} {candidates : List String} {cycle : CycleResult}
    (steps : (buyPhase frame candidates).Steps false before events (.ok cycle) after) : cycle = cycleResult after := by
  rcases steps_bind.mp steps with ⟨_,_,_,_,_,_,steps⟩ | ⟨_,wrong,_⟩
  · rcases steps_bind.mp steps with ⟨_,_,_,_,_,_,steps⟩ | ⟨_,wrong,_⟩
    · exact finishCycle_result steps
    · cases wrong
  · cases wrong

theorem tradeCycle_result {after : Locals} {events : List Happening} {cycle : CycleResult}
    (steps : (tradeCycle frame).Steps false before events (.ok cycle) after) : cycle = cycleResult after := by
  rcases steps_bind.mp steps with ⟨_,_,_,_,_,_,steps⟩ | ⟨_,wrong,_⟩
  · rcases steps_bind.mp steps with ⟨_,_,_,_,_,_,steps⟩ | ⟨_,wrong,_⟩
    · exact buyPhase_result steps
    · cases wrong
  · cases wrong

theorem executeRebalanceCycle_pending {after : Locals} {events : List Happening} {cycle : CycleResult}
    (steps : (executeRebalanceCycle frame).Steps false (openingLocals frame.opening) events (.ok cycle) after) :
    cycle.pendingOrders = after.book.pendingOrders := by
  rcases steps_bind.mp steps with ⟨one,two,blocked,middle,_,ran,steps⟩ | ⟨_,wrong,_⟩
  · split at steps
    · rw [steps_get_bind] at steps
      obtain ⟨_,same,rfl⟩ := steps_pure.mp steps
      rw [Except.ok.inj same,(opened_openCycle _ _ _ _ ran).book]; rfl
    · rw [tradeCycle_result steps]; rfl
  · cases wrong

-- The cycle returns one fact for each submission that was not rejected, in
-- order, and submits nothing once an outcome is unknown or a hook has failed.
theorem pending_orders_are_the_submissions {events : List Happening} {result : Except PyExc CycleResult} {after : Locals}
    (run : (executeRebalanceCycle frame).Steps false (openingLocals frame.opening) events result after) :
    (∀ cycle, result = .ok cycle → cycle.pendingOrders = recordedOrders events) ∧
    ∀ first event rest, events = first ++ event :: rest → unknownOutcome event = true ∨ hookFailed event = true →
      ∀ later ∈ rest, isSubmission later = false := by
  have orderly := orderly_executeRebalanceCycle _ _ _ _ run
  constructor
  · rintro cycle rfl
    rw [executeRebalanceCycle_pending run,orderly.pending]
    rfl
  · intro first event rest split stopping later member
    have never := (orderly.stopped first event rest split (by rcases stopping with unknown | hook <;> simp [stops, *])).1 later member
    cases later with
    | answered held request answer =>
      cases request with
      | submitOrder intent => simp [isOrder] at never
      | _ => rfl
    | fault held error => rfl
    | marked label => rfl

-- The kit as far as the cycle's tests pin it down.
def testedKit : Library where
  gate := OrderAdapter.testedLibrary
  dispositionText
    | .allowNewRisk => "ALLOW_NEW_RISK"
    | .newRiskProhibited => "NEW_RISK_PROHIBITED"
    | .other value => value
  applyCombinedScaleToTargets targets scale :=
    .ok (match scale with
      | none => targets
      | some scale => targets.map fun entry => (entry.1,entry.2 * scale))
  shouldSellCashSweepToFundWholeShareBuy sellable price investable needs :=
    needs.any fun need => decide (investable < need.2) && decide (need.2 ≤ investable + sellable * price)
  applySmallAccountCashCompatibility targets _ _ _ := ⟨targets,[],[],[]⟩
  existingWholeShareRetentionSymbols := []
  retentionMinTargetShareRatio := []
  bootstrapMinTargetShareRatio := []

def wholeShareSettings (dryRunOnly : Bool) : Settings :=
  { limitSellDiscount := 995 / 1000
    limitBuyPremium := some (1005 / 1000)
    limitBuyPremiumBySymbol := none
    dryRunOnly
    symbolSuffix := ".US"
    postSellRefreshAttempts := 1
    postSellRefreshIntervalSec := 0
    minOrderNotionalUsd := 0
    safeHavenCashSubstituteThresholdUsd := 1000
    cashOnlyExecution := true
    fractionalBuyExecution := false
    lotSizes := []
    notionalBuyCompatMode := false
    hasFetchOrderStatus := true
    hasPostSubmitOrder := true }

def approved (investableCash reservedCash : ℚ) : Execution :=
  ⟨100,100,investableCash,reservedCash,[("risk_gate",.str "APPROVE")]⟩

def allocate (symbols riskSymbols : List String) (targets : Amounts) : Allocation :=
  ⟨symbols,riskSymbols,[],[],targets,[],[],[],[],[],[]⟩

def hold (marketValues quantities : Amounts) (liquidCash : ℚ) (cashSweepSymbol : String) : Portfolio :=
  ⟨marketValues,quantities,quantities,liquidCash,cashSweepSymbol,[],[("total_strategy_equity",.int 50000)]⟩

def observe (portfolio : Portfolio) (execution : Execution) (allocation : Allocation) : Observation :=
  ⟨⟨portfolio,execution,allocation⟩,portfolio,execution,allocation⟩

def gateOff : NewRiskGate.Environment := fun key => if key = "ACCOUNT_NEW_RISK_GATE" then some "0" else none

-- Every port answers; the broker takes every order and reports nothing filled.
def calmWorld (refreshed : Observation) : World ports PyExc := fun _ request =>
  match request with
  | .getQuote symbol => .ok ⟨symbol,"",some 100,none,none,"USD"⟩
  | .submitOrder _ => .ok (some ⟨"submitted",none,none,some "1"⟩)
  | .postSubmitOrder _ _ => .ok ()
  | .fetchReplannedState => .ok refreshed
  | .fetchOrderStatus _ => .ok none
  | .estimateMaxPurchaseQuantity _ _ _ _ => .ok (some 1000)
  | .notifyIssue _ _ => .ok ()
  | .translator key _ => .ok key
  | .withPrefix message => .ok message
  | .sleeper _ => .ok ()
  | .publishAttention _ => .ok ⟨0,0,0⟩
  | .formatCashNote _ => .ok []
  | .allocationDriftNotes _ => .ok []

def twoSells : Observation :=
  observe (hold [("SPY",5000),("QQQ",3000)] [("SPY",50),("QQQ",30)] 0 "") (approved 0 0)
    (allocate ["SPY","QQQ"] ["SPY","QQQ"] [("SPY",0),("QQQ",0)])

def lostAnswer (refreshed : Observation) : World ports PyExc := fun past request =>
  match request with
  | .submitOrder _ => .error ⟨"TimeoutError","timed out"⟩
  | request => calmWorld refreshed past request

def twoSellsFrame : Frame := ⟨wholeShareSettings false,testedKit,gateOff,twoSells⟩

def twoSellsRun : List Happening × Except PyExc CycleResult × Locals :=
  play (lostAnswer twoSells) [] ((executeRebalanceCycle twoSellsFrame).run false (openingLocals twoSells))

theorem lost_answer_ends_the_sells :
    (recordedOrders twoSellsRun.1).map OrderPayload.submissionStatus = ["unknown"] ∧
    (∀ cycle, twoSellsRun.2.1 = .ok cycle → cycle.pendingOrders = recordedOrders twoSellsRun.1) ∧
    ∀ first event rest, twoSellsRun.1 = first ++ event :: rest → unknownOutcome event = true ∨ hookFailed event = true →
      ∀ later ∈ rest, isSubmission later = false :=
  ⟨by decide +kernel,@pending_orders_are_the_submissions twoSellsFrame twoSellsRun.1 twoSellsRun.2.1 twoSellsRun.2.2
    (play_runs _ _ _)⟩

end LongBridge.Cycle
