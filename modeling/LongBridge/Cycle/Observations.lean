import LongBridge.Cycle.Refreshing
import LongBridge.Cycle.Submissions

namespace LongBridge.Cycle
open Effects

def adjusting? : Happening → Option Amounts
  | .marked (.adjusting targets) => some targets
  | _ => none

-- Each adjustment a run starts, with the states it was shown before.
def adjustments : List Observation → List Happening → List (List Observation × Amounts)
  | _,[] => []
  | seen,event :: rest =>
    ((adjusting? event).map fun targets => (seen,targets)).toList ++ adjustments (seen ++ (observation? event).toList) rest

-- The targets of the last state, under the smallest scale of all of them.
def scaledTargets (frame : Frame) (seen : List Observation) : Except PyExc Amounts :=
  let targets := (seen.getLast?.map fun latest => latest.allocation.targets).getD []
  if frame.gateEnabled then frame.library.applyCombinedScaleToTargets targets (tightestScale frame seen) else .ok targets

theorem observed_cons (event : Happening) (rest : List Happening) :
    observed (event :: rest) = (observation? event).toList ++ observed rest := by
  cases seen : observation? event <;> simp [observed,seen]

theorem adjustments_append (first second : List Happening) (seen : List Observation) :
    adjustments seen (first ++ second) = adjustments seen first ++ adjustments (seen ++ observed first) second := by
  induction first generalizing seen with
  | nil => simp [adjustments,observed]
  | cons event rest ih => simp only [List.cons_append,adjustments,ih,observed_cons,List.append_assoc]

theorem adjusting?_plain {event : Happening} (plain : isAdjustment event = false) : adjusting? event = none := by
  cases event with
  | marked label =>
    cases label with
    | adjusting targets => simp [isAdjustment] at plain
    | _ => rfl
  | answered held request answer => rfl
  | fault held error => rfl

theorem adjustments_plain {events : List Happening} (plain : ∀ event ∈ events, isAdjustment event = false)
    (seen : List Observation) : adjustments seen events = [] := by
  induction events generalizing seen with
  | nil => rfl
  | cons event rest ih =>
    rw [adjustments,adjusting?_plain (plain event (by simp)),ih (fun later member => plain later (by simp [member]))]
    rfl

def AdjustsWell (frame : Frame) (seen : List Observation) (events : List Happening) : Prop :=
  ∀ entry ∈ adjustments seen events, scaledTargets frame entry.1 = .ok entry.2

variable {frame : Frame} {before after : Locals} {events : List Happening} {seen : List Observation}

theorem adjustsWell_append {first second : List Happening} (one : AdjustsWell frame seen first)
    (two : AdjustsWell frame (seen ++ observed first) second) : AdjustsWell frame seen (first ++ second) := by
  unfold AdjustsWell
  rw [adjustments_append]
  exact fun entry member => (List.mem_append.mp member).elim (one entry) (two entry)

theorem adjustsWell_plain (plain : ∀ event ∈ events, isAdjustment event = false) : AdjustsWell frame seen events := by
  unfold AdjustsWell
  rw [adjustments_plain plain]
  simp

theorem observed_other (other : ∀ event ∈ events, isOther event = true) : observed events = [] :=
  observed_none (fun event member => (other_parts (other event member)).1)

theorem adjustsWell_other (other : ∀ event ∈ events, isOther event = true) : AdjustsWell frame seen events :=
  adjustsWell_plain (fun event member => (other_parts (other event member)).2)

-- No adjustment inside, however the run ends.
abbrev Plain : Locals → List Happening → Locals → Prop := Only fun event => !isAdjustment event

theorem plain_composes : Composes Plain := only_composes _

theorem plain_hushed {script : Step α} (hushed : Keeps Hushed false script) : Keeps Plain false script :=
  keeps_weaken (fun found event member => by simpa using (quiet_parts (found event member)).2.2.1) hushed

theorem plain_refreshOnce (best projected : ℚ) : Keeps Plain false (refreshOnce frame best projected) := by
  refine keeps_bind plain_composes ?_ (fun observation => ?_)
  · exact keeps_invoke (fun _ answer => by simp [Only,isAdjustment])
  · refine plain_hushed (keeps_bind hushed_composes (hushed_constrain observation) (fun constrained => ?_))
    exact hushed_quiet (quiet_measureRefresh frame best projected constrained)

theorem plain_refreshAgain (previous : ℚ) (attempts : ℕ) (found : Refresh) :
    Keeps Plain false (refreshAgain frame previous attempts found) := by
  induction attempts generalizing found with
  | zero => exact keeps_pure plain_composes _
  | succ attempts ih =>
    refine keeps_ite (keeps_pure plain_composes _) (keeps_bind plain_composes ?_ (fun _ => ?_))
    · exact keeps_invoke (fun _ answer => by simp [Only,isAdjustment])
    · exact keeps_bind plain_composes (plain_refreshOnce _ _) (fun next => ih next)

theorem plain_refreshLoop (previous : ℚ) : Keeps Plain false (refreshLoop frame previous) :=
  keeps_bind plain_composes (plain_refreshOnce _ _) (fun first => plain_refreshAgain _ _ first)

theorem adjustsWell_cons {targets : Amounts} {rest : List Happening} (scaled : scaledTargets frame seen = .ok targets)
    (others : AdjustsWell frame seen rest) : AdjustsWell frame seen (.marked (.adjusting targets) :: rest) := by
  intro entry member
  rcases List.mem_cons.mp member with rfl | later
  · exact scaled
  · exact others entry (by simpa [observation?] using later)

theorem refreshed_scaled {best projected : ℚ} {refresh : Refresh} {targets : Amounts}
    (found : Refreshed frame best projected before events refresh after) (tracks : Tracks frame seen before)
    (scaled : (if frame.gateEnabled then frame.library.applyCombinedScaleToTargets refresh.observation.allocation.targets
      after.gate.combinedScale else .ok refresh.observation.allocation.targets) = .ok targets) :
    scaledTargets frame (seen ++ observed events) = .ok targets := by
  obtain ⟨earlier,latest,split,_,allocation,_⟩ := found.last
  have known := (found.tracks seen tracks).combinedScale
  rw [known,allocation] at scaled
  have last : (seen ++ observed events).getLast? = some latest := by rw [split,← List.append_assoc,List.getLast?_concat]
  simpa only [scaledTargets,last,Option.map_some,Option.getD_some] using scaled

theorem refreshed_adjusts {best projected : ℚ} {refresh : Refresh} {targets : Amounts} {tail : List Happening}
    (found : Refreshed frame best projected before events refresh after) (tracks : Tracks frame seen before)
    (scaled : (if frame.gateEnabled then frame.library.applyCombinedScaleToTargets refresh.observation.allocation.targets
      after.gate.combinedScale else .ok refresh.observation.allocation.targets) = .ok targets)
    (other : ∀ event ∈ tail, isOther event = true) :
    AdjustsWell frame seen (events ++ .marked (.adjusting targets) :: tail) := by
  refine adjustsWell_append (adjustsWell_plain (fun event member => (found.plain event member).2)) ?_
  exact adjustsWell_cons (refreshed_scaled found tracks scaled) (adjustsWell_other other)

theorem fundFromSells_adjusts {result : Except PyExc Unit} (tracks : Tracks frame seen before)
    (steps : (fundFromSells frame).Steps false before events result after) : AdjustsWell frame seen events := by
  unfold fundFromSells at steps
  rw [steps_get_bind] at steps
  split at steps
  · split at steps
    · have quiet : Keeps Plain false simulateProceeds := by
        refine keeps_get_bind (fun locals => keeps_bind plain_composes ?_ (fun _ => ?_) locals)
        · exact keeps_modify (fun _ => by simp [Only])
        · exact plain_hushed (hushed_quiet (quiet_noteLog _))
      exact adjustsWell_plain (fun event member => by simpa using quiet _ _ _ _ steps event member)
    · rcases steps_bind.mp steps with ⟨refreshes,rest,refresh,middle,rfl,ran,adopting⟩ | ⟨_,_,ran⟩
      · have found := refreshLoop_run ran
        rcases adoptRefresh_run adopting with ⟨_,_,other⟩ | ⟨targets,tail,rfl,other,scaled,_⟩
        · refine adjustsWell_append (adjustsWell_plain (fun event member => (found.plain event member).2)) ?_
          exact adjustsWell_other other
        · exact refreshed_adjusts found tracks scaled other
      · exact adjustsWell_plain (fun event member => by simpa using plain_refreshLoop _ _ _ _ _ ran event member)
  · obtain ⟨rfl,_,_⟩ := steps_pure.mp steps
    exact adjustsWell_plain (by simp)

-- The last adjustment of a run knew every state the run was shown.
def AdjustsLast (seen : List Observation) (events : List Happening) : Prop :=
  ∃ targets, (adjustments seen events).getLast? = some (seen ++ observed events,targets)

theorem adjustsLast_append {first second : List Happening} (last : AdjustsLast seen first)
    (other : ∀ event ∈ second, isOther event = true) : AdjustsLast seen (first ++ second) := by
  obtain ⟨targets,found⟩ := last
  refine ⟨targets,?_⟩
  rw [adjustments_append,adjustments_plain (fun event member => (other_parts (other event member)).2),List.append_nil,found,
    observed_append,observed_other other,List.append_nil]

theorem funding_last {first : List Happening} (last : AdjustsLast seen first) (shown : observed first = [])
    (funding : Funding frame before events after) : AdjustsLast seen (first ++ events) := by
  cases funding with
  | untouched => rw [List.append_nil]; exact last
  | simulated dryRun proceeds quiet => exact adjustsLast_append last (fun event member => quiet_other (quiet event member))
  | @refreshed refreshes tail middle after refresh targets live found other scaled adopted =>
    refine ⟨targets,?_⟩
    have quiet : observed tail = [] := observed_other other
    have mark : adjustments (seen ++ observed refreshes) (.marked (.adjusting targets) :: tail) =
        [(seen ++ observed refreshes,targets)] := by
      simp [adjustments,adjusting?,observation?,adjustments_plain (fun event member => (other_parts (other event member)).2)]
    rw [adjustments_append,shown,List.append_nil,adjustments_append,mark,← List.append_assoc,List.getLast?_concat,
      observed_append,shown,List.nil_append,observed_append,observed_cons,quiet]
    simp [observation?]

-- A dry run halts nothing: it has no outcome to be unsure about.
def Unhalted (settings : Settings) (before : Locals) (_ : List Happening) (after : Locals) : Prop :=
  settings.dryRunOnly = true → after.book.submissionHalted = before.book.submissionHalted

theorem unhalted_composes (settings : Settings) : Composes (Unhalted settings) where
  refl _ := fun _ => rfl
  trans one two dryRun := (two dryRun).trans (one dryRun)

theorem unhalted_quiet {settings : Settings} {script : Step α} (quiet : Keeps Quiet false script) :
    Keeps (Unhalted settings) false script := keeps_weaken (fun found _ => by rw [found.book]) quiet

theorem unhalted_recordDryRun {settings : Settings} {symbol : String} {side : Side} {quantity price : ℚ}
    {orderType : OrderType} : Keeps (Unhalted settings) false (recordDryRun symbol side quantity price orderType) := by
  refine keeps_bind (unhalted_composes _) (keeps_modify (fun _ _ => rfl)) (fun _ => ?_)
  refine keeps_bind (unhalted_composes _) (keeps_mark (fun _ _ => rfl)) (fun _ => unhalted_quiet ?_)
  refine quiet_bind (quiet_translate (by simp)) (fun sideText => quiet_bind (quiet_translate (by simp)) (fun typeText => ?_))
  refine quiet_bind (quiet_translate (by simp)) (fun message => ?_)
  exact quiet_bind (quiet_changeJournal _) (fun _ => quiet_bind (quiet_printPrefixed _) (fun _ => quiet_pure _))

theorem unhalted_walks (settings : Settings) (side : Side) : Walks settings side (Unhalted settings) where
  composes := unhalted_composes settings
  quiet quiet := fun _ => by rw [quiet.book]
  book keeps before := fun _ => (keeps before.book).2.2.2.2
  place {symbol orderType quantity price before} _ := by
    intro events result after steps dryRun
    rw [placeOrder,if_pos dryRun] at steps
    exact unhalted_recordDryRun _ _ _ _ steps dryRun

-- Where a cycle stands when the sells are over and the funding begins.
structure SoldOut (settings : Settings) (before after : Locals) : Prop where
  gate : after.gate = before.gate
  portfolio : after.view.portfolio = before.view.portfolio
  execution : after.view.execution = before.view.execution
  availableCash : after.view.availableCash = before.view.availableCash
  investableCash : after.view.investableCash = before.view.investableCash
  simulating : settings.dryRunOnly = true → after.book.submissionHalted = before.book.submissionHalted

theorem soldOut_placed {settings : Settings} {middle : Locals} {first second : List Happening}
    (adjusted : Adjusted before first middle) (placed : Placed middle second after)
    (unhalted : Unhalted settings middle second after) : SoldOut settings before after :=
  ⟨placed.gate.trans adjusted.gate,by rw [placed.view]; exact adjusted.portfolio,by rw [placed.view]; exact adjusted.execution,
    by rw [placed.view]; exact adjusted.availableCash,by rw [placed.view]; exact adjusted.investableCash,
    fun dryRun => by rw [unhalted dryRun,adjusted.book]⟩

-- A run of the sell phase adjusts first; what follows up to the funding is other work.
theorem sellAndFund_parts {result : Except PyExc Unit} (steps : (sellAndFund frame).Steps false before events result after) :
    ∃ first, (∀ event ∈ first, isOther event = true) ∧
      (events = .marked (.adjusting before.view.allocation.targets) :: first ∧ result ≠ .ok () ∨
      ∃ middle rest, events = .marked (.adjusting before.view.allocation.targets) :: first ++ rest ∧
        SoldOut frame.settings before middle ∧ (fundFromSells frame).Steps false middle rest result after) := by
  have append : ∀ {tail more : List Happening}, (∀ event ∈ tail, isQuiet event = true) → (∀ event ∈ more, isOther event = true) →
      ∀ event ∈ tail ++ more, isOther event = true := fun quiet other event member =>
    (List.mem_append.mp member).elim (fun inside => quiet_other (quiet event inside)) (other event)
  rcases steps_bind.mp steps with ⟨one,two,_,adjusted,rfl,adjusting,selling⟩ | ⟨error,rfl,adjusting⟩
  · obtain ⟨tail,rfl,adjusts⟩ := adjustTargets_run adjusting
    rw [steps_get_bind] at selling
    rcases steps_bind.mp selling with ⟨sells,more,_,sold,rfl,ran,sweeping⟩ | ⟨error,rfl,ran⟩
    · have first := walk_sellLoop (placed_walks frame.settings .sell) _ _ _ _ _ ran
      have still := walk_sellLoop (unhalted_walks frame.settings .sell) _ _ _ _ _ ran
      rcases steps_bind.mp sweeping with ⟨sweeps,rest,_,swept,rfl,ran,funding⟩ | ⟨error,rfl,ran⟩
      · have second := walk_fundFromSweep (placed_walks frame.settings .sell) _ _ _ _ ran
        have halted := walk_fundFromSweep (unhalted_walks frame.settings .sell) _ _ _ _ ran
        have placed := placed_composes.trans first second
        refine ⟨tail ++ (sells ++ sweeps),append adjusts.events placed.events,.inr ⟨swept,rest,by simp,?_,funding⟩⟩
        exact soldOut_placed adjusts placed ((unhalted_composes _).trans still halted)
      · have placed := placed_composes.trans first (walk_fundFromSweep (placed_walks frame.settings .sell) _ _ _ _ ran)
        exact ⟨tail ++ (sells ++ more),append adjusts.events placed.events,.inl ⟨by simp,by simp⟩⟩
    · have placed := walk_sellLoop (placed_walks frame.settings .sell) _ _ _ _ _ ran
      exact ⟨tail ++ two,append adjusts.events placed.events,.inl ⟨by simp,by simp⟩⟩
  · obtain ⟨tail,rfl,adjusts⟩ := adjustTargets_run adjusting
    exact ⟨tail,fun event member => quiet_other (adjusts.events event member),.inl ⟨rfl,by simp⟩⟩

theorem gateOpened_scaled (opened : GateOpened frame before) :
    scaledTargets frame [frame.opening] = .ok before.view.allocation.targets := by
  have scale := (gateOpened_tracks opened).combinedScale
  have targets := opened.targets
  rw [scale] at targets
  simpa only [scaledTargets,List.getLast?_singleton,Option.map_some,Option.getD_some] using targets

theorem sellAndFund_adjusts {result : Except PyExc Unit} (opened : GateOpened frame before)
    (steps : (sellAndFund frame).Steps false before events result after) : AdjustsWell frame [frame.opening] events := by
  obtain ⟨first,other,⟨rfl,_⟩ | ⟨middle,rest,rfl,sold,funding⟩⟩ := sellAndFund_parts steps
  · exact adjustsWell_cons (gateOpened_scaled opened) (adjustsWell_other other)
  · refine adjustsWell_cons (gateOpened_scaled opened) (adjustsWell_append (adjustsWell_other other) ?_)
    rw [observed_other other,List.append_nil]
    exact fundFromSells_adjusts (tracks_same sold.gate (gateOpened_tracks opened)) funding

theorem sellAndFund_last
    (steps : (sellAndFund frame).Steps false before events (.ok ()) after) : AdjustsLast [frame.opening] events := by
  obtain ⟨first,other,⟨_,wrong⟩ | ⟨middle,rest,rfl,sold,funding⟩⟩ := sellAndFund_parts steps
  · exact absurd rfl wrong
  · refine funding_last ?_ ?_ (fundFromSells_run funding)
    · refine ⟨before.view.allocation.targets,?_⟩
      simp [adjustments,adjusting?,observation?,observed_cons,observed_other other,
        adjustments_plain (fun event member => (other_parts (other event member)).2)]
    · rw [observed_cons,observed_other other]; rfl

-- Buying and finishing adjust nothing and read no state.
theorem bought_buyPhase (candidates : List String) : Keeps Bought false (buyPhase frame candidates) := by
  refine keeps_bind bought_composes (walk_buyLoop (bought_walks _ _) bought_pays candidates) (fun _ => ?_)
  refine keeps_bind bought_composes (walk_rebuyCashSweep (bought_walks _ _)) (fun _ => ?_)
  exact walk_quiet (bought_walks frame.settings .buy) (quiet_finishCycle frame)

theorem bought_purchases : Keeps Bought false (gateBuys frame >>= fun candidates => buyPhase frame candidates) :=
  keeps_bind bought_composes (walk_quiet (bought_walks frame.settings .buy) (quiet_gateBuys frame))
    (fun candidates => bought_buyPhase candidates)

theorem tradeCycle_adjusts {result : Except PyExc CycleResult} (opened : GateOpened frame before)
    (steps : (tradeCycle frame).Steps false before events result after) : AdjustsWell frame [frame.opening] events := by
  rcases steps_bind.mp steps with ⟨one,two,_,middle,rfl,selling,buying⟩ | ⟨_,_,selling⟩
  · exact adjustsWell_append (sellAndFund_adjusts opened selling)
      (adjustsWell_other (bought_purchases _ _ _ _ buying).events)
  · exact sellAndFund_adjusts opened selling

theorem tradeCycle_last {cycle : CycleResult}
    (steps : (tradeCycle frame).Steps false before events (.ok cycle) after) : AdjustsLast [frame.opening] events := by
  obtain ⟨one,two,_,middle,rfl,selling,buying⟩ := steps_bind_ok steps
  exact adjustsLast_append (sellAndFund_last selling) (bought_purchases _ _ _ _ buying).events

def NoExecute (execution : Execution) : Prop := execution.fields.get "no_execute" = .bool true

theorem noExecute_set (execution : Execution) : NoExecute (noExecute execution) := Fields.get_set_same _ _ _

theorem other_unblocked {event : Happening} (other : isOther event = true) : observesBlock event = false := by
  have fetch := (other_parts other).1
  cases event with
  | answered held request answer =>
    cases request with
    | fetchReplannedState => simp [isFetch] at fetch
    | _ => rfl
  | fault held error => rfl
  | marked label => rfl

theorem funding_refuses {event : Happening} (funding : Funding frame before events after) (member : event ∈ events)
    (blocks : observesBlock event = true) (halted : after.book.submissionHalted = true) : NoExecute after.view.execution := by
  cases funding with
  | untouched => cases member
  | simulated dryRun proceeds quiet =>
    have silent := other_unblocked (quiet_other (quiet event member))
    rw [silent] at blocks; cases blocks
  | refreshed live found other scaled adopted =>
    rw [adopted.book] at halted
    rw [adopted.execution,if_pos halted]
    exact noExecute_set _

theorem sellAndFund_refuses {event : Happening} (steps : (sellAndFund frame).Steps false before events (.ok ()) after)
    (member : event ∈ events) (blocks : observesBlock event = true) : NoExecute after.view.execution := by
  obtain ⟨first,other,⟨_,wrong⟩ | ⟨middle,rest,rfl,sold,funding⟩⟩ := sellAndFund_parts steps
  · exact absurd rfl wrong
  · have inside : event ∈ rest := by
      rcases List.mem_append.mp member with early | late
      · rcases List.mem_cons.mp early with rfl | placed
        · cases blocks
        · rw [other_unblocked (other event placed)] at blocks; cases blocks
      · exact late
    obtain ⟨front,back,split⟩ := List.append_of_mem inside
    have stopping : stops event = true := by simp [stops,blocks]
    have halted := ((orderly_fundFromSells _ _ _ _ funding).stopped front event back split stopping).2
    exact funding_refuses (fundFromSells_run funding) inside blocks halted

theorem tradeCycle_refuses {event : Happening} {cycle : CycleResult}
    (steps : (tradeCycle frame).Steps false before events (.ok cycle) after) (member : event ∈ events)
    (blocks : observesBlock event = true) : NoExecute cycle.execution := by
  rw [tradeCycle_result steps]
  obtain ⟨one,two,_,middle,rfl,selling,buying⟩ := steps_bind_ok steps
  have bought := bought_purchases _ _ _ _ buying
  have inside : event ∈ one := by
    rcases List.mem_append.mp member with early | late
    · exact early
    · rw [other_unblocked (bought.events event late)] at blocks; cases blocks
  show NoExecute after.view.execution
  rw [bought.execution]
  exact sellAndFund_refuses selling inside blocks

-- What a cycle is, seen from its opening: it ended there, or it traded.
theorem executeRebalanceCycle_parts {result : Except PyExc CycleResult}
    (run : (executeRebalanceCycle frame).Steps false (openingLocals frame.opening) events result after) :
    (∃ error, result = .error error ∧ ∀ event ∈ events, isQuiet event = true) ∨
    (executionIsBlocked frame.opening.plan frame.opening.execution frame.opening.allocation = .ok true ∧
      (∀ event ∈ events, isQuiet event = true) ∧ ∃ locals, result = .ok (blockedResult locals)) ∨
    ∃ first rest middle, events = first ++ rest ∧ (∀ event ∈ first, isQuiet event = true) ∧ GateOpened frame middle ∧
      middle.book = (openingLocals frame.opening).book ∧
      executionIsBlocked frame.opening.plan frame.opening.execution frame.opening.allocation = .ok false ∧
      (tradeCycle frame).Steps false middle rest result after := by
  rcases steps_bind.mp run with ⟨one,two,blocked,middle,rfl,opening,rest⟩ | ⟨error,rfl,opening⟩
  · have quiet := opened_openCycle _ _ _ _ opening
    obtain ⟨opened,known⟩ := openCycle_run opening
    cases blocked with
    | true =>
      rw [if_pos rfl,steps_get_bind] at rest
      obtain ⟨rfl,rfl,_⟩ := steps_pure.mp rest
      right; left
      exact ⟨known,by rw [List.append_nil]; exact quiet.events,middle,rfl⟩
    | false =>
      right; right
      exact ⟨one,two,middle,rfl,quiet.events,opened,quiet.book,known,rest⟩
  · left
    exact ⟨error,rfl,(opened_openCycle _ _ _ _ opening).events⟩

theorem adjustments_quiet (quiet : ∀ event ∈ events, isQuiet event = true) : AdjustsWell frame seen events :=
  adjustsWell_other (fun event member => quiet_other (quiet event member))

-- Every state a cycle is shown can only tighten it: a blocked one ends the
-- placing for good, and the targets are always the last ones under the smallest
-- scale of all states so far, which at the end of a cycle are all its states.
theorem observations_tighten_the_cycle {result : Except PyExc CycleResult}
    (run : (executeRebalanceCycle frame).Steps false (openingLocals frame.opening) events result after) :
    (executionIsBlocked frame.opening.plan frame.opening.execution frame.opening.allocation = .ok true →
      (∀ event ∈ events, isOrder event = false) ∧ ∀ cycle, result = .ok cycle → NoExecute cycle.execution) ∧
    (∀ first event rest, events = first ++ event :: rest → observesBlock event = true →
      (∀ later ∈ rest, isOrder later = false) ∧ ∀ cycle, result = .ok cycle → NoExecute cycle.execution) ∧
    (∀ entry ∈ adjustments [frame.opening] events, scaledTargets frame entry.1 = .ok entry.2) ∧
    (executionIsBlocked frame.opening.plan frame.opening.execution frame.opening.allocation = .ok false →
      ∀ cycle, result = .ok cycle → ∃ targets,
        (adjustments [frame.opening] events).getLast? = some (frame.opening :: observed events,targets)) := by
  have orderly := orderly_executeRebalanceCycle _ _ _ _ run
  have never : ∀ first event rest, events = first ++ event :: rest → observesBlock event = true →
      ∀ later ∈ rest, isOrder later = false := fun first event rest split blocks =>
    (orderly.stopped first event rest split (by simp [stops,blocks])).1
  have silent : ∀ {event : Happening}, isQuiet event = true → observesBlock event = true → False := by
    intro event quiet blocks
    rw [other_unblocked (quiet_other quiet)] at blocks; cases blocks
  rcases executeRebalanceCycle_parts run with ⟨error,rfl,quiet⟩ | ⟨known,quiet,locals,rfl⟩ |
      ⟨first,rest,middle,rfl,quiet,opened,_,known,trading⟩
  · refine ⟨fun _ => ⟨fun event member => (quiet_parts (quiet event member)).1,fun cycle wrong => by cases wrong⟩,
      fun front event back split blocks => ⟨never front event back split blocks,fun cycle wrong => by cases wrong⟩,
      adjustments_quiet quiet,fun _ cycle wrong => by cases wrong⟩
  · refine ⟨fun _ => ⟨fun event member => (quiet_parts (quiet event member)).1,?_⟩,?_,adjustments_quiet quiet,?_⟩
    · rintro cycle same
      cases same; exact noExecute_set _
    · intro front event back split blocks
      exact (silent (quiet event (by rw [split]; simp)) blocks).elim
    · intro open_
      rw [known] at open_; cases open_
  · refine ⟨fun blocked => ?_,?_,?_,fun _ cycle same => ?_⟩
    · rw [known] at blocked; cases blocked
    · intro front event back split blocks
      refine ⟨never front event back split blocks,?_⟩
      rintro cycle rfl
      have member : event ∈ first ++ rest := by rw [split]; simp
      rcases List.mem_append.mp member with early | late
      · exact (silent (quiet event early) blocks).elim
      · exact tradeCycle_refuses trading late blocks
    · refine adjustsWell_append (adjustments_quiet quiet) ?_
      rw [observed_other (fun event member => quiet_other (quiet event member)),List.append_nil]
      exact tradeCycle_adjusts opened trading
    · subst same
      obtain ⟨targets,found⟩ := tradeCycle_last trading
      refine ⟨targets,?_⟩
      rw [adjustments_append,adjustments_plain (fun event member => (quiet_parts (quiet event member)).2.2.1),observed_append,
        observed_other (fun event member => quiet_other (quiet event member)),List.nil_append]
      simpa using found

-- The states a sequence of fetches returns, the last one again and again.
def shownStates (states : List Observation) (otherwise_ : Observation) : World ports PyExc := fun past request =>
  match request with
  | .fetchReplannedState => .ok (((states.drop (past.countP isFetch)).head?).getD otherwise_)
  | request => calmWorld otherwise_ past request

def refused : Observation :=
  { twoSells with execution := ⟨100,100,0,0,[("risk_gate",.str "REJECT")]⟩ }

def reopened : Observation := { twoSells with execution := approved 9000 0 }

def twoRefreshesFrame : Frame :=
  ⟨{ wholeShareSettings false with postSellRefreshAttempts := 3 },testedKit,gateOff,twoSells⟩

def refusedThenReopened : List Happening × Except PyExc CycleResult × Locals :=
  play (shownStates [refused] reopened) [] ((executeRebalanceCycle twoRefreshesFrame).run false (openingLocals twoSells))

-- The phases of one cycle in a world, one after the other.
def openedRun (world : World ports PyExc) (frame : Frame) : List Happening × Except PyExc Bool × Locals :=
  play world [] ((openCycle frame).run false (openingLocals frame.opening))

def fundedRun (world : World ports PyExc) (frame : Frame) : List Happening × Except PyExc Unit × Locals :=
  play world (openedRun world frame).1 ((sellAndFund frame).run false (openedRun world frame).2.2)

theorem reopened_state_stays_refused :
    (observed refusedThenReopened.1).length = 2 ∧ refusedThenReopened.1.countP observesBlock = 1 ∧
    ∀ cycle, refusedThenReopened.2.1 = .ok cycle → NoExecute cycle.execution := by
  refine ⟨by decide +kernel,by decide +kernel,fun cycle ended => ?_⟩
  obtain ⟨event,member,blocks⟩ := List.any_eq_true.mp (show refusedThenReopened.1.any observesBlock = true by decide +kernel)
  obtain ⟨first,rest,split⟩ := List.append_of_mem member
  exact ((@observations_tighten_the_cycle twoRefreshesFrame refusedThenReopened.2.2 refusedThenReopened.1
    refusedThenReopened.2.1 (play_runs _ _ _)).2.1 first event rest split blocks).2 cycle ended

end LongBridge.Cycle
