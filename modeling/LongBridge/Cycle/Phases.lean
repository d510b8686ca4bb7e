import LongBridge.Cycle.Walk
import LongBridge.Cycle.Placement

namespace LongBridge.Cycle
open Effects

def isOther (event : Happening) : Bool := !isFetch event && !isAdjustment event

theorem quiet_other {event : Happening} (quiet : isQuiet event = true) : isOther event = true := by
  obtain ⟨_,fetch,adjustment,_⟩ := quiet_parts quiet
  simp [isOther,fetch,adjustment]

theorem other_parts {event : Happening} (other : isOther event = true) : isFetch event = false ∧ isAdjustment event = false := by
  simpa [isOther] using other

-- Placing reads no further state and adjusts nothing; the plan and its cash stay.
structure Placed (before : Locals) (events : List Happening) (after : Locals) : Prop where
  events : ∀ event ∈ events, isOther event = true
  gate : after.gate = before.gate
  view : after.view = before.view

theorem placed_composes : Composes Placed where
  refl _ := ⟨by simp,rfl,rfl⟩
  trans one two :=
    ⟨fun event member => (List.mem_append.mp member).elim (one.events event) (two.events event),
      two.gate.trans one.gate,two.view.trans one.view⟩

theorem quiet_placed {before after : Locals} {events : List Happening} (quiet : Quiet before events after) :
    Placed before events after :=
  ⟨fun event member => quiet_other (quiet.events event member),quiet.gate,quiet.view⟩

theorem placed_quiet {script : Step α} (quiet : Keeps Quiet false script) : Keeps Placed false script :=
  keeps_weaken quiet_placed quiet

theorem placed_changeBook {change : OrderBook → OrderBook} : Keeps Placed false (changeBook change) :=
  keeps_modify (fun _ => ⟨by simp,rfl,rfl⟩)

theorem settled_placed {intent : OrderIntent} {answer : Except PyExc (Option ExecutionReport)} {before after : Locals}
    {events : List Happening} (settled : Settled intent answer before events after) :
    Placed before (.answered true (.submitOrder intent) answer :: events) after := by
  refine ⟨?_,settled.gate,settled.view⟩
  intro event member
  rcases List.mem_cons.mp member with rfl | inside
  · rfl
  · obtain ⟨_,fetch,adjustment⟩ := settled.harmless event inside
    simp [isOther,fetch,adjustment]

theorem placed_submitOrderViaPort {settings : Settings} {symbol : String} {orderType : OrderType} {side : Side}
    {quantity : ℚ} {message : String} {price : Option ℚ} :
    Keeps Placed false (submitOrderViaPort settings symbol orderType side quantity message price) := by
  refine keeps_get_bind (fun locals => keepsFrom_ite ?_ (fun _ => keepsFrom_ite ?_ ?_))
  · exact fun _ => placed_quiet (quiet_pure false) locals
  · exact fun _ => placed_quiet (quiet_bind (quiet_call (fun _ => rfl)) (fun _ => quiet_pure _)) locals
  · intro _ events result after steps
    obtain ⟨answer,tail,rfl,ended⟩ := steps_attempt_invoke_bind.mp steps
    exact settled_placed (recordAnswer_settled ended)

theorem placed_recordDryRun {symbol : String} {side : Side} {quantity price : ℚ} {orderType : OrderType} :
    Keeps Placed false (recordDryRun symbol side quantity price orderType) := by
  refine keeps_bind placed_composes placed_changeBook (fun _ => ?_)
  refine keeps_bind placed_composes (keeps_mark (fun _ => ⟨by simp [isOther,isFetch,isAdjustment],rfl,rfl⟩)) (fun _ => ?_)
  refine placed_quiet (quiet_bind (quiet_translate (by simp)) (fun sideText => ?_))
  refine quiet_bind (quiet_translate (by simp)) (fun typeText => quiet_bind (quiet_translate (by simp)) (fun message => ?_))
  exact quiet_bind (quiet_changeJournal _) (fun _ => quiet_bind (quiet_printPrefixed _) (fun _ => quiet_pure _))

theorem placed_placeOrder {settings : Settings} {symbol : String} {side : Side} {orderType : OrderType}
    {quantity price : ℚ} : Keeps Placed false (placeOrder settings symbol side orderType quantity price) := by
  refine keeps_ite placed_recordDryRun ?_
  exact keeps_bind placed_composes (placed_quiet (quiet_translate (by simp))) (fun _ => placed_submitOrderViaPort)

theorem placed_walks (settings : Settings) (side : Side) : Walks settings side Placed where
  composes := placed_composes
  quiet := quiet_placed
  book _ _ := ⟨by simp,rfl,rfl⟩
  place _ := placed_placeOrder _

-- The buys also pay.
structure Bought (before : Locals) (events : List Happening) (after : Locals) : Prop where
  events : ∀ event ∈ events, isOther event = true
  execution : after.view.execution = before.view.execution

theorem bought_composes : Composes Bought where
  refl _ := ⟨by simp,rfl⟩
  trans one two :=
    ⟨fun event member => (List.mem_append.mp member).elim (one.events event) (two.events event),
      two.execution.trans one.execution⟩

theorem placed_bought {before after : Locals} {events : List Happening} (placed : Placed before events after) :
    Bought before events after := ⟨placed.events,by rw [placed.view]⟩

theorem bought_walks (settings : Settings) (side : Side) : Walks settings side Bought where
  composes := bought_composes
  quiet quiet := placed_bought (quiet_placed quiet)
  book _ _ := ⟨by simp,rfl⟩
  place _ := keeps_weaken placed_bought placed_placeOrder _

theorem bought_pays (cost : ℚ) (before : Locals) : Bought before [] (paid before cost) := ⟨by simp,rfl⟩

-- Adjusting rewrites plan, allocation and reference targets, and nothing else.
structure Adjusted (before : Locals) (events : List Happening) (after : Locals) : Prop where
  events : ∀ event ∈ events, isQuiet event = true
  book : after.book = before.book
  gate : after.gate = before.gate
  portfolio : after.view.portfolio = before.view.portfolio
  execution : after.view.execution = before.view.execution
  availableCash : after.view.availableCash = before.view.availableCash
  investableCash : after.view.investableCash = before.view.investableCash

theorem adjusted_composes : Composes Adjusted where
  refl _ := ⟨by simp,rfl,rfl,rfl,rfl,rfl,rfl⟩
  trans one two :=
    ⟨fun event member => (List.mem_append.mp member).elim (one.events event) (two.events event),
      two.book.trans one.book,two.gate.trans one.gate,two.portfolio.trans one.portfolio,
      two.execution.trans one.execution,two.availableCash.trans one.availableCash,
      two.investableCash.trans one.investableCash⟩

theorem adjusted_bind {script : Step α} {rest : α → Step β} (first : Keeps Adjusted false script)
    (second : ∀ value, Keeps Adjusted false (rest value)) : Keeps Adjusted false (script >>= rest) :=
  keeps_bind adjusted_composes first second

theorem adjusted_quiet {script : Step α} (quiet : Keeps Quiet false script) : Keeps Adjusted false script :=
  keeps_weaken (fun found => ⟨found.events,found.book,found.gate,by rw [found.view],by rw [found.view],
    by rw [found.view],by rw [found.view]⟩) quiet

variable {frame : Frame} {before after : Locals} {events : List Happening}

theorem adjusted_adjustWholeShares : Keeps Adjusted false (adjustWholeShares frame) := by
  refine keeps_get_bind (fun locals => ?_)
  refine adjusted_bind (adjusted_quiet (quiet_compatibilityPrices _ _ _)) (fun prices => ?_) locals
  exact keeps_modify (fun _ => ⟨by simp,rfl,rfl,rfl,rfl,rfl,rfl⟩)

-- The adjustments begin with the targets they find.
theorem adjustTargets_run {announce : Bool} {result : Except PyExc Unit}
    (steps : (adjustTargets frame announce).Steps false before events result after) :
    ∃ tail, events = .marked (.adjusting before.view.allocation.targets) :: tail ∧ Adjusted before tail after := by
  unfold adjustTargets at steps
  rw [steps_get_bind] at steps
  obtain ⟨tail,rfl,rest⟩ := steps_mark_bind.mp steps
  refine ⟨tail,rfl,?_⟩
  refine adjusted_bind ?_ (fun _ => ?_) before tail result after rest
  · exact keeps_modify (fun _ => ⟨by simp,rfl,rfl,rfl,rfl,rfl,rfl⟩)
  refine adjusted_bind (keeps_ite (adjusted_quiet quiet_announceCompatibility) (adjusted_quiet (quiet_pure ()))) (fun _ => ?_)
  refine adjusted_bind (keeps_ite adjusted_adjustWholeShares (adjusted_quiet (quiet_pure ()))) (fun _ => ?_)
  refine keeps_get_bind (fun locals => ?_)
  exact adjusted_bind (adjusted_quiet (quiet_recordCashNotes _)) (fun _ => adjusted_quiet (quiet_recordBootstrapNotes _ _)) locals

-- A script that ends normally before a rest ran to its own end.
theorem steps_bind_ok {script : Step α} {rest : α → Step β} {value : β}
    (steps : (script >>= rest).Steps false before events (.ok value) after) :
    ∃ one two found middle, events = one ++ two ∧ script.Steps false before one (.ok found) middle ∧
      (rest found).Steps false middle two (.ok value) after := by
  rcases steps_bind.mp steps with found | ⟨_,wrong,_⟩
  · exact found
  · cases wrong

theorem scaleAllocation_run {scale : Option ℚ} (steps : (scaleAllocation frame scale).Steps false before events (.ok ()) after) :
    events = [] ∧ ∃ targets, frame.library.applyCombinedScaleToTargets before.view.allocation.targets scale = .ok targets ∧
      after = { before with view := { before.view with allocation := { before.view.allocation with targets } } } := by
  unfold scaleAllocation at steps
  rw [steps_get_bind] at steps
  rcases steps_fromExcept_bind.mp steps with ⟨targets,scaled,rest⟩ | ⟨_,_,_,wrong,_⟩
  · obtain ⟨rfl,_,rfl⟩ := steps_modify.mp rest
    exact ⟨rfl,targets,scaled,rfl⟩
  · cases wrong

def admissionScale (frame : Frame) (observation : Observation) : Option ℚ :=
  match evaluateGate frame observation.portfolio observation.execution with
  | .ok evaluated => evaluated.admission.combinedScale
  | .error _ => none

def admissionProhibits (frame : Frame) (observation : Observation) : Bool :=
  match evaluateGate frame observation.portfolio observation.execution with
  | .ok evaluated => NewRiskGate.newRiskBuyProhibited evaluated.admission
  | .error _ => false

-- What the gate says, and how the plan was scaled, when a cycle has opened.
structure GateOpened (frame : Frame) (after : Locals) : Prop where
  buyBlocked : after.gate.buyBlocked = (frame.gateEnabled && admissionProhibits frame frame.opening)
  combinedScale : after.gate.combinedScale = if frame.gateEnabled then admissionScale frame frame.opening else none
  targets : (if frame.gateEnabled then frame.library.applyCombinedScaleToTargets frame.opening.allocation.targets
    after.gate.combinedScale else .ok frame.opening.allocation.targets) = .ok after.view.allocation.targets
  plan : after.view.plan = frame.opening.plan
  execution : after.view.execution = frame.opening.execution
  allocationFields : after.view.allocation.fields = frame.opening.allocation.fields
  availableCash : after.view.availableCash = frame.opening.portfolio.liquidCash
  investableCash : after.view.investableCash = frame.opening.execution.investableCash

theorem openGate_run (steps : (openGate frame).Steps false (openingLocals frame.opening) events (.ok ()) after) :
    GateOpened frame after := by
  unfold openGate at steps
  split at steps
  · rename_i enabled
    obtain ⟨_,_,evaluated,_,_,found,steps⟩ := steps_bind_ok steps
    obtain ⟨same,rfl,_⟩ := steps_fromExcept.mp found
    rw [steps_modify_bind] at steps
    obtain ⟨_,_,steps⟩ := steps_mark_bind.mp steps
    obtain ⟨_,_,_,told,_,telling,steps⟩ := steps_bind_ok steps
    have one := quiet_diagnostic frame _ _ _ _ _ telling
    obtain ⟨_,_,counts,asked,_,asking,steps⟩ := steps_bind_ok steps
    obtain ⟨_,still⟩ := steps_invoke.mp asking
    obtain ⟨_,_,_,shown,_,showing,steps⟩ := steps_bind_ok steps
    have two := quiet_diagnostic frame _ _ _ _ _ showing
    obtain ⟨_,tail,_,scaled,_,scaling,steps⟩ := steps_bind_ok steps
    have three : Quiet scaled tail after := by
      split at steps
      · exact quiet_diagnostic frame _ _ _ _ _ steps
      · exact quiet_pure () _ _ _ _ steps
    obtain ⟨_,targets,applied,rfl⟩ := scaleAllocation_run scaling
    have gate := (three.gate.trans two.gate).trans ((congrArg Locals.gate still).trans one.gate)
    have view := two.view.trans ((congrArg Locals.view still).trans one.view)
    have known : evaluateGate frame frame.opening.portfolio frame.opening.execution = .ok evaluated := same.symm
    rw [view] at applied
    refine ⟨?_,?_,?_,?_,?_,?_,?_,?_⟩
    · rw [gate]; simp [admissionProhibits,known,enabled]
    · rw [gate]; simp [admissionScale,known,enabled]
    · rw [if_pos enabled,gate,three.view]; exact applied
    all_goals rw [three.view]; simp only [view]; rfl
  · rename_i disabled
    obtain ⟨_,_,rfl⟩ := steps_mark.mp steps
    have off : frame.gateEnabled = false := by simpa using disabled
    exact ⟨by rw [off]; rfl,by rw [off]; rfl,by rw [off]; rfl,rfl,rfl,rfl,rfl,rfl⟩

theorem openCycle_run {blocked : Bool} (steps : (openCycle frame).Steps false (openingLocals frame.opening) events (.ok blocked) after) :
    GateOpened frame after ∧
    executionIsBlocked frame.opening.plan frame.opening.execution frame.opening.allocation = .ok blocked := by
  obtain ⟨_,_,_,opened,_,ran,steps⟩ := steps_bind_ok steps
  have gate := openGate_run ran
  rw [steps_get_bind] at steps
  obtain ⟨same,rfl,_⟩ := steps_fromExcept.mp steps
  refine ⟨gate,?_⟩
  rw [same,gate.plan,gate.execution,executionIsBlocked,executionIsBlocked,gate.allocationFields]

end LongBridge.Cycle
