import LongBridge.Cycle.Phases

namespace LongBridge.Cycle
open Effects

def observation? : Happening → Option Observation
  | .answered _ .fetchReplannedState (.ok observation) => some observation
  | _ => none

-- The states a run was shown, in order.
def observed (events : List Happening) : List Observation := events.filterMap observation?

theorem observed_append (first second : List Happening) : observed (first ++ second) = observed first ++ observed second :=
  List.filterMap_append ..

theorem observation?_other {event : Happening} (other : isFetch event = false) : observation? event = none := by
  cases event with
  | answered held request answer =>
    cases request with
    | fetchReplannedState => simp [isFetch] at other
    | _ => rfl
  | fault held error => rfl
  | marked label => rfl

theorem observed_none {events : List Happening} (none : ∀ event ∈ events, isFetch event = false) : observed events = [] :=
  List.filterMap_eq_nil_iff.mpr (fun event member => observation?_other (none event member))

-- What the order statuses report as filled, up to the next state that is fetched or adjusted to.
def releasedAt : Happening → ℚ
  | .answered _ (.fetchOrderStatus _) answer => releasedBy answer
  | _ => 0

def confirmed : List Happening → ℚ
  | [] => 0
  | event :: rest => if isOther event then releasedAt event + confirmed rest else 0

-- One amount for each state that was fetched.
def releases : List Happening → List ℚ
  | [] => []
  | event :: rest => if isFetch event then confirmed rest :: releases rest else releases rest

theorem confirmed_append {later : List Happening} (first : List Happening) (nothing : confirmed later = 0) :
    confirmed (first ++ later) = confirmed first := by
  induction first with
  | nil => exact nothing
  | cons event rest ih => simp only [List.cons_append,confirmed,ih]

theorem releases_append {later : List Happening} (first : List Happening) (nothing : confirmed later = 0) :
    releases (first ++ later) = releases first ++ releases later := by
  induction first with
  | nil => rfl
  | cons event rest ih =>
    simp only [List.cons_append,releases,confirmed_append rest nothing,ih]
    split <;> rfl

theorem confirmed_other {events : List Happening} (other : ∀ event ∈ events, isOther event = true) :
    confirmed events = (events.map releasedAt).sum := by
  induction events with
  | nil => rfl
  | cons event rest ih =>
    rw [confirmed,other event (by simp),ih (fun later member => other later (by simp [member]))]
    simp

theorem releases_other {first : List Happening} (other : ∀ event ∈ first, isOther event = true) (later : List Happening) :
    releases (first ++ later) = releases later := by
  induction first with
  | nil => rfl
  | cons event rest ih =>
    rw [List.cons_append,releases,(other_parts (other event (by simp))).1,
      ih (fun later member => other later (by simp [member]))]
    simp

def scales (frame : Frame) (observations : List Observation) : List ℚ := observations.filterMap (admissionScale frame)

-- The smallest scale any admission asks for.
def tightestScale (frame : Frame) (observations : List Observation) : Option ℚ :=
  if frame.gateEnabled then (scales frame observations).min? else none

-- The gate of the cycle knows every state seen so far.
structure Tracks (frame : Frame) (seen : List Observation) (locals : Locals) : Prop where
  combinedScale : locals.gate.combinedScale = tightestScale frame seen
  buyBlocked : locals.gate.buyBlocked = (frame.gateEnabled && seen.any (admissionProhibits frame))

theorem tracks_same {frame : Frame} {seen : List Observation} {before after : Locals} (same : after.gate = before.gate)
    (tracks : Tracks frame seen before) : Tracks frame seen after :=
  ⟨by rw [same]; exact tracks.combinedScale,by rw [same]; exact tracks.buyBlocked⟩

theorem min?_concat (amounts : List ℚ) (amount : ℚ) :
    (amounts ++ [amount]).min? = minScale amounts.min? (some amount) := by
  cases amounts with
  | nil => rfl
  | cons first rest => simp only [List.cons_append,List.min?_cons',List.foldl_append]; rfl

theorem minScale_none (known : Option ℚ) : minScale known none = known := by cases known <;> rfl

theorem scales_concat (frame : Frame) (seen : List Observation) (observation : Observation) :
    (scales frame (seen ++ [observation])).min? = minScale (scales frame seen).min? (admissionScale frame observation) := by
  rw [scales,List.filterMap_append]
  cases asked : admissionScale frame observation with
  | none => simp [asked,minScale_none,scales]
  | some scale =>
    have one : List.filterMap (admissionScale frame) [observation] = [scale] := by simp [asked]
    rw [one]; exact min?_concat _ _

variable {frame : Frame} {before after : Locals} {events : List Happening}

theorem gateOpened_tracks (opened : GateOpened frame after) : Tracks frame [frame.opening] after where
  combinedScale := by
    rw [opened.combinedScale,tightestScale]
    refine if_congr Iff.rfl ?_ rfl
    rw [show [frame.opening] = [] ++ [frame.opening] from rfl,scales_concat]
    cases admissionScale frame frame.opening <;> rfl
  buyBlocked := by rw [opened.buyBlocked]; simp

-- What one more state does to the gate, once it was evaluated.
structure Constrained (frame : Frame) (observation : Observation) (before : Locals) (events : List Happening)
    (constrained : Observation) (after : Locals) : Prop where
  silent : ∀ event ∈ events, isQuiet event = true ∧ releasedAt event = 0
  plan : constrained.plan = observation.plan
  execution : constrained.execution = observation.execution
  allocation : constrained.allocation = observation.allocation
  liquidCash : constrained.portfolio.liquidCash = observation.portfolio.liquidCash
  view : after.view = before.view
  sales : after.book.dryRunSaleProceeds = before.book.dryRunSaleProceeds
  tracks : ∀ seen, Tracks frame seen before → Tracks frame (seen ++ [observation]) after

theorem evaluateGate_liquidCash {portfolio : Portfolio} {execution : Execution} {evaluated : Evaluated}
    (found : evaluateGate frame portfolio execution = .ok evaluated) : evaluated.portfolio.liquidCash = portfolio.liquidCash := by
  obtain ⟨_,_,found⟩ := bind_ok.mp found
  obtain ⟨_,_,found⟩ := bind_ok.mp found
  obtain ⟨_,_,found⟩ := bind_ok.mp found
  rw [← return_ok.mp found]

theorem constrainGate_run {observation constrained : Observation}
    (steps : (constrainGate frame observation).Steps false before events (.ok constrained) after) :
    Constrained frame observation before events constrained after := by
  unfold constrainGate at steps
  split at steps
  · rename_i enabled
    rcases steps_fromExcept_bind.mp steps with ⟨evaluated,found,steps⟩ | ⟨_,_,_,wrong,_⟩
    · rw [steps_modify_bind] at steps
      obtain ⟨tail,rfl,last⟩ := steps_mark_bind.mp steps
      obtain ⟨rfl,same,rfl⟩ := steps_pure.mp last
      cases same
      refine ⟨by simp [isQuiet,isOrder,isFetch,isAdjustment,hookFailed,releasedAt],rfl,rfl,rfl,evaluateGate_liquidCash found,rfl,rfl,
        fun seen tracks => ⟨?_,?_⟩⟩
      · have known := tracks.combinedScale
        rw [tightestScale,if_pos enabled] at known ⊢
        rw [scales_concat,← known,admissionScale,found]
      · simp [tracks.buyBlocked,enabled,admissionProhibits,found]
    · cases wrong
  · rename_i disabled
    obtain ⟨rfl,same,rfl⟩ := steps_pure.mp steps
    cases same
    have off : frame.gateEnabled = false := by simpa using disabled
    refine ⟨by simp,rfl,rfl,rfl,rfl,rfl,rfl,fun seen tracks => ⟨?_,?_⟩⟩
    · rw [tracks.combinedScale]; simp [tightestScale,off]
    · rw [tracks.buyBlocked]; simp [off]

theorem constrain_run {observation constrained : Observation}
    (steps : (constrain frame observation).Steps false before events (.ok constrained) after) :
    Constrained frame observation before events constrained after := by
  rcases steps_fromExcept_bind.mp steps with ⟨blocked,_,steps⟩ | ⟨_,_,_,wrong,_⟩
  · cases blocked with
    | true =>
      simp only [whenever,halt,if_true] at steps
      rw [changeBook_bind] at steps
      have found := constrainGate_run steps
      exact ⟨found.silent,found.plan,found.execution,found.allocation,found.liquidCash,found.view,found.sales,
        fun seen tracks => found.tracks seen ⟨tracks.combinedScale,tracks.buyBlocked⟩⟩
    | false =>
      simp only [whenever,Bool.false_eq_true,if_false] at steps
      obtain ⟨one,two,_,_,rfl,skipped,rest⟩ := steps_bind_ok steps
      obtain ⟨rfl,_,rfl⟩ := steps_pure.mp skipped
      exact constrainGate_run rest
  · cases wrong

theorem filledSellReleaseValue_run {orders : List OrderPayload} {value : ℚ}
    (steps : (filledSellReleaseValue orders).Steps false before events (.ok value) after) :
    value = (events.map releasedAt).sum := by
  induction orders generalizing before events value after with
  | nil =>
    obtain ⟨rfl,same,_⟩ := steps_pure.mp steps
    cases same; rfl
  | cons order rest ih =>
    unfold filledSellReleaseValue at steps
    simp only at steps
    split at steps
    · exact ih steps
    · obtain ⟨answer,tail,rfl,asked⟩ := steps_attempt_invoke_bind.mp steps
      obtain ⟨one,two,others,middle,rfl,ran,ended⟩ := steps_bind_ok asked
      obtain ⟨rfl,same,_⟩ := steps_pure.mp ended
      cases same
      rw [List.append_nil,List.map_cons,List.sum_cons,← ih ran]
      rfl

theorem sellReleaseValue_run {settings : Settings} {orders : List OrderPayload} {value : ℚ}
    (steps : (sellReleaseValue settings orders).Steps false before events (.ok value) after) :
    value = (events.map releasedAt).sum := by
  unfold sellReleaseValue at steps
  split at steps
  · exact filledSellReleaseValue_run steps
  · obtain ⟨rfl,same,_⟩ := steps_pure.mp steps
    cases same; rfl

-- What the refreshes up to now amount to, measured from where they began.
structure Refreshed (frame : Frame) (best projected : ℚ) (before : Locals) (events : List Happening) (refresh : Refresh)
    (after : Locals) : Prop where
  plain : ∀ event ∈ events, isOrder event = false ∧ isAdjustment event = false
  last : ∃ earlier latest, observed events = earlier ++ [latest] ∧ refresh.observation.execution = latest.execution ∧
    refresh.observation.allocation = latest.allocation ∧
    refresh.observation.portfolio.liquidCash = latest.portfolio.liquidCash
  tracks : ∀ seen, Tracks frame seen before → Tracks frame (seen ++ observed events) after
  view : after.view = before.view
  sales : after.book.dryRunSaleProceeds = before.book.dryRunSaleProceeds
  bestInvestableCash : refresh.bestInvestableCash =
    ((observed events).map fun observation => observation.execution.investableCash).foldl max best
  projected : refresh.projectedSellReleaseValue = (releases events).foldl max projected
  settled : confirmed events = 0

theorem refreshOnce_run {best projected : ℚ} {refresh : Refresh}
    (steps : (refreshOnce frame best projected).Steps false before events (.ok refresh) after) :
    Refreshed frame best projected before events refresh after := by
  rcases steps_invoke_bind.mp steps with ⟨observation,tail,rfl,constraining⟩ | ⟨_,_,wrong,_⟩
  · obtain ⟨one,two,constrained,middle,rfl,ran,measuring⟩ := steps_bind_ok constraining
    have found := constrain_run ran
    have quiet := quiet_measureRefresh frame best projected constrained _ _ _ _ measuring
    unfold measureRefresh at measuring
    rw [steps_get_bind] at measuring
    obtain ⟨asked,none,released,_,rfl,asking,ended⟩ := steps_bind_ok measuring
    have value := sellReleaseValue_run asking
    obtain ⟨rfl,same,_⟩ := steps_pure.mp ended
    cases same
    rw [List.append_nil] at quiet ⊢
    have silent : ∀ event ∈ one ++ asked, isQuiet event = true := fun event member =>
      (List.mem_append.mp member).elim (fun inside => (found.silent event inside).1) (quiet.events event)
    have other : ∀ event ∈ one ++ asked, isOther event = true := fun event member => quiet_other (silent event member)
    have noFetch : ∀ event ∈ one ++ asked, isFetch event = false := fun event member => (quiet_parts (silent event member)).2.1
    have seen : observed (.answered false .fetchReplannedState (.ok observation) :: (one ++ asked)) = [observation] := by
      rw [← List.singleton_append,observed_append,observed_none noFetch]; rfl
    have amounts : releases (.answered false .fetchReplannedState (.ok observation) :: (one ++ asked)) = [released] := by
      have zero : (one.map releasedAt).sum = 0 := List.sum_eq_zero (by
        intro amount member
        obtain ⟨event,inside,rfl⟩ := List.mem_map.mp member
        exact (found.silent event inside).2)
      show confirmed (one ++ asked) :: releases (one ++ asked) = _
      have none : releases (one ++ asked) = [] := by
        rw [← List.append_nil (one ++ asked),releases_other other]; rfl
      rw [none,confirmed_other other,List.map_append,List.sum_append,zero,zero_add,value]
    refine ⟨?_,⟨[],observation,by rw [seen]; rfl,found.execution,found.allocation,found.liquidCash⟩,?_,?_,?_,?_,?_,rfl⟩
    · intro event member
      rcases List.mem_cons.mp member with rfl | inside
      · exact ⟨rfl,rfl⟩
      · exact ⟨(quiet_parts (silent event inside)).1,(quiet_parts (silent event inside)).2.2.1⟩
    · intro past tracks
      rw [seen]
      exact tracks_same quiet.gate (found.tracks past tracks)
    · exact quiet.view.trans found.view
    · rw [quiet.book]; exact found.sales
    · rw [seen,found.execution]; rfl
    · rw [amounts]; rfl
  · cases wrong

-- Waiting and asking once more continues the refreshes.
theorem refreshed_again {start : Locals} {past more : List Happening} {best projected : ℚ} {found refresh : Refresh}
    (seconds : ℚ) (answer : Except PyExc Unit) (known : Refreshed frame best projected start past found before)
    (next : Refreshed frame found.bestInvestableCash found.projectedSellReleaseValue before more refresh after) :
    Refreshed frame best projected start (past ++ .answered false (.sleeper seconds) answer :: more) refresh after := by
  have seen : observed (past ++ .answered false (.sleeper seconds) answer :: more) = observed past ++ observed more := by
    rw [observed_append]; rfl
  have nothing : confirmed (.answered false (.sleeper seconds) answer :: more) = 0 := by
    show 0 + confirmed more = 0
    rw [next.settled,zero_add]
  refine ⟨?_,?_,?_,next.view.trans known.view,next.sales.trans known.sales,?_,?_,?_⟩
  · intro event member
    rcases List.mem_append.mp member with early | late
    · exact known.plain event early
    · rcases List.mem_cons.mp late with rfl | inside
      · exact ⟨rfl,rfl⟩
      · exact next.plain event inside
  · obtain ⟨earlier,latest,split,same⟩ := next.last
    exact ⟨observed past ++ earlier,latest,by rw [seen,split,List.append_assoc],same⟩
  · intro past_ tracks
    rw [seen,← List.append_assoc]
    exact next.tracks _ (known.tracks _ tracks)
  · rw [seen,List.map_append,List.foldl_append,← known.bestInvestableCash]
    exact next.bestInvestableCash
  · rw [releases_append _ nothing,List.foldl_append,← known.projected]
    exact next.projected
  · rw [confirmed_append _ nothing]
    exact known.settled

theorem refreshAgain_run {start : Locals} {past : List Happening} {previous best projected : ℚ} {attempts : ℕ}
    {found refresh : Refresh} (known : Refreshed frame best projected start past found before)
    (steps : (refreshAgain frame previous attempts found).Steps false before events (.ok refresh) after) :
    Refreshed frame best projected start (past ++ events) refresh after := by
  induction attempts generalizing before events past found with
  | zero =>
    obtain ⟨rfl,same,rfl⟩ := steps_pure.mp steps
    cases same; rw [List.append_nil]; exact known
  | succ attempts ih =>
    unfold refreshAgain at steps
    split at steps
    · obtain ⟨rfl,same,rfl⟩ := steps_pure.mp steps
      cases same; rw [List.append_nil]; exact known
    · rcases steps_invoke_bind.mp steps with ⟨slept,tail,rfl,asking⟩ | ⟨_,_,wrong,_⟩
      · obtain ⟨one,two,next,middle,rfl,ran,rest⟩ := steps_bind_ok asking
        have again := ih (refreshed_again (max 0 frame.settings.postSellRefreshIntervalSec) (.ok slept) known (refreshOnce_run ran)) rest
        rw [List.append_assoc,List.cons_append] at again
        exact again
      · cases wrong

theorem refreshLoop_run {previous : ℚ} {refresh : Refresh}
    (steps : (refreshLoop frame previous).Steps false before events (.ok refresh) after) :
    Refreshed frame previous 0 before events refresh after := by
  obtain ⟨one,two,first,middle,rfl,ran,rest⟩ := steps_bind_ok steps
  exact refreshAgain_run (refreshOnce_run ran) rest

-- What adopting a refresh leaves behind when it ends normally.
structure Adopted (previous : ℚ) (refresh : Refresh) (before after : Locals) : Prop where
  book : after.book = before.book
  gate : after.gate = before.gate
  execution : after.view.execution =
    if before.book.submissionHalted then noExecute refresh.observation.execution else refresh.observation.execution
  availableCash : after.view.availableCash = refresh.observation.portfolio.liquidCash
  investableCash : after.view.investableCash = fundedCash previous refresh

-- The scaling step: the targets it leaves, or an end without anything adjusted.
theorem scaled_run {scale : Option ℚ} {result : Except PyExc Unit}
    (steps : (whenever frame.gateEnabled (scaleAllocation frame scale)).Steps false before events result after) :
    (∀ event ∈ events, isOther event = true) ∧ (result = .ok () →
      events = [] ∧ ∃ targets, (if frame.gateEnabled then
        frame.library.applyCombinedScaleToTargets before.view.allocation.targets scale
        else .ok before.view.allocation.targets) = .ok targets ∧
      after = { before with view := { before.view with allocation := { before.view.allocation with targets } } }) := by
  unfold whenever at steps
  split at steps
  · rename_i enabled
    refine ⟨?_,?_⟩
    · unfold scaleAllocation at steps
      rw [steps_get_bind] at steps
      rcases steps_fromExcept_bind.mp steps with ⟨_,_,rest⟩ | ⟨_,_,rfl,_,_⟩
      · obtain ⟨rfl,_,_⟩ := steps_modify.mp rest
        simp
      · simp [isOther,isFetch,isAdjustment]
    · rintro rfl
      rw [if_pos enabled]
      exact scaleAllocation_run steps
  · rename_i disabled
    obtain ⟨rfl,_,rfl⟩ := steps_pure.mp steps
    exact ⟨by simp,fun _ => ⟨rfl,_,by rw [if_neg disabled],rfl⟩⟩

theorem adoptRefresh_run {previous : ℚ} {refresh : Refresh} {result : Except PyExc Unit}
    (steps : (adoptRefresh frame previous refresh).Steps false before events result after) :
    (∃ error, result = .error error ∧ ∀ event ∈ events, isOther event = true) ∨
    ∃ targets tail, events = .marked (.adjusting targets) :: tail ∧ (∀ event ∈ tail, isOther event = true) ∧
      (if frame.gateEnabled then frame.library.applyCombinedScaleToTargets refresh.observation.allocation.targets
        before.gate.combinedScale else .ok refresh.observation.allocation.targets) = .ok targets ∧
      (result = .ok () → Adopted previous refresh before after) := by
  unfold adoptRefresh changeView at steps
  rw [steps_get_bind] at steps
  simp only at steps
  rw [steps_modify_bind] at steps
  rcases steps_bind.mp steps with ⟨one,two,_,middle,rfl,scaling,rest⟩ | ⟨error,rfl,scaling⟩
  · obtain ⟨rfl,targets,scaled,rfl⟩ := (scaled_run scaling).2 rfl
    right
    rcases steps_bind.mp rest with ⟨adjusts,none,_,last,rfl,adjusting,ended⟩ | ⟨error,rfl,adjusting⟩
    · obtain ⟨tail,rfl,adjusted⟩ := adjustTargets_run adjusting
      obtain ⟨rfl,_,rfl⟩ := steps_modify.mp ended
      refine ⟨targets,tail,by simp,fun event member => quiet_other (adjusted.events event member),scaled,fun _ => ?_⟩
      exact ⟨adjusted.book,adjusted.gate,adjusted.execution,rfl,rfl⟩
    · obtain ⟨tail,rfl,adjusted⟩ := adjustTargets_run adjusting
      exact ⟨targets,tail,rfl,fun event member => quiet_other (adjusted.events event member),scaled,fun wrong => by cases wrong⟩
  · exact .inl ⟨error,rfl,(scaled_run scaling).1⟩

-- The three ways in which funding ends: no sell to fund from, the simulated
-- proceeds of a dry run, or the states that were fetched after the sells.
inductive Funding (frame : Frame) (before : Locals) : List Happening → Locals → Prop where
  | untouched (unsold : before.book.sellSubmitted = false ∨ before.book.submissionHalted = true) : Funding frame before [] before
  | simulated {events : List Happening} {after : Locals} (dryRun : frame.settings.dryRunOnly = true)
      (proceeds : 0 < before.book.dryRunSaleProceeds) (quiet : ∀ event ∈ events, isQuiet event = true)
      (book : after.book = before.book) (gate : after.gate = before.gate)
      (view : after.view = { before.view with
        availableCash := max 0 (before.view.availableCash + before.book.dryRunSaleProceeds)
        investableCash := max 0 (before.view.investableCash + before.book.dryRunSaleProceeds) }) :
      Funding frame before events after
  | refreshed {refreshes tail : List Happening} {middle after : Locals} {refresh : Refresh} {targets : Amounts}
      (live : frame.settings.dryRunOnly = false ∨ before.book.dryRunSaleProceeds ≤ 0)
      (found : Refreshed frame before.view.investableCash 0 before refreshes refresh middle)
      (other : ∀ event ∈ tail, isOther event = true)
      (scaled : (if frame.gateEnabled then frame.library.applyCombinedScaleToTargets refresh.observation.allocation.targets
        middle.gate.combinedScale else .ok refresh.observation.allocation.targets) = .ok targets)
      (adopted : Adopted before.view.investableCash refresh middle after) :
      Funding frame before (refreshes ++ .marked (.adjusting targets) :: tail) after

theorem simulateProceeds_run (steps : simulateProceeds.Steps false before events (.ok ()) after) :
    (∀ event ∈ events, isQuiet event = true) ∧ after.book = before.book ∧ after.gate = before.gate ∧
      after.view = { before.view with
        availableCash := max 0 (before.view.availableCash + before.book.dryRunSaleProceeds)
        investableCash := max 0 (before.view.investableCash + before.book.dryRunSaleProceeds) } := by
  unfold simulateProceeds changeView at steps
  rw [steps_get_bind] at steps
  simp only at steps
  rw [steps_modify_bind] at steps
  have quiet := quiet_noteLog _ _ _ _ _ steps
  exact ⟨quiet.events,quiet.book,quiet.gate,quiet.view⟩

theorem fundFromSells_run (steps : (fundFromSells frame).Steps false before events (.ok ()) after) :
    Funding frame before events after := by
  unfold fundFromSells at steps
  rw [steps_get_bind] at steps
  split at steps
  · split at steps
    · rename_i simulating
      obtain ⟨dryRun,proceeds⟩ : frame.settings.dryRunOnly = true ∧ 0 < before.book.dryRunSaleProceeds := by
        simpa using simulating
      obtain ⟨quiet,book,gate,view⟩ := simulateProceeds_run steps
      exact .simulated dryRun proceeds quiet book gate view
    · rename_i refreshing
      have live : frame.settings.dryRunOnly = false ∨ before.book.dryRunSaleProceeds ≤ 0 := by
        by_cases dryRun : frame.settings.dryRunOnly = true
        · right; simpa [dryRun] using refreshing
        · left; simpa using dryRun
      obtain ⟨refreshes,rest,refresh,middle,rfl,ran,adopting⟩ := steps_bind_ok steps
      rcases adoptRefresh_run adopting with ⟨_,wrong,_⟩ | ⟨targets,tail,rfl,other,scaled,adopted⟩
      · cases wrong
      · exact .refreshed live (refreshLoop_run ran) other scaled (adopted rfl)
  · rename_i unsold
    obtain ⟨rfl,_,same⟩ := steps_pure.mp steps
    rw [same]
    refine .untouched ?_
    by_cases sold : before.book.sellSubmitted = true
    · right; simpa [sold] using unsold
    · left; simpa using sold

end LongBridge.Cycle
