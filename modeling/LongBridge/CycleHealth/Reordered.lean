import LongBridge.CycleHealth.Reapplied

namespace LongBridge.CycleHealth
open Effects Sorting

variable {kit : Kit} {clock : Clock}

def incidentsOf (cycleId : String) (incidents : List Incident) : List Incident :=
  incidents.filter fun item => item.cycle.cycleId = cycleId

theorem incidentOf_eq (cycleId : String) (incidents : List Incident) :
    incidentOf cycleId incidents = (incidentsOf cycleId incidents).head? := (List.head?_filter ..).symm

theorem incidentsOf_put {cycleId : String} {next : Incident} (sameId : next.cycle.cycleId = cycleId)
    (incidents : List Incident) :
    incidentsOf cycleId (put cycleId next incidents) = next :: (incidentsOf cycleId incidents).tail := by
  induction incidents with
  | nil => simp [put,incidentsOf,sameId]
  | cons item rest ih =>
    unfold put
    unfold incidentsOf at ih ⊢
    by_cases here : item.cycle.cycleId = cycleId
    · simp [here,sameId]
    · simp [here,ih]

theorem incidentsOf_put_other {cycleId other : String} {next : Incident} (sameId : next.cycle.cycleId = cycleId)
    (apart : cycleId ≠ other) (incidents : List Incident) :
    incidentsOf other (put cycleId next incidents) = incidentsOf other incidents := by
  induction incidents with
  | nil => simp [put,incidentsOf,sameId,apart]
  | cons item rest ih =>
    unfold put
    unfold incidentsOf at ih ⊢
    by_cases here : item.cycle.cycleId = cycleId
    · simp [here,sameId,apart]
    · rw [if_neg here,List.filter_cons,List.filter_cons,ih]

-- The same incidents, cycle by cycle, in whatever order the cycles came.
structure Alike (clock : Clock) (one two : List Incident) : Prop where
  first : AllFresh clock one
  second : AllFresh clock two
  each : ∀ cycleId, incidentsOf cycleId one = incidentsOf cycleId two

theorem alike_symm {one two : List Incident} (alike : Alike clock one two) : Alike clock two one :=
  ⟨alike.second,alike.first,fun cycleId => (alike.each cycleId).symm⟩

theorem alike_trans {one two three : List Incident} (left : Alike clock one two) (right : Alike clock two three) :
    Alike clock one three :=
  ⟨left.first,right.second,fun cycleId => (left.each cycleId).trans (right.each cycleId)⟩

theorem alike_perm {one two : List Incident} (alike : Alike clock one two) : one.Perm two := by
  rw [List.perm_iff_count]
  intro item
  have counted : ∀ incidents : List Incident, incidents.count item = (incidentsOf item.cycle.cycleId incidents).count item :=
    fun incidents => (List.count_filter (by simp)).symm
  rw [counted one,counted two,alike.each]

theorem alike_put {one two : List Incident} {cycleId : String} {next : Incident} (alike : Alike clock one two)
    (fresh : Fresh clock next) (sameId : next.cycle.cycleId = cycleId) :
    Alike clock (put cycleId next one) (put cycleId next two) := by
  refine ⟨put_fresh alike.first fresh,put_fresh alike.second fresh,?_⟩
  intro other
  by_cases same : cycleId = other
  · subst same
    rw [incidentsOf_put sameId,incidentsOf_put sameId,alike.each]
  · rw [incidentsOf_put_other sameId same,incidentsOf_put_other sameId same,alike.each]

theorem put_swap {incidents : List Incident} {one two : Incident} (all : AllFresh clock incidents)
    (fresh : Fresh clock one) (fresh' : Fresh clock two) (apart : one.cycle.cycleId ≠ two.cycle.cycleId) :
    Alike clock (put two.cycle.cycleId two (put one.cycle.cycleId one incidents))
      (put one.cycle.cycleId one (put two.cycle.cycleId two incidents)) := by
  refine ⟨put_fresh (put_fresh all fresh) fresh',put_fresh (put_fresh all fresh') fresh,?_⟩
  intro other
  by_cases first : one.cycle.cycleId = other
  · subst first
    rw [incidentsOf_put_other rfl apart.symm,incidentsOf_put rfl,incidentsOf_put rfl,incidentsOf_put_other rfl apart.symm]
  · by_cases second : two.cycle.cycleId = other
    · subst second
      rw [incidentsOf_put rfl,incidentsOf_put_other rfl apart,incidentsOf_put_other rfl apart,incidentsOf_put rfl]
    · rw [incidentsOf_put_other rfl second,incidentsOf_put_other rfl first,incidentsOf_put_other rfl first,
        incidentsOf_put_other rfl second]

theorem put_put {cycleId : String} {one two : Incident} (sameId : one.cycle.cycleId = cycleId) (incidents : List Incident) :
    put cycleId two (put cycleId one incidents) = put cycleId two incidents := by
  induction incidents with
  | nil => simp [put,sameId]
  | cons item rest ih =>
    by_cases here : item.cycle.cycleId = cycleId
    · simp [put,here,sameId]
    · simp [put,here,ih]

theorem recordCycle_respects {context : CycleContext} {one two next : List Incident} {cycle : Cycle}
    (alike : Alike clock one two) (recorded : recordCycle kit clock context one cycle = .ok next) :
    ∃ other, recordCycle kit clock context two cycle = .ok other ∧ Alike clock next other := by
  obtain ⟨checked,rest⟩ := recordCycle_ok.mp recorded
  rcases rest with ⟨healthy,rfl⟩ | ⟨faulty,item,added,rfl⟩
  · exact ⟨two,recordCycle_ok.mpr ⟨checked,.inl ⟨healthy,rfl⟩⟩,alike⟩
  · obtain ⟨fresh,sameId,_⟩ := grown_ok alike.first added
    rw [incidentOf_eq,alike.each,← incidentOf_eq] at added
    exact ⟨_,recordCycle_ok.mpr ⟨checked,.inr ⟨faulty,item,added,rfl⟩⟩,alike_put alike fresh sameId⟩

-- An incident or its absence, as what a new fault of the cycle is added to.
theorem grown_unknown {cycle : Cycle} {item : Option Incident} {next : Incident}
    (unknown : attemptOf (attemptKey cycle) ((item.map Incident.faultAttempts).getD []) = none) :
    grown clock cycle item = .ok next ↔
      ((item.map Incident.faultAttempts).getD []).length < maxCycles ∧
        refreshIncident clock ((item.map Incident.faultAttempts).getD [] ++ [⟨cycle,none⟩])
          ((item.map Incident.resolutionHistory).getD []) = .ok next := by
  cases item with
  | none => simp [grown,maxCycles]
  | some item =>
    change addAttempt clock cycle item = .ok next ↔ _
    rw [addAttempt_cases]
    simp only [Option.map_some,Option.getD_some] at unknown ⊢
    simp [unknown]

theorem refreshed_without_last {attempts : List Attempt} {new one : Attempt} {history : List Resolution} {item : Incident}
    (active : isActive new = true) (refreshed : refreshIncident clock (attempts ++ [new] ++ [one]) history = .ok item) :
    ∃ before, refreshIncident clock (attempts ++ [new]) history = .ok before := by
  obtain ⟨readable,past,_⟩ := (refreshIncident_eq ..).mp refreshed
  have member : new ∈ (attempts ++ [new]).insertionSort (byFault clock) :=
    (List.perm_insertionSort ..).mem_iff.mpr (by simp)
  obtain ⟨before,built⟩ := assembled_open member active (history.insertionSort (byWatermark clock))
  have early : Readable (attemptTime clock) (attempts ++ [new]) :=
    fun attempt present => readable attempt (List.mem_append_left _ present)
  exact ⟨before,(refreshIncident_eq ..).mpr ⟨early,past,built⟩⟩

theorem refreshed_again {attempts more : List Attempt} {history : List Resolution} {middle item : Incident}
    (refreshed : refreshIncident clock attempts history = .ok middle) :
    refreshIncident clock (middle.faultAttempts ++ more) middle.resolutionHistory = .ok item ↔
      refreshIncident clock (attempts ++ more) history = .ok item := by
  obtain ⟨_,kept,proven⟩ := refreshed_fresh refreshed
  have same := @refreshIncident_presorted clock attempts more history [] item
  rw [List.append_nil,List.append_nil] at same
  rw [kept,proven,same]

-- Two faults of one cycle: the incident they leave does not tell which came first.
theorem grown_swap {incidents : List Incident} {one two : Cycle} {middle last : Incident} (all : AllFresh clock incidents)
    (sameId : one.cycleId = two.cycleId) (first : grown clock one (incidentOf one.cycleId incidents) = .ok middle)
    (second : addAttempt clock two middle = .ok last) :
    ∃ other, grown clock two (incidentOf one.cycleId incidents) = .ok other ∧ addAttempt clock one other = .ok last := by
  by_cases equal : one = two
  · subst equal
    exact ⟨middle,first,second⟩
  have ⟨fresh,id,grows,known,found,same⟩ := grown_ok all first
  have apart : attemptKey one ≠ attemptKey two := by
    intro keys
    rw [keys] at found
    rcases addAttempt_cases.mp second with ⟨_,shown,again,_⟩ | ⟨unknown,_⟩
    · rw [found] at shown
      cases shown
      exact equal (same.symm.trans again)
    · rw [found] at unknown
      cases unknown
  have sorted : (((incidentOf one.cycleId incidents).map Incident.faultAttempts).getD []).Pairwise (byFault clock) := by
    cases item : incidentOf one.cycleId incidents with
    | none => exact List.Pairwise.nil
    | some item' => exact (fresh_order (all item' (List.mem_of_find?_eq_some item))).1
  cases earlierOne : attemptOf (attemptKey one) (((incidentOf one.cycleId incidents).map Incident.faultAttempts).getD []) with
  | some attempt =>
    -- the first fault was there before
    cases item : incidentOf one.cycleId incidents with
    | none => rw [item] at earlierOne; cases earlierOne
    | some item' =>
      rw [item] at first earlierOne
      rcases addAttempt_cases.mp first with ⟨attempt',shown,again,rfl⟩ | ⟨unknown,_⟩
      · have fresh' := all middle (List.mem_of_find?_eq_some item)
        obtain ⟨_,grew,_⟩ := addAttempt_grows fresh' (id.trans sameId) second
        obtain ⟨still,present,kept⟩ := grew.attempts _ attempt' shown
        exact ⟨last,second,addAttempt_cases.mpr (.inl ⟨still,present,kept.trans again,rfl⟩)⟩
      · exact absurd (earlierOne.symm.trans unknown) (by simp)
  | none =>
    obtain ⟨_,refreshed⟩ := (grown_unknown earlierOne).mp first
    have ⟨_,kept,_⟩ := refreshed_fresh refreshed
    have other : attemptOf (attemptKey two) middle.faultAttempts =
        attemptOf (attemptKey two) (((incidentOf one.cycleId incidents).map Incident.faultAttempts).getD []) := by
      rw [kept]
      exact attemptOf_appended sorted _ apart
    rcases addAttempt_cases.mp second with ⟨attempt,shown,again,rfl⟩ | ⟨unknown,room,added⟩
    · -- the second fault was there before
      cases item : incidentOf one.cycleId incidents with
      | none => rw [other,item] at shown; cases shown
      | some item' =>
        rw [other,item] at shown
        rw [item] at first
        exact ⟨item',addAttempt_cases.mpr (.inl ⟨attempt,shown,again,rfl⟩),first⟩
    · have both := refreshIncident_swap (by exact apart) ((refreshed_again refreshed).mp added)
      obtain ⟨before,alone⟩ := refreshed_without_last rfl both
      have ⟨_,kept',_⟩ := refreshed_fresh alone
      have length : middle.faultAttempts.length =
          (((incidentOf one.cycleId incidents).map Incident.faultAttempts).getD []).length + 1 := by
        rw [kept,List.length_insertionSort,List.length_append,List.length_singleton]
      refine ⟨before,(grown_unknown (other.symm.trans unknown)).mpr ⟨by omega,alone⟩,addAttempt_cases.mpr (.inr ⟨?_,?_,?_⟩)⟩
      · rw [kept',← earlierOne]
        exact attemptOf_appended sorted _ apart.symm
      · rw [kept',List.length_insertionSort,List.length_append,List.length_singleton]
        omega
      · exact (refreshed_again alone).mpr both

theorem recordCycle_swap {context : CycleContext} {before middle last : List Incident} {one two : Cycle}
    (all : AllFresh clock before) (first : recordCycle kit clock context before one = .ok middle)
    (second : recordCycle kit clock context middle two = .ok last) :
    ∃ other final, recordCycle kit clock context before two = .ok other ∧
      recordCycle kit clock context other one = .ok final ∧ Alike clock last final := by
  have fresh : AllFresh clock last := (recordCycle_settles (recordCycle_settles all first).1 second).1
  have reflexive : Alike clock last last := ⟨fresh,fresh,fun _ => rfl⟩
  obtain ⟨checked,rest⟩ := recordCycle_ok.mp first
  obtain ⟨checked',rest'⟩ := recordCycle_ok.mp second
  rcases rest with ⟨healthy,rfl⟩ | ⟨faulty,item,added,rfl⟩
  · exact ⟨last,last,second,recordCycle_ok.mpr ⟨checked,.inl ⟨healthy,rfl⟩⟩,reflexive⟩
  rcases rest' with ⟨healthy',rfl⟩ | ⟨faulty',item',added',rfl⟩
  · exact ⟨before,_,recordCycle_ok.mpr ⟨checked',.inl ⟨healthy',rfl⟩⟩,first,reflexive⟩
  have ⟨new,sameId,_⟩ := grown_ok all added
  by_cases same : one.cycleId = two.cycleId
  · rw [← same,incidentOf_put sameId] at added'
    obtain ⟨other,front,back⟩ := grown_swap all same added added'
    rw [same] at front
    have ⟨_,otherId,_⟩ := grown_ok all front
    refine ⟨_,_,recordCycle_ok.mpr ⟨checked',.inr ⟨faulty',other,front,rfl⟩⟩,
      recordCycle_ok.mpr ⟨checked,.inr ⟨faulty,item',?_,rfl⟩⟩,?_⟩
    · rw [same,incidentOf_put otherId]; exact back
    · rw [same,put_put otherId]
      rw [same,put_put (sameId.trans same)] at reflexive
      rw [put_put (sameId.trans same)]
      exact reflexive
  · rw [incidentOf_put_other sameId same] at added'
    have ⟨new',sameId',_⟩ := grown_ok all added'
    refine ⟨_,_,recordCycle_ok.mpr ⟨checked',.inr ⟨faulty',item',added',rfl⟩⟩,
      recordCycle_ok.mpr ⟨checked,.inr ⟨faulty,item,?_,rfl⟩⟩,?_⟩
    · rw [incidentOf_put_other sameId' fun equal => same equal.symm]; exact added
    · have apart : item.cycle.cycleId ≠ item'.cycle.cycleId := by
        rw [sameId,sameId']; exact same
      have swapped := put_swap all new new' apart
      rwa [sameId,sameId'] at swapped

theorem reduceIncidents_cases {context : CycleContext} {cycles : List Cycle} {resolutions : List Resolution}
    {previous : Option Checkpoint} {state : Checkpoint} :
    reduceIncidents kit clock context cycles resolutions previous = .ok state ↔
      (previous.all fun state => decide (state.targetId = context.targetId ∧
        state.sourceBindingId = context.sourceBindingId)) = true ∧
      ∃ opened recorded incidents, ((previous.map Checkpoint.incidents).getD []).mapM (reopenIncident clock) = .ok opened ∧
        cycles.foldlM (recordCycle kit clock context) opened = .ok recorded ∧
        resolutions.foldlM (applyResolution kit clock context cycles) recorded = .ok incidents ∧
        incidents.length ≤ maxCycles ∧
        state = ⟨context.targetId,context.sourceBindingId,incidents,unresolved incidents,false⟩ := by
  constructor
  · intro reduced
    obtain ⟨_,bound,reduced⟩ := bind_ok.mp reduced
    obtain ⟨opened,opening,reduced⟩ := bind_ok.mp reduced
    obtain ⟨recorded,recording,reduced⟩ := bind_ok.mp reduced
    obtain ⟨incidents,resolving,reduced⟩ := bind_ok.mp reduced
    obtain ⟨_,room,same⟩ := bind_ok.mp reduced
    exact ⟨require_ok.mp bound,opened,recorded,incidents,opening,recording,resolving,require_ok.mp room,
      (return_ok.mp same).symm⟩
  · intro found
    obtain ⟨bound,opened,recorded,incidents,opening,recording,resolving,room,rfl⟩ := found
    refine bind_ok.mpr ⟨(),require_ok.mpr bound,bind_ok.mpr ⟨opened,opening,bind_ok.mpr ⟨recorded,recording,?_⟩⟩⟩
    exact bind_ok.mpr ⟨incidents,resolving,bind_ok.mpr ⟨(),require_ok.mpr room,return_ok.mpr rfl⟩⟩

-- Everything is known the second time.
theorem reduceIncidents_again {context : CycleContext} {cycles : List Cycle} {resolutions : List Resolution}
    {previous : Option Checkpoint} {state : Checkpoint}
    (reduced : reduceIncidents kit clock context cycles resolutions previous = .ok state) :
    reduceIncidents kit clock context cycles resolutions (some state) = .ok state := by
  obtain ⟨_,opened,recorded,incidents,opening,recording,resolving,room,rfl⟩ := reduceIncidents_cases.mp reduced
  obtain ⟨fresh,_,settled⟩ := foldlM_settles (f := recordCycle kit clock context)
    steady_refl steady_trans recordCycle_settles (reopened_fresh opening) recording
  obtain ⟨fresh',steady,settled'⟩ := foldlM_settles (f := applyResolution kit clock context cycles)
    steady_refl steady_trans applyResolution_settles fresh resolving
  refine reduceIncidents_cases.mpr ⟨by simp,incidents,incidents,incidents,reopen_fresh fresh',?_,?_,room,rfl⟩
  · exact settled incidents steady
  · exact settled' incidents (steady_refl _)

theorem reduceIncidents_perm {context : CycleContext} {cycles others : List Cycle} {previous : Option Checkpoint}
    {state : Checkpoint} (perm : cycles.Perm others)
    (reduced : reduceIncidents kit clock context cycles [] previous = .ok state) :
    ∃ other, reduceIncidents kit clock context others [] previous = .ok other ∧
      state.incidents.Perm other.incidents ∧ other = { state with incidents := other.incidents } := by
  obtain ⟨bound,opened,recorded,incidents,opening,recording,resolving,room,rfl⟩ := reduceIncidents_cases.mp reduced
  have fresh := reopened_fresh opening
  obtain ⟨last,ran,alike⟩ := foldlM_perm (f := recordCycle kit clock context) (E := Alike clock) alike_symm
    alike_trans recordCycle_respects (fun same => recordCycle_swap same.first) perm ⟨fresh,fresh,fun _ => rfl⟩ recording
  rw [List.foldlM_nil,return_ok] at resolving
  subst resolving
  have same := alike_perm alike
  refine ⟨_,reduceIncidents_cases.mpr ⟨bound,opened,last,last,opening,ran,rfl,?_,rfl⟩,same,?_⟩
  · rw [← same.length_eq]; exact room
  · simp only [unresolved,same.countP_eq]

-- A scan may be read again and may be read in any order.
theorem reductions_are_replay_safe (kit : Kit) (clock : Clock) (context : CycleContext) (previous : Option Checkpoint) :
    (∀ cycles resolutions state, reduceIncidents kit clock context cycles resolutions previous = .ok state →
      reduceIncidents kit clock context cycles resolutions (some state) = .ok state) ∧
    ∀ cycles others, cycles.Perm others →
      (∃ one two, reduceIncidents kit clock context cycles [] previous = .error one ∧
        reduceIncidents kit clock context others [] previous = .error two) ∨
      ∃ one two, reduceIncidents kit clock context cycles [] previous = .ok one ∧
        reduceIncidents kit clock context others [] previous = .ok two ∧
        one.incidents.Perm two.incidents ∧ two = { one with incidents := two.incidents } := by
  refine ⟨fun _ _ _ => reduceIncidents_again,?_⟩
  intro cycles others perm
  cases first : reduceIncidents kit clock context cycles [] previous with
  | ok one =>
    obtain ⟨two,second,same⟩ := reduceIncidents_perm perm first
    exact .inr ⟨one,two,rfl,second,same⟩
  | error one =>
    cases second : reduceIncidents kit clock context others [] previous with
    | ok two =>
      obtain ⟨other,reduced,_⟩ := reduceIncidents_perm perm.symm second
      rw [first] at reduced
      cases reduced
    | error two => exact .inl ⟨one,two,rfl,rfl⟩

theorem reconciled_history_is_replay_safe :
    reduceIncidents paperKit paperClock paperContext [uncertainCycle,uncertainCycle] [reconciled]
        (some reconciledCheckpoint) = .ok reconciledCheckpoint :=
  (reductions_are_replay_safe paperKit paperClock paperContext (some openCheckpoint)).1
    [uncertainCycle,uncertainCycle] [reconciled] reconciledCheckpoint (by decide +kernel)

end LongBridge.CycleHealth
