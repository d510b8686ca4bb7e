import LongBridge.CycleHealth.Replay

namespace LongBridge.CycleHealth
open Effects Sorting

variable {kit : Kit} {clock : Clock}

def incidentOf (cycleId : String) (incidents : List Incident) : Option Incident :=
  incidents.find? fun item => item.cycle.cycleId = cycleId

-- The first incident of a cycle gives way to another, which stands last if there was none.
def put (cycleId : String) (next : Incident) : List Incident → List Incident
  | [] => [next]
  | item :: rest => if item.cycle.cycleId = cycleId then next :: rest else item :: put cycleId next rest

theorem updateIncident_eq {cycleId : String} {change : Incident → Except PyExc Incident} (new : Except PyExc Incident)
    {before after : List Incident} :
    updateIncident cycleId change (do let item ← new; return [item]) before = .ok after ↔
      ∃ next, (match incidentOf cycleId before with | some item => change item | none => new) = .ok next ∧
        after = put cycleId next before := by
  induction before generalizing after with
  | nil =>
    change (new >>= fun item => pure [item]) = .ok after ↔ ∃ next, new = .ok next ∧ after = [next]
    exact bind_return_ok
  | cons item rest ih =>
    unfold updateIncident incidentOf put
    by_cases here : item.cycle.cycleId = cycleId
    · rw [if_pos here,List.find?_cons_of_pos (by simp [here])]
      simp only [if_pos here]
      exact bind_return_ok
    · rw [if_neg here,List.find?_cons_of_neg (by simp [here])]
      simp only [if_neg here]
      rw [bind_ok]
      constructor
      · intro found
        obtain ⟨others,updated,same⟩ := found
        obtain ⟨next,changed,rfl⟩ := ih.mp updated
        exact ⟨next,changed,(return_ok.mp same).symm⟩
      · intro found
        obtain ⟨next,changed,rfl⟩ := found
        exact ⟨_,ih.mpr ⟨next,changed,rfl⟩,return_ok.mpr rfl⟩

theorem incidentOf_sameId {cycleId : String} {incidents : List Incident} {item : Incident}
    (found : incidentOf cycleId incidents = some item) : item.cycle.cycleId = cycleId := by
  simpa using List.find?_some found

theorem incidentOf_put {cycleId : String} {next : Incident} (sameId : next.cycle.cycleId = cycleId)
    (incidents : List Incident) : incidentOf cycleId (put cycleId next incidents) = some next := by
  induction incidents with
  | nil => simp [put,incidentOf,sameId]
  | cons item rest ih =>
    unfold put
    by_cases here : item.cycle.cycleId = cycleId
    · simp [here,incidentOf,sameId]
    · rw [if_neg here]
      unfold incidentOf
      rw [List.find?_cons_of_neg (by simp [here])]
      exact ih

theorem incidentOf_put_other {cycleId other : String} {next : Incident} (sameId : next.cycle.cycleId = cycleId)
    (apart : cycleId ≠ other) (incidents : List Incident) :
    incidentOf other (put cycleId next incidents) = incidentOf other incidents := by
  induction incidents with
  | nil => simp [put,incidentOf,sameId,apart]
  | cons item rest ih =>
    unfold put
    by_cases here : item.cycle.cycleId = cycleId
    · rw [if_pos here]
      simp [incidentOf,here,sameId,apart]
    · rw [if_neg here]
      unfold incidentOf at ih ⊢
      rw [List.find?_cons,List.find?_cons,ih]

theorem put_same {cycleId : String} {item : Incident} {incidents : List Incident}
    (found : incidentOf cycleId incidents = some item) : put cycleId item incidents = incidents := by
  induction incidents with
  | nil => cases found
  | cons head rest ih =>
    unfold put
    unfold incidentOf at found
    by_cases here : head.cycle.cycleId = cycleId
    · rw [List.find?_cons_of_pos (by simp [here])] at found
      rw [if_pos here,Option.some.inj found]
    · rw [List.find?_cons_of_neg (by simp [here])] at found
      rw [if_neg here,ih found]

theorem put_fresh {cycleId : String} {next : Incident} {incidents : List Incident}
    (all : ∀ item ∈ incidents, Fresh clock item) (fresh : Fresh clock next) :
    ∀ item ∈ put cycleId next incidents, Fresh clock item := by
  induction incidents with
  | nil => simpa [put] using fresh
  | cons head rest ih =>
    obtain ⟨first,others⟩ := List.forall_mem_cons.mp all
    unfold put
    split
    · exact List.forall_mem_cons.mpr ⟨fresh,others⟩
    · exact List.forall_mem_cons.mpr ⟨first,ih others⟩

-- Every lookup of an incident goes on as a lookup of what it grew into.
def Steady (before after : List Incident) : Prop :=
  ∀ cycleId item, incidentOf cycleId before = some item → ∃ next, incidentOf cycleId after = some next ∧ Grows item next

theorem steady_refl (incidents : List Incident) : Steady incidents incidents :=
  fun _ item found => ⟨item,found,grows_refl item⟩

theorem steady_trans {before middle after : List Incident} (one : Steady before middle) (two : Steady middle after) :
    Steady before after := by
  intro cycleId item found
  obtain ⟨next,present,first⟩ := one cycleId item found
  obtain ⟨last,shown,second⟩ := two cycleId next present
  exact ⟨last,shown,grows_trans first second⟩

theorem put_steady {cycleId : String} {next : Incident} {incidents : List Incident} (sameId : next.cycle.cycleId = cycleId)
    (grows : ∀ item, incidentOf cycleId incidents = some item → Grows item next) : Steady incidents (put cycleId next incidents) := by
  intro other item found
  by_cases same : cycleId = other
  · subst same
    exact ⟨next,incidentOf_put sameId incidents,grows item found⟩
  · exact ⟨item,by rw [incidentOf_put_other sameId same]; exact found,grows_refl item⟩

-- The incident a new fault leaves, from the incident of its cycle if there is one.
def grown (clock : Clock) (cycle : Cycle) : Option Incident → Except PyExc Incident
  | some item => addAttempt clock cycle item
  | none => refreshIncident clock [⟨cycle,none⟩] []

theorem grown_ok {cycle : Cycle} {incidents : List Incident} {next : Incident}
    (all : ∀ item ∈ incidents, Fresh clock item)
    (added : grown clock cycle (incidentOf cycle.cycleId incidents) = .ok next) :
    Fresh clock next ∧ next.cycle.cycleId = cycle.cycleId ∧
      (∀ item, incidentOf cycle.cycleId incidents = some item → Grows item next) ∧
      ∃ known, attemptOf (attemptKey cycle) next.faultAttempts = some known ∧ known.cycle = cycle := by
  cases found : incidentOf cycle.cycleId incidents with
  | some item =>
    rw [found] at added
    have sameId := incidentOf_sameId found
    obtain ⟨fresh,grows,known⟩ := addAttempt_grows (all item (List.mem_of_find?_eq_some found)) sameId added
    refine ⟨fresh,grows.sameCycle.trans sameId,?_,known⟩
    intro other same
    cases same
    exact grows
  | none =>
    rw [found] at added
    obtain ⟨fresh,attempts,_⟩ := refreshed_fresh added
    obtain ⟨_,_,built⟩ := (refreshIncident_eq ..).mp added
    obtain ⟨_,_,first,rest,entries,shown⟩ := assembled_ok built
    rw [List.insertionSort_cons,List.insertionSort_nil,List.orderedInsert_nil] at entries attempts
    obtain ⟨rfl,rfl⟩ := List.cons.inj entries
    refine ⟨fresh,by rw [shown]; rfl,by simp,⟨cycle,none⟩,?_,rfl⟩
    rw [attempts]
    simp [attemptOf]

theorem recordCycle_ok {context : CycleContext} {before after : List Incident} {cycle : Cycle} :
    recordCycle kit clock context before cycle = .ok after ↔
      checkCycle kit clock context cycle = .ok () ∧
        (incidentCategory cycle = none ∧ after = before ∨ incidentCategory cycle ≠ none ∧
          ∃ next, grown clock cycle (incidentOf cycle.cycleId before) = .ok next ∧
            after = put cycle.cycleId next before) := by
  have update : updateIncident cycle.cycleId (addAttempt clock cycle) (newIncident clock cycle) before = .ok after ↔
      ∃ next, grown clock cycle (incidentOf cycle.cycleId before) = .ok next ∧ after = put cycle.cycleId next before := by
    rw [show newIncident clock cycle = (do let item ← refreshIncident clock [⟨cycle,none⟩] []; return [item]) from rfl,
      updateIncident_eq]
    cases incidentOf cycle.cycleId before <;> rfl
  unfold recordCycle
  rw [bind_ok]
  constructor
  · intro found
    obtain ⟨_,checked,rest⟩ := found
    refine ⟨checked,?_⟩
    split at rest
    · rename_i healthy
      exact .inl ⟨healthy,(return_ok.mp rest).symm⟩
    · rename_i faulty
      exact .inr ⟨faulty,update.mp rest⟩
  · intro found
    obtain ⟨checked,rest⟩ := found
    refine ⟨(),checked,?_⟩
    rcases rest with ⟨healthy,rfl⟩ | ⟨faulty,next⟩
    · rw [if_pos healthy]; exact return_ok.mpr rfl
    · rw [if_neg faulty]; exact update.mpr next

def AllFresh (clock : Clock) (incidents : List Incident) : Prop := ∀ item ∈ incidents, Fresh clock item

-- A cycle that was recorded stays recorded: recording it again, however much later, changes nothing.
theorem recordCycle_settles {context : CycleContext} {before after : List Incident} {cycle : Cycle}
    (all : AllFresh clock before) (recorded : recordCycle kit clock context before cycle = .ok after) :
    AllFresh clock after ∧ Steady before after ∧
      ∀ later, Steady after later → recordCycle kit clock context later cycle = .ok later := by
  obtain ⟨checked,rest⟩ := recordCycle_ok.mp recorded
  rcases rest with ⟨healthy,rfl⟩ | ⟨faulty,next,added,rfl⟩
  · exact ⟨all,steady_refl _,fun later _ => recordCycle_ok.mpr ⟨checked,.inl ⟨healthy,rfl⟩⟩⟩
  · obtain ⟨fresh,sameId,grows,known,found,same⟩ := grown_ok all added
    refine ⟨put_fresh all fresh,put_steady sameId grows,?_⟩
    intro later steady
    obtain ⟨item,present,grew⟩ := steady _ next (incidentOf_put sameId before)
    obtain ⟨still,shown,again⟩ := grew.attempts _ known found
    refine recordCycle_ok.mpr ⟨checked,.inr ⟨faulty,item,?_,(put_same present).symm⟩⟩
    rw [present]
    exact addAttempt_cases.mpr (.inl ⟨still,shown,again.trans same,rfl⟩)

theorem addResolution_known {context : CycleContext} {cycles : List Cycle} {resolution : Resolution} {item : Incident}
    (found : resolutionOf resolution.evidenceRef item.resolutionHistory = some resolution) :
    addResolution kit clock context cycles resolution item = .ok item := by
  unfold addResolution
  have lookup : (item.resolutionHistory.find? fun entry => entry.evidenceRef = resolution.evidenceRef) =
    resolutionOf resolution.evidenceRef item.resolutionHistory := rfl
  rw [lookup,found]
  exact bind_ok.mpr ⟨(),require_ok.mpr rfl,return_ok.mpr rfl⟩

theorem applyResolution_settles {context : CycleContext} {cycles : List Cycle} {before after : List Incident}
    {resolution : Resolution} (all : AllFresh clock before)
    (applied : applyResolution kit clock context cycles before resolution = .ok after) :
    AllFresh clock after ∧ Steady before after ∧
      ∀ later, Steady after later → applyResolution kit clock context cycles later resolution = .ok later := by
  have update : ∀ {before after : List Incident}, applyResolution kit clock context cycles before resolution = .ok after ↔
      ∃ next, (match incidentOf resolution.incidentCycleId before with
        | some item => addResolution kit clock context cycles resolution item
        | none => .error (valueError "unknown incident")) = .ok next ∧
          after = put resolution.incidentCycleId next before := by
    intro before after
    exact updateIncident_eq (.error (valueError "unknown incident"))
  obtain ⟨next,added,rfl⟩ := update.mp applied
  cases found : incidentOf resolution.incidentCycleId before with
  | none => rw [found] at added; cases added
  | some item =>
    rw [found] at added
    obtain ⟨fresh,grows,shown⟩ := addResolution_grows (all item (List.mem_of_find?_eq_some found)) added
    have sameId := grows.sameCycle.trans (incidentOf_sameId found)
    refine ⟨put_fresh all fresh,put_steady sameId ?_,?_⟩
    · intro other same
      rw [found] at same
      cases same
      exact grows
    · intro later steady
      obtain ⟨last,present,grew⟩ := steady _ next (incidentOf_put sameId before)
      refine update.mpr ⟨last,?_,(put_same present).symm⟩
      rw [present]
      exact addResolution_known (grew.history _ _ shown)

theorem reopened_fresh {before after : List Incident} (opened : before.mapM (reopenIncident clock) = .ok after) :
    AllFresh clock after := by
  intro item member
  obtain ⟨old,_,one⟩ := (mapM_mem opened).2 item member
  obtain ⟨_,_,refreshed⟩ := bind_ok.mp one
  exact (refreshed_fresh refreshed).1

theorem reopen_fresh {incidents : List Incident} (all : AllFresh clock incidents) :
    incidents.mapM (reopenIncident clock) = .ok incidents := by
  rw [mapM_ok,List.forall₂_same]
  intro item member
  exact bind_ok.mpr ⟨(),require_ok.mpr (fresh_nonempty (all item member)),all item member⟩

end LongBridge.CycleHealth
