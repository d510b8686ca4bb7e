import LongBridge.CycleHealth.Refreshing

namespace LongBridge.CycleHealth
open Effects Sorting

variable {kit : Kit} {clock : Clock}

theorem outranks_iff {next best : Timed Attempt} : outranks next best = true ↔
    uncertain best.2.cycle < uncertain next.2.cycle ∨ uncertain best.2.cycle = uncertain next.2.cycle ∧
      (best.1 < next.1 ∨ best.1 = next.1 ∧ attemptKey best.2.cycle < attemptKey next.2.cycle) := by
  unfold outranks
  cases uncertain next.2.cycle <;> cases uncertain best.2.cycle <;> simp

theorem outranks_asymm {one two : Timed Attempt} (above : outranks one two = true) : outranks two one = false := by
  rw [← Bool.not_eq_true,outranks_iff]
  rw [outranks_iff] at above
  grind

-- What outranks the better of two outranks the other.
theorem outranks_below {best good worse : Timed Attempt} (above : outranks best good = true)
    (under : outranks worse good = false) : outranks best worse = true := by
  rw [← Bool.not_eq_true,outranks_iff] at under
  rw [outranks_iff] at above ⊢
  grind

def better (best next : Timed Attempt) : Timed Attempt := if outranks next best then next else best

theorem representative_eq (first : Timed Attempt) (rest : List (Timed Attempt)) :
    representative first rest = rest.foldl better first := rfl

theorem foldl_better_below {one two : Timed Attempt} (under : outranks one two = false) (rest : List (Timed Attempt)) :
    rest.foldl better two = two ∨ rest.foldl better two = rest.foldl better one := by
  induction rest generalizing one with
  | nil => exact .inl rfl
  | cons next rest ih =>
    rw [List.foldl_cons,List.foldl_cons]
    cases above : outranks next two
    · rw [show better two next = two by simp [better,above]]
      apply ih
      unfold better
      split
      · exact above
      · exact under
    · have again := outranks_below above under
      rw [show better two next = next by simp [better,above],show better one next = next by simp [better,again]]
      exact .inr rfl

theorem foldl_better_inserted (start inserted : Timed Attempt) (front back : List (Timed Attempt)) :
    (front ++ inserted :: back).foldl better start = inserted ∨
      (front ++ inserted :: back).foldl better start = (front ++ back).foldl better start := by
  rw [List.foldl_append,List.foldl_append,List.foldl_cons]
  generalize front.foldl better start = best
  cases above : outranks inserted best
  · rw [show better best inserted = best by simp [better,above]]
    exact .inr rfl
  · rw [show better best inserted = inserted by simp [better,above]]
    exact foldl_better_below (outranks_asymm above) back

-- One more attempt is shown itself, or what was shown before is shown still.
theorem representative_inserted {inserted first first' : Timed Attempt} {front back rest rest' : List (Timed Attempt)}
    (before : front ++ back = first :: rest) (after : front ++ inserted :: back = first' :: rest') :
    representative first' rest' = inserted ∨ representative first' rest' = representative first rest := by
  rw [representative_eq,representative_eq]
  cases front with
  | nil =>
    simp only [List.nil_append] at before after
    obtain ⟨rfl,rfl⟩ := List.cons.inj after
    rw [before,List.foldl_cons]
    cases above : outranks first inserted
    · rw [show better inserted first = inserted by simp [better,above]]
      exact foldl_better_below above rest
    · rw [show better inserted first = first by simp [better,above]]
      exact .inr rfl
  | cons head front =>
    simp only [List.cons_append] at before after
    obtain ⟨rfl,rfl⟩ := List.cons.inj before
    obtain ⟨rfl,rfl⟩ := List.cons.inj after
    exact foldl_better_inserted _ inserted front back

-- Where a sorted list keeps an item whose key is new to it.
theorem sorted_inserted {attempts : List Attempt} (attempt : Attempt) (sorted : attempts.Pairwise (byFault clock))
    (new : ∀ other ∈ attempts, keyOf other ≠ keyOf attempt) :
    ∃ front back, attempts = front ++ back ∧
      (attempts ++ [attempt]).insertionSort (byFault clock) = front ++ attempt :: back := by
  have perm := List.perm_insertionSort (byFault clock) (attempts ++ [attempt])
  have present : attempt ∈ (attempts ++ [attempt]).insertionSort (byFault clock) := perm.mem_iff.mpr (by simp)
  obtain ⟨front,back,shape⟩ := List.append_of_mem present
  refine ⟨front,back,?_,shape⟩
  have others : (front ++ back).Perm attempts := by
    rw [shape] at perm
    exact (List.perm_middle.symm.trans (perm.trans List.perm_append_comm)).cons_inv
  have kept : ∀ other ∈ attempts, decide (keyOf other ≠ keyOf attempt) = true := by simpa using new
  have filtered := filter_insertionSort (byFault clock) (fun other => decide (keyOf other ≠ keyOf attempt))
    (attempts ++ [attempt])
  rw [shape,List.filter_append,List.filter_append,List.filter_cons_of_neg (by simp),List.filter_cons_of_neg (by simp),
    List.filter_nil,List.append_nil,List.filter_eq_self.mpr kept,sorted.insertionSort_eq,← List.filter_append,
    List.filter_eq_self.mpr fun other member => kept other (others.mem_iff.mp member)] at filtered
  exact filtered.symm

def attemptOf (key : String) (attempts : List Attempt) : Option Attempt :=
  attempts.find? fun attempt => attemptKey attempt.cycle = key

def resolutionOf (evidenceRef : String) (history : List Resolution) : Option Resolution :=
  history.find? fun entry => entry.evidenceRef = evidenceRef

-- What a later pass looks up in an incident is never lost to it.
structure Grows (before after : Incident) : Prop where
  sameCycle : after.cycle.cycleId = before.cycle.cycleId
  attempts : ∀ key known, attemptOf key before.faultAttempts = some known →
    ∃ still, attemptOf key after.faultAttempts = some still ∧ still.cycle = known.cycle
  history : ∀ ref known, resolutionOf ref before.resolutionHistory = some known →
    resolutionOf ref after.resolutionHistory = some known

theorem grows_refl (item : Incident) : Grows item item :=
  ⟨rfl,fun _ known found => ⟨known,found,rfl⟩,fun _ _ found => found⟩

theorem grows_trans {before middle after : Incident} (one : Grows before middle) (two : Grows middle after) :
    Grows before after := by
  refine ⟨two.sameCycle.trans one.sameCycle,?_,?_⟩
  · intro key known found
    obtain ⟨still,present,same⟩ := one.attempts key known found
    obtain ⟨last,shown,again⟩ := two.attempts key still present
    exact ⟨last,shown,again.trans same⟩
  · intro ref known found
    exact two.history ref known (one.history ref known found)

theorem attemptOf_none {key : String} {attempts : List Attempt} (unknown : attemptOf key attempts = none) :
    ∀ other ∈ attempts, keyOf other ≠ key := by
  intro other member
  simpa [keyOf] using List.find?_eq_none.mp unknown other member

theorem attemptOf_appended {attempts : List Attempt} {attempt : Attempt} (sorted : attempts.Pairwise (byFault clock))
    (key : String) (other : keyOf attempt ≠ key) :
    attemptOf key ((attempts ++ [attempt]).insertionSort (byFault clock)) = attemptOf key attempts :=
  find?_insertionSort_append _ _ sorted (decide_eq_false other)

theorem attemptOf_added {attempts : List Attempt} (attempt : Attempt) (unknown : attemptOf (keyOf attempt) attempts = none) :
    attemptOf (keyOf attempt) ((attempts ++ [attempt]).insertionSort (byFault clock)) = some attempt := by
  have apart := attemptOf_none unknown
  cases found : attemptOf (keyOf attempt) ((attempts ++ [attempt]).insertionSort (byFault clock)) with
  | none =>
    have missing := attemptOf_none found attempt ((List.perm_insertionSort ..).mem_iff.mpr (by simp))
    exact absurd rfl missing
  | some known =>
    have same : attemptKey known.cycle = keyOf attempt := by simpa using List.find?_some found
    have member := (List.perm_insertionSort (byFault clock) _).mem_iff.mp (List.mem_of_find?_eq_some found)
    rcases List.mem_append.mp member with old | new
    · exact absurd same (apart known old)
    · rw [List.mem_singleton.mp new]

theorem resolutionOf_none {ref : String} {history : List Resolution} (unknown : resolutionOf ref history = none) :
    ∀ other ∈ history, other.evidenceRef ≠ ref := by
  intro other member
  simpa using List.find?_eq_none.mp unknown other member

theorem resolutionOf_added {history : List Resolution} {resolution : Resolution}
    (unknown : resolutionOf resolution.evidenceRef history = none) :
    resolutionOf resolution.evidenceRef ((history ++ [resolution]).insertionSort (byWatermark clock)) = some resolution := by
  have apart := resolutionOf_none unknown
  cases found : resolutionOf resolution.evidenceRef ((history ++ [resolution]).insertionSort (byWatermark clock)) with
  | none =>
    have missing := resolutionOf_none found resolution ((List.perm_insertionSort ..).mem_iff.mpr (by simp))
    exact absurd rfl missing
  | some known =>
    have same : known.evidenceRef = resolution.evidenceRef := by simpa using List.find?_some found
    have member := (List.perm_insertionSort (byWatermark clock) _).mem_iff.mp (List.mem_of_find?_eq_some found)
    rcases List.mem_append.mp member with old | new
    · exact absurd same (apart known old)
    · rw [List.mem_singleton.mp new]

-- A retained attempt of the same cycle leaves the incident of that cycle.
theorem added_sameCycle {before after : Incident} {cycle : Cycle} (fresh : Fresh clock before)
    (sameId : before.cycle.cycleId = cycle.cycleId) (unknown : attemptOf (attemptKey cycle) before.faultAttempts = none)
    (refreshed : refreshIncident clock (before.faultAttempts ++ [⟨cycle,none⟩]) before.resolutionHistory = .ok after) :
    after.cycle.cycleId = before.cycle.cycleId := by
  have sorted := fresh_order fresh
  obtain ⟨front,back,split,inserted⟩ := sorted_inserted ⟨cycle,none⟩ sorted.1 (attemptOf_none unknown)
  obtain ⟨_,_,old⟩ := (refreshIncident_eq ..).mp fresh
  obtain ⟨_,_,new⟩ := (refreshIncident_eq ..).mp refreshed
  obtain ⟨_,_,first,rest,entries,shown⟩ := assembled_ok old
  obtain ⟨_,_,first',rest',entries',shown'⟩ := assembled_ok new
  rw [sorted.1.insertionSort_eq,split,List.map_append] at entries
  rw [inserted,List.map_append,List.map_cons] at entries'
  rcases representative_inserted entries entries' with added | kept
  · rw [shown',added,sameId]; rfl
  · rw [shown',kept,shown]

theorem addAttempt_cases {before after : Incident} {cycle : Cycle} :
    addAttempt clock cycle before = .ok after ↔
      (∃ known, attemptOf (attemptKey cycle) before.faultAttempts = some known ∧ known.cycle = cycle ∧ after = before) ∨
      (attemptOf (attemptKey cycle) before.faultAttempts = none ∧ before.faultAttempts.length < maxCycles ∧
        refreshIncident clock (before.faultAttempts ++ [⟨cycle,none⟩]) before.resolutionHistory = .ok after) := by
  unfold addAttempt
  have lookup : (before.faultAttempts.find? fun attempt => attemptKey attempt.cycle = attemptKey cycle) =
    attemptOf (attemptKey cycle) before.faultAttempts := rfl
  rw [lookup]
  cases attemptOf (attemptKey cycle) before.faultAttempts with
  | some known =>
    dsimp only
    rw [bind_ok]
    constructor
    · intro found
      obtain ⟨_,same,here⟩ := found
      exact .inl ⟨known,rfl,require_ok.mp same,(return_ok.mp here).symm⟩
    · intro found
      rcases found with ⟨_,here,same,rfl⟩ | ⟨missing,_⟩
      · cases here
        exact ⟨(),require_ok.mpr same,return_ok.mpr rfl⟩
      · cases missing
  | none =>
    dsimp only
    rw [bind_ok]
    simp [require_ok]

theorem addAttempt_grows {before after : Incident} {cycle : Cycle} (fresh : Fresh clock before)
    (sameId : before.cycle.cycleId = cycle.cycleId) (added : addAttempt clock cycle before = .ok after) :
    Fresh clock after ∧ Grows before after ∧
      ∃ known, attemptOf (attemptKey cycle) after.faultAttempts = some known ∧ known.cycle = cycle := by
  rcases addAttempt_cases.mp added with ⟨known,found,same,rfl⟩ | ⟨unknown,_,refreshed⟩
  · exact ⟨fresh,grows_refl _,known,found,same⟩
  · obtain ⟨again,attempts,history⟩ := refreshed_fresh refreshed
    have sorted := fresh_order fresh
    refine ⟨again,⟨added_sameCycle fresh sameId unknown refreshed,?_,?_⟩,⟨cycle,none⟩,?_,rfl⟩
    · intro key known found
      refine ⟨known,?_,rfl⟩
      have other : keyOf ⟨cycle,none⟩ ≠ key := by
        intro same
        rw [← same] at found
        exact absurd (unknown.symm.trans found) (by simp)
      rw [attempts,attemptOf_appended sorted.1 key other,found]
    · intro ref known found
      rw [history,sorted.2.insertionSort_eq,found]
    · rw [attempts]; exact attemptOf_added ⟨cycle,none⟩ unknown

theorem resolvedAttempts (ref key : String) (attempts : List Attempt) :
    attemptOf key (attempts.map (resolveAttempt ref)) = (attemptOf key attempts).map (resolveAttempt ref) := by
  unfold attemptOf
  rw [List.find?_map]
  simp only [Function.comp_def,resolveAttempt_cycle]

theorem stamp_resolved (ref : String) (attempt : Attempt) :
    stamp (attemptTime clock) (resolveAttempt ref attempt) = ((stamp (attemptTime clock) attempt).1,resolveAttempt ref attempt) := by
  simp [stamp,whenRead,attemptTime,resolveAttempt_cycle]

theorem resolved_order {attempts : List Attempt} (ref : String) (sorted : attempts.Pairwise (byFault clock)) :
    (attempts.map (resolveAttempt ref)).Pairwise (byFault clock) := by
  rw [List.pairwise_map]
  refine sorted.imp ?_
  intro one two before
  simpa [byFault,inOrder,earlier,stamp,whenRead,attemptTime,keyOf,resolveAttempt_cycle] using before

-- Resolving changes no cycle, so it changes no choice among them.
theorem representative_resolved (ref : String) (first : Timed Attempt) (rest : List (Timed Attempt)) :
    representative (first.1,resolveAttempt ref first.2) (rest.map fun entry => (entry.1,resolveAttempt ref entry.2)) =
      ((representative first rest).1,resolveAttempt ref (representative first rest).2) := by
  rw [representative_eq,representative_eq]
  induction rest generalizing first with
  | nil => rfl
  | cons next rest ih =>
    rw [List.map_cons,List.foldl_cons,List.foldl_cons,← ih]
    congr 1
    unfold better
    have same : outranks (next.1,resolveAttempt ref next.2) (first.1,resolveAttempt ref first.2) = outranks next first := by
      simp [outranks,resolveAttempt_cycle]
    rw [same]
    split <;> rfl

theorem resolved_sameCycle {before after : Incident} {ref : String} {history : List Resolution} (fresh : Fresh clock before)
    (refreshed : refreshIncident clock (before.faultAttempts.map (resolveAttempt ref)) history = .ok after) :
    after.cycle.cycleId = before.cycle.cycleId := by
  have sorted := fresh_order fresh
  obtain ⟨_,_,old⟩ := (refreshIncident_eq ..).mp fresh
  obtain ⟨_,_,new⟩ := (refreshIncident_eq ..).mp refreshed
  obtain ⟨_,_,first,rest,entries,shown⟩ := assembled_ok old
  obtain ⟨_,_,first',rest',entries',shown'⟩ := assembled_ok new
  rw [sorted.1.insertionSort_eq] at entries
  rw [(resolved_order ref sorted.1).insertionSort_eq,List.map_map] at entries'
  have moved : before.faultAttempts.map (stamp (attemptTime clock) ∘ resolveAttempt ref) =
      (first :: rest).map fun entry => (entry.1,resolveAttempt ref entry.2) := by
    rw [← entries,List.map_map]
    refine List.map_congr_left ?_
    intro attempt _
    exact stamp_resolved ref attempt
  rw [moved,List.map_cons] at entries'
  obtain ⟨rfl,rfl⟩ := List.cons.inj entries'
  rw [shown',representative_resolved,resolveAttempt_cycle,shown]

theorem addResolution_grows {context : CycleContext} {cycles : List Cycle} {resolution : Resolution}
    {before after : Incident} (fresh : Fresh clock before)
    (added : addResolution kit clock context cycles resolution before = .ok after) :
    Fresh clock after ∧ Grows before after ∧
      resolutionOf resolution.evidenceRef after.resolutionHistory = some resolution := by
  unfold addResolution at added
  have lookup : (before.resolutionHistory.find? fun entry => entry.evidenceRef = resolution.evidenceRef) =
    resolutionOf resolution.evidenceRef before.resolutionHistory := rfl
  rw [lookup] at added
  cases found : resolutionOf resolution.evidenceRef before.resolutionHistory with
  | some prior =>
    rw [found] at added
    obtain ⟨_,same,here⟩ := bind_ok.mp added
    cases return_ok.mp here
    have same := require_ok.mp same
    subst same
    exact ⟨fresh,grows_refl _,found⟩
  | none =>
    rw [found] at added
    obtain ⟨_,_,added⟩ := bind_ok.mp added
    obtain ⟨_,_,added⟩ := bind_ok.mp added
    obtain ⟨_,_,added⟩ := bind_ok.mp added
    obtain ⟨_,_,added⟩ := bind_ok.mp added
    obtain ⟨_,_,added⟩ := bind_ok.mp added
    obtain ⟨_,_,refreshed⟩ := bind_ok.mp added
    obtain ⟨again,attempts,history⟩ := refreshed_fresh refreshed
    have sorted := fresh_order fresh
    rw [(resolved_order resolution.evidenceRef sorted.1).insertionSort_eq] at attempts
    refine ⟨again,⟨resolved_sameCycle fresh refreshed,?_,?_⟩,?_⟩
    · intro key known present
      refine ⟨resolveAttempt resolution.evidenceRef known,?_,resolveAttempt_cycle ..⟩
      rw [attempts,resolvedAttempts,present]; rfl
    · intro ref known present
      have other : resolution.evidenceRef ≠ ref := by
        intro same
        rw [← same,found] at present
        cases present
      rw [history,← present]
      exact find?_insertionSort_append _ _ sorted.2 (decide_eq_false other)
    · rw [history]; exact resolutionOf_added found

end LongBridge.CycleHealth
