import Mathlib.Data.List.Induction
import LongBridge.CycleHealth.Incidents

namespace LongBridge.CycleHealth
open Effects

variable {kit : Kit} {clock : Clock}

theorem representative_mem (first : Timed Attempt) (rest : List (Timed Attempt)) :
    representative first rest ∈ first :: rest := by
  induction rest generalizing first with
  | nil => exact List.mem_singleton.mpr rfl
  | cons next rest ih =>
    have kept := ih (if outranks next first then next else first)
    rw [List.mem_cons] at kept
    rcases kept with here | later
    · simp only [representative,List.foldl_cons] at here ⊢
      rw [here]
      split <;> simp
    · exact List.mem_cons_of_mem _ (List.mem_cons_of_mem _ later)

theorem outranks_uncertain {next best : Timed Attempt} (severe : uncertain next.2.cycle = true)
    (mild : uncertain best.2.cycle = false) : outranks next best = true := by
  simp [outranks,severe,mild]

theorem outranks_mild {next best : Timed Attempt} (mild : uncertain next.2.cycle = false)
    (severe : uncertain best.2.cycle = true) : outranks next best = false := by
  simp [outranks,severe,mild]

-- An uncertain attempt is shown as soon as there is one.
theorem representative_uncertain (first : Timed Attempt) (rest : List (Timed Attempt)) :
    uncertain (representative first rest).2.cycle = (first :: rest).any fun attempt => uncertain attempt.2.cycle := by
  induction rest generalizing first with
  | nil => simp [representative]
  | cons next rest ih =>
    have kept := ih (if outranks next first then next else first)
    simp only [representative,List.foldl_cons,List.any_cons] at kept ⊢
    rw [kept,← Bool.or_assoc]
    congr 1
    cases severe : uncertain next.2.cycle <;> cases known : uncertain first.2.cycle
    · split <;> simp [severe,known]
    · simp [outranks_mild severe known,known]
    · simp [outranks_uncertain severe known,severe]
    · split <;> simp [severe,known]

theorem latest_bounds (first : Timed Attempt) (rest : List (Timed Attempt)) :
    ∀ attempt ∈ first :: rest, attempt.1 ≤ latest first rest := by
  induction rest using List.reverseRecOn with
  | nil => intro attempt member; rw [List.mem_singleton.mp member]; exact le_refl _
  | append_singleton rest last ih =>
    intro attempt member
    simp only [latest,List.foldl_append,List.foldl_cons,List.foldl_nil]
    rw [← List.cons_append,List.mem_append,List.mem_singleton] at member
    rcases member with early | rfl
    · exact le_max_of_le_left (ih _ early)
    · exact le_max_right _ _

theorem latest_attained (first : Timed Attempt) (rest : List (Timed Attempt)) :
    ∃ attempt ∈ first :: rest, latest first rest = attempt.1 := by
  induction rest using List.reverseRecOn with
  | nil => exact ⟨first,List.mem_cons_self ..,rfl⟩
  | append_singleton rest last ih =>
    obtain ⟨attempt,member,same⟩ := ih
    simp only [latest,List.foldl_append,List.foldl_cons,List.foldl_nil] at same ⊢
    rw [same]
    rcases max_choice attempt.1 last.1 with left | right
    · exact ⟨attempt,by rw [← List.cons_append]; exact List.mem_append_left _ member,left⟩
    · exact ⟨last,by simp,right⟩

theorem activeCategory_isSome (active : List Attempt) : (activeCategory active).isSome = !active.isEmpty := by
  unfold activeCategory
  cases active with
  | nil => simp
  | cons attempt rest => split <;> simp

theorem incidentCategory_uncertain {cycle : Cycle} :
    incidentCategory cycle = some .executionUncertainty ↔ uncertain cycle = true := by
  simp [uncertain]

-- What the derived fields of an incident say about its attempts.
structure Refreshed (clock : Clock) (attempts : List Attempt) (history : List Resolution) (item : Incident) : Prop where
  kept : item.faultAttempts.Perm attempts
  proven : item.resolutionHistory.Perm history
  shown : ∃ attempt ∈ attempts, item.cycle = attempt.cycle
  severity : item.category = some .executionUncertainty ↔ ∃ attempt ∈ attempts, uncertain attempt.cycle = true
  active : item.activeCategory.isSome = true ↔ ∃ attempt ∈ attempts, isActive attempt = true
  watermark : ∃ time, clock.instant item.latestFaultAt = .ok time ∧
    ∀ attempt ∈ attempts, ∃ fault, faultTime clock attempt.cycle = .ok fault ∧ fault ≤ time

theorem timedAttempt_ok {attempt : Attempt} {timed : Timed Attempt} :
    timedAttempt clock attempt = .ok timed ↔ faultTime clock attempt.cycle = .ok timed.1 ∧ timed.2 = attempt := by
  unfold timedAttempt
  rw [bind_ok]
  constructor
  · rintro ⟨time,read,same⟩
    cases return_ok.mp same
    exact ⟨read,rfl⟩
  · rintro ⟨read,rfl⟩
    exact ⟨timed.1,read,rfl⟩

theorem timedResolution_snd {resolution : Resolution} {timed : Timed Resolution}
    (read : timedResolution clock resolution = .ok timed) : timed.2 = resolution := by
  obtain ⟨time,_,same⟩ := bind_ok.mp read
  cases return_ok.mp same; rfl

theorem mem_timed {attempts : List Attempt} {timed : List (Timed Attempt)} (read : attempts.mapM (timedAttempt clock) = .ok timed) :
    ∀ entry ∈ timed, faultTime clock entry.2.cycle = .ok entry.1 := by
  intro entry member
  obtain ⟨attempt,_,one⟩ := (mapM_mem read).2 entry member
  obtain ⟨time,rfl⟩ := timedAttempt_ok.mp one
  exact time

theorem refreshed_fields {attempts : List Attempt} {history : List Resolution} {timed : List (Timed Attempt)}
    {first : Timed Attempt} {rest : List (Timed Attempt)} {item : Incident}
    (read : attempts.mapM (timedAttempt clock) = .ok timed) (sorted : (first :: rest).Perm timed)
    (faultAttempts : item.faultAttempts = (first :: rest).map Prod.snd)
    (resolutions : item.resolutionHistory.Perm history)
    (cycle : item.cycle = (representative first rest).2.cycle)
    (category : item.category = incidentCategory (representative first rest).2.cycle)
    (latestFaultAt : item.latestFaultAt = clock.iso (latest first rest))
    (active : item.activeCategory = activeCategory (((first :: rest).map Prod.snd).filter isActive)) :
    Refreshed clock attempts history item := by
  have same : timed.map Prod.snd = attempts.map id := mapM_keeps (fun _ _ _ one => (timedAttempt_ok.mp one).2) read
  rw [List.map_id] at same
  have perm : ((first :: rest).map Prod.snd).Perm attempts := same ▸ sorted.map Prod.snd
  have times := mem_timed read
  refine ⟨faultAttempts ▸ perm,resolutions,?_,?_,?_,?_⟩
  · have member := representative_mem first rest
    exact ⟨_,perm.mem_iff.mp (List.mem_map_of_mem member),cycle⟩
  · rw [category,incidentCategory_uncertain,representative_uncertain,List.any_eq_true]
    constructor
    · rintro ⟨entry,member,severe⟩
      exact ⟨entry.2,perm.mem_iff.mp (List.mem_map_of_mem member),severe⟩
    · rintro ⟨attempt,member,severe⟩
      obtain ⟨entry,found,rfl⟩ := List.mem_map.mp (perm.mem_iff.mpr member)
      exact ⟨entry,found,severe⟩
  · rw [active,activeCategory_isSome]
    have nonempty : (!(((first :: rest).map Prod.snd).filter isActive).isEmpty) = true ↔
        ∃ attempt, attempt ∈ ((first :: rest).map Prod.snd).filter isActive := by
      rw [Bool.not_eq_true',List.isEmpty_eq_false_iff_exists_mem]
    rw [nonempty]
    simp only [List.mem_filter,perm.mem_iff]
  · obtain ⟨entry,member,attained⟩ := latest_attained first rest
    have known := times entry (sorted.mem_iff.mp member)
    refine ⟨latest first rest,?_,?_⟩
    · rw [latestFaultAt,attained]; exact clock.reads_back known
    · intro attempt present
      obtain ⟨other,found,rfl⟩ := List.mem_map.mp (perm.mem_iff.mpr present)
      exact ⟨other.1,times other (sorted.mem_iff.mp found),latest_bounds first rest other found⟩

theorem refreshIncident_ok {attempts : List Attempt} {history : List Resolution} {item : Incident}
    (refreshed : refreshIncident clock attempts history = .ok item) : Refreshed clock attempts history item := by
  unfold refreshIncident at refreshed
  obtain ⟨timed,read,refreshed⟩ := bind_ok.mp refreshed
  obtain ⟨dated,dates,refreshed⟩ := bind_ok.mp refreshed
  have entries : dated.map Prod.snd = history.map id := mapM_keeps (fun _ _ _ => timedResolution_snd) dates
  rw [List.map_id] at entries
  have resolutions : ((dated.insertionSort (earlier Resolution.evidenceRef)).map Prod.snd).Perm history :=
    entries ▸ (List.perm_insertionSort _ dated).map Prod.snd
  have sorted := List.perm_insertionSort (earlier fun attempt => attemptKey attempt.cycle) timed
  generalize timed.insertionSort (earlier fun attempt => attemptKey attempt.cycle) = attempts' at refreshed sorted
  cases attempts' with
  | nil => cases refreshed
  | cons first rest =>
    dsimp only at refreshed
    split at refreshed
    · split at refreshed
      · cases return_ok.mp refreshed
        exact refreshed_fields read sorted rfl resolutions rfl rfl rfl rfl
      · cases refreshed
    · cases return_ok.mp refreshed
      exact refreshed_fields read sorted rfl resolutions rfl rfl rfl rfl

-- A resolution that accounts for a resolved attempt.
def Covers (clock : Clock) (attempt : Attempt) (resolution : Resolution) : Prop :=
  (∃ fault verified, faultTime clock attempt.cycle = .ok fault ∧
    clock.instant resolution.verifiedThrough = .ok verified ∧ fault ≤ verified) ∧
  (uncertain attempt.cycle = true → resolution.kind = "current_state_reconciled")

structure Sound (clock : Clock) (item : Incident) : Prop where
  sameCycle : ∀ attempt ∈ item.faultAttempts, attempt.cycle.cycleId = item.cycle.cycleId
  keys : (item.faultAttempts.map fun attempt => attemptKey attempt.cycle).Nodup
  refs : (item.resolutionHistory.map Resolution.evidenceRef).Nodup
  covered : ∀ attempt ∈ item.faultAttempts, ∀ ref, attempt.resolutionRef = some ref →
    ∃ resolution ∈ item.resolutionHistory, resolution.evidenceRef = ref ∧ Covers clock attempt resolution
  severity : item.category = some .executionUncertainty ↔ ∃ attempt ∈ item.faultAttempts, uncertain attempt.cycle = true
  active : item.activeCategory.isSome = true ↔ ∃ attempt ∈ item.faultAttempts, isActive attempt = true
  watermark : ∃ time, clock.instant item.latestFaultAt = .ok time ∧
    ∀ attempt ∈ item.faultAttempts, ∃ fault, faultTime clock attempt.cycle = .ok fault ∧ fault ≤ time

-- How one incident may go on. The last field is what keeps an old resolution
-- away from a fault it never saw.
structure Continues (before after : Incident) : Prop where
  sameCycle : after.cycle.cycleId = before.cycle.cycleId
  attempts : ∀ attempt ∈ before.faultAttempts, ∃ next ∈ after.faultAttempts, next.cycle = attempt.cycle ∧
    ∀ ref, attempt.resolutionRef = some ref → next.resolutionRef = some ref
  history : ∀ resolution ∈ before.resolutionHistory, resolution ∈ after.resolutionHistory
  severity : before.category = some .executionUncertainty → after.category = some .executionUncertainty
  unseen : ∀ next ∈ after.faultAttempts, ∀ resolution ∈ before.resolutionHistory,
    next.resolutionRef = some resolution.evidenceRef →
    ∃ attempt ∈ before.faultAttempts, attempt.cycle = next.cycle ∧ attempt.resolutionRef = next.resolutionRef

theorem continues_refl (item : Incident) : Continues item item where
  sameCycle := rfl
  attempts attempt member := ⟨attempt,member,rfl,fun _ => id⟩
  history _ := id
  severity := id
  unseen next member _ _ _ := ⟨next,member,rfl,rfl⟩

theorem continues_trans {before middle after : Incident} (one : Continues before middle)
    (two : Continues middle after) : Continues before after where
  sameCycle := two.sameCycle.trans one.sameCycle
  attempts attempt member := by
    obtain ⟨next,present,same,kept⟩ := one.attempts attempt member
    obtain ⟨last,found,again,held⟩ := two.attempts next present
    exact ⟨last,found,again.trans same,fun ref known => held ref (kept ref known)⟩
  history resolution member := two.history _ (one.history _ member)
  severity known := two.severity (one.severity known)
  unseen last member resolution known carries := by
    obtain ⟨next,present,same,ref⟩ := two.unseen last member resolution (one.history _ known) carries
    obtain ⟨attempt,found,again,kept⟩ := one.unseen next present resolution known (ref.trans carries)
    exact ⟨attempt,found,again.trans same,kept.trans ref⟩

-- Recomputing the derived fields keeps what attempts and history already owe.
theorem refreshed_sound {attempts : List Attempt} {history : List Resolution} {item : Incident} (cycleId : String)
    (refreshed : Refreshed clock attempts history item)
    (sameCycle : ∀ attempt ∈ attempts, attempt.cycle.cycleId = cycleId)
    (keys : (attempts.map fun attempt => attemptKey attempt.cycle).Nodup)
    (refs : (history.map Resolution.evidenceRef).Nodup)
    (covered : ∀ attempt ∈ attempts, ∀ ref, attempt.resolutionRef = some ref →
      ∃ resolution ∈ history, resolution.evidenceRef = ref ∧ Covers clock attempt resolution) :
    Sound clock item ∧ item.cycle.cycleId = cycleId := by
  have here : item.cycle.cycleId = cycleId := by
    obtain ⟨attempt,member,same⟩ := refreshed.shown
    rw [same]; exact sameCycle attempt member
  refine ⟨⟨?_,?_,?_,?_,?_,?_,?_⟩,here⟩
  · intro attempt member
    rw [here]; exact sameCycle attempt (refreshed.kept.mem_iff.mp member)
  · exact ((refreshed.kept.map _).nodup_iff).mpr keys
  · exact ((refreshed.proven.map _).nodup_iff).mpr refs
  · intro attempt member ref known
    obtain ⟨resolution,found,same,covers⟩ := covered attempt (refreshed.kept.mem_iff.mp member) ref known
    exact ⟨resolution,refreshed.proven.mem_iff.mpr found,same,covers⟩
  · rw [refreshed.severity]
    simp only [refreshed.kept.mem_iff]
  · rw [refreshed.active]
    simp only [refreshed.kept.mem_iff]
  · obtain ⟨time,read,bounds⟩ := refreshed.watermark
    exact ⟨time,read,fun attempt member => bounds attempt (refreshed.kept.mem_iff.mp member)⟩

theorem refreshed_continues {attempts : List Attempt} {history : List Resolution} {before after : Incident}
    (sound : Sound clock before) (refreshed : Refreshed clock attempts history after)
    (sameCycle : after.cycle.cycleId = before.cycle.cycleId)
    (kept : ∀ attempt ∈ before.faultAttempts, ∃ next ∈ attempts, next.cycle = attempt.cycle ∧
      ∀ ref, attempt.resolutionRef = some ref → next.resolutionRef = some ref)
    (proven : ∀ resolution ∈ before.resolutionHistory, resolution ∈ history)
    (unseen : ∀ next ∈ attempts, ∀ resolution ∈ before.resolutionHistory,
      next.resolutionRef = some resolution.evidenceRef →
      ∃ attempt ∈ before.faultAttempts, attempt.cycle = next.cycle ∧ attempt.resolutionRef = next.resolutionRef) :
    Continues before after where
  sameCycle := sameCycle
  attempts attempt member := by
    obtain ⟨next,present,rest⟩ := kept attempt member
    exact ⟨next,refreshed.kept.mem_iff.mpr present,rest⟩
  history resolution member := refreshed.proven.mem_iff.mpr (proven resolution member)
  severity known := by
    obtain ⟨attempt,member,severe⟩ := sound.severity.mp known
    obtain ⟨next,present,same,_⟩ := kept attempt member
    exact refreshed.severity.mpr ⟨next,present,by rw [same]; exact severe⟩
  unseen next member := unseen next (refreshed.kept.mem_iff.mp member)

theorem reopenIncident_ok {before after : Incident} (sound : Sound clock before)
    (opened : reopenIncident clock before = .ok after) : Continues before after ∧ Sound clock after := by
  obtain ⟨_,_,refreshing⟩ := bind_ok.mp opened
  have refreshed := refreshIncident_ok refreshing
  obtain ⟨again,same⟩ := refreshed_sound _ refreshed sound.sameCycle sound.keys sound.refs sound.covered
  refine ⟨refreshed_continues sound refreshed same ?_ (fun _ => id) ?_,again⟩
  · intro attempt member; exact ⟨attempt,member,rfl,fun _ => id⟩
  · intro next member _ _ _; exact ⟨next,member,rfl,rfl⟩

theorem nodup_snoc {β : Type} {items : List β} {last : β} (distinct : items.Nodup) (fresh : last ∉ items) :
    (items ++ [last]).Nodup := by
  rw [List.nodup_append]
  refine ⟨distinct,List.nodup_singleton _,?_⟩
  intro one member two found
  rw [List.mem_singleton.mp found]
  rintro rfl; exact fresh member

theorem addAttempt_ok {cycle : Cycle} {before after : Incident} (sound : Sound clock before)
    (sameId : before.cycle.cycleId = cycle.cycleId) (added : addAttempt clock cycle before = .ok after) :
    Continues before after ∧ Sound clock after := by
  unfold addAttempt at added
  cases search : before.faultAttempts.find? (fun attempt => attemptKey attempt.cycle = attemptKey cycle) with
  | some known =>
    rw [search] at added
    obtain ⟨_,_,same⟩ := bind_ok.mp added
    cases return_ok.mp same
    exact ⟨continues_refl _,sound⟩
  | none =>
    rw [search] at added
    obtain ⟨_,_,refreshing⟩ := bind_ok.mp added
    have refreshed := refreshIncident_ok refreshing
    have fresh : attemptKey cycle ∉ before.faultAttempts.map fun attempt => attemptKey attempt.cycle := by
      intro present
      obtain ⟨attempt,member,same⟩ := List.mem_map.mp present
      exact absurd same (by simpa using List.find?_eq_none.mp search attempt member)
    obtain ⟨again,same⟩ := refreshed_sound before.cycle.cycleId refreshed
      (by
        intro attempt member
        rcases List.mem_append.mp member with old | new
        · exact sound.sameCycle attempt old
        · rw [List.mem_singleton.mp new]; exact sameId.symm)
      (by rw [List.map_append]; exact nodup_snoc sound.keys fresh)
      sound.refs
      (by
        intro attempt member ref known
        rcases List.mem_append.mp member with old | new
        · exact sound.covered attempt old ref known
        · rw [List.mem_singleton.mp new] at known; cases known)
    refine ⟨refreshed_continues sound refreshed same ?_ (fun _ => id) ?_,again⟩
    · intro attempt member; exact ⟨attempt,List.mem_append_left _ member,rfl,fun _ => id⟩
    · intro next member resolution _ carries
      rcases List.mem_append.mp member with old | new
      · exact ⟨next,old,rfl,rfl⟩
      · rw [List.mem_singleton.mp new] at carries; cases carries

theorem newIncident_ok {cycle : Cycle} {items : List Incident} (added : newIncident clock cycle = .ok items) :
    ∃ item, items = [item] ∧ item.cycle.cycleId = cycle.cycleId ∧ Sound clock item := by
  obtain ⟨item,refreshing,same⟩ := bind_ok.mp added
  cases return_ok.mp same
  obtain ⟨sound,here⟩ := refreshed_sound cycle.cycleId (refreshIncident_ok refreshing)
    (by intro attempt member; rw [List.mem_singleton.mp member])
    (List.nodup_singleton _) List.nodup_nil
    (by intro attempt member ref known; rw [List.mem_singleton.mp member] at known; cases known)
  exact ⟨item,rfl,here,sound⟩

theorem resolveAttempt_cycle (ref : String) (attempt : Attempt) : (resolveAttempt ref attempt).cycle = attempt.cycle := by
  unfold resolveAttempt; split <;> rfl

theorem resolveAttempt_ref {ref : String} {attempt : Attempt} :
    (resolveAttempt ref attempt).resolutionRef = some (attempt.resolutionRef.getD ref) := by
  unfold resolveAttempt isActive
  cases carried : attempt.resolutionRef <;> simp [carried]

-- A retry resolves operational faults only.
theorem checkKind_uncertain {cycles : List Cycle} {item : Incident} {resolution : Resolution} {attempt : Attempt}
    (checked : checkKind clock cycles item resolution = .ok ()) (member : attempt ∈ item.faultAttempts)
    (active : isActive attempt = true) (severe : uncertain attempt.cycle = true) :
    resolution.kind = "current_state_reconciled" := by
  unfold checkKind at checked
  split at checked
  · exfalso
    obtain ⟨resolves,retried,required⟩ := bind_ok.mp checked
    have holds := require_ok.mp required
    subst holds
    have blocked : (item.faultAttempts.filter isActive).any (fun attempt =>
        decide (incidentCategory attempt.cycle ≠ some .operational ∨ attempt.cycle.correlation ≠ "explicit")) = true := by
      rw [List.any_eq_true]
      refine ⟨attempt,List.mem_filter.mpr ⟨member,active⟩,?_⟩
      rw [decide_eq_true_iff,incidentCategory_uncertain.mpr severe]
      exact .inl (by simp)
    simp only [retryResolves] at retried
    rw [if_pos (.inr blocked)] at retried
    cases return_ok.mp retried
  · split at checked
    · assumption
    · cases checked

theorem addResolution_ok {context : CycleContext} {cycles : List Cycle} {resolution : Resolution}
    {before after : Incident} (sound : Sound clock before)
    (added : addResolution kit clock context cycles resolution before = .ok after) :
    Continues before after ∧ Sound clock after := by
  unfold addResolution at added
  cases search : before.resolutionHistory.find? (fun entry => entry.evidenceRef = resolution.evidenceRef) with
  | some prior =>
    rw [search] at added
    obtain ⟨_,_,same⟩ := bind_ok.mp added
    cases return_ok.mp same
    exact ⟨continues_refl _,sound⟩
  | none =>
    rw [search] at added
    obtain ⟨_,_,added⟩ := bind_ok.mp added
    obtain ⟨verified,watermark,added⟩ := bind_ok.mp added
    obtain ⟨fault,latestFault,added⟩ := bind_ok.mp added
    obtain ⟨_,ordered,added⟩ := bind_ok.mp added
    obtain ⟨_,checked,added⟩ := bind_ok.mp added
    obtain ⟨_,_,refreshing⟩ := bind_ok.mp added
    have refreshed := refreshIncident_ok refreshing
    have fresh : resolution.evidenceRef ∉ before.resolutionHistory.map Resolution.evidenceRef := by
      intro present
      obtain ⟨entry,member,same⟩ := List.mem_map.mp present
      exact absurd same (by simpa using List.find?_eq_none.mp search entry member)
    -- the attempts resolved now lie under the watermark the resolution was checked against
    have covers : ∀ attempt ∈ before.faultAttempts, isActive attempt = true → Covers clock attempt resolution := by
      intro attempt member active
      obtain ⟨time,read,bounds⟩ := sound.watermark
      obtain ⟨at_,known,below⟩ := bounds attempt member
      have same : time = fault := Except.ok.inj (read.symm.trans latestFault)
      exact ⟨⟨at_,verified,known,watermark,below.trans (same ▸ require_ok.mp ordered)⟩,
        checkKind_uncertain checked member active⟩
    obtain ⟨again,same⟩ := refreshed_sound before.cycle.cycleId refreshed
      (by
        intro attempt member
        obtain ⟨old,found,rfl⟩ := List.mem_map.mp member
        rw [resolveAttempt_cycle]; exact sound.sameCycle old found)
      (by rw [List.map_map]; simpa [Function.comp_def,resolveAttempt_cycle] using sound.keys)
      (by rw [List.map_append]; exact nodup_snoc sound.refs fresh)
      (by
        intro attempt member ref known
        obtain ⟨old,found,rfl⟩ := List.mem_map.mp member
        rw [resolveAttempt_ref] at known
        cases carried : old.resolutionRef with
        | none =>
          rw [carried] at known
          have active : isActive old = true := by simp [isActive,carried]
          refine ⟨resolution,by simp,by simpa using known,?_⟩
          have owed := covers old found active
          simpa [Covers,resolveAttempt_cycle] using owed
        | some held =>
          rw [carried] at known
          obtain ⟨entry,present,named,owed⟩ := sound.covered old found held carried
          refine ⟨entry,List.mem_append_left _ present,named.trans (by simpa using known),?_⟩
          simpa [Covers,resolveAttempt_cycle] using owed)
    refine ⟨refreshed_continues sound refreshed same ?_ ?_ ?_,again⟩
    · intro attempt member
      refine ⟨_,List.mem_map_of_mem member,resolveAttempt_cycle _ _,?_⟩
      intro ref known
      rw [resolveAttempt_ref,known]; rfl
    · intro entry member; exact List.mem_append_left _ member
    · intro next member entry known carries
      obtain ⟨old,found,rfl⟩ := List.mem_map.mp member
      refine ⟨old,found,(resolveAttempt_cycle _ _).symm,?_⟩
      rw [resolveAttempt_ref] at carries ⊢
      cases carried : old.resolutionRef with
      | none =>
        rw [carried] at carries
        have named : resolution.evidenceRef = entry.evidenceRef := by simpa using carries
        exact absurd (List.mem_map.mpr ⟨entry,known,named.symm⟩) fresh
      | some held => rfl

structure SoundAll (clock : Clock) (incidents : List Incident) : Prop where
  ids : (incidents.map fun item => item.cycle.cycleId).Nodup
  each : ∀ item ∈ incidents, Sound clock item

-- Every incident goes on as the incident of the same cycle.
def ContinuesAll (before after : List Incident) : Prop :=
  ∀ item ∈ before, ∃ later ∈ after, Continues item later

theorem continuesAll_refl (incidents : List Incident) : ContinuesAll incidents incidents :=
  fun item member => ⟨item,member,continues_refl item⟩

theorem continuesAll_trans {before middle after : List Incident} (one : ContinuesAll before middle)
    (two : ContinuesAll middle after) : ContinuesAll before after := by
  intro item member
  obtain ⟨next,present,first⟩ := one item member
  obtain ⟨last,found,second⟩ := two next present
  exact ⟨last,found,continues_trans first second⟩

-- What one step of a loop owes: a sound list goes on, and as a sound list.
def Advances (clock : Clock) (before after : List Incident) : Prop :=
  SoundAll clock before → ContinuesAll before after ∧ SoundAll clock after

theorem advances_refl (incidents : List Incident) : Advances clock incidents incidents :=
  fun sound => ⟨continuesAll_refl _,sound⟩

theorem advances_trans {before middle after : List Incident} (one : Advances clock before middle)
    (two : Advances clock middle after) : Advances clock before after := by
  intro sound
  obtain ⟨first,again⟩ := one sound
  obtain ⟨second,last⟩ := two again
  exact ⟨continuesAll_trans first second,last⟩

theorem updateIncident_ok {cycleId : String} {change : Incident → Except PyExc Incident}
    {absent : Except PyExc (List Incident)} {before after : List Incident}
    (updated : updateIncident cycleId change absent before = .ok after) :
    (∃ front item back next, before = front ++ item :: back ∧ item.cycle.cycleId = cycleId ∧
      change item = .ok next ∧ after = front ++ next :: back) ∨
    ((∀ item ∈ before, item.cycle.cycleId ≠ cycleId) ∧ ∃ added, absent = .ok added ∧ after = before ++ added) := by
  induction before generalizing after with
  | nil => exact .inr ⟨by simp,after,updated,rfl⟩
  | cons item rest ih =>
    unfold updateIncident at updated
    split at updated
    · rename_i here
      obtain ⟨next,changed,same⟩ := bind_ok.mp updated
      cases return_ok.mp same
      exact .inl ⟨[],item,rest,next,rfl,here,changed,rfl⟩
    · rename_i elsewhere
      obtain ⟨others,updating,same⟩ := bind_ok.mp updated
      cases return_ok.mp same
      rcases ih updating with ⟨front,found,back,next,rfl,here,changed,rfl⟩ | ⟨missing,added,appended,rfl⟩
      · exact .inl ⟨item :: front,found,back,next,rfl,here,changed,rfl⟩
      · refine .inr ⟨?_,added,appended,rfl⟩
        intro other member
        rcases List.mem_cons.mp member with rfl | later
        · exact elsewhere
        · exact missing other later

theorem replaced_advances {front back : List Incident} {item next : Incident}
    (goesOn : Sound clock item → Continues item next ∧ Sound clock next) :
    Advances clock (front ++ item :: back) (front ++ next :: back) := by
  intro sound
  obtain ⟨continues,again⟩ := goesOn (sound.each item (by simp))
  refine ⟨?_,?_,?_⟩
  · intro other member
    rcases List.mem_append.mp member with early | late
    · exact ⟨other,List.mem_append_left _ early,continues_refl _⟩
    · rcases List.mem_cons.mp late with rfl | later
      · exact ⟨next,by simp,continues⟩
      · exact ⟨other,by simp [later],continues_refl _⟩
  · have ids := sound.ids
    simp only [List.map_append,List.map_cons,continues.sameCycle] at ids ⊢
    exact ids
  · intro other member
    rcases List.mem_append.mp member with early | late
    · exact sound.each other (List.mem_append_left _ early)
    · rcases List.mem_cons.mp late with rfl | later
      · exact again
      · exact sound.each other (by simp [later])

theorem appended_advances {before : List Incident} {item : Incident}
    (elsewhere : ∀ other ∈ before, other.cycle.cycleId ≠ item.cycle.cycleId) (new : Sound clock item) :
    Advances clock before (before ++ [item]) := by
  intro sound
  refine ⟨fun other member => ⟨other,List.mem_append_left _ member,continues_refl _⟩,?_,?_⟩
  · rw [List.map_append]
    refine nodup_snoc sound.ids ?_
    intro present
    obtain ⟨other,member,same⟩ := List.mem_map.mp present
    exact elsewhere other member same
  · intro other member
    rcases List.mem_append.mp member with old | last
    · exact sound.each other old
    · rw [List.mem_singleton.mp last]; exact new

theorem recordCycle_advances {context : CycleContext} {cycle : Cycle} {before after : List Incident}
    (recorded : recordCycle kit clock context before cycle = .ok after) : Advances clock before after := by
  obtain ⟨_,_,recorded⟩ := bind_ok.mp recorded
  split at recorded
  · cases return_ok.mp recorded; exact advances_refl _
  · rcases updateIncident_ok recorded with ⟨front,item,back,next,rfl,here,added,rfl⟩ | ⟨missing,added,new,rfl⟩
    · exact replaced_advances (fun sound => addAttempt_ok sound here added)
    · obtain ⟨item,rfl,named,sound⟩ := newIncident_ok new
      exact appended_advances (fun other member => named ▸ missing other member) sound

theorem applyResolution_advances {context : CycleContext} {cycles : List Cycle} {resolution : Resolution}
    {before after : List Incident}
    (applied : applyResolution kit clock context cycles before resolution = .ok after) : Advances clock before after := by
  rcases updateIncident_ok applied with ⟨front,item,back,next,rfl,_,added,rfl⟩ | ⟨_,added,unknown,_⟩
  · exact replaced_advances (fun sound => addResolution_ok sound added)
  · cases unknown

theorem reopened_advances {before after : List Incident}
    (opened : before.mapM (reopenIncident clock) = .ok after) : Advances clock before after := by
  intro sound
  have reopened : ∀ item ∈ before, ∀ next, reopenIncident clock item = .ok next → Continues item next ∧ Sound clock next :=
    fun item member _ one => reopenIncident_ok (sound.each item member) one
  refine ⟨?_,?_,?_⟩
  · intro item member
    obtain ⟨next,present,one⟩ := (mapM_mem opened).1 item member
    exact ⟨next,present,(reopened item member next one).1⟩
  · have same := mapM_keeps (fun item member next one => (reopened item member next one).1.sameCycle) opened
    rw [same]; exact sound.ids
  · intro next member
    obtain ⟨item,present,one⟩ := (mapM_mem opened).2 next member
    exact (reopened item present next one).2

-- One call: every incident of the checkpoint it was given goes on in the one it returns.
theorem reduceIncidents_ok {context : CycleContext} {cycles : List Cycle} {resolutions : List Resolution}
    {previous : Option Checkpoint} {after : Checkpoint}
    (reduced : reduceIncidents kit clock context cycles resolutions previous = .ok after) :
    Advances clock ((previous.map Checkpoint.incidents).getD []) after.incidents ∧
      after.unresolvedCount = unresolved after.incidents := by
  obtain ⟨_,_,reduced⟩ := bind_ok.mp reduced
  obtain ⟨opened,opening,reduced⟩ := bind_ok.mp reduced
  obtain ⟨recorded,recording,reduced⟩ := bind_ok.mp reduced
  obtain ⟨incidents,resolving,reduced⟩ := bind_ok.mp reduced
  obtain ⟨_,_,same⟩ := bind_ok.mp reduced
  cases return_ok.mp same
  refine ⟨?_,rfl⟩
  have middle : Advances clock opened recorded :=
    foldlM_keeps advances_refl advances_trans (fun _ _ _ _ => recordCycle_advances) recording
  have last : Advances clock recorded incidents :=
    foldlM_keeps advances_refl advances_trans (fun _ _ _ _ => applyResolution_advances) resolving
  exact advances_trans (reopened_advances opening) (advances_trans middle last)

-- A checkpoint that was built by calls, each with a context of its own.
inductive Built (kit : Kit) (clock : Clock) : Checkpoint → Prop where
  | first (context : CycleContext) (cycles : List Cycle) (resolutions : List Resolution) :
      reduceIncidents kit clock context cycles resolutions none = .ok after → Built kit clock after
  | next (context : CycleContext) (cycles : List Cycle) (resolutions : List Resolution) : Built kit clock before →
      reduceIncidents kit clock context cycles resolutions (some before) = .ok after → Built kit clock after

inductive Reductions (kit : Kit) (clock : Clock) : Checkpoint → Checkpoint → Prop where
  | nil : Reductions kit clock state state
  | cons (context : CycleContext) (cycles : List Cycle) (resolutions : List Resolution) :
      reduceIncidents kit clock context cycles resolutions (some before) = .ok middle →
      Reductions kit clock middle after → Reductions kit clock before after

theorem built_sound {state : Checkpoint} (built : Built kit clock state) :
    SoundAll clock state.incidents ∧ state.unresolvedCount = unresolved state.incidents := by
  have fresh : SoundAll clock [] := ⟨List.nodup_nil,by simp⟩
  induction built with
  | first _ _ _ reduced =>
    obtain ⟨advances,count⟩ := reduceIncidents_ok reduced
    exact ⟨(advances fresh).2,count⟩
  | next _ _ _ _ reduced ih =>
    obtain ⟨advances,count⟩ := reduceIncidents_ok reduced
    exact ⟨(advances ih.1).2,count⟩

theorem reductions_built {before after : Checkpoint} (built : Built kit clock before)
    (ran : Reductions kit clock before after) : Built kit clock after := by
  induction ran with
  | nil => exact built
  | cons _ _ _ reduced _ ih => exact ih (.next _ _ _ built reduced)

theorem reductions_continue {before after : Checkpoint} (sound : SoundAll clock before.incidents)
    (ran : Reductions kit clock before after) : ContinuesAll before.incidents after.incidents := by
  induction ran with
  | nil => exact continuesAll_refl _
  | cons _ _ _ reduced _ ih =>
    obtain ⟨continues,again⟩ := (reduceIncidents_ok reduced).1 sound
    exact continuesAll_trans continues (ih again)

def hasOpenAttempt (item : Incident) : Bool := item.faultAttempts.any fun attempt => attempt.resolutionRef = none

theorem unresolved_counts {incidents : List Incident} (sound : SoundAll clock incidents) :
    unresolved incidents = incidents.countP hasOpenAttempt := by
  refine List.countP_congr ?_
  intro item member
  rw [(sound.each item member).active,hasOpenAttempt,List.any_eq_true]
  simp [isActive]

-- From any checkpoint that calls built, through any further calls that do not
-- raise: nothing of an incident is lost, and what is resolved stays accounted for.
theorem reductions_account_for_faults {before after : Checkpoint} (built : Built kit clock before)
    (ran : Reductions kit clock before after) :
    ContinuesAll before.incidents after.incidents ∧ SoundAll clock after.incidents ∧
      after.unresolvedCount = after.incidents.countP hasOpenAttempt := by
  obtain ⟨sound,_⟩ := built_sound built
  obtain ⟨again,count⟩ := built_sound (reductions_built built ran)
  exact ⟨reductions_continue sound ran,again,count.trans (unresolved_counts again)⟩

def paperContext : CycleContext :=
  ⟨"longbridge.paper","1111111111111111111111111111111111111111111111111111111111111111",
    "2222222222222222222222222222222222222222222222222222222222222222"⟩

-- The digest, the clock and the outcomes on the values of this one history.
def paperKit : Kit where
  digest texts :=
    if texts = [paperContext.targetId,paperContext.sourceBindingId,paperContext.configurationSha256,"2026-10-05T15:00:00Z"]
    then "ac585b8b53d34bf16a5cc4cca125fd0452e5053d4bd1d42b3803f169e8183703" else ""
  executionReceiptOutcomes := ["failed","filled","no_action","risk_blocked"]

def paperClock : Clock where
  instant text :=
    if text = "2026-10-05T15:00:00Z" then .ok 1791212400000000
    else if text = "2026-10-05T15:01:00Z" then .ok 1791212460000000
    else if text = "2026-10-06T15:00:00Z" then .ok 1791298800000000
    else .error (valueError "Invalid isoformat string")
  iso time :=
    if time = 1791212400000000 then "2026-10-05T15:00:00Z"
    else if time = 1791212460000000 then "2026-10-05T15:01:00Z" else "2026-10-06T15:00:00Z"
  reads_back {text time} read := by
    split_ifs at read
    all_goals cases read; decide

def uncertainCycle : Cycle :=
  { cycleId := "cycle.ac585b8b53d34bf16a5cc4cca125fd0452e5053d4bd1d42b3803f169e8183703"
    scheduledFor := "2026-10-05T15:00:00Z"
    receiptRef := some "execution-receipt.0123456789abcdef0123456789abcdef"
    completedAt := some "2026-10-05T15:01:00Z"
    outcome := "failed"
    executionState := "unresolved"
    correlation := "explicit" }

def reconciled : Resolution :=
  { incidentCycleId := uncertainCycle.cycleId
    kind := "current_state_reconciled"
    evidenceRef := "3333333333333333333333333333333333333333333333333333333333333333"
    resolvedByCycleId := none
    verifiedThrough := "2026-10-06T15:00:00Z" }

def uncertainIncident : Incident :=
  { cycle := uncertainCycle
    category := some .executionUncertainty
    latestFaultAt := "2026-10-05T15:01:00Z"
    activeCategory := some .executionUncertainty
    faultAttempts := [⟨uncertainCycle,none⟩]
    resolutionHistory := []
    resolution := none }

def openCheckpoint : Checkpoint := ⟨paperContext.targetId,paperContext.sourceBindingId,[uncertainIncident],1,false⟩

def reconciledIncident : Incident :=
  { uncertainIncident with
    activeCategory := none
    faultAttempts := [⟨uncertainCycle,some reconciled.evidenceRef⟩]
    resolutionHistory := [reconciled]
    resolution := some reconciled }

def reconciledCheckpoint : Checkpoint := { openCheckpoint with incidents := [reconciledIncident], unresolvedCount := 0 }

theorem uncertain_fault_reconciled :
    ContinuesAll openCheckpoint.incidents reconciledCheckpoint.incidents ∧
      SoundAll paperClock reconciledCheckpoint.incidents ∧
      reconciledCheckpoint.unresolvedCount = reconciledCheckpoint.incidents.countP hasOpenAttempt :=
  @reductions_account_for_faults paperKit paperClock openCheckpoint reconciledCheckpoint
    (.first paperContext [uncertainCycle] [] (by decide +kernel))
    (.cons paperContext [] [reconciled] (by decide +kernel) .nil)

end LongBridge.CycleHealth
