import LongBridge.CycleHealth.Reordered
import LongBridge.Reporting.Collector

namespace LongBridge.Reporting
open Effects CycleHealth Schedule

section cycles

variable {kit : CollectorKit} {now slot : ℤ} {report : Fields} {cycle : Cycle}

-- A cycle that a report gives for a slot
structure FromReport (kit : CollectorKit) (now slot : ℤ) (report : Fields) (cycle : Cycle) : Prop where
  projected : projectCycle kit.kit kit.health kit.clock kit.context report (kit.clock.iso slot) now = .ok cycle
  scheduled : cycle.scheduledFor = kit.clock.iso slot
  completed : ∃ finished, instantOf kit.clock (report.get "finished_at") = .ok finished ∧ cycle.completedAt = some (kit.clock.iso finished) ∧
    slot ≤ finished ∧ finished ≤ now
  receipt : cycle.receiptRef ≠ none

theorem fromReport (readable : kit.clock.instant (kit.clock.iso slot) = .ok slot)
    (projected : projectCycle kit.kit kit.health kit.clock kit.context report (kit.clock.iso slot) now = .ok cycle) :
    FromReport kit now slot report cycle := by
  have ran := projected
  unfold projectCycle at ran
  obtain ⟨receipt,read,ran⟩ := bind_ok.mp ran
  obtain ⟨_,begun,finished,_,timed,ordered,past,_⟩ := reportReceipt_ok.mp read
  obtain ⟨scheduled,named,ran⟩ := bind_ok.mp ran
  rw [readable] at named
  cases named
  obtain ⟨started,begins,ran⟩ := bind_ok.mp ran
  rw [timed.begins] at begins
  cases begins
  obtain ⟨_,early,ran⟩ := bind_ok.mp ran
  obtain ⟨correlation,_,ran⟩ := bind_ok.mp ran
  obtain ⟨completed,ends,ran⟩ := bind_ok.mp ran
  rw [timed.ends] at ends
  cases ends
  obtain ⟨identity,_,ran⟩ := bind_ok.mp ran
  cases return_ok.mp ran
  exact ⟨projected,rfl,⟨finished,timed.ends,rfl,(require_ok.mp early).trans ordered,past⟩,Option.some_ne_none _⟩

-- A cycle whose report is missing, where the coverage reaches from the slot to its deadline
structure NotReported (kit : CollectorKit) (coverage : PageCoverage) (grace slot : ℤ) (cycle : Cycle) : Prop where
  scheduled : cycle.scheduledFor = kit.clock.iso slot
  bare : cycle.receiptRef = none ∧ cycle.completedAt = none
  reached : coverageReaches kit coverage (some slot) (some (slot + grace)) = .ok true

-- What a row of the payload is: an observed run, or a slot without one.
inductive RowOf (kit : CollectorKit) (coverage : PageCoverage) (grace now : ℤ) (observations : List Observation) (cycle : Cycle) : Prop where
  | observed (item : Observation) (member : item ∈ observations) (made : FromReport kit now item.scheduledFor item.report cycle)
  | missing (slot : ℤ) (made : NotReported kit coverage grace slot cycle)

end cycles

section rows

variable {rows others : List Cycle} {row : Cycle} {key : Cycle → String}

theorem mem_setRow {new : Cycle} (member : row ∈ setRow key rows new) : row ∈ rows ∨ row = new := by
  unfold setRow at member
  split at member
  · obtain ⟨old,held,same⟩ := List.mem_map.mp member
    split at same
    · exact .inr same.symm
    · exact .inl (same ▸ held)
  · rcases List.mem_append.mp member with old | own
    · exact .inl old
    · exact .inr (List.mem_singleton.mp own)

theorem mem_setRows (member : row ∈ others.foldl (setRow key) rows) : row ∈ rows ∨ row ∈ others := by
  induction others generalizing rows with
  | nil => exact .inl member
  | cons new rest ih =>
    rcases ih member with early | later
    · rcases mem_setRow early with old | rfl
      · exact .inl old
      · exact .inr List.mem_cons_self
    · exact .inr (List.mem_cons_of_mem _ later)

theorem addRow_facts {new : Cycle} : (rows.Nodup → (addRow rows new).Nodup) ∧ ∀ row ∈ addRow rows new, row ∈ rows ∨ row = new := by
  unfold addRow
  split
  · exact ⟨id,fun _ => .inl⟩
  · rename_i fresh
    refine ⟨fun nodup => nodup_snoc nodup fresh,?_⟩
    intro row member
    rcases List.mem_append.mp member with old | own
    · exact .inl old
    · exact .inr (List.mem_singleton.mp own)

theorem addRows_facts : (rows.Nodup → (others.foldl addRow rows).Nodup) ∧ ∀ row ∈ others.foldl addRow rows, row ∈ rows ∨ row ∈ others := by
  induction others generalizing rows with
  | nil => exact ⟨id,fun _ => .inl⟩
  | cons new rest ih =>
    obtain ⟨nodup,members⟩ := @ih (addRow rows new)
    refine ⟨fun distinct => nodup (addRow_facts.1 distinct),?_⟩
    intro row member
    rcases members row member with early | later
    · rcases addRow_facts.2 row early with old | rfl
      · exact .inl old
      · exact .inr List.mem_cons_self
    · exact .inr (List.mem_cons_of_mem _ later)

end rows

section projection

variable {kit : CollectorKit} {request : CollectRequest} {coverage : PageCoverage} {grace now : ℤ} {observations : List Observation}
  {zones : String → Option Zone} {schedule : ExpectedSchedule} {slots : List ExpectedSlot}

theorem coverageReaches_ok {since through : Option ℤ} (reached : coverageReaches kit coverage since through = .ok true) :
    coverageComplete kit.clock coverage = .ok true ∧
      ∃ start stop, kit.clock.instant coverage.start = .ok start ∧ kit.clock.instant coverage.through = .ok stop ∧
        (∀ time ∈ since, start ≤ time) ∧ ∀ time ∈ through, time ≤ stop := by
  unfold coverageReaches at reached
  obtain ⟨complete,judged,reached⟩ := bind_ok.mp reached
  obtain ⟨start,begins,reached⟩ := bind_ok.mp reached
  obtain ⟨stop,ends,reached⟩ := bind_ok.mp reached
  have flags := return_ok.mp reached
  rw [Bool.and_eq_true,Bool.and_eq_true] at flags
  obtain ⟨⟨rfl,low⟩,high⟩ := flags
  refine ⟨judged,start,stop,begins,ends,?_,?_⟩
  · rintro time rfl
    exact of_decide_eq_true low
  · rintro time rfl
    exact of_decide_eq_true high

-- What is due is due at its own slot, with the grace behind it.
def DueWithGrace (grace : ℤ) (schedule : ExpectedSchedule) : Prop :=
  schedule.state = "due" → ∃ latest, schedule.latestDueAt = some latest ∧ schedule.deadlineAt = some (latest + grace)

theorem projectSchedule_keeps {selected : CycleSchedule} (ran : projectSchedule zones schedule now = .ok selected) :
    selected.state = schedule.state ∧ selected.latestDueAt = schedule.latestDueAt ∧ selected.deadlineAt = schedule.deadlineAt := by
  unfold projectSchedule at ran
  obtain ⟨_,_,ran⟩ := bind_ok.mp ran
  obtain ⟨_,_,ran⟩ := bind_ok.mp ran
  obtain ⟨_,_,ran⟩ := bind_ok.mp ran
  obtain ⟨_,_,ran⟩ := bind_ok.mp ran
  obtain ⟨_,_,ran⟩ := bind_ok.mp ran
  cases return_ok.mp ran
  exact ⟨rfl,rfl,rfl⟩

theorem missingReports_rows {selected : CycleSchedule} {cycles missing : List Cycle} (graced : selected.state = "due" →
    ∃ latest, selected.latestDueAt = some latest ∧ selected.deadlineAt = some (latest + grace))
    (ran : missingReports kit selected coverage cycles now = .ok missing) : ∀ cycle ∈ missing, ∃ slot, NotReported kit coverage grace slot cycle := by
  unfold missingReports at ran
  split at ran
  · rename_i latest deadline shown ends
    split at ran
    · rename_i due
      obtain ⟨own,known,closed⟩ := graced due.1
      rw [shown] at known
      cases known
      rw [ends] at closed
      cases closed
      obtain ⟨reached,covered,ran⟩ := bind_ok.mp ran
      split at ran
      · rename_i unreported
        rw [Bool.and_eq_true] at unreported
        obtain ⟨rfl,_⟩ := unreported
        obtain ⟨cycle,made,ran⟩ := bind_ok.mp ran
        cases return_ok.mp ran
        obtain ⟨identity,_,made⟩ := bind_ok.mp made
        cases return_ok.mp made
        intro other member
        rw [List.mem_singleton.mp member]
        exact ⟨latest,rfl,⟨rfl,rfl⟩,covered⟩
      · cases return_ok.mp ran
        intro _ member
        cases member
    · cases return_ok.mp ran
      intro _ member
      cases member
  · cases return_ok.mp ran
    intro _ member
    cases member

theorem buildCycleHealth_rows {health : HealthRecord} (graced : DueWithGrace grace schedule)
    (readable : ∀ item ∈ observations, kit.clock.instant (kit.clock.iso item.scheduledFor) = .ok item.scheduledFor)
    (ran : buildCycleHealth kit zones schedule coverage observations now = .ok health) :
    health.coverage = coverage ∧ ∀ cycle ∈ health.cycles, RowOf kit coverage grace now observations cycle := by
  unfold buildCycleHealth at ran
  obtain ⟨selected,projected,ran⟩ := bind_ok.mp ran
  obtain ⟨state,latest,deadline⟩ := projectSchedule_keeps projected
  obtain ⟨_,_,ran⟩ := bind_ok.mp ran
  obtain ⟨_,_,ran⟩ := bind_ok.mp ran
  obtain ⟨_,_,ran⟩ := bind_ok.mp ran
  obtain ⟨_,_,ran⟩ := bind_ok.mp ran
  obtain ⟨rows,read,ran⟩ := bind_ok.mp ran
  obtain ⟨missing,lacks,ran⟩ := bind_ok.mp ran
  obtain ⟨_,_,ran⟩ := bind_ok.mp ran
  cases return_ok.mp ran
  refine ⟨rfl,?_⟩
  intro cycle member
  rcases List.mem_append.mp member with kept | lacking
  · rcases mem_setRows kept with none | row
    · cases none
    · obtain ⟨item,held,made⟩ := (mapM_mem read).2 cycle row
      exact .observed item held (fromReport (readable item held) made)
  · obtain ⟨slot,made⟩ := missingReports_rows (by rw [state,latest,deadline]; exact graced) lacks cycle lacking
    exact .missing slot made

theorem RowOf.weaken {others : List Observation} {cycle : Cycle} (row : RowOf kit coverage grace now others cycle)
    (fewer : ∀ item ∈ others, item ∈ observations) : RowOf kit coverage grace now observations cycle := by
  cases row with
  | observed item member made => exact .observed item (fewer item member) made
  | missing slot made => exact .missing slot made

-- What holds of the rows that are composed.
structure Rows (kit : CollectorKit) (coverage : PageCoverage) (grace now : ℤ) (observations : List Observation) (rows : List Cycle) : Prop where
  each : ∀ cycle ∈ rows, RowOf kit coverage grace now observations cycle
  nodup : rows.Nodup

theorem Rows.add {rows others : List Cycle} (known : Rows kit coverage grace now observations rows)
    (each : ∀ cycle ∈ others, RowOf kit coverage grace now observations cycle) : Rows kit coverage grace now observations (others.foldl addRow rows) where
  each cycle member := (addRows_facts.2 cycle member).elim (known.each cycle) (each cycle)
  nodup := addRows_facts.1 known.nodup

theorem composeSlot_rows {rows next : List Cycle} {slot : ExpectedSlot} (deadline : slot.deadlineAt = slot.scheduledFor + grace)
    (readable : ∀ item ∈ observations, kit.clock.instant (kit.clock.iso item.scheduledFor) = .ok item.scheduledFor)
    (known : Rows kit coverage grace now observations rows)
    (ran : composeSlot kit zones schedule coverage observations now rows slot = .ok next) : Rows kit coverage grace now observations next := by
  unfold composeSlot at ran
  split at ran
  · cases ran
    exact known
  · obtain ⟨projection,built,ran⟩ := bind_ok.mp ran
    cases return_ok.mp ran
    have own : ∀ item ∈ observations.filter (fun item => item.scheduledFor == slot.scheduledFor), item ∈ observations :=
      fun item member => (List.mem_filter.mp member).1
    have graced : DueWithGrace grace (slotSchedule schedule slot) := fun _ => ⟨slot.scheduledFor,rfl,by rw [← deadline]; rfl⟩
    obtain ⟨_,made⟩ := buildCycleHealth_rows graced (fun item member => readable item (own item member)) built
    exact known.add fun cycle member => (made cycle member).weaken own

theorem composeSlots_rows {rows next : List Cycle} (deadlines : ∀ slot ∈ slots, slot.deadlineAt = slot.scheduledFor + grace)
    (readable : ∀ item ∈ observations, kit.clock.instant (kit.clock.iso item.scheduledFor) = .ok item.scheduledFor)
    (known : Rows kit coverage grace now observations rows)
    (ran : slots.foldlM (composeSlot kit zones schedule coverage observations now) rows = .ok next) : Rows kit coverage grace now observations next := by
  have keeps := foldlM_keeps (R := fun before after => Rows kit coverage grace now observations before → Rows kit coverage grace now observations after)
    (fun _ => id) (fun one two => two ∘ one)
    (fun before slot after member step held => composeSlot_rows (deadlines slot member) readable held step) ran
  exact keeps known

theorem reduceIncidents_checked {health : Kit} {clock : CycleHealth.Clock} {context : CycleContext} {cycles : List Cycle}
    {resolutions : List CycleHealth.Resolution} {previous : Option Checkpoint} {state : Checkpoint}
    (ran : reduceIncidents health clock context cycles resolutions previous = .ok state) :
    ∀ cycle ∈ cycles, checkCycle health clock context cycle = .ok () := by
  obtain ⟨_,opened,recorded,_,reopened,walked,rest⟩ := reduceIncidents_cases.mp ran
  clear ran reopened rest
  induction cycles generalizing opened with
  | nil =>
    intro _ member
    cases member
  | cons cycle rest ih =>
    rw [List.foldlM_cons] at walked
    obtain ⟨next,step,walked⟩ := bind_ok.mp walked
    exact List.forall_mem_cons.mpr ⟨(recordCycle_ok.mp step).1,ih next walked⟩

-- A cycle that passes its check has no receipt exactly where its outcome says so.
theorem checkCycle_missing {health : Kit} {clock : CycleHealth.Clock} {context : CycleContext} {cycle : Cycle}
    (checked : checkCycle health clock context cycle = .ok ()) : cycle.outcome = "missing_report" ↔ cycle.receiptRef = none := by
  unfold checkCycle at checked
  obtain ⟨_,_,checked⟩ := bind_ok.mp checked
  obtain ⟨_,_,checked⟩ := bind_ok.mp checked
  obtain ⟨_,_,checked⟩ := bind_ok.mp checked
  obtain ⟨_,_,checked⟩ := bind_ok.mp checked
  obtain ⟨_,_,checked⟩ := bind_ok.mp checked
  obtain ⟨_,_,checked⟩ := bind_ok.mp checked
  dsimp only at checked
  split at checked
  · rename_i missing
    obtain ⟨_,evidence,_⟩ := bind_ok.mp checked
    exact iff_of_true missing (require_ok.mp evidence).1
  · rename_i present
    obtain ⟨_,evidence,_⟩ := bind_ok.mp checked
    exact iff_of_false present (require_ok.mp evidence).1

structure Projected (kit : CollectorKit) (request : CollectRequest) (coverage : PageCoverage) (grace : ℤ) (observations : List Observation)
    (health : HealthRecord) : Prop where
  judged : health.coverage = coverage
  rows : Rows kit coverage grace request.now observations health.cycles
  checked : ∀ cycle ∈ health.cycles, cycle.outcome = "missing_report" ↔ cycle.receiptRef = none
  few : health.cycles.length ≤ maxCycles

theorem projectCollection_ok {source : AdmittedSource} {result : Collected} (graced : DueWithGrace grace schedule)
    (deadlines : ∀ slot ∈ slots, slot.deadlineAt = slot.scheduledFor + grace)
    (readable : ∀ item ∈ observations, kit.clock.instant (kit.clock.iso item.scheduledFor) = .ok item.scheduledFor)
    (ran : projectCollection kit request source slots schedule coverage observations = .ok result) :
    (result.cycleHealth = none → result.checkpoint = .preserved request.checkpoint) ∧
      ∀ health, result.cycleHealth = some health → Projected kit request coverage grace observations health := by
  have stopped : ∀ {reason status : String}, (request.blocked reason status) = result →
      (result.cycleHealth = none → result.checkpoint = .preserved request.checkpoint) ∧
        ∀ health, result.cycleHealth = some health → Projected kit request coverage grace observations health := by
    rintro reason status rfl
    exact ⟨fun _ => rfl,fun _ impossible => nomatch impossible⟩
  unfold projectCollection at ran
  obtain ⟨complete,_,ran⟩ := bind_ok.mp ran
  split at ran
  · exact stopped (return_ok.mp ran)
  · obtain ⟨payload,built,ran⟩ := bind_ok.mp ran
    obtain ⟨cycles,composed,ran⟩ := bind_ok.mp ran
    split at ran
    · exact stopped (return_ok.mp ran)
    · rename_i few
      split at ran
      · exact stopped (return_ok.mp ran)
      · obtain ⟨resolutions,_,ran⟩ := bind_ok.mp ran
        obtain ⟨previous,_,ran⟩ := bind_ok.mp ran
        obtain ⟨state,reduced,ran⟩ := bind_ok.mp ran
        cases return_ok.mp ran
        obtain ⟨same,made⟩ := buildCycleHealth_rows graced readable built
        have start : Rows kit coverage grace request.now observations (payload.cycles.foldl addRow []) :=
          Rows.add ⟨(fun _ impossible => nomatch impossible),.nil⟩ made
        refine ⟨fun impossible => (nomatch impossible),?_⟩
        intro health shown
        cases shown
        exact ⟨same,composeSlots_rows deadlines readable start composed,
          fun cycle member => checkCycle_missing (reduceIncidents_checked reduced cycle member),not_lt.mp few⟩

-- Each observation is a report that was read, at the slot it has its place in.
theorem observed_reports {due : ℤ} {starts : List ℤ} {values : List PyVal} {seen after : List Observation × Bool}
    (ran : values.foldlM (observeReport kit starts due now) seen = .ok after) : (after.2 = false → seen.2 = false) ∧
      ∀ item ∈ after.1, item ∈ seen.1 ∨ ∃ report, .dict report ∈ values ∧ item.report = withoutInvocation report ∧
        placeReport kit starts due now item.report = .ok item.scheduledFor := by
  induction values generalizing seen with
  | nil =>
    rw [List.foldlM_nil,return_ok] at ran
    subst ran
    exact ⟨id,fun _ => .inl⟩
  | cons value rest ih =>
    rw [List.foldlM_cons] at ran
    obtain ⟨middle,one,ran⟩ := bind_ok.mp ran
    obtain ⟨flag,items⟩ := ih ran
    have later : ∀ item ∈ after.1, item ∈ middle.1 ∨ ∃ report, .dict report ∈ value :: rest ∧ item.report = withoutInvocation report ∧
        placeReport kit starts due now item.report = .ok item.scheduledFor := by
      intro item member
      rcases items item member with early | ⟨report,listed,placed⟩
      · exact .inl early
      · exact .inr ⟨report,List.mem_cons_of_mem _ listed,placed⟩
    unfold observeReport at one
    split at one
    · rename_i report
      split at one
      · rename_i slot placed
        cases one
        refine ⟨flag,?_⟩
        intro item member
        rcases later item member with early | found
        · rcases List.mem_append.mp early with old | own
          · exact .inl old
          · rw [List.mem_singleton.mp own]
            exact .inr ⟨report,List.mem_cons_self,rfl,placed⟩
        · exact .inr found
      · split at one
        · cases one
          exact ⟨fun clear => (nomatch flag clear),later⟩
        · cases one
    · cases one
      exact ⟨flag,later⟩

theorem selectSlot_mem {due begun finished slot : ℤ} {starts : List ℤ} (selected : selectSlot due begun finished starts = some slot) :
    slot ∈ starts := by
  induction starts with
  | nil => cases selected
  | cons start rest ih =>
    unfold selectSlot at selected
    split at selected
    · cases selected
      exact List.mem_cons_self
    · exact List.mem_cons_of_mem _ (ih selected)

theorem placeReport_mem {due slot : ℤ} {starts : List ℤ} {report : Fields} (placed : placeReport kit starts due now report = .ok slot) :
    slot ∈ starts := by
  unfold placeReport at placed
  obtain ⟨begun,_,placed⟩ := bind_ok.mp placed
  obtain ⟨finished,_,placed⟩ := bind_ok.mp placed
  split at placed
  · cases placed
  · rename_i found selected
    obtain ⟨_,_,placed⟩ := bind_ok.mp placed
    cases return_ok.mp placed
    exact selectSlot_mem selected

end projection

end LongBridge.Reporting
