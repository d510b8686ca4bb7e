import LongBridge.Python.Entries
import LongBridge.Reporting.CollectorReads
import LongBridge.Reporting.CollectorRows
import LongBridge.Schedule.ExpectedSlots

namespace LongBridge.Reporting
open Effects CycleHealth Schedule

section collection

variable {kit : CollectorKit} {request : CollectRequest} {events past : List CollectorEvent} {source : AdmittedSource}
  {slots : List ExpectedSlot} {schedule : ExpectedSchedule} {held : Bool} {before after : Unit}

theorem readable_within (ordered : request.through ≤ request.now) {time : ℤ} (late : request.since ≤ time) (early : time ≤ request.through) :
    kit.clock.instant (kit.clock.iso time) = .ok time :=
  kit.reads time (request.begun.trans late) (lt_of_le_of_lt (early.trans ordered) request.ended)

-- A report that was read for a name that a required prefix lists
structure ReportGiven (request : CollectRequest) (events : List CollectorEvent) (name : String) (report : Fields) : Prop where
  listed : ∃ lead ∈ request.requiredPrefixes, ∃ fields, PageGiven events lead fields ∧ Names lead fields name
  read : .answered true (.readReport name) (.ok (.dict report)) ∈ events

theorem ReportGiven.stays {name : String} {report : Fields} (given : ReportGiven request past name report) :
    ReportGiven request (past ++ events) name report where
  listed := by
    obtain ⟨lead,required,fields,page,named⟩ := given.listed
    exact ⟨lead,required,fields,page.stays,named⟩
  read := List.mem_append_left _ given.read

-- A cycle of a payload, at its slot
structure CycleFits (kit : CollectorKit) (request : CollectRequest) (events : List CollectorEvent) (source : AdmittedSource)
    (slots : List ExpectedSlot) (schedule : ExpectedSchedule) (coverage : PageCoverage) (cycle : Cycle) (slot : ℤ) : Prop where
  scheduled : kit.clock.instant cycle.scheduledFor = .ok slot
  within : request.since ≤ slot ∧ slot ≤ request.through
  completed : ∀ text ∈ cycle.completedAt, ∃ completed, kit.clock.instant text = .ok completed ∧ slot ≤ completed ∧ completed ≤ request.now ∧
    (coverageComplete kit.clock coverage = .ok true → completed ≤ request.through)
  received : cycle.receiptRef ≠ none → (∃! expected, expected ∈ slots ∧ expected.scheduledFor = slot) ∧
    ∃ name report, ReportGiven request events name report ∧
      placeReport kit (slots.map ExpectedSlot.scheduledFor) schedule.nextDueAt request.now (withoutInvocation report) = .ok slot ∧
      projectCycle kit.kit kit.health kit.clock kit.context (withoutInvocation report) (kit.clock.iso slot) request.now = .ok cycle
  missing : cycle.outcome = "missing_report" → coverageComplete kit.clock coverage = .ok true ∧ slot + source.grace ≤ request.through

-- A payload that respects its own coverage interval
structure Respects (kit : CollectorKit) (request : CollectRequest) (events : List CollectorEvent) (source : AdmittedSource)
    (slots : List ExpectedSlot) (schedule : ExpectedSchedule) (health : HealthRecord) : Prop where
  interval : kit.clock.instant health.coverage.start = .ok request.since ∧ kit.clock.instant health.coverage.through = .ok request.through ∧
    request.through ≤ request.now
  cycles : ∀ cycle ∈ health.cycles, ∃ slot, CycleFits kit request events source slots schedule health.coverage cycle slot
  distinct : health.cycles.Nodup
  few : health.cycles.length ≤ maxCycles

-- The source that was admitted first, and the slots that it names in the interval
structure Expected (kit : CollectorKit) (request : CollectRequest) (events : List CollectorEvent) (source : AdmittedSource)
    (slots : List ExpectedSlot) (schedule : ExpectedSchedule) : Prop where
  admitted : ∃ held started first rest, events = .answered held .monotonic (.ok started) :: .answered held .readSource (.ok first) :: rest ∧
    kit.admitSource kit.context first = .ok source
  ready : Schedule.enumerateCycleExpectations (kit.expectations source.target) source.target (expectationRequest request source.grace) =
    .ready slots schedule

-- What the slots of a ready expectation are
structure SlotFacts (request : CollectRequest) (source : AdmittedSource) (slots : List ExpectedSlot) (schedule : ExpectedSchedule) : Prop where
  within : ∀ slot ∈ slots, request.since ≤ slot.scheduledFor ∧ slot.scheduledFor ≤ request.through
  deadlines : ∀ slot ∈ slots, slot.deadlineAt = slot.scheduledFor + source.grace
  graced : DueWithGrace source.grace schedule
  grace : 0 ≤ source.grace

theorem ready_slots {expectations : ExpectationKit}
    (ready : Schedule.enumerateCycleExpectations expectations source.target (expectationRequest request source.grace) = .ready slots schedule) :
    SlotFacts request source slots schedule := by
  obtain ⟨plan,planned,shows⟩ := ready_shows ready
  obtain ⟨minutes,due,rfl⟩ := shows.slots
  refine ⟨?_,?_,?_,planned.valid.2.2.2.2.2.2⟩
  · intro slot member
    obtain ⟨minute,named,rfl⟩ := List.mem_map.mp member
    obtain ⟨⟨late,early,_⟩,_⟩ := (due.all minute).mp named
    exact ⟨late,early⟩
  · intro slot member
    obtain ⟨minute,_,rfl⟩ := List.mem_map.mp member
    rfl
  · intro state
    obtain ⟨latest,_,shown,ends⟩ := shows.latest (.inr state)
    exact ⟨latest,shown,ends⟩

-- Slots with one and the same start are one.
theorem SlotFacts.only (facts : SlotFacts request source slots schedule) {slot : ℤ} (listed : slot ∈ slots.map ExpectedSlot.scheduledFor) :
    ∃! expected, expected ∈ slots ∧ expected.scheduledFor = slot := by
  obtain ⟨expected,member,rfl⟩ := List.mem_map.mp listed
  refine ⟨expected,⟨member,rfl⟩,?_⟩
  rintro ⟨start,deadline⟩ ⟨held,same⟩
  have own := facts.deadlines expected member
  have other := facts.deadlines _ held
  cases expected
  simp only at same own other
  rw [own,other,same]

theorem derived_texts {prefixes : List String} {pages reads : Fields} {since through : ℤ} {aborted : Bool} {coverage : PageCoverage}
    (low : kit.clock.instant (kit.clock.iso since) = .ok since) (high : kit.clock.instant (kit.clock.iso through) = .ok through)
    (derived : deriveCoverage kit.kit kit.clock kit.context prefixes pages reads (.str (kit.clock.iso since)) (.str (kit.clock.iso through))
      aborted = .ok coverage) : coverage.start = kit.clock.iso since ∧ coverage.through = kit.clock.iso through := by
  obtain ⟨start,begins,derived⟩ := bind_ok.mp derived
  cases begins.symm.trans low
  obtain ⟨stop,ends,derived⟩ := bind_ok.mp derived
  cases ends.symm.trans high
  obtain ⟨_,_,derived⟩ := bind_ok.mp derived
  obtain ⟨_,_,derived⟩ := bind_ok.mp derived
  obtain ⟨_,_,derived⟩ := bind_ok.mp derived
  cases return_ok.mp derived
  exact ⟨rfl,rfl⟩

-- A name that was found is one of those that a complete listing lists.
theorem tracked_listed {reads : PageReads} {reports : Fields} {through : ℤ} {aborted : Bool} {name : String}
    (tracked : Tracked request.requiredPrefixes past reads)
    (complete : CompleteListing kit.kit kit.clock kit.context request.requiredPrefixes reads.pages reports through aborted)
    (member : name ∈ reads.found) : name ∈ listedNames reads.pages request.requiredPrefixes := by
  obtain ⟨lead,required,fields,_,⟨items,item,listed,inside,named,under⟩,raw,token,stored,kept⟩ := tracked.found name member
  obtain ⟨values,chain,pages⟩ := complete.chains lead required
  have shown : sequence (prefixPages reads.pages lead) = some raw := by
    unfold Fields.get at stored
    unfold prefixPages
    cases looked : reads.pages.lookup lead with
    | none =>
      rw [looked] at stored
      cases stored
    | some value =>
      rw [looked,Option.getD_some] at stored
      rw [Option.getD_some,stored]
      rfl
  cases pages.listed.symm.trans shown
  have page : readPage (.dict (fields.set "request_token" token)) =
      some ⟨Fields.get (fields.set "request_token" token) "request_token",items,Fields.get (fields.set "request_token" token) "nextPageToken"⟩ := by
    have stated : Fields.get (fields.set "request_token" token) "items" = .list items :=
      (Fields.get_set_other fields token (by decide)).trans listed
    unfold readPage
    simp only [stated]
  have read := List.mem_filterMap.mpr ⟨_,kept,page⟩
  have own := (pages.full _ (readsPages_filterMap pages.reads ▸ read)).listed item inside
  have same : listedName lead item = some name := by
    obtain ⟨other,found⟩ := Option.isSome_iff_exists.mp own
    rw [found]
    unfold listedName at found
    rw [named] at found
    exact (Option.filter_eq_some_iff.mp found).1.symm ▸ rfl
  unfold listedNames
  refine List.mem_flatMap.mpr ⟨lead,required,?_⟩
  unfold prefixNames
  rw [shown,Option.getD_some]
  exact List.mem_flatMap.mpr ⟨_,read,List.mem_filterMap.mpr ⟨item,inside,same⟩⟩

-- A report of a complete collection was over by the end of the interval.
theorem finished_through {reads : PageReads} {reports report : Fields} {names : List String} {through finished : ℤ} {aborted : Bool} {name : String}
    (tracked : Tracked request.requiredPrefixes past reads) (known : ∀ name ∈ names, name ∈ reads.found) (read : ReportsRead names past reports)
    (complete : CompleteListing kit.kit kit.clock kit.context request.requiredPrefixes reads.pages reports through aborted)
    (member : (name,.dict report) ∈ reports) (ended : instantOf kit.clock (report.get "finished_at") = .ok finished) : finished ≤ through := by
  have listed := tracked_listed tracked complete (known name (read.read name report member).1)
  have passed := complete.receipts name listed
  have own : reports.get name = .dict report := by
    unfold Fields.get
    rw [lookup_of_mem read.nodup member]
    rfl
  rw [own] at passed
  unfold receiptPasses at passed
  simp only at passed
  split at passed
  · rename_i receipt accepted
    obtain ⟨_,_,stop,_,timed,_,past,_⟩ := reportReceipt_ok.mp accepted
    cases timed.ends.symm.trans ended
    exact past
  · split at passed
    · cases passed
    · cases passed

section payload

variable {reads : PageReads} {reports : Fields} {names : List String} {coverage : PageCoverage} {observations : List Observation} {aborted errors : Bool}

-- Everything a payload is projected from
structure Assembled (kit : CollectorKit) (request : CollectRequest) (past : List CollectorEvent) (slots : List ExpectedSlot)
    (schedule : ExpectedSchedule) (reads : PageReads) (names : List String) (reports : Fields) (coverage : PageCoverage)
    (observations : List Observation) (aborted errors : Bool) : Prop where
  tracked : Tracked request.requiredPrefixes past reads
  known : ∀ name ∈ names, name ∈ reads.found
  read : ReportsRead names past reports
  derived : deriveCoverage kit.kit kit.clock kit.context request.requiredPrefixes reads.pages reports
    (.str (kit.clock.iso request.since)) (.str (kit.clock.iso request.through)) aborted = .ok coverage
  observed : (reports.map Prod.snd).foldlM (observeReport kit (slots.map ExpectedSlot.scheduledFor) schedule.nextDueAt request.now)
    ([],coverage.errorsPresent) = .ok (observations,errors)

theorem Assembled.placed (assembled : Assembled kit request past slots schedule reads names reports coverage observations aborted errors)
    {item : Observation} (member : item ∈ observations) : ∃ name report, (name,.dict report) ∈ reports ∧ item.report = withoutInvocation report ∧
      placeReport kit (slots.map ExpectedSlot.scheduledFor) schedule.nextDueAt request.now item.report = .ok item.scheduledFor := by
  rcases (observed_reports assembled.observed).2 item member with none | ⟨report,listed,same,placed⟩
  · cases none
  · obtain ⟨⟨name,value⟩,held,rfl⟩ := List.mem_map.mp listed
    exact ⟨name,report,held,same,placed⟩

theorem Assembled.complete (assembled : Assembled kit request past slots schedule reads names reports coverage observations aborted errors)
    (judged : coverageComplete kit.clock { coverage with errorsPresent := errors } = .ok true) : coverageComplete kit.clock coverage = .ok true := by
  have clear : errors = false := by
    obtain ⟨_,_,rest⟩ := bind_ok.mp judged
    obtain ⟨_,_,rest⟩ := bind_ok.mp rest
    obtain ⟨_,_,rest⟩ := bind_ok.mp rest
    have flags := return_ok.mp rest
    simp only [Bool.and_eq_true,Bool.not_eq_true'] at flags
    exact flags.1.1.2
  have same : coverage.errorsPresent = false := (observed_reports assembled.observed).1 clear
  rw [clear,← same] at judged
  exact judged

theorem Assembled.fits {cycle : Cycle} (assembled : Assembled kit request past slots schedule reads names reports coverage observations aborted errors)
    (ordered : request.since ≤ request.through ∧ request.through ≤ request.now) (facts : SlotFacts request source slots schedule)
    (checked : cycle.outcome = "missing_report" ↔ cycle.receiptRef = none)
    (row : RowOf kit { coverage with errorsPresent := errors } source.grace request.now observations cycle) :
    ∃ slot, CycleFits kit request past source slots schedule { coverage with errorsPresent := errors } cycle slot := by
  have low : kit.clock.instant (kit.clock.iso request.since) = .ok request.since := readable_within ordered.2 le_rfl ordered.1
  have high : kit.clock.instant (kit.clock.iso request.through) = .ok request.through := readable_within ordered.2 ordered.1 le_rfl
  obtain ⟨start,stop⟩ := derived_texts low high assembled.derived
  cases row with
  | observed item member made =>
    obtain ⟨name,report,held,same,placed⟩ := assembled.placed member
    have listed := placeReport_mem placed
    obtain ⟨slot,own,begins⟩ := List.mem_map.mp listed
    have within := facts.within slot own
    rw [begins] at within
    obtain ⟨given,read⟩ := assembled.read.read name report held
    obtain ⟨finished,ends,shown,late,seen⟩ := made.completed
    refine ⟨item.scheduledFor,?_,within,?_,?_,?_⟩
    · rw [made.scheduled]
      exact readable_within ordered.2 within.1 within.2
    · intro text stated
      rw [shown,Option.mem_some] at stated
      subst stated
      refine ⟨finished,instantOf_iso ends,late,seen,?_⟩
      intro judged
      obtain ⟨_,through,_,closes,_,_,_,_,listing⟩ := complete_listing assembled.derived (assembled.complete judged)
      cases closes.symm.trans high
      rw [same,withoutInvocation_get (by decide)] at ends
      exact finished_through assembled.tracked assembled.known assembled.read listing held ends
    · intro _
      obtain ⟨lead,required,fields,page,named,_⟩ := assembled.tracked.found name (assembled.known name given)
      rw [same] at placed
      refine ⟨facts.only listed,name,report,⟨⟨lead,required,fields,page,named⟩,read⟩,placed,?_⟩
      rw [← same]
      exact made.projected
    · intro missing
      exact absurd (checked.mp missing) made.receipt
  | missing slot made =>
    obtain ⟨judged,first,last,begins,ends,low',high'⟩ := coverageReaches_ok made.reached
    rw [show ({ coverage with errorsPresent := errors } : PageCoverage).start = kit.clock.iso request.since from start] at begins
    rw [show ({ coverage with errorsPresent := errors } : PageCoverage).through = kit.clock.iso request.through from stop] at ends
    cases begins.symm.trans low
    cases ends.symm.trans high
    have late := low' slot rfl
    have early := high' _ rfl
    have grace := facts.grace
    refine ⟨slot,?_,⟨late,by omega⟩,?_,?_,fun _ => ⟨judged,early⟩⟩
    · rw [made.scheduled]
      exact readable_within ordered.2 late (by omega)
    · intro text stated
      rw [made.bare.2] at stated
      cases stated
    · intro given
      exact absurd made.bare.1 given

end payload

-- What a result owes to its run: without a payload the checkpoint is as it was, and a payload respects its interval.
def HonoursInterval (kit : CollectorKit) (request : CollectRequest) (events : List CollectorEvent) (source : AdmittedSource) (slots : List ExpectedSlot)
    (schedule : ExpectedSchedule) (result : Collected) : Prop :=
  (result.cycleHealth = none → result.checkpoint = .preserved request.checkpoint) ∧
    ∀ health, result.cycleHealth = some health → Respects kit request events source slots schedule health

theorem answers_blocked (reason status : String) : HonoursInterval kit request events source slots schedule (request.blocked reason status) :=
  ⟨fun _ => rfl,fun _ impossible => nomatch impossible⟩

theorem CycleFits.stays {coverage : PageCoverage} {cycle : Cycle} {slot : ℤ} (fits : CycleFits kit request past source slots schedule coverage cycle slot) :
    CycleFits kit request (past ++ events) source slots schedule coverage cycle slot where
  scheduled := fits.scheduled
  within := fits.within
  completed := fits.completed
  received given := by
    obtain ⟨only,name,report,read,rest⟩ := fits.received given
    exact ⟨only,name,report,read.stays,rest⟩
  missing := fits.missing

theorem finish_answers {started : ℚ} {reads : PageReads} {reports : Fields} {names : List String} {cut : Bool} {result : Collected}
    (tracked : Tracked request.requiredPrefixes past reads) (known : ∀ name ∈ names, name ∈ reads.found) (read : ReportsRead names past reports)
    (ordered : request.since ≤ request.through ∧ request.through ≤ request.now) (facts : SlotFacts request source slots schedule)
    (steps : (finish kit request started source slots schedule reads reports cut).Steps held before events (.ok result) after) :
    HonoursInterval kit request (past ++ events) source slots schedule result := by
  unfold finish at steps
  obtain ⟨one,two,coverage,_,rfl,derived,steps⟩ := steps_bind_ok steps
  obtain ⟨three,four,⟨observations,errors⟩,_,rfl,observed,steps⟩ := steps_bind_ok steps
  have assembled : Assembled kit request past slots schedule reads names reports coverage observations (reads.aborted || cut) errors :=
    ⟨tracked,known,read,(steps_fromExcept.mp derived).1.symm,(steps_fromExcept.mp observed).1.symm⟩
  have readable : ∀ item ∈ observations, kit.clock.instant (kit.clock.iso item.scheduledFor) = .ok item.scheduledFor := by
    intro item member
    obtain ⟨_,_,_,_,placed⟩ := assembled.placed member
    obtain ⟨slot,own,begins⟩ := List.mem_map.mp (placeReport_mem placed)
    obtain ⟨late,early⟩ := facts.within slot own
    rw [← begins]
    exact readable_within ordered.2 late early
  obtain ⟨_,_,slow,_,rfl,_,steps⟩ := steps_bind_ok steps
  split at steps
  · rw [(steps_pure_ok steps).2]
    exact answers_blocked _ _
  · obtain ⟨_,_,kept,_,rfl,_,steps⟩ := steps_bind_ok steps
    split at steps
    · rw [(steps_pure_ok steps).2]
      exact answers_blocked _ _
    · obtain ⟨_,_,slow,_,rfl,_,steps⟩ := steps_bind_ok steps
      split at steps
      · rw [(steps_pure_ok steps).2]
        exact answers_blocked _ _
      · obtain ⟨_,_,collected,_,rfl,projected,steps⟩ := steps_bind_ok steps
        obtain ⟨stays,payload⟩ := projectCollection_ok facts.graced facts.deadlines readable (steps_fromExcept.mp projected).1.symm
        split at steps
        · rename_i bare
          rw [(steps_pure_ok steps).2]
          exact ⟨stays,fun health impossible => nomatch bare.symm.trans impossible⟩
        · rename_i health shown
          obtain ⟨_,_,slow,_,rfl,_,steps⟩ := steps_bind_ok steps
          split at steps
          · rw [(steps_pure_ok steps).2]
            exact answers_blocked _ _
          · rw [(steps_pure_ok steps).2]
            refine ⟨stays,?_⟩
            intro record made
            obtain ⟨judged,rows,checked,few⟩ := payload record made
            have low : kit.clock.instant (kit.clock.iso request.since) = .ok request.since := readable_within ordered.2 le_rfl ordered.1
            have high : kit.clock.instant (kit.clock.iso request.through) = .ok request.through := readable_within ordered.2 ordered.1 le_rfl
            obtain ⟨start,stop⟩ := derived_texts low high assembled.derived
            refine ⟨?_,?_,rows.nodup,few⟩
            · rw [judged]
              refine ⟨?_,?_,ordered.2⟩
              · rw [show ({ coverage with errorsPresent := errors } : PageCoverage).start = kit.clock.iso request.since from start]
                exact low
              · rw [show ({ coverage with errorsPresent := errors } : PageCoverage).through = kit.clock.iso request.through from stop]
                exact high
            · intro cycle member
              obtain ⟨slot,fits⟩ := assembled.fits ordered facts (checked cycle member) (rows.each cycle member)
              rw [judged]
              exact ⟨slot,fits.stays⟩

theorem gather_answers {started : ℚ} {result : Collected} (nodup : request.requiredPrefixes.Nodup)
    (ordered : request.since ≤ request.through ∧ request.through ≤ request.now) (facts : SlotFacts request source slots schedule)
    (steps : (gather kit request started source slots schedule).Steps held before events (.ok result) after) :
    HonoursInterval kit request (past ++ events) source slots schedule result := by
  unfold gather at steps
  obtain ⟨one,two,reads,_,rfl,listed,steps⟩ := steps_bind_ok steps
  obtain ⟨three,four,reports,_,rfl,taken,steps⟩ := steps_bind_ok steps
  have tracked : Tracked ([] ++ request.requiredPrefixes) (past ++ one) reads :=
    listPrefixes_tracked listed ⟨(fun _ impossible => nomatch impossible),.nil⟩ nodup fun _ _ impossible => nomatch impossible
  rw [List.nil_append] at tracked
  cases reports with
  | late =>
    rw [(steps_pure_ok steps).2]
    exact answers_blocked _ _
  | read reports cut =>
    have read : ReportsRead ((reads.found.insertionSort (· ≤ ·)).take maxCycles) (past ++ one ++ three) reports := readReports_read taken
      ⟨(fun _ _ impossible => nomatch impossible),.nil⟩ fun _ => id
    have known : ∀ name ∈ (reads.found.insertionSort (· ≤ ·)).take maxCycles, name ∈ reads.found := by
      intro name member
      exact (List.perm_insertionSort _ _).mem_iff.mp (List.mem_of_mem_take member)
    rw [← List.append_assoc,← List.append_assoc]
    exact finish_answers tracked.stays known read ordered facts steps

theorem collectBody_answers {result : Collected} (steps : (collectBody kit request).Steps held before events (.ok result) after) :
    (result.cycleHealth = none → result.checkpoint = .preserved request.checkpoint) ∧
      ∀ health, result.cycleHealth = some health → ∃ source slots schedule, Expected kit request events source slots schedule ∧
        Respects kit request events source slots schedule health := by
  have stopped : ∀ {reason status : String}, result = request.blocked reason status →
      (result.cycleHealth = none → result.checkpoint = .preserved request.checkpoint) ∧
      ∀ health, result.cycleHealth = some health → ∃ source slots schedule, Expected kit request events source slots schedule ∧
        Respects kit request events source slots schedule health := by
    rintro reason status rfl
    exact ⟨fun _ => rfl,fun _ impossible => nomatch impossible⟩
  unfold collectBody at steps
  obtain ⟨one,two,_,_,split,checked,steps⟩ := steps_bind_ok steps
  obtain ⟨scope,_,quiet⟩ := steps_fromExcept.mp checked
  have valid := require_ok.mp scope.symm
  rw [← scope] at quiet
  rw [quiet,List.nil_append] at split
  obtain ⟨three,four,started,_,parted,asked,steps⟩ := steps_bind_ok steps
  obtain ⟨first,_⟩ := steps_invoke.mp asked
  obtain ⟨five,six,served,_,again,read,steps⟩ := steps_bind_ok steps
  obtain ⟨second,_⟩ := steps_invoke.mp read
  obtain ⟨seven,eight,slow,_,rest,_,steps⟩ := steps_bind_ok steps
  split at steps
  · exact stopped (steps_pure_ok steps).2
  · obtain ⟨nine,ten,source,_,more,admission,steps⟩ := steps_bind_ok steps
    obtain ⟨admitted,_,_⟩ := steps_fromExcept.mp admission
    split at steps
    · exact stopped (steps_pure_ok steps).2
    · split at steps
      · exact stopped (steps_pure_ok steps).2
      · rename_i slots schedule ready
        have facts := ready_slots ready
        have whole : events = (three ++ (five ++ (seven ++ nine))) ++ ten := by
          rw [split,parted,again,rest,more]
          simp only [List.append_assoc]
        have answers : HonoursInterval kit request ((three ++ (five ++ (seven ++ nine))) ++ ten) source slots schedule _ :=
          gather_answers valid.2.2.2.2.1 ⟨valid.1,valid.2.1⟩ facts steps
        rw [← whole] at answers
        refine ⟨answers.1,?_⟩
        intro health shown
        refine ⟨source,slots,schedule,⟨⟨held,started,served,seven ++ (nine ++ ten),?_,admitted.symm⟩,ready⟩,answers.2 health shown⟩
        rw [whole,first,second]
        simp only [List.append_assoc,List.cons_append,List.nil_append]

-- Every result without a payload leaves the checkpoint as it was given, and every payload respects its coverage
-- interval; a cycle ends within it wherever the coverage is complete.
theorem collected_payloads_respect_their_interval {result : Collected}
    (steps : (collectRuntimeCycleHealth kit request).Steps held before events (.ok result) after) :
    (result.cycleHealth = none → result.checkpoint = .preserved request.checkpoint) ∧
      ∀ health, result.cycleHealth = some health → ∃ source slots schedule, Expected kit request events source slots schedule ∧
        Respects kit request events source slots schedule health := by
  unfold collectRuntimeCycleHealth at steps
  obtain ⟨one,two,answer,_,rfl,attempted,steps⟩ := steps_bind_ok steps
  obtain ⟨reply,same,body⟩ := steps_attempt.mp attempted
  cases same
  cases answer with
  | ok collected =>
    obtain ⟨rfl,rfl⟩ := steps_pure_ok steps
    rw [List.append_nil]
    exact collectBody_answers body
  | error error =>
    dsimp only at steps
    split at steps
    · rw [(steps_pure_ok steps).2]
      exact ⟨fun _ => rfl,fun _ impossible => nomatch impossible⟩
    · rw [(steps_pure_ok steps).2]
      exact ⟨fun _ => rfl,fun _ impossible => nomatch impossible⟩

end collection

section samples

-- `value.replace("Z","+00:00")`
def withOffset (text : String) : String :=
  String.ofList (text.toList.flatMap fun char => if char = 'Z' then ['+','0','0',':','0','0'] else [char])

-- `_iso`: the text of an instant in UTC, with a Z for its offset
def zuluText (instant : ℤ) : String :=
  String.ofList ((dateText (utcOrdinal instant)).toList ++ 'T' :: ((LongBridge.utcClock instant).text ++ ['Z']))

-- `_instant`
def readInstant (text : String) : Except PyExc ℤ :=
  match fromisoformat (withOffset text) with
  | some ⟨wall,some offset⟩ =>
    if 0 ≤ wall - offset ∧ wall - offset < lastInstant then .ok (wall - offset) else .error ⟨"OverflowError","date value out of range"⟩
  | some ⟨_,none⟩ => .error (valueError "instant needs timezone")
  | none => .error (valueError "Invalid isoformat string")

theorem withOffset_zulu (instant : ℤ) : withOffset (zuluText instant) = isoformat instant := by
  have keeps : ∀ {chars : List Char}, (∀ char ∈ chars, char ≠ 'Z') →
      (chars.flatMap fun char => if char = 'Z' then ['+','0','0',':','0','0'] else [char]) = chars := by
    intro chars plain
    induction chars with
    | nil => rfl
    | cons char rest ih =>
      obtain ⟨own,later⟩ := List.forall_mem_cons.mp plain
      rw [List.flatMap_cons,if_neg own,ih later,List.singleton_append]
  have apart : ∀ {char : Char}, startsZone char = false → char ≠ 'Z' := by
    rintro char plain rfl
    exact absurd plain (by decide)
  have date : ∀ char ∈ (dateText (utcOrdinal instant)).toList, char ≠ 'Z' := by
    intro char member
    rw [dateText_chars] at member
    simp only [List.mem_append,List.mem_cons] at member
    rcases member with year | rfl | month | rfl | day
    · exact apart (padded_plain _ _ _ year)
    · decide
    · exact apart (padded_plain _ _ _ month)
    · decide
    · exact apart (padded_plain _ _ _ day)
  have time : ∀ char ∈ (LongBridge.utcClock instant).text, char ≠ 'Z' :=
    fun char member => apart (by simpa using text_plain _ char member)
  unfold withOffset zuluText isoformat
  rw [String.toList_ofList,List.flatMap_append,List.flatMap_cons,List.flatMap_append,keeps date,keeps time]
  rfl

theorem readInstant_zulu {instant : ℤ} (positive : 0 ≤ instant) (bound : instant < lastInstant) : readInstant (zuluText instant) = .ok instant := by
  unfold readInstant
  rw [withOffset_zulu,fromisoformat_isoformat positive bound]
  dsimp only
  rw [sub_zero,if_pos ⟨positive,bound⟩]

def zuluClock : CycleHealth.Clock where
  instant := readInstant
  iso := zuluText
  reads_back {text time} read := by
    unfold readInstant at read
    split at read
    · split at read
      · rename_i within
        cases read
        exact readInstant_zulu within.1 within.2
      · cases read
    · cases read
    · cases read

theorem zuluClock_reads {time : ℤ} (positive : 0 ≤ time) (bound : time < lastInstant) : zuluClock.instant (zuluClock.iso time) = .ok time := by
  dsimp only [zuluClock]
  exact readInstant_zulu positive bound

def quietKit : CycleHealth.Kit where
  digest _ := "ac585b8b53d34bf16a5cc4cca125fd0452e5053d4bd1d42b3803f169e8183703"
  executionReceiptOutcomes := ["failed","filled","no_action","no_signal","risk_blocked"]

-- 10 and 59 minutes past 14 and 15 o'clock
def fourTimes (wall : ℤ) : Bool :=
  [14,15].contains (wall % daySpan / hourSpan) && [10,59].contains (wall % hourSpan / minuteSpan)

def collectorTarget : Fields :=
  [("market_timezone",.str "UTC"),("market_calendar",.str "NYSE"),
    ("scheduler",.dict [("main_time",.str "10,59 14,15 * * *"),("timezone",.str "UTC")])]

def utcExpectations : ExpectationKit where
  zones name := if name = "UTC" then some Zone.utc else none
  plain name zone known := by
    split at known
    · rename_i same
      subst same
      decide
    · cases known
  cronMatches := fourTimes
  sessionDates _ _ _ := .dates [739894]

-- A collector with one source, which it always admits
def sampleCollector : CollectorKit where
  kit := sampleKit
  health := quietKit
  clock := zuluClock
  context := sampleContext
  reads _ := zuluClock_reads
  admitSource _ _ := .ok ⟨collectorTarget,"material",30 * minuteSpan⟩
  expectations _ := utcExpectations
  jsonSize _ := .ok 1
  cycleDigest cycle := cycle.scheduledFor
  projectResolution _ _ _ _ := .error (valueError "not an incident")
  readState _ := .error (valueError "invalid checkpoint")

def sampleStart : ℤ := 63926809140000000

-- The interval ends a minute behind its slot of 14:59, and the collector runs at 15:08.
def sampleCollection : CollectRequest where
  since := sampleStart
  now := sampleStart + 9 * minuteSpan
  begun := by decide
  ended := by decide
  coverageThrough := some (sampleStart + minuteSpan)
  requiredPrefixes := ["runs/"]
  listRanges := none
  readsRanges := false
  expectedWindow := none
  checkpoint := none
  recoveryRequests := []
  maxSeconds := 20

def sampleSource : AdmittedSource := ⟨collectorTarget,"material",30 * minuteSpan⟩

def samplePlan : ExpectationPlan := ⟨Zone.utc,Zone.utc,[739894]⟩

def sampleSlots : List ExpectedSlot := [⟨sampleStart,sampleStart + 30 * minuteSpan⟩]

def sampleSchedule : ExpectedSchedule :=
  ⟨"within_grace","publication_grace_open","UTC",some sampleStart,sampleStart + 11 * minuteSpan,some (sampleStart + 30 * minuteSpan)⟩

theorem sample_planned : Planned utcExpectations collectorTarget (expectationRequest sampleCollection (30 * minuteSpan)) samplePlan where
  zone := rfl
  market := rfl
  valid := by decide
  near := by decide
  fields := by decide
  calendar := by decide
  present := ⟨_,rfl⟩
  horizon := rfl
  sessions := rfl

theorem sample_ready : Schedule.enumerateCycleExpectations utcExpectations collectorTarget (expectationRequest sampleCollection (30 * minuteSpan)) =
    .ready sampleSlots sampleSchedule := by
  rw [enumerate_told (told_ready _ _),planned_expect sample_planned]
  have due : findDue utcExpectations samplePlan (minutesFrom (sampleStart + 10 * minuteSpan) (sampleStart + 9 * minuteSpan + 366 * daySpan)) =
      .ok (some (sampleStart + 11 * minuteSpan)) := by
    rw [minutesFrom_cons (by decide),minutesFrom_cons (by decide)]
    rfl
  have today : classifyToday utcExpectations collectorTarget (expectationRequest sampleCollection (30 * minuteSpan)) samplePlan none =
      .ok ⟨"within_grace","publication_grace_open",some sampleStart,none,some (sampleStart + 30 * minuteSpan)⟩ := by
    decide +kernel
  refine bind_ok.mpr ⟨.all sampleSlots,rfl,bind_ok.mpr ⟨sampleStart + 10 * minuteSpan,by decide,bind_ok.mpr ⟨_,due,?_⟩⟩⟩
  exact bind_ok.mpr ⟨none,rfl,bind_ok.mpr ⟨_,today,rfl⟩⟩

-- A run of the collector, from the run of its reads and of what follows them
theorem collect_steps {kit : CollectorKit} {request : CollectRequest} {source : AdmittedSource} {slots : List ExpectedSlot}
    {schedule : ExpectedSchedule} {first : PyVal} {started moment : ℚ} {events : List CollectorEvent} {result : Collected} {held : Bool}
    (scope : validScope request) (admitted : kit.admitSource kit.context first = .ok source) (fit : checkpointFault kit request = none)
    (ready : Schedule.enumerateCycleExpectations (kit.expectations source.target) source.target (expectationRequest request source.grace) =
      .ready slots schedule) (quick : moment - started ≤ request.maxSeconds)
    (steps : (gather kit request started source slots schedule).Steps true () events (.ok result) ()) :
    (collectRuntimeCycleHealth kit request).Steps held () (.answered true .monotonic (.ok started) :: .answered true .readSource (.ok first) ::
      .answered true .monotonic (.ok moment) :: events) (.ok result) () := by
  unfold collectRuntimeCycleHealth
  refine steps_bind.mpr (.inl ⟨_,[],.ok result,(),(List.append_nil _).symm,steps_attempt.mpr ⟨.ok result,rfl,?_⟩,
    steps_pure.mpr ⟨rfl,rfl,rfl⟩⟩)
  unfold collectBody
  refine steps_fromExcept_bind.mpr (.inl ⟨(),require_ok.mpr scope,?_⟩)
  refine steps_invoke_bind.mpr (.inl ⟨started,_,rfl,?_⟩)
  refine steps_invoke_bind.mpr (.inl ⟨first,_,rfl,?_⟩)
  have soon : (late request started).Steps true () [.answered true .monotonic (.ok moment)] (.ok false) () := by
    unfold late
    refine steps_invoke_bind.mpr (.inl ⟨moment,[],rfl,steps_pure.mpr ⟨rfl,?_,rfl⟩⟩)
    rw [decide_eq_false (not_lt.mpr quick)]
  refine steps_bind.mpr (.inl ⟨[.answered true .monotonic (.ok moment)],events,false,(),rfl,soon,?_⟩)
  rw [if_neg Bool.false_ne_true]
  refine steps_fromExcept_bind.mpr (.inl ⟨source,admitted,?_⟩)
  rw [fit,ready]
  exact steps

-- Two copies of one report, which ran from 15:00 to 15:01
def copiedReports : World collectorPorts PyExc := fun _ call =>
  match call with
  | .monotonic => .ok (0 : ℚ)
  | .readSource => .ok (.dict [])
  | .listPage _ _ _ => .ok (.dict [("items",.list [.dict [("name",.str "runs/a.json")],.dict [("name",.str "runs/b.json")]])])
  | .readReport _ => .ok (.dict (sampleReport idleCycle "no_signal"))

def copiedRun : List CollectorEvent × Except PyExc Collected × Unit :=
  play copiedReports [] ((gather sampleCollector sampleCollection 0 sampleSource sampleSlots sampleSchedule).run true ())

def copiedCycle : Cycle where
  cycleId := "cycle.ac585b8b53d34bf16a5cc4cca125fd0452e5053d4bd1d42b3803f169e8183703"
  scheduledFor := "2026-10-05T14:59:00Z"
  receiptRef := some "execution-receipt.0123456789abcdef0123456789abcdef"
  completedAt := some "2026-10-05T15:01:00Z"
  outcome := "no_signal"
  executionState := "no_submission"
  correlation := "window_matched"

def shownCycles (result : Except PyExc Collected) : Option (List Cycle) :=
  result.toOption.bind fun collected => collected.cycleHealth.map HealthRecord.cycles

def copiedEvents : List CollectorEvent :=
  .answered true .monotonic (.ok (0 : ℚ)) :: .answered true .readSource (.ok (.dict [])) :: .answered true .monotonic (.ok (0 : ℚ)) :: copiedRun.1

-- Whether a report that was read under a name gives a cycle
def givesCycle (name : String) (cycle : Cycle) (event : CollectorEvent) : Bool :=
  match event with
  | .answered true (.readReport other) (.ok (.dict report)) => other == name &&
      decide ((projectCycle sampleKit quietKit zuluClock sampleContext (withoutInvocation report) (zuluText sampleStart)
        sampleCollection.now).toOption = some cycle)
  | _ => false

theorem givesCycle_read {name : String} {cycle : Cycle} {events : List CollectorEvent} (given : events.any (givesCycle name cycle) = true) :
    ∃ report, .answered true (.readReport name) (.ok (.dict report)) ∈ events ∧
      projectCycle sampleKit quietKit zuluClock sampleContext (withoutInvocation report) (zuluText sampleStart) sampleCollection.now = .ok cycle := by
  obtain ⟨event,member,given⟩ := List.any_eq_true.mp given
  unfold givesCycle at given
  split at given
  · rename_i other report
    rw [Bool.and_eq_true,beq_iff_eq,decide_eq_true_eq] at given
    obtain ⟨rfl,made⟩ := given
    refine ⟨report,member,?_⟩
    cases projected : projectCycle sampleKit quietKit zuluClock sampleContext (withoutInvocation report) (zuluText sampleStart)
      sampleCollection.now with
    | ok found =>
      rw [projected] at made
      cases made
      rfl
    | error error =>
      rw [projected] at made
      cases made
  · cases given

theorem copied_facts : shownCycles copiedRun.2.1 = some [copiedCycle] ∧
    (["runs/a.json","runs/b.json"].all fun name => copiedEvents.any (givesCycle name copiedCycle)) = true := by decide +kernel

theorem copied_collection : ∃ result health,
    (collectRuntimeCycleHealth sampleCollector sampleCollection).Steps false () copiedEvents (.ok result) () ∧
      result.cycleHealth = some health ∧ health.cycles = [copiedCycle] := by
  have shown := copied_facts.1
  have ran : (gather sampleCollector sampleCollection 0 sampleSource sampleSlots sampleSchedule).Steps true () copiedRun.1 copiedRun.2.1 () :=
    play_runs copiedReports [] _
  unfold shownCycles at shown
  cases ended : copiedRun.2.1 with
  | error error =>
    rw [ended] at shown
    cases shown
  | ok result =>
    rw [ended] at shown ran
    obtain ⟨health,made,cycles⟩ := Option.map_eq_some_iff.mp (show result.cycleHealth.map HealthRecord.cycles = some [copiedCycle] from shown)
    exact ⟨result,health,collect_steps (by decide) rfl rfl sample_ready (by norm_num [sampleCollection]) ran,made,cycles⟩

-- A payload has a cycle that ends behind its coverage interval, and one cycle of two listed reports.
theorem late_copies_are_projected :
    (¬∀ (kit : CollectorKit) (request : CollectRequest) (events : List CollectorEvent) (result : Collected) (health : HealthRecord),
      (collectRuntimeCycleHealth kit request).Steps false () events (.ok result) () → result.cycleHealth = some health →
      ∀ cycle ∈ health.cycles, ∀ text ∈ cycle.completedAt, ∃ completed, kit.clock.instant text = .ok completed ∧ completed ≤ request.through) ∧
    ∃ result health, (collectRuntimeCycleHealth sampleCollector sampleCollection).Steps false () copiedEvents (.ok result) () ∧
      result.cycleHealth = some health ∧ ∃ cycle ∈ health.cycles, ∀ name ∈ ["runs/a.json","runs/b.json"], ∃ report,
        .answered true (.readReport name) (.ok (.dict report)) ∈ copiedEvents ∧
          projectCycle sampleKit quietKit zuluClock sampleContext (withoutInvocation report) (zuluText sampleStart) sampleCollection.now =
            .ok cycle := by
  obtain ⟨result,health,ran,made,cycles⟩ := copied_collection
  refine ⟨?_,result,health,ran,made,copiedCycle,by rw [cycles]; exact List.mem_cons_self,?_⟩
  · intro claimed
    obtain ⟨completed,read,early⟩ := claimed sampleCollector sampleCollection copiedEvents result health ran made copiedCycle
      (by rw [cycles]; exact List.mem_cons_self) "2026-10-05T15:01:00Z" rfl
    have known : sampleCollector.clock.instant "2026-10-05T15:01:00Z" = .ok (sampleStart + 2 * minuteSpan) := by decide +kernel
    have same : sampleStart + 2 * minuteSpan = completed := Except.ok.inj (known.symm.trans read)
    have bound : completed ≤ sampleStart + minuteSpan := early
    unfold minuteSpan at same bound
    omega
  · intro name member
    exact givesCycle_read (List.all_eq_true.mp copied_facts.2 name member)

-- The run of the two copies has a payload that respects its interval all the same, as it is not complete.
theorem copied_collection_respects : ∃ result health,
    (collectRuntimeCycleHealth sampleCollector sampleCollection).Steps false () copiedEvents (.ok result) () ∧
      result.cycleHealth = some health ∧ ∃ source slots schedule, Expected sampleCollector sampleCollection copiedEvents source slots schedule ∧
        Respects sampleCollector sampleCollection copiedEvents source slots schedule health := by
  obtain ⟨result,health,ran,made,_⟩ := copied_collection
  exact ⟨result,health,ran,made,(collected_payloads_respect_their_interval ran).2 health made⟩

end samples

end LongBridge.Reporting
