import LongBridge.Guard.Collection
import LongBridge.Guard.Suppression
import LongBridge.Python.Symbols

namespace LongBridge.Guard
open Effects

section queries

variable {settings : GuardSettings} {gcloud : LogFilter → List GcloudResult} {log : List LogEntry} {limit : ℕ} {filter : LogFilter}
  {entry : LogEntry}

def timeOf (entry : LogEntry) : ℤ := (parseTimestamp entry.timestamp).getD 0

-- Every query succeeds with the newest entries that its filter admits, as many as the limit allows.
def AnswersNewest (settings : GuardSettings) (gcloud : LogFilter → List GcloudResult) (log : List LogEntry) (limit : ℕ) : Prop :=
  ∀ filter : LogFilter, ∃ ordered : List LogEntry, ordered.Perm (log.filter filter.admits) ∧ (ordered.Pairwise fun one two => timeOf two ≤ timeOf one) ∧
    loggingQuery settings gcloud filter = .ok (ordered.take limit)

-- The entry is among the newest that the filter admits, whatever the order of those that are as old.
def WithinLimit (log : List LogEntry) (limit : ℕ) (filter : LogFilter) (entry : LogEntry) : Prop :=
  (log.filter fun other => filter.admits other && timeOf entry ≤ timeOf other).length ≤ limit

theorem mem_take_newest {ordered : List LogEntry} (newest : ordered.Pairwise fun one two => timeOf two ≤ timeOf one) (member : entry ∈ ordered)
    (few : (ordered.filter fun other => timeOf entry ≤ timeOf other).length ≤ limit) : entry ∈ ordered.take limit := by
  rw [← List.take_append_drop limit ordered] at newest member few
  rcases List.mem_append.mp member with early | late
  · exact early
  · -- all that is taken is at least as new, so there would be one entry too many
    obtain ⟨_,_,across⟩ := List.pairwise_append.mp newest
    have long : limit ≤ ordered.length := by
      by_contra short
      rw [List.drop_of_length_le (by omega)] at late
      cases late
    have taken : (ordered.take limit).filter (fun other => timeOf entry ≤ timeOf other) = ordered.take limit := by
      apply List.filter_eq_self.mpr
      intro other inside
      exact decide_eq_true (across other inside entry late)
    have one : 0 < ((ordered.drop limit).filter fun other => timeOf entry ≤ timeOf other).length :=
      List.length_pos_of_mem (List.mem_filter.mpr ⟨late,decide_eq_true le_rfl⟩)
    rw [List.filter_append,taken,List.length_append,List.length_take,min_eq_left long] at few
    omega

-- An entry within the limit is read.
theorem query_reads (answers : AnswersNewest settings gcloud log limit) (filter : LogFilter) : ∃ entries,
    loggingQuery settings gcloud filter = .ok entries ∧ (∀ entry ∈ entries, entry ∈ log ∧ filter.admits entry = true) ∧
      ∀ entry ∈ log, filter.admits entry = true → WithinLimit log limit filter entry → entry ∈ entries := by
  obtain ⟨ordered,same,newest,read⟩ := answers filter
  refine ⟨ordered.take limit,read,?_,?_⟩
  · intro entry member
    exact List.mem_filter.mp (same.mem_iff.mp (List.mem_of_mem_take member))
  · intro entry member admitted within
    apply mem_take_newest newest (same.mem_iff.mpr (List.mem_filter.mpr ⟨member,admitted⟩))
    rw [(same.filter _).length_eq,List.filter_filter]
    unfold WithinLimit at within
    simpa only [Bool.and_comm] using within

theorem selectOk_mem {test : LogEntry → Except PyExc Bool} {items chosen : List LogEntry} (selected : selectOk test items = .ok chosen) :
    entry ∈ chosen ↔ entry ∈ items ∧ test entry = .ok true := by
  induction items generalizing chosen with
  | nil =>
    cases selected
    simp
  | cons item rest ih =>
    obtain ⟨taken,tested,selected⟩ := bind_ok.mp selected
    obtain ⟨others,later,selected⟩ := bind_ok.mp selected
    have same := return_ok.mp selected
    have known := ih later
    cases taken with
    | true =>
      rw [if_pos rfl] at same
      subst same
      rw [List.mem_cons,List.mem_cons,known]
      constructor
      · rintro (rfl | ⟨inside,hit⟩)
        · exact ⟨.inl rfl,tested⟩
        · exact ⟨.inr inside,hit⟩
      · rintro ⟨rfl | inside,hit⟩
        · exact .inl rfl
        · exact .inr ⟨inside,hit⟩
    | false =>
      rw [if_neg (by decide)] at same
      subst same
      rw [known,List.mem_cons]
      constructor
      · rintro ⟨inside,hit⟩
        exact ⟨.inr inside,hit⟩
      · rintro ⟨rfl | inside,hit⟩
        · rw [tested] at hit
          cases hit
        · exact ⟨inside,hit⟩

end queries

section services

variable {settings : GuardSettings} {gcloud : LogFilter → List GcloudResult} {log : List LogEntry} {limit : ℕ}
  {services configuration : List String} {collected : Collected} {service : String} {entry : LogEntry}

-- A failure entry of a service that the guard watches, since its log start
structure CloudRunFailure (settings : GuardSettings) (log : List LogEntry) (service : String) (entry : LogEntry) : Prop where
  logged : entry ∈ log
  admitted : (cloudRunLogFilter settings service (cloudRunLogSince settings service)).admits entry = true
  failed : isFailure settings entry = .ok true

-- What the guard holds once it has asked for some of the services
structure Gathered (settings : GuardSettings) (log : List LogEntry) (limit : ℕ) (services : List String) (collected : Collected) : Prop where
  sinces : collected.sinces = services.map fun service => (service,cloudRunLogSince settings service)
  seen : ∀ service ∈ services, ∀ entry, CloudRunFailure settings log service entry →
    WithinLimit log limit (cloudRunLogFilter settings service (cloudRunLogSince settings service)) entry → eventId settings entry ∈ collected.events
  kept : ∀ listed ∈ collected.failures, listed.1 ∈ services ∧
    ∀ entry ∈ listed.2, CloudRunFailure settings log listed.1 entry ∧ eventId settings entry ∈ collected.events
  loud : collected.issues = [] → collected.events = []

theorem collectService_gathers (answers : AnswersNewest settings gcloud log limit) {next : Collected}
    (gathered : Gathered settings log limit services collected) (ran : collectService settings gcloud collected service = .ok next) :
    Gathered settings log limit (services ++ [service]) next := by
  obtain ⟨entries,read,inside,reached⟩ := query_reads answers (cloudRunLogFilter settings service (cloudRunLogSince settings service))
  unfold collectService at ran
  dsimp only at ran
  rw [read] at ran
  obtain ⟨failures,selected,ran⟩ := bind_ok.mp ran
  obtain ⟨successes,_,ran⟩ := bind_ok.mp ran
  cases return_ok.mp ran
  obtain ⟨sinces,seen,kept,loud⟩ := gathered
  have grown : ∀ event ∈ collected.events,
      event ∈ if failures = [] then collected.events else collected.events ++ failures.map (eventId settings) := by
    intro event member
    split
    · exact member
    · exact List.mem_append_left _ member
  have own : ∀ entry ∈ failures, eventId settings entry ∈
      if failures = [] then collected.events else collected.events ++ failures.map (eventId settings) := by
    intro entry member
    rw [if_neg (List.ne_nil_of_mem member)]
    exact List.mem_append_right _ (List.mem_map_of_mem member)
  refine ⟨?_,?_,?_,?_⟩
  · rw [List.map_append,sinces]
    rfl
  · intro asked member entry failure within
    rcases List.mem_append.mp member with earlier | last
    · exact grown _ (seen asked earlier entry failure within)
    · rw [List.mem_singleton] at last
      subst last
      exact own entry ((selectOk_mem selected).mpr ⟨reached entry failure.logged failure.admitted within,failure.failed⟩)
  · intro listed member
    rcases List.mem_append.mp member with earlier | last
    · obtain ⟨watched,entries⟩ := kept listed earlier
      refine ⟨List.mem_append_left _ watched,?_⟩
      intro entry held
      exact ⟨(entries entry held).1,grown _ (entries entry held).2⟩
    · rw [List.mem_singleton] at last
      subst last
      refine ⟨List.mem_append_right _ List.mem_cons_self,?_⟩
      intro entry held
      obtain ⟨listed,failed⟩ := (selectOk_mem selected).mp held
      exact ⟨⟨(inside entry listed).1,(inside entry listed).2,failed⟩,own entry held⟩
  · intro quiet
    by_cases none : failures = []
    · rw [if_pos none] at quiet
      show (if failures = [] then _ else _) = _
      rw [if_pos none]
      exact loud quiet
    · rw [if_neg none] at quiet
      exact absurd quiet (by simp)

theorem collectServices_gathers (answers : AnswersNewest settings gcloud log limit) {next : Collected} {rest : List String}
    (gathered : Gathered settings log limit services collected) (ran : rest.foldlM (collectService settings gcloud) collected = .ok next) :
    Gathered settings log limit (services ++ rest) next := by
  induction rest generalizing services collected with
  | nil =>
    rw [List.foldlM_nil,return_ok] at ran
    subst ran
    rwa [List.append_nil]
  | cons service rest ih =>
    rw [List.foldlM_cons,bind_ok] at ran
    obtain ⟨middle,one,later⟩ := ran
    rw [List.append_cons]
    exact ih (collectService_gathers answers gathered one) later

theorem started_gathers : Gathered settings log limit [] ⟨configuration,[],[],[],[]⟩ where
  sinces := rfl
  seen _ member := nomatch member
  kept _ member := nomatch member
  loud _ := rfl

-- A log start of a service that a job belongs to is no later than the entry.
structure SchedulerFailure (settings : GuardSettings) (log : List LogEntry) (services : List String) (entry : LogEntry) : Prop where
  logged : entry ∈ log
  admitted : (schedulerLogFilter settings.since).admits entry = true
  named : ∃ service ∈ services, lastSegment (entryJobName entry) ∈ schedulerJobNames service
  current : ∀ service ∈ services, jobMatchesService (entryJobName entry) service = true → cloudRunLogSince settings service ≤ timeOf entry
  failed : isFailure settings entry = .ok true

-- A failure of a service that the alert names, so close to the entry of its scheduler that this one is left out.
def CoveredBy (settings : GuardSettings) (log : List LogEntry) (services events : List String) (entry : LogEntry) : Prop :=
  ∃ service ∈ services, jobMatchesService (entryJobName entry) service = true ∧ ∃ failure, CloudRunFailure settings log service failure ∧
    |timeOf entry - timeOf failure| ≤ schedulerCloudRunDedup ∧ eventId settings failure ∈ events

theorem foldl_max_bound {bound : ℤ} {first : ℤ} {rest : List ℤ} (small : first ≤ bound) (all : ∀ value ∈ rest, value ≤ bound) :
    rest.foldl max first ≤ bound := by
  induction rest generalizing first with
  | nil => exact small
  | cons value rest ih =>
    obtain ⟨own,others⟩ := List.forall_mem_cons.mp all
    exact ih (max_le small own) others

theorem admits_time {filter : LogFilter} (admitted : filter.admits entry = true) :
    parseTimestamp entry.timestamp = some (timeOf entry) ∧ filter.since ≤ timeOf entry := by
  unfold LogFilter.admits at admitted
  rw [Bool.and_eq_true,Option.any_eq_true] at admitted
  obtain ⟨_,time,read,late⟩ := admitted
  have same : timeOf entry = time := by
    unfold timeOf
    rw [read]
    rfl
  rw [same]
  exact ⟨read,of_decide_eq_true late⟩

theorem schedulerEntrySince_le (gathered : Gathered settings log limit services collected) (failure : SchedulerFailure settings log services entry) :
    schedulerEntrySince entry collected.sinces settings.since ≤ timeOf entry := by
  unfold schedulerEntrySince
  split
  · exact (admits_time failure.admitted).2
  · rename_i first rest listed
    have all : ∀ value ∈ first :: rest, value ≤ timeOf entry := by
      intro value member
      rw [← listed,gathered.sinces] at member
      obtain ⟨pair,inside,rfl⟩ := List.mem_map.mp member
      obtain ⟨listed,matched⟩ := List.mem_filter.mp inside
      obtain ⟨service,watched,rfl⟩ := List.mem_map.mp listed
      exact failure.current service watched matched
    obtain ⟨own,others⟩ := List.forall_mem_cons.mp all
    exact foldl_max_bound own others

theorem duplicate_covered (gathered : Gathered settings log limit services collected) (admitted : (schedulerLogFilter settings.since).admits entry = true)
    (duplicate : isDuplicateSchedulerFailure entry collected.failures = true) : CoveredBy settings log services collected.events entry := by
  unfold isDuplicateSchedulerFailure at duplicate
  rw [(admits_time admitted).1] at duplicate
  rw [Bool.and_eq_true,List.any_eq_true] at duplicate
  obtain ⟨_,listed,member,near⟩ := duplicate
  rw [Bool.and_eq_true,List.any_eq_true] at near
  obtain ⟨matched,failure,held,near⟩ := near
  obtain ⟨watched,entries⟩ := gathered.kept listed member
  obtain ⟨own,reported⟩ := entries failure held
  refine ⟨listed.1,watched,matched,failure,own,?_,reported⟩
  rw [Option.any_eq_true] at near
  obtain ⟨time,read,close⟩ := near
  have same : timeOf failure = time := by
    unfold timeOf
    rw [read]
    rfl
  rw [same]
  exact of_decide_eq_true close

end services

section guard

variable {settings : GuardSettings} {gcloud : LogFilter → List GcloudResult} {log : List LogEntry} {limit : ℕ}
  {services configuration : List String} {collected : Collected}

-- The alert names every failure that its queries reach, but for those that another failure covers.
structure Reported (settings : GuardSettings) (log : List LogEntry) (limit : ℕ) (services events : List String) : Prop where
  cloudRun : ∀ service ∈ services, ∀ entry, CloudRunFailure settings log service entry →
    WithinLimit log limit (cloudRunLogFilter settings service (cloudRunLogSince settings service)) entry → eventId settings entry ∈ events
  scheduler : ∀ entry, SchedulerFailure settings log services entry → WithinLimit log limit (schedulerLogFilter settings.since) entry →
    eventId settings entry ∈ events ∨ CoveredBy settings log services events entry

theorem mem_jobCandidates {name : String} : name ∈ jobCandidates services ↔ ∃ service ∈ services, name ∈ schedulerJobNames service := by
  unfold jobCandidates
  rw [mem_distinct,List.mem_flatMap]

theorem collectScheduler_reports (answers : AnswersNewest settings gcloud log limit) {next : Collected}
    (gathered : Gathered settings log limit services collected)
    (ran : collectScheduler settings gcloud (jobCandidates services).contains collected = .ok next) :
    Reported settings log limit services next.events ∧ (next.issues = [] → next.events = []) := by
  obtain ⟨entries,read,_,reached⟩ := query_reads answers (schedulerLogFilter settings.since)
  unfold collectScheduler at ran
  rw [read] at ran
  obtain ⟨failing,selected,ran⟩ := bind_ok.mp ran
  have held : ∀ entry, SchedulerFailure settings log services entry → WithinLimit log limit (schedulerLogFilter settings.since) entry →
      entry ∈ failing ∧ isStale settings collected entry = false := by
    intro entry failure within
    constructor
    · refine (selectOk_mem selected).mpr ⟨List.mem_filter.mpr ⟨reached entry failure.logged failure.admitted within,?_⟩,failure.failed⟩
      exact List.contains_iff_mem.mpr (mem_jobCandidates.mpr failure.named)
    · unfold isStale
      rw [(admits_time failure.admitted).1]
      exact decide_eq_false (not_lt.mpr (schedulerEntrySince_le gathered failure))
  have covered : ∀ events, (∀ event ∈ collected.events, event ∈ events) → ∀ entry, CoveredBy settings log services collected.events entry →
      CoveredBy settings log services events entry := by
    rintro events grown entry ⟨service,watched,matched,failure,own,near,reported⟩
    exact ⟨service,watched,matched,failure,own,near,grown _ reported⟩
  have left : ∀ entry, SchedulerFailure settings log services entry → WithinLimit log limit (schedulerLogFilter settings.since) entry →
      (entry ∈ failing.filter fun entry => !isStale settings collected entry && !isDuplicateSchedulerFailure entry collected.failures) ∨
        CoveredBy settings log services collected.events entry := by
    intro entry failure within
    obtain ⟨member,fresh⟩ := held entry failure within
    cases duplicate : isDuplicateSchedulerFailure entry collected.failures with
    | true => exact .inr (duplicate_covered gathered failure.admitted duplicate)
    | false =>
      refine .inl (List.mem_filter.mpr ⟨member,?_⟩)
      rw [fresh,duplicate]
      rfl
  dsimp only at ran
  generalize (failing.filter fun entry => !isStale settings collected entry && !isDuplicateSchedulerFailure entry collected.failures) = failures
    at ran left
  by_cases none : failures = []
  · rw [if_pos none] at ran
    cases return_ok.mp ran
    refine ⟨⟨gathered.seen,?_⟩,gathered.loud⟩
    intro entry failure within
    rcases left entry failure within with kept | covers
    · rw [none] at kept
      cases kept
    · exact .inr covers
  · rw [if_neg none] at ran
    cases return_ok.mp ran
    refine ⟨⟨?_,?_⟩,?_⟩
    · intro service watched entry failure within
      exact List.mem_append_left _ (gathered.seen service watched entry failure within)
    · intro entry failure within
      rcases left entry failure within with kept | covers
      · exact .inl (List.mem_append_right _ (List.mem_map_of_mem kept))
      · exact .inr (covered _ (fun _ => List.mem_append_left _) entry covers)
    · intro quiet
      exact absurd quiet (List.append_ne_nil_of_right_ne_nil _ (List.cons_ne_nil _ _))

theorem collect_reports (answers : AnswersNewest settings gcloud log limit) (derived : settings.jobPattern = none)
    (checking : settings.checkScheduler = true) (lenient : settings.requireSuccess = false)
    (ran : collect settings gcloud services configuration = .ok collected) :
    Reported settings log limit services collected.events ∧ (collected.issues = [] → collected.events = []) := by
  unfold collect at ran
  obtain ⟨served,walked,ran⟩ := bind_ok.mp ran
  have gathered := collectServices_gathers answers started_gathers walked
  rw [List.nil_append] at gathered
  rw [lenient,checking] at ran
  have still : { served with issues := served.issues ++ (if false = true then served.unsuccessful.map
      (settings.notice "runtime_guard_no_successful_request") else []) } = served := by
    rw [if_neg (by decide),List.append_nil]
  dsimp only at ran still
  rw [still,if_pos rfl] at ran
  unfold schedulerPattern at ran
  rw [derived] at ran
  by_cases none : jobCandidates services = []
  · simp only [none,if_true] at ran
    cases return_ok.mp ran
    refine ⟨⟨gathered.seen,?_⟩,gathered.loud⟩
    intro entry failure _
    have named := mem_jobCandidates.mpr failure.named
    rw [none] at named
    cases named
  · simp only [none,if_false] at ran
    exact collectScheduler_reports answers gathered ran

-- A run of the guard names every failure that its queries reach; a healthy one has none to name.
theorem newest_failures_are_reported {dedupe : Settings} {name : String} {file : Option DedupeState} {now : Reading} {chats : List Bool}
    {outcome : Record × Option DedupeState} (answers : AnswersNewest settings gcloud log limit) (derived : settings.jobPattern = none)
    (checking : settings.checkScheduler = true) (lenient : settings.requireSuccess = false)
    (ran : guardMain settings dedupe name gcloud services configuration file now chats = .ok outcome) :
    Reported settings log limit services outcome.1.run.events ∧
      (outcome.1.healthy → outcome.2 = clearIssues dedupe now.instant file ∧
        (∀ service ∈ services, ∀ entry, CloudRunFailure settings log service entry →
          ¬WithinLimit log limit (cloudRunLogFilter settings service (cloudRunLogSince settings service)) entry) ∧
        ∀ entry, SchedulerFailure settings log services entry → ¬WithinLimit log limit (schedulerLogFilter settings.since) entry) := by
  unfold guardMain at ran
  obtain ⟨collected,gathered,ran⟩ := bind_ok.mp ran
  cases return_ok.mp ran
  obtain ⟨reported,loud⟩ := collect_reports answers derived checking lenient gathered
  unfold Record.healthy
  rw [main_run]
  refine ⟨reported,?_⟩
  intro healthy
  have none : collected.events = [] := loud healthy
  refine ⟨?_,?_,?_⟩
  · unfold main
    rw [if_pos healthy]
  · intro service watched entry failure within
    have named := reported.cloudRun service watched entry failure within
    rw [none] at named
    cases named
  · intro entry failure within
    rcases reported.scheduler entry failure within with named | ⟨_,_,_,_,_,_,named⟩
    · rw [none] at named
      cases named
    · rw [none] at named
      cases named

-- A service that answers well once more after a failure
def plainEntry (timestamp severity insertId : String) (status : ℤ) : LogEntry where
  resourceType := "cloud_run_revision"
  labels := [("service_name",.str "longbridge-paper")]
  timestamp := .str timestamp
  severity := .str severity
  status := .int status
  requestUrl := .none
  textPayload := .none
  message := .none
  jsonPayload := .none
  protoPayload := .none
  insertId := .str insertId
  logName := .none

def answered : LogEntry := plainEntry "2026-10-05T15:01:00Z" "INFO" "later" 200

def crashed : LogEntry := plainEntry "2026-10-05T15:00:00Z" "ERROR" "earlier" 500

def watching : GuardSettings where
  ignoreCapacityWarnings := true
  ignorePreReadyLogs := true
  requireSuccess := false
  checkScheduler := true
  jobPattern := none
  since := 0
  region _ := ""
  notice key service := key ++ service
  digest text := text
  netlocValid _ := true
  querySuffix := " after 3 attempt(s)"
  revisionStart _ := none

def newestOf (log : List LogEntry) (limit : ℕ) (filter : LogFilter) : List GcloudResult :=
  [⟨true,.entries ((log.filter filter.admits).take limit),""⟩]

theorem newestOf_answers (limit : ℕ) : AnswersNewest watching (newestOf [answered,crashed] limit) [answered,crashed] limit := by
  intro filter
  refine ⟨_,.refl _,?_,rfl⟩
  have sorted : [answered,crashed].Pairwise fun one two => timeOf two ≤ timeOf one := by
    refine .cons ?_ (List.pairwise_singleton _ _)
    intro other member
    rw [List.mem_singleton] at member
    subst member
    decide +kernel
  exact sorted.sublist List.filter_sublist

theorem crashed_fails : isFailure watching crashed = .ok true := by decide +kernel

theorem crashed_is_a_failure : CloudRunFailure watching [answered,crashed] "longbridge-paper" crashed where
  logged := List.mem_cons_of_mem _ List.mem_cons_self
  admitted := by decide +kernel
  failed := crashed_fails

-- One query of one service: its newest entry, and no entry of the scheduler
theorem watched_one : collect watching (newestOf [answered,crashed] 1) ["longbridge-paper"] [] =
    .ok ⟨[],[],[("longbridge-paper",[])],[("longbridge-paper",0)],[]⟩ := by
  rfl

-- The newest entry is all that a limit of one shows.
theorem busy_service_hides_its_failure :
    ¬∀ (settings : GuardSettings) (dedupe : Settings) (name : String) (gcloud : LogFilter → List GcloudResult) (log : List LogEntry) (limit : ℕ)
      (services configuration : List String) (file : Option DedupeState) (now : Reading) (chats : List Bool)
      (outcome : Record × Option DedupeState), AnswersNewest settings gcloud log limit → settings.jobPattern = none →
      settings.requireSuccess = false → guardMain settings dedupe name gcloud services configuration file now chats = .ok outcome →
      outcome.1.healthy → ∀ service ∈ services, ∀ entry, ¬CloudRunFailure settings log service entry := by
  intro claimed
  have ran : guardMain watching reminded "Guard" (newestOf [answered,crashed] 1) ["longbridge-paper"] [] none morning [true] =
      .ok (main reminded "Guard" none ⟨morning,[],[],[true]⟩) := by
    unfold guardMain
    rw [watched_one]
    rfl
  exact claimed watching reminded "Guard" _ [answered,crashed] 1 ["longbridge-paper"] [] none morning [true] _ (newestOf_answers 1) rfl rfl ran rfl
    "longbridge-paper" List.mem_cons_self crashed crashed_is_a_failure

theorem watched_two : collect watching (newestOf [answered,crashed] 2) ["longbridge-paper"] [] =
    .ok ⟨["runtime_guard_cloud_run_failure_logslongbridge-paper"],[eventId watching crashed],[("longbridge-paper",[crashed])],
      [("longbridge-paper",0)],[]⟩ := by
  rfl

theorem crash_within_the_limit_is_reported : ∃ outcome,
    guardMain watching reminded "Guard" (newestOf [answered,crashed] 2) ["longbridge-paper"] [] none morning [true] = .ok outcome ∧
      eventId watching crashed ∈ outcome.1.run.events := by
  have ran : guardMain watching reminded "Guard" (newestOf [answered,crashed] 2) ["longbridge-paper"] [] none morning [true] =
      .ok (main reminded "Guard" none ⟨morning,["runtime_guard_cloud_run_failure_logslongbridge-paper"],[eventId watching crashed],[true]⟩) := by
    unfold guardMain
    rw [watched_two]
    rfl
  have within : WithinLimit [answered,crashed] 2 (cloudRunLogFilter watching "longbridge-paper" (cloudRunLogSince watching "longbridge-paper"))
      crashed := by
    unfold WithinLimit
    decide +kernel
  exact ⟨_,ran,(newest_failures_are_reported (newestOf_answers 2) rfl rfl rfl ran).1.cloudRun "longbridge-paper" List.mem_cons_self crashed
    crashed_is_a_failure within⟩

end guard

end LongBridge.Guard
