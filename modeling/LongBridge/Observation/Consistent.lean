import LongBridge.Observation.Reached

namespace LongBridge.Observation
open Effects

section keys
variable {bundle : Bundle} {now : ℤ} {steady : Prop} {known : List (String × PyVal)} {key : String} {value : PyVal} {day : ℕ}

theorem isNote_start {start : Option Char × Option Char} (same : keyStart key = start)
    (other : (start.1 == some 'o' || [(some 'h',some 'h'),(some 'h',some 's'),(some 'h',some 'g'),(some 'h',some 'f')].contains start) = false) :
    isNote key = false := by
  rw [isNote,same]
  exact other

theorem start_apart {one two : String} {first second : Option Char × Option Char} (left : keyStart one = first) (right : keyStart two = second)
    (apart : first ≠ second) : one ≠ two := by
  rintro rfl
  exact apart (left.symm.trans right)

theorem claim_start {today date : ℕ} (member : key ∈ claimKeys today date) : keyStart key = (some 'h',some 'a') ∨ keyStart key = (some 'h',some 'r') := by
  simp only [claimKeys,List.mem_cons,List.not_mem_nil,or_false] at member
  rcases member with rfl | rfl | rfl | rfl
  · exact .inl (attemptKey_start ..)
  · exact .inl (attemptKey_start ..)
  · exact .inl (attemptKey_start ..)
  · exact .inr (recoveryKey_start ..)

theorem claim_apart {today date : ℕ} {start : Option Char × Option Char} (member : key ∈ claimKeys today date) (other : keyStart key = start)
    (attempt : start ≠ (some 'h',some 'a')) (recovery : start ≠ (some 'h',some 'r')) : False := by
  rcases claim_start member with same | same
  · exact attempt (other.symm.trans same)
  · exact recovery (other.symm.trans same)

-- Only a record that fits is created under the key of a snapshot.
theorem mayCreate_snapshot (may : MayCreate bundle now steady known (snapshotKey day) value) (dated : IsDay day) (held : steady) : Fits bundle day value := by
  cases may with
  | snapshot other own dated' fits =>
    cases snapshotKey_injective dated dated' own
    exact fits held
  | marker other record own => exact absurd own (start_apart (snapshotKey_start _) (markerKey_start _) (by decide))
  | baseline other record own => exact absurd own (start_apart (snapshotKey_start _) baseline_start (by decide))
  | claim own => exact (claim_apart own (snapshotKey_start _) (by decide) (by decide)).elim
  | note own =>
    rw [isNote_start (snapshotKey_start day) (by decide)] at own
    cases own

theorem mayCreate_marker (may : MayCreate bundle now steady known (markerKey day) value) (dated : IsDay day) :
    ∃ record, value = markerOf day record ∧ (snapshotKey day,record) ∈ known ∧ validateStored bundle record day = .ok record := by
  cases may with
  | snapshot other own => exact absurd own (start_apart (markerKey_start _) (snapshotKey_start _) (by decide))
  | marker other record own made read valid dated' =>
    cases markerKey_injective dated dated' own
    exact ⟨record,made,read,valid⟩
  | baseline other record own => exact absurd own (start_apart (markerKey_start _) baseline_start (by decide))
  | claim own => exact (claim_apart own (markerKey_start _) (by decide) (by decide)).elim
  | note own =>
    rw [isNote_start (markerKey_start day) (by decide)] at own
    cases own

theorem mayCreate_baseline (may : MayCreate bundle now steady known "t0.json" value) :
    ∃ day record, IsDay day ∧ value = baselineOf day record ∧ (snapshotKey day,record) ∈ known ∧ validateStored bundle record day = .ok record := by
  cases may with
  | snapshot other own => exact absurd own (start_apart baseline_start (snapshotKey_start _) (by decide))
  | marker other record own => exact absurd own (start_apart baseline_start (markerKey_start _) (by decide))
  | baseline day record own made read valid dated => exact ⟨day,record,dated,made,read,valid⟩
  | claim own => exact (claim_apart own baseline_start (by decide) (by decide)).elim
  | note own =>
    rw [isNote_start baseline_start (by decide)] at own
    cases own

-- What a watchdog creates stands under alerts/.
theorem mayMark_start {watch : Watch} {told : List (String × Bool)} {holds : String → Prop} (may : MayMark watch told holds key) :
    (keyStart key).1 = some 'a' := by
  cases may with
  | mark notice incident proper own => exact own ▸ root_head ..
  | note own => exact eq_of_beq (Bool.and_eq_true_iff.mp own).1

theorem creating_collector {job : Job} {requests : Requests} (creates : job.creating bundle requests key value) (other : (keyStart key).1 ≠ some 'a') :
    MayCreate bundle job.now (requests.steady = true) requests.seen key value := by
  obtain ⟨now,role⟩ := job
  cases role with
  | collector binding start => exact creates
  | watchdog watch => exact absurd (mayMark_start creates) other
  | blind watch => exact absurd (mayMark_start creates) other

end keys

-- Every snapshot is valid for its day.
def SnapshotsFit (bundle : Bundle) (objects : Objects) : Prop :=
  ∀ day record, IsDay day → objects (snapshotKey day) = some record → validateStored bundle record day = .ok record

-- A marker and the baseline speak of a snapshot that is there, that is valid, and whose time and status they repeat.
structure Agrees (bundle : Bundle) (objects : Objects) : Prop where
  marked : ∀ day marker, IsDay day → objects (markerKey day) = some marker → ∃ record, objects (snapshotKey day) = some record ∧
    validateStored bundle record day = .ok record ∧ (markerOf day record).jsonSorted = .ok marker
  begun : ∀ baseline, objects "t0.json" = some baseline → ∃ day record, IsDay day ∧ objects (snapshotKey day) = some record ∧
    validateStored bundle record day = .ok record ∧ (baselineOf day record).jsonSorted = .ok baseline

def Filled (objects : Objects) (key : String) : Prop := (objects key).any PyVal.truthy = true

instance (objects : Objects) (key : String) : Decidable (Filled objects key) := inferInstanceAs (Decidable (_ = true))

section runs
variable {ι : Type} [DecidableEq ι] {weigh : PyVal → ℕ} {bundle : Bundle} {jobs : ι → Job} {start objects : Objects} {turns : Turns ι}
  {left : ι → Tree bucketPorts PyExc (Except PyExc String × Unit)}

theorem snapshots_step : StepKeeps bundle jobs fun turns objects _ => (∀ who, Forward (jobs who).now turns who) → SnapshotsFit bundle objects := by
  intro turns objects phases who event after knows fits allowed step forward day record dated there
  rcases bucketStep_new step there with old | uploads
  · exact fits (fun other => forward_before (forward other)) day record dated old
  · obtain ⟨value,sorted,creates⟩ := allowed_uploads allowed uploads
    have may := creating_collector creates (by rw [snapshotKey_start]; decide)
    have steady := (knows who).steady (forward_before (forward who))
    obtain ⟨copy,sorted',valid⟩ := (mayCreate_snapshot may dated steady).2
    rw [sorted] at sorted'
    cases sorted'
    exact valid

theorem snapshots_fit (dated : Dated bundle) (positive : ∀ who, 0 ≤ (jobs who).now) (run : Reaches weigh bundle jobs start turns objects left)
    (forward : ∀ who, Forward (jobs who).now turns who) (fit : SnapshotsFit bundle start) : SnapshotsFit bundle objects := by
  obtain ⟨phases,_,fits,_⟩ := system_keeps dated positive snapshots_step (fun _ => fit) run
  exact fits forward

-- The first collector moves, up to its marker, and the other one waits.
def firstDone : Performed := performed twoCollectors noObjects (List.replicate 14 true)

theorem firstDone_reaches : Reaches (fun _ => 100) oneSession twoCollectors noObjects firstDone.1 firstDone.2.1 firstDone.2.2 := by
  unfold firstDone
  exact performed_reaches ..

theorem firstDone_objects : (firstDone.2.1 (snapshotKey sessionDay)).isSome = true ∧ (firstDone.2.1 (markerKey sessionDay)).isSome = true ∧
    ∀ who, Forward (twoCollectors who).now firstDone.1 who := by decide +kernel

theorem twoCollectors_snapshot : (firstDone.2.1 (snapshotKey sessionDay)).isSome = true ∧ SnapshotsFit oneSession firstDone.2.1 :=
  ⟨firstDone_objects.1,snapshots_fit oneSession_dated (fun who => (twoCollectors_times who).1) firstDone_reaches firstDone_objects.2.2
    fun _ _ _ there => nomatch there⟩

theorem markers_step : StepKeeps bundle jobs fun _ objects _ => Agrees bundle objects := by
  intro turns objects phases who event after knows agrees allowed step
  refine ⟨fun day marker dated there => ?_,fun baseline there => ?_⟩
  · rcases bucketStep_new step there with old | uploads
    · obtain ⟨record,stands,rest⟩ := agrees.marked day marker dated old
      exact ⟨record,bucketStep_keeps step stands,rest⟩
    · obtain ⟨value,sorted,creates⟩ := allowed_uploads allowed uploads
      obtain ⟨record,rfl,read,valid⟩ := mayCreate_marker (creating_collector creates (by rw [markerKey_start]; decide)) dated
      exact ⟨record,bucketStep_keeps step ((knows who).seen _ read).1,valid,sorted⟩
  · rcases bucketStep_new step there with old | uploads
    · obtain ⟨day,record,dated,stands,rest⟩ := agrees.begun baseline old
      exact ⟨day,record,dated,bucketStep_keeps step stands,rest⟩
    · obtain ⟨value,sorted,creates⟩ := allowed_uploads allowed uploads
      obtain ⟨day,record,dated,rfl,read,valid⟩ := mayCreate_baseline (creating_collector creates (by rw [baseline_start]; decide))
      exact ⟨day,record,dated,bucketStep_keeps step ((knows who).seen _ read).1,valid,sorted⟩

theorem markers_agree (dated : Dated bundle) (positive : ∀ who, 0 ≤ (jobs who).now) (run : Reaches weigh bundle jobs start turns objects left)
    (agrees : Agrees bundle start) : Agrees bundle objects := by
  obtain ⟨phases,_,kept,_⟩ := system_keeps dated positive markers_step agrees run
  exact kept

theorem twoCollectors_marker : (firstDone.2.1 (markerKey sessionDay)).isSome = true ∧ Agrees oneSession firstDone.2.1 :=
  ⟨firstDone_objects.2.1,markers_agree oneSession_dated (fun who => (twoCollectors_times who).1) firstDone_reaches
    ⟨(fun _ _ _ there => nomatch there),fun _ there => nomatch there⟩⟩

theorem knows_holds {now : ℤ} {who : ι} {requests : Requests} {key : String} (knows : Knows turns objects now who requests) (holds : requests.Holds key) :
    objects key ≠ none := by
  rcases holds with taken | ⟨body,written | seen⟩
  · exact knows.taken key taken
  · rw [knows.written _ written]
    nofun
  · rw [(knows.seen _ seen).1]
    nofun

theorem knows_lacks {now : ℤ} {who : ι} {requests : Requests} {key : String} (knows : Knows turns objects now who requests) (lacks : requests.Lacks key) :
    ∃ turn ∈ turns, turn.who = who ∧ readsKey key turn.event = true ∧ ¬Filled turn.before key := by
  rcases lacks with gone | ⟨body,falsy,seen⟩
  · obtain ⟨turn,listed,own,reads,missing⟩ := knows.gone key gone
    refine ⟨turn,listed,own,reads,fun filled => ?_⟩
    rw [Filled,missing] at filled
    cases filled
  · obtain ⟨_,turn,listed,own,reads,there⟩ := knows.seen _ seen
    refine ⟨turn,listed,own,reads,fun filled => ?_⟩
    rw [Filled,there] at filled
    cases falsy.symm.trans filled

-- A collector that returns leaves no due day behind whose snapshot was there while it ran.
theorem collector_covers (dated : Dated bundle) (positive : ∀ who, 0 ≤ (jobs who).now) (run : Reaches weigh bundle jobs start turns objects left)
    {who : ι} {binding text : String} {first day : ℕ} {due : ℤ} (role : (jobs who).role = .collector binding first)
    (returned : left who = .done (.ok text,())) (listed : day ∈ expectedDays first (bundle.newYork.date (jobs who).now))
    (scheduled : bundle.due day = .ok (some due)) (elapsed : due ≤ (jobs who).now)
    (filled : ∀ turn ∈ turns, turn.who = who → Filled turn.before (snapshotKey day)) : objects (markerKey day) ≠ none := by
  obtain ⟨phases,knows,_,conforms⟩ := system_keeps dated positive (J := fun _ _ _ => True) (fun _ _ _ _ _ _ _ _ _ _ => trivial) trivial run
  have ended := conforms who
  rw [returned] at ended
  have covers : ∃ doing, Covered bundle first (jobs who).now doing ∧ Serves doing (phases who) := by
    have shown : Job.ends bundle (jobs who) (phases who) (.ok text,()) := ended
    rw [Job.ends,role] at shown
    exact shown
  obtain ⟨doing,covered,serves⟩ := covers
  rcases covered day listed due scheduled elapsed with present | missing
  · exact knows_holds (knows who) (serves.present _ present)
  · obtain ⟨turn,member,own,_,empty⟩ := knows_lacks (knows who) (serves.missing _ missing)
    exact absurd (filled turn member own) empty

-- A record was stored, and the run that stored it has stopped.
def storedRecord : PyVal := .dict [
  ("account_id",.none),("account_scope",.str "PAPER"),
  ("broker_reported_balances",.list [.dict [("currency",.str "USD"),("net_assets",.str "10.5"),("total_cash",.str "10.5")]]),
  ("cash",.list [.dict [("available_cash",.str "10.5"),("currency",.str "USD"),("frozen_cash",.str "0"),("settling_cash",.str "0")]]),
  ("identity_verification",.str "source_binding_only"),("job_started_at",.str "2024-01-02T21:32:00+00:00"),
  ("known_non_terminal_orders_7d",.list []),("lateness_seconds",.float (.finite 180) "180.0"),
  ("observed_finished_at",.str "2024-01-02T21:33:01+00:00"),("observed_started_at",.str "2024-01-02T21:33:00+00:00"),
  ("open_orders_complete",.bool false),("orders_query_end",.str "2024-01-02T21:33:00+00:00"),
  ("orders_query_start",.str "2023-12-26T21:33:00+00:00"),("positions",.list []),("recent_orders_7d",.list []),
  ("recent_orders_complete",.bool false),("scheduled_at",.str "2024-01-02T21:30:00+00:00"),
  ("schema_version",.str "paper_observation.v1"),("snapshot_atomic",.bool false),
  ("store_requested_at",.str "2024-01-02T21:34:00+00:00"),("timing",.str "on_time"),("trading_date",.str "2024-01-02")]

def stoppedEarly : Objects := fun key => if key = "snapshots/US/2024-01-02.json" then some storedRecord else none

theorem stoppedEarly_covered : (performed twoCollectors stoppedEarly (List.replicate 20 false)).2.1 (markerKey sessionDay) ≠ none :=
  collector_covers oneSession_dated (fun who => (twoCollectors_times who).1) (performed_reaches ..)
    (rfl : (twoCollectors false).role = .collector accountBinding sessionDay) (returned_of (by decide +kernel : _ = some "no_due_gap")) (by decide +kernel)
    oneSession_due (by decide) (by decide +kernel)

end runs

end LongBridge.Observation
