import LongBridge.Heartbeat.Verdict

namespace LongBridge.Heartbeat
open Effects Notifications

section law
variable (setup : Setup) (objects : List ReportObject)

def ReportsOk : Except PyExc Outcome → Prop
  | .ok (.covered ..) => True
  | .ok (.latest ..) => True
  | _ => False

-- What is due for some reports: their own payloads, and the earliest of their own times
def expectedRecovery (uris : List String) : Except PyExc (Option Recovery) :=
  if setup.notificationsEnabled = false then .ok none
  else if uris.any fun uri => (ownProof setup uri).isNone then .error receiptUnknown
  else match uris.filterMap (ownProof setup) with
    | first :: others => .ok (some ⟨others.foldl min first,uris.filterMap setup.cat⟩)
    | [] => .error receiptUnknown

-- An entry of the evidence is the most recent acceptable report of its key.
def NewestEntry (entry : String × Accepted) : Prop :=
  ∃ object ∈ objects, Acceptable setup object entry.1 ∧ entry.2.uri = object.uri ∧ entry.2.updated = object.updated ∧
    ∀ other ∈ objects, Acceptable setup other entry.1 → other.updated ≤ object.updated

-- What the heartbeat should say of the objects inside the lookback
structure HeartbeatSound (result : Except PyExc Outcome) : Prop where
  verdict : ReportsOk result ↔ ∀ key ∈ setup.requiredKeys, ∃ object ∈ objects, Acceptable setup object key
  evidence : ∀ evidence passed, result = .ok (.covered evidence passed) → evidence.map Prod.fst = setup.requiredKeys ∧
    (∀ entry ∈ evidence, NewestEntry setup objects entry) ∧ passed = expectedRecovery setup (evidence.map fun entry => entry.2.uri)

-- No status and no time breaks the scan, and the acceptable reports of a key are of one time.
structure SettledScan : Prop where
  readable : ∀ object ∈ objects, Readable setup object
  reported : setup.requiredKeys = [] → ∃ object ∈ objects, ∃ key, Acceptable setup object key
  alike : ∀ key ∈ setup.requiredKeys, ∀ one ∈ objects, ∀ two ∈ objects, Acceptable setup one key → Acceptable setup two key →
    one.updated = two.updated

end law

section order
variable {setup : Setup} {objects : List ReportObject}

theorem sortedObjects_perm (objects : List ReportObject) : (Setup.sortedObjects objects).Perm objects := List.perm_insertionSort ..

theorem sortedObjects_newest (objects : List ReportObject) : (Setup.sortedObjects objects).Pairwise fun one two => two.updated ≤ one.updated := by
  let newer : ReportObject → ReportObject → Prop := fun one two => two.updated ≤ one.updated
  have total : Std.Total newer := ⟨fun one two => le_total two.updated one.updated⟩
  have trans : IsTrans ReportObject newer := ⟨fun _ _ _ first second => le_trans second first⟩
  exact List.pairwise_insertionSort newer objects

theorem scanned_all (fits : (objects.length : ℤ) ≤ setup.reportLimit) : setup.scanned objects = Setup.sortedObjects objects := by
  unfold Setup.scanned
  rw [if_neg (by omega)]
  refine List.take_of_length_le ?_
  rw [(sortedObjects_perm objects).length_eq]
  omega

end order

section conclusion
variable {setup : Setup} {state : ScanState} {past : List ReportObject}

theorem recoveryOf_own (scanned : Scanned setup past state) {uris : List String}
    (listed : ∀ uri ∈ uris, ∃ object ∈ past, object.uri = uri ∧ ∃ key, Acceptable setup object key) :
    recoveryOf setup state uris = expectedRecovery setup uris := by
  unfold recoveryOf expectedRecovery
  by_cases off : setup.notificationsEnabled = false
  · rw [if_pos off,if_pos off]
  · have enabled : setup.notificationsEnabled = true := by simpa using off
    have proofs : ∀ uri ∈ uris, state.recoveryProofs.lookup uri = ownProof setup uri := by
      intro uri member
      obtain ⟨object,inside,rfl,key,held⟩ := listed uri member
      cases own : ownProof setup object.uri with
      | some proof => exact (scanned.proven enabled object inside key held proof own).1
      | none =>
        cases found : state.recoveryProofs.lookup object.uri with
        | none => rfl
        | some proof =>
          have told := scanned.proofs object.uri proof found
          rw [own] at told
          cases told
    have anyone : (uris.any fun uri => (state.recoveryProofs.lookup uri).isNone) = uris.any fun uri => (ownProof setup uri).isNone := by
      rw [Bool.eq_iff_iff,List.any_eq_true,List.any_eq_true]
      exact exists_congr fun uri => and_congr_right fun member => by rw [proofs uri member]
    have times : (uris.filterMap fun uri => state.recoveryProofs.lookup uri) = uris.filterMap (ownProof setup) := List.filterMap_congr proofs
    rw [if_neg off,if_neg off,anyone,times]
    split
    · rfl
    · rename_i every
      have reports : (uris.filterMap fun uri => state.recoveryReports.lookup uri) = uris.filterMap setup.cat := by
        refine List.filterMap_congr fun uri member => ?_
        obtain ⟨object,inside,rfl,key,held⟩ := listed uri member
        cases own : ownProof setup object.uri with
        | none => exact absurd (List.any_eq_true.mpr ⟨object.uri,member,by rw [own]; rfl⟩) every
        | some proof =>
          obtain ⟨payload,known⟩ := Option.isSome_iff_exists.mp (scanned.proven enabled object inside key held proof own).2
          rw [known,scanned.reports _ _ known]
      cases uris.filterMap (ownProof setup) with
      | nil => rfl
      | cons first others => exact congrArg (fun shown => (.ok (some ⟨others.foldl min first,shown⟩) : Except PyExc (Option Recovery))) reports

-- The evidence of a scan in which every required key is found
def evidenceOf (setup : Setup) (state : ScanState) : List (String × Accepted) :=
  setup.requiredKeys.filterMap fun key => (state.acceptedByService.lookup key).map fun report => (key,report)

theorem evidence_keys (found : ∀ key ∈ setup.requiredKeys, (state.acceptedByService.lookup key).isSome) :
    (evidenceOf setup state).map Prod.fst = setup.requiredKeys := by
  unfold evidenceOf
  generalize setup.requiredKeys = keys at found ⊢
  induction keys with
  | nil => rfl
  | cons key rest ih =>
    obtain ⟨report,known⟩ := Option.isSome_iff_exists.mp (found key List.mem_cons_self)
    rw [List.filterMap_cons,known]
    show key :: _ = _
    rw [ih fun other member => found other (List.mem_cons_of_mem _ member)]

theorem mem_evidence {entry : String × Accepted} :
    entry ∈ evidenceOf setup state ↔ entry.1 ∈ setup.requiredKeys ∧ state.acceptedByService.lookup entry.1 = some entry.2 := by
  unfold evidenceOf
  rw [List.mem_filterMap]
  constructor
  · rintro ⟨key,member,same⟩
    obtain ⟨report,known,rfl⟩ := Option.map_eq_some_iff.mp same
    exact ⟨member,known⟩
  · rintro ⟨member,known⟩
    exact ⟨entry.1,member,by rw [known]; rfl⟩

-- What the verdict is after a scan
theorem conclude_required (scanned : Scanned setup past state) (required : setup.requiredKeys ≠ []) :
    (conclude setup state = .covered (evidenceOf setup state) (recoveryOf setup state ((evidenceOf setup state).map fun entry => entry.2.uri)) ∧
      ∀ key ∈ setup.requiredKeys, (state.acceptedByService.lookup key).isSome) ∨
    ((∃ missing, conclude setup state = .alert missing) ∧ ∃ key ∈ setup.requiredKeys, ∀ object ∈ past, ¬Acceptable setup object key) := by
  unfold conclude
  dsimp only
  by_cases missing : (setup.requiredKeys.filter fun key => (state.acceptedByService.lookup key).isNone) = []
  · rw [if_pos ⟨required,missing⟩]
    refine Or.inl ⟨rfl,fun key member => ?_⟩
    have told := List.filter_eq_nil_iff.mp missing key member
    simpa using told
  · rw [if_neg fun both => missing both.2,scanned.unlisted required]
    refine Or.inr ⟨⟨_,rfl⟩,?_⟩
    obtain ⟨key,member⟩ := List.exists_mem_of_ne_nil _ missing
    obtain ⟨listed,none⟩ := List.mem_filter.mp member
    refine ⟨key,listed,fun object inside held => ?_⟩
    have some := scanned.found required key object inside held
    rw [Option.isNone_iff_eq_none.mp none] at some
    cases some

theorem conclude_free (free : setup.requiredKeys = []) :
    ReportsOk (.ok (conclude setup state)) ↔ state.accepted ≠ [] := by
  unfold conclude
  dsimp only
  rw [if_neg fun both => both.1 free]
  cases state.accepted with
  | nil => simp [ReportsOk]
  | cons report rest => simp [ReportsOk]

end conclusion

section verdict
variable {setup : Setup} {listings : List (Except PyExc (List ListedObject))}

-- The entries of the evidence are the oldest acceptable reports of their keys.
theorem evidence_oldest {objects : List ReportObject} {state : ScanState} (scanned : Scanned setup (Setup.sortedObjects objects) state)
    (required : setup.requiredKeys ≠ []) {entry : String × Accepted} (member : entry ∈ evidenceOf setup state) :
    ∃ object ∈ objects, Acceptable setup object entry.1 ∧ entry.2.uri = object.uri ∧ entry.2.updated = object.updated ∧
      ∀ other ∈ objects, Acceptable setup other entry.1 → object.updated ≤ other.updated := by
  obtain ⟨before,object,after,parts,held,uri,updated,none⟩ := scanned.last required _ _ (mem_evidence.mp member).2
  have order := sortedObjects_newest objects
  have listed : ∀ other, other ∈ before ++ object :: after ↔ other ∈ objects := fun other => parts ▸ (sortedObjects_perm objects).mem_iff
  rw [parts] at order
  refine ⟨object,(listed object).mp (List.mem_append_right _ List.mem_cons_self),held,uri,updated,?_⟩
  intro other inside accepted
  rcases List.mem_append.mp ((listed other).mpr inside) with early | late
  · exact (List.pairwise_append.mp order).2.2 other early object List.mem_cons_self
  · rcases List.mem_cons.mp late with rfl | later
    · exact le_refl _
    · exact absurd accepted (none other later)

-- A scan that a status or a time breaks reports nothing.
theorem heartbeat_broken (fits : ((setup.objects listings).length : ℤ) ≤ setup.reportLimit)
    (broken : ¬∀ object ∈ setup.objects listings, Readable setup object) : ∃ raised, heartbeat setup listings = .error raised := by
  unfold heartbeat
  rw [scanned_all fits]
  cases ran : (Setup.sortedObjects (setup.objects listings)).foldlM (scanObject setup) ⟨[],[],[],[]⟩ with
  | error raised => exact ⟨raised,rfl⟩
  | ok state => exact absurd (fun object member => (scanned_run ran).readable object ((sortedObjects_perm _).mem_iff.mpr member)) broken

theorem heartbeat_scanned (fits : ((setup.objects listings).length : ℤ) ≤ setup.reportLimit)
    (readable : ∀ object ∈ setup.objects listings, Readable setup object) :
    ∃ state, Scanned setup (Setup.sortedObjects (setup.objects listings)) state ∧ heartbeat setup listings = .ok (conclude setup state) := by
  obtain ⟨state,ran⟩ := scan_runs (fun object member => readable object ((sortedObjects_perm _).mem_iff.mp member)) ⟨[],[],[],[]⟩
  refine ⟨state,scanned_run ran,?_⟩
  unfold heartbeat
  rw [scanned_all fits,ran]
  rfl

-- A verdict without evidence is sound where some key is not covered.
theorem sound_of_uncovered {result : Except PyExc Outcome} {objects : List ReportObject} (silent : ¬ReportsOk result)
    (uncovered : ∃ key ∈ setup.requiredKeys, ∀ object ∈ objects, ¬Acceptable setup object key) : HeartbeatSound setup objects result := by
  refine ⟨⟨fun said => absurd said silent,fun covered => ?_⟩,?_⟩
  · obtain ⟨key,member,none⟩ := uncovered
    obtain ⟨object,inside,held⟩ := covered key member
    exact absurd held (none object inside)
  · rintro evidence passed rfl
    exact absurd trivial silent

theorem uncovered_of_not {objects : List ReportObject} (missed : ¬∀ key ∈ setup.requiredKeys, ∃ object ∈ objects, Acceptable setup object key) :
    ∃ key ∈ setup.requiredKeys, ∀ object ∈ objects, ¬Acceptable setup object key := by
  simpa only [not_forall,not_exists,not_and,exists_prop] using missed

-- Where every required key is covered, the evidence is sound exactly if the reports of a key are of one time.
theorem covered_sound_iff {state : ScanState} {objects : List ReportObject} (scanned : Scanned setup (Setup.sortedObjects objects) state)
    (required : setup.requiredKeys ≠ []) (found : ∀ key ∈ setup.requiredKeys, (state.acceptedByService.lookup key).isSome)
    (covered : ∀ key ∈ setup.requiredKeys, ∃ object ∈ objects, Acceptable setup object key) :
    HeartbeatSound setup objects (.ok (.covered (evidenceOf setup state)
        (recoveryOf setup state ((evidenceOf setup state).map fun entry => entry.2.uri)))) ↔
      ∀ key ∈ setup.requiredKeys, ∀ one ∈ objects, ∀ two ∈ objects, Acceptable setup one key → Acceptable setup two key → one.updated = two.updated := by
  constructor
  · intro sound key member one first two second oneHeld twoHeld
    obtain ⟨_,newest,_⟩ := sound.evidence _ _ rfl
    obtain ⟨report,known⟩ := Option.isSome_iff_exists.mp (found key member)
    have entry : (key,report) ∈ evidenceOf setup state := mem_evidence.mpr ⟨member,known⟩
    obtain ⟨last,_,_,_,lastTime,least⟩ := evidence_oldest scanned required entry
    obtain ⟨top,_,_,_,topTime,most⟩ := newest _ entry
    have bound : ∀ object ∈ objects, Acceptable setup object key → object.updated = report.updated := fun object inside held =>
      le_antisymm (topTime ▸ most object inside held) (lastTime ▸ least object inside held)
    rw [bound one first oneHeld,bound two second twoHeld]
  · intro alike
    refine ⟨⟨fun _ => covered,fun _ => trivial⟩,?_⟩
    intro evidence passed same
    obtain ⟨rfl,rfl⟩ := Outcome.covered.inj (Except.ok.inj same)
    refine ⟨evidence_keys found,?_,?_⟩
    · intro entry member
      obtain ⟨object,inside,held,uri,updated,_⟩ := evidence_oldest scanned required member
      exact ⟨object,inside,held,uri,updated,fun other listed accepted =>
        (alike entry.1 (mem_evidence.mp member).1 other listed object inside accepted held).le⟩
    · refine recoveryOf_own scanned fun uri member => ?_
      obtain ⟨entry,listed,rfl⟩ := List.mem_map.mp member
      obtain ⟨object,inside,held,uri,_⟩ := evidence_oldest scanned required listed
      exact ⟨object,(sortedObjects_perm objects).mem_iff.mpr inside,uri.symm,entry.1,held⟩

-- The heartbeat is sound where a required key is not covered, or where the scan is settled; else it is not.
theorem heartbeat_sound_iff (setup : Setup) (listings : List (Except PyExc (List ListedObject)))
    (fits : ((setup.objects listings).length : ℤ) ≤ setup.reportLimit) :
    HeartbeatSound setup (setup.objects listings) (heartbeat setup listings) ↔
      (∃ key ∈ setup.requiredKeys, ∀ object ∈ setup.objects listings, ¬Acceptable setup object key) ∨
        SettledScan setup (setup.objects listings) := by
  by_cases readable : ∀ object ∈ setup.objects listings, Readable setup object
  · obtain ⟨state,scanned,ran⟩ := heartbeat_scanned fits readable
    rw [ran]
    by_cases free : setup.requiredKeys = []
    · have said := (conclude_free free).trans (scanned.listed free)
      have listed : (∃ object ∈ Setup.sortedObjects (setup.objects listings), ∃ key, Acceptable setup object key) ↔
          ∃ object ∈ setup.objects listings, ∃ key, Acceptable setup object key :=
        exists_congr fun object => and_congr_left fun _ => (sortedObjects_perm _).mem_iff
      constructor
      · intro sound
        refine Or.inr ⟨readable,fun _ => listed.mp (said.mp (sound.verdict.mpr ?_)),?_⟩
        · rw [free]
          exact fun key member => absurd member List.not_mem_nil
        · rw [free]
          exact fun key member => absurd member List.not_mem_nil
      · rintro (⟨key,member,_⟩ | settled)
        · rw [free] at member
          exact absurd member List.not_mem_nil
        · have ok := said.mpr (listed.mpr (settled.reported free))
          refine ⟨⟨fun _ => ?_,fun _ => ok⟩,?_⟩
          · rw [free]
            exact fun key member => absurd member List.not_mem_nil
          · intro evidence passed same
            unfold conclude at same
            dsimp only at same
            rw [if_neg fun both => both.1 free] at same
            split at same <;> cases same
    · rcases conclude_required scanned free with ⟨concluded,found⟩ | ⟨⟨missing,concluded⟩,key,member,none⟩
      · have covered : ∀ key ∈ setup.requiredKeys, ∃ object ∈ setup.objects listings, Acceptable setup object key := by
          intro key member
          obtain ⟨report,known⟩ := Option.isSome_iff_exists.mp (found key member)
          obtain ⟨object,inside,held,_⟩ := evidence_oldest scanned free (mem_evidence.mpr ⟨member,known⟩ : (key,report) ∈ evidenceOf setup state)
          exact ⟨object,inside,held⟩
        rw [concluded,covered_sound_iff scanned free found covered]
        constructor
        · exact fun alike => Or.inr ⟨readable,fun none => absurd none free,alike⟩
        · rintro (⟨key,member,none⟩ | settled)
          · obtain ⟨object,inside,held⟩ := covered key member
            exact absurd held (none object inside)
          · exact settled.alike
      · have uncovered : ∃ key ∈ setup.requiredKeys, ∀ object ∈ setup.objects listings, ¬Acceptable setup object key :=
          ⟨key,member,fun object inside => none object ((sortedObjects_perm _).mem_iff.mpr inside)⟩
        rw [concluded]
        exact ⟨fun _ => Or.inl uncovered,fun _ => sound_of_uncovered (fun said => said) uncovered⟩
  · obtain ⟨raised,ran⟩ := heartbeat_broken fits readable
    rw [ran]
    constructor
    · intro sound
      exact Or.inl (uncovered_of_not fun covered => sound.verdict.mpr covered)
    · rintro (uncovered | settled)
      · exact sound_of_uncovered (fun said => said) uncovered
      · exact absurd settled.readable readable

end verdict

section samples

def samplePayload : Fields := [("service_name",.str "svc"),("status",.str "ok")]

-- One target that is required, with every report of its service
def sampleSetup : Setup where
  env _ := none
  cat _ := some samplePayload
  matchPayloadTarget payload := if payloadServiceName payload = "svc" then ("svc","matched target") else ("","service mismatch")
  requiredServices := []
  requiredTargets := [⟨"svc","svc"⟩]
  requiredDueAt _ := none
  since := 0
  dueSince := 0
  now := 3
  maxReports := 20
  notificationsEnabled := false
  notificationEnv := ⟨none,.ok .none,"","","","",""⟩

def Outcome.shown : Except PyExc Outcome → Option (List (String × Accepted))
  | .ok (.covered evidence _) => some evidence
  | _ => none

theorem sample_acceptable {object : ReportObject} (recent : 0 ≤ object.updated) : Acceptable sampleSetup object "svc" := by
  have matched : payloadMatches sampleSetup.env sampleSetup.matchPayloadTarget sampleSetup.requiredServices sampleSetup.requiredTargets samplePayload =
      (true,"svc","matched target") := by decide +kernel
  have accepted : isAcceptedReport sampleSetup.env samplePayload = .ok (true,"status=ok") := by decide +kernel
  refine ⟨samplePayload,"status=ok",rfl,⟨_,matched⟩,recent,?_,accepted⟩
  intro due known
  cases known

-- The target that the notifications are bound to
def boundTarget : Fields :=
  [("platform_id",.str "longbridge"),("strategy_profile",.str "soxl"),("service_name",.str "svc"),("account_scope",.str "PAPER"),
    ("account_selector",.list [.str "PAPER"]),("deployment_selector",.str "paper"),("dry_run_only",.bool false)]

def boundPayload (status finished : String) : Fields :=
  [("service_name",.str "svc"),("status",.str status),("platform",.str "longbridge"),("strategy_profile",.str "soxl"),
    ("dry_run",.bool false),("runtime_target",.dict boundTarget),("finished_at",.str finished)]

-- Two targets: one with two accepted reports of one time and a failed one, one with a report that is too old
def pairSetup : Setup where
  env _ := none
  cat uri :=
    if uri = "gs://svc/1" then some (boundPayload "ok" "1970-01-02T09:10:00Z")
    else if uri = "gs://svc/2" then some (boundPayload "completed" "1970-01-02T09:20:00Z")
    else if uri = "gs://svc/failed" then some (boundPayload "failed" "1970-01-02T09:30:00Z")
    else if uri = "gs://hk/1" ∨ uri = "gs://hk/0" then some [("service_name",.str "hk"),("status",.str "ok")] else none
  matchPayloadTarget payload :=
    if payloadServiceName payload = "svc" ∨ payloadServiceName payload = "hk" then (payloadServiceName payload,"matched target")
    else ("","service mismatch")
  requiredServices := []
  requiredTargets := [⟨"svc","svc"⟩,⟨"hk","hk"⟩]
  requiredDueAt key := if key = "hk" then some 4 else none
  since := 0
  dueSince := 0
  now := 62135719200000000
  maxReports := 20
  notificationsEnabled := true
  notificationEnv :=
    ⟨some "true",.ok (.dict boundTarget),"target","account","","",""⟩

def pairListings : List (Except PyExc (List ListedObject)) :=
  [.ok [⟨"gs://svc/1",some 5⟩,⟨"gs://svc/failed",some 6⟩,⟨"gs://hk/0",some 3⟩],.ok [⟨"gs://hk/1",some 7⟩,⟨"gs://svc/2",some 5⟩]]

theorem pair_readable : ∀ object ∈ pairSetup.objects pairListings, Readable pairSetup object := by
  have judgedFine : ∀ object ∈ pairSetup.objects pairListings, (judge pairSetup object).isOk = true := by decide +kernel
  have provenFine : ∀ object ∈ pairSetup.objects pairListings,
      ((pairSetup.cat object.uri).all fun payload => (proofOf pairSetup payload).isOk) = true := by decide +kernel
  intro object member
  refine ⟨statusReadable_judged.mpr (judgedFine object member),?_⟩
  intro payload key read _
  have fine := provenFine object member
  rw [read] at fine
  cases proven : proofOf pairSetup payload with
  | ok proof => exact ⟨proof,rfl⟩
  | error raised =>
    rw [Option.all_some,proven] at fine
    cases fine

-- The report of the one target proves its own time, that of the other proves none.
theorem pair_report_evidence : HeartbeatSound pairSetup (pairSetup.objects pairListings) (heartbeat pairSetup pairListings) := by
  have alike : ∀ one ∈ pairSetup.objects pairListings, ∀ two ∈ pairSetup.objects pairListings,
      judgedKey pairSetup one = judgedKey pairSetup two → judgedKey pairSetup one ≠ none → one.updated = two.updated := by decide +kernel
  refine (heartbeat_sound_iff pairSetup pairListings (by decide +kernel)).mpr (Or.inr ⟨pair_readable,?_,?_⟩)
  · intro none
    exact absurd none (by decide +kernel)
  · intro key _ one first two second own other
    rw [acceptable_judged] at own other
    exact alike one first two second (own.trans other.symm) (by rw [own]; simp)

-- Of two reports that are accepted the older one is printed.
theorem older_report_printed :
    Outcome.shown (heartbeat sampleSetup [.ok [⟨"gs://r/2",some 2⟩,⟨"gs://r/1",some 1⟩]]) =
        some [("svc",⟨"gs://r/1",1,"status=ok","run completed"⟩)] ∧
      ¬ HeartbeatSound sampleSetup (sampleSetup.objects [.ok [⟨"gs://r/2",some 2⟩,⟨"gs://r/1",some 1⟩]])
        (heartbeat sampleSetup [.ok [⟨"gs://r/2",some 2⟩,⟨"gs://r/1",some 1⟩]]) := by
  have shown : Outcome.shown (heartbeat sampleSetup [.ok [⟨"gs://r/2",some 2⟩,⟨"gs://r/1",some 1⟩]]) =
      some [("svc",⟨"gs://r/1",1,"status=ok","run completed"⟩)] := by decide +kernel
  have newer : (⟨"gs://r/2",2⟩ : ReportObject) ∈ sampleSetup.objects [.ok [⟨"gs://r/2",some 2⟩,⟨"gs://r/1",some 1⟩]] := by decide +kernel
  refine ⟨shown,fun sound => ?_⟩
  cases ran : heartbeat sampleSetup [.ok [⟨"gs://r/2",some 2⟩,⟨"gs://r/1",some 1⟩]] with
  | error raised => rw [ran] at shown; cases shown
  | ok outcome =>
    rw [ran] at shown
    cases outcome with
    | covered evidence passed =>
      obtain rfl := Option.some.inj shown
      obtain ⟨object,_,_,_,updated,newest⟩ := (sound.evidence _ _ ran).2.1 _ List.mem_cons_self
      have bound := newest _ newer (sample_acceptable (by decide))
      rw [← updated] at bound
      exact absurd bound (by decide)
    | latest report passed => cases shown
    | alert missing => cases shown

end samples

end LongBridge.Heartbeat
