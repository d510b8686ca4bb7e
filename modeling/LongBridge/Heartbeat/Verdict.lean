import LongBridge.Heartbeat.Evidence
import Mathlib.Data.List.Induction

namespace LongBridge.Heartbeat
open Effects Notifications

section run
variable {setup : Setup} {state next : ScanState} {past : List ReportObject} {object : ReportObject}

-- What the recovery time of an object is, whatever was scanned
def ownProof (setup : Setup) (uri : String) : Option ℤ := (setup.cat uri).bind fun payload => ((recoveryProof setup payload).toOption).join

-- What the scan holds of the objects so far: for every key the last one that was acceptable
structure Scanned (setup : Setup) (past : List ReportObject) (state : ScanState) : Prop where
  readable : ∀ object ∈ past, Readable setup object
  last : setup.requiredKeys ≠ [] → ∀ key report, state.acceptedByService.lookup key = some report →
    ∃ before object after, past = before ++ object :: after ∧ Acceptable setup object key ∧ report.uri = object.uri ∧
      report.updated = object.updated ∧ ∀ other ∈ after, ¬Acceptable setup other key
  found : setup.requiredKeys ≠ [] → ∀ key, ∀ object ∈ past, Acceptable setup object key → (state.acceptedByService.lookup key).isSome
  listed : setup.requiredKeys = [] → (state.accepted ≠ [] ↔ ∃ object ∈ past, ∃ key, Acceptable setup object key)
  unlisted : setup.requiredKeys ≠ [] → state.accepted = []
  proofs : ∀ uri proof, state.recoveryProofs.lookup uri = some proof → ownProof setup uri = some proof
  reports : ∀ uri payload, state.recoveryReports.lookup uri = some payload → setup.cat uri = some payload
  proven : setup.notificationsEnabled = true → ∀ object ∈ past, ∀ key, Acceptable setup object key → ∀ proof, ownProof setup object.uri = some proof →
    state.recoveryProofs.lookup object.uri = some proof ∧ (state.recoveryReports.lookup object.uri).isSome

theorem scanned_nil (setup : Setup) : Scanned setup [] ⟨[],[],[],[]⟩ := by
  refine ⟨by simp,?_,by simp,by simp,fun _ => rfl,?_,?_,by simp⟩
  · intro _ key report found
    cases found
  · intro uri proof found
    cases found
  · intro uri payload found
    cases found

-- An object that is dropped changes nothing.
theorem Scanned.skip (scanned : Scanned setup past state) (dropped : ∀ key, ¬Acceptable setup object key) (readable : StatusReadable setup object) :
    Scanned setup (past ++ [object]) state := by
  have old : ∀ other ∈ past ++ [object], ∀ key, Acceptable setup other key → other ∈ past := by
    intro other member key held
    rcases List.mem_append.mp member with early | late
    · exact early
    · obtain rfl := List.mem_singleton.mp late
      exact absurd held (dropped key)
  refine ⟨?_,?_,?_,?_,scanned.unlisted,scanned.proofs,scanned.reports,?_⟩
  · intro other member
    rcases List.mem_append.mp member with early | late
    · exact scanned.readable other early
    · obtain rfl := List.mem_singleton.mp late
      exact ⟨readable,fun payload key _ held => absurd held (dropped key)⟩
  · intro required key report found
    obtain ⟨before,kept,after,rfl,held,uri,updated,none⟩ := scanned.last required key report found
    refine ⟨before,kept,after ++ [object],by simp,held,uri,updated,?_⟩
    intro other member
    rcases List.mem_append.mp member with early | late
    · exact none other early
    · obtain rfl := List.mem_singleton.mp late
      exact dropped key
  · intro required key other member held
    exact scanned.found required key other (old other member key held) held
  · intro free
    rw [scanned.listed free]
    constructor
    · rintro ⟨other,member,held⟩
      exact ⟨other,List.mem_append_left _ member,held⟩
    · rintro ⟨other,member,key,held⟩
      exact ⟨other,old other member key held,key,held⟩
  · intro enabled other member key held
    exact scanned.proven enabled other (old other member key held) key held

section record
variable {key : String} {report : Accepted} {payload : Fields} {proof : Option ℤ}
  (accepts : ∀ other, Acceptable setup object other ↔ other = key)
  (uri : report.uri = object.uri) (updated : report.updated = object.updated) (read : setup.cat object.uri = some payload)

theorem keep_byService : (state.keep setup key report payload proof).acceptedByService =
    if setup.requiredKeys ≠ [] then setEntry key report state.acceptedByService else state.acceptedByService := by
  unfold ScanState.keep
  cases proof <;> dsimp only <;> split <;> rfl

theorem keep_accepted : (state.keep setup key report payload proof).accepted =
    if setup.requiredKeys ≠ [] then state.accepted else state.accepted ++ [report] := by
  unfold ScanState.keep
  cases proof <;> dsimp only <;> split <;> rfl

theorem keep_proofs : (state.keep setup key report payload proof).recoveryProofs =
    match proof with
    | some proof => setEntry report.uri proof state.recoveryProofs
    | none => state.recoveryProofs := by
  unfold ScanState.keep
  cases proof <;> dsimp only <;> split <;> rfl

theorem keep_reports : (state.keep setup key report payload proof).recoveryReports =
    match proof with
    | some _ => setEntry report.uri payload state.recoveryReports
    | none => state.recoveryReports := by
  unfold ScanState.keep
  cases proof <;> dsimp only <;> split <;> rfl

theorem proofOf_enabled (enabled : setup.notificationsEnabled = true) : proofOf setup payload = recoveryProof setup payload := by
  unfold proofOf
  rw [if_pos enabled]

variable (proven : proofOf setup payload = .ok proof)
include uri read proven

-- A proof that is recorded is the one of the object itself.
theorem keep_proofs_own (scanned : Scanned setup past state) (name : String) (time : ℤ)
    (found : (state.keep setup key report payload proof).recoveryProofs.lookup name = some time) : ownProof setup name = some time := by
  rw [keep_proofs] at found
  cases proof with
  | none => exact scanned.proofs name time found
  | some own =>
    rw [lookup_setEntry] at found
    split at found
    · rename_i same
      subst same
      obtain rfl := Option.some.inj found
      have enabled : setup.notificationsEnabled = true := by
        by_contra off
        unfold proofOf at proven
        rw [if_neg off] at proven
        cases proven
      rw [proofOf_enabled enabled] at proven
      rw [ownProof,uri,read,Option.bind_some,proven]
      rfl
    · exact scanned.proofs name time found

omit proven in
theorem keep_reports_own (scanned : Scanned setup past state) (name : String) (fields : Fields)
    (found : (state.keep setup key report payload proof).recoveryReports.lookup name = some fields) : setup.cat name = some fields := by
  rw [keep_reports] at found
  cases proof with
  | none => exact scanned.reports name fields found
  | some own =>
    rw [lookup_setEntry] at found
    split at found
    · rename_i same
      subst same
      obtain rfl := Option.some.inj found
      rw [uri,read]
    · exact scanned.reports name fields found

theorem keep_proven (scanned : Scanned setup past state) (enabled : setup.notificationsEnabled = true) (other : ReportObject)
    (member : other ∈ past ++ [object]) (name : String) (held : Acceptable setup other name) (time : ℤ) (own : ownProof setup other.uri = some time) :
    (state.keep setup key report payload proof).recoveryProofs.lookup other.uri = some time ∧
      ((state.keep setup key report payload proof).recoveryReports.lookup other.uri).isSome := by
  rw [keep_proofs,keep_reports]
  by_cases same : other.uri = object.uri
  · rw [proofOf_enabled enabled] at proven
    rw [same,ownProof,read,Option.bind_some,proven] at own
    cases (own : proof = some time)
    dsimp only
    rw [same,lookup_setEntry,lookup_setEntry,if_pos uri.symm,if_pos uri.symm]
    exact ⟨rfl,rfl⟩
  · have early : other ∈ past := by
      rcases List.mem_append.mp member with early | late
      · exact early
      · exact absurd (congrArg ReportObject.uri (List.mem_singleton.mp late)) same
    obtain ⟨known,kept⟩ := scanned.proven enabled other early name held time own
    have unlike : ¬ other.uri = report.uri := fun equal => same (equal.trans uri)
    cases proof with
    | none => exact ⟨known,kept⟩
    | some own =>
      dsimp only
      rw [lookup_setEntry,lookup_setEntry,if_neg unlike,if_neg unlike]
      exact ⟨known,kept⟩

include accepts updated in
theorem Scanned.keep (scanned : Scanned setup past state) (readable : StatusReadable setup object) :
    Scanned setup (past ++ [object]) (state.keep setup key report payload proof) := by
  refine ⟨?_,?_,?_,?_,?_,keep_proofs_own uri read proven scanned,keep_reports_own uri read scanned,keep_proven uri read proven scanned⟩
  · intro other member
    rcases List.mem_append.mp member with early | late
    · exact scanned.readable other early
    · obtain rfl := List.mem_singleton.mp late
      refine ⟨readable,fun fields name found _ => ?_⟩
      obtain rfl := Option.some.inj (read.symm.trans found)
      exact ⟨proof,proven⟩
  · intro required name found known
    rw [keep_byService,if_pos required,lookup_setEntry] at known
    split at known
    · rename_i same
      obtain rfl := Option.some.inj known
      exact ⟨past,object,[],rfl,(accepts name).mpr same,uri,updated,by simp⟩
    · rename_i unlike
      obtain ⟨before,kept,after,rfl,held,place,time,none⟩ := scanned.last required name found known
      refine ⟨before,kept,after ++ [object],by simp,held,place,time,?_⟩
      intro other member
      rcases List.mem_append.mp member with early | late
      · exact none other early
      · obtain rfl := List.mem_singleton.mp late
        exact fun accepted => unlike ((accepts name).mp accepted)
  · intro required name other member held
    rw [keep_byService,if_pos required,lookup_setEntry]
    split
    · rfl
    · rename_i unlike
      rcases List.mem_append.mp member with early | late
      · exact scanned.found required name other early held
      · obtain rfl := List.mem_singleton.mp late
        exact absurd ((accepts name).mp held) unlike
  · intro free
    rw [keep_accepted,if_neg (not_not.mpr free)]
    exact ⟨fun _ => ⟨object,by simp,key,(accepts key).mpr rfl⟩,fun _ => by simp⟩
  · intro required
    rw [keep_accepted,if_pos required]
    exact scanned.unlisted required

end record

theorem scanned_step (scanned : Scanned setup past state) (ran : scanObject setup state object = .ok next) :
    Scanned setup (past ++ [object]) next := by
  have checked := judged setup object
  unfold scanObject at ran
  revert ran
  generalize judge setup object = answer at checked
  cases checked with
  | dropped none readable =>
    intro ran
    obtain rfl := Except.ok.inj ran
    exact scanned.skip none readable
  | kept key report payload accepts readable uri updated read =>
    intro ran
    have kept : (proofOf setup payload >>= fun proof => pure (state.keep setup key report payload proof)) = .ok next := ran
    obtain ⟨proof,proven,done⟩ := bind_ok.mp kept
    obtain rfl := return_ok.mp done
    exact Scanned.keep accepts uri updated read proven scanned readable
  | broken raised none broken =>
    intro ran
    cases ran

theorem scanned_run (ran : past.foldlM (scanObject setup) ⟨[],[],[],[]⟩ = .ok state) : Scanned setup past state := by
  induction past using List.reverseRecOn generalizing state with
  | nil =>
    rw [List.foldlM_nil,return_ok] at ran
    subst ran
    exact scanned_nil setup
  | append_singleton rows row ih =>
    rw [List.foldlM_append,bind_ok] at ran
    obtain ⟨middle,early,late⟩ := ran
    rw [List.foldlM_cons,bind_ok] at late
    obtain ⟨last,one,done⟩ := late
    rw [List.foldlM_nil,return_ok] at done
    subst done
    exact scanned_step (ih early) one

-- The scan runs to its end where every status and every time that it reads can be read.
theorem scan_runs (readable : ∀ object ∈ past, Readable setup object) (before : ScanState) :
    ∃ after, past.foldlM (scanObject setup) before = .ok after := by
  induction past generalizing before with
  | nil => exact ⟨before,rfl⟩
  | cons object rest ih =>
    have step : ∃ middle, scanObject setup before object = .ok middle := by
      have checked := judged setup object
      unfold scanObject
      generalize judge setup object = answer at checked
      cases checked with
      | dropped => exact ⟨_,rfl⟩
      | kept key report payload accepts _ _ _ read =>
        obtain ⟨proof,proven⟩ := (readable object List.mem_cons_self).2 payload key read ((accepts key).mpr rfl)
        exact ⟨before.keep setup key report payload proof,bind_ok.mpr ⟨_,rfl,bind_ok.mpr ⟨proof,proven,rfl⟩⟩⟩
      | broken raised none broken => exact absurd (readable object List.mem_cons_self).1 broken
    obtain ⟨middle,one⟩ := step
    obtain ⟨after,more⟩ := ih (fun other member => readable other (List.mem_cons_of_mem _ member)) middle
    exact ⟨after,by rw [List.foldlM_cons,one]; exact more⟩

end run

end LongBridge.Heartbeat
