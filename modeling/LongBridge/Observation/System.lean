import LongBridge.Observation.Alerting
import LongBridge.Observation.Promised
import LongBridge.Observation.Requests

namespace LongBridge.Observation
open Effects

-- The objects of the bucket: none is ever replaced or deleted.
abbrev Objects := String → Option PyVal

-- What a request does. A write whose answer was lost may have been made; only an answer that says that an
-- object is there or missing tells which.
def bucketStep (before : Objects) (event : Event bucketPorts PyExc) (after : Objects) : Prop :=
  match event with
  | .answered _ (.reload key) (.error exc) => after = before ∧ (exc.kind = "NotFound" → before key = none)
  | .answered _ (.download key) (.ok body) => after = before ∧ before key = some body
  | .answered _ (.download key) (.error exc) => after = before ∧ (exc.kind = "NotFound" → before key = none)
  | .answered _ (.upload key body) (.ok _) => before key = none ∧ after = Function.update before key (some body)
  | .answered _ (.upload key body) (.error exc) => (after = before ∧ (exc.kind = "PreconditionFailed" → before key ≠ none)) ∨
      (exc.kind ≠ "PreconditionFailed" ∧ before key = none ∧ after = Function.update before key (some body))
  | .answered _ .clock (.ok time) => after = before ∧ (show ℤ from time) < lastInstant
  | _ => after = before

-- The object that an upload has added, if any
def uploadOf : Event bucketPorts PyExc → Option (String × PyVal)
  | .answered _ (.upload key body) _ => some (key,body)
  | _ => none

def clockOf : Event bucketPorts PyExc → Option ℤ
  | .answered _ .clock (.ok time) => some time
  | _ => none

def tellingOf : Event bucketPorts PyExc → Option (String × Bool)
  | .answered _ (.send message) (.ok heard) => some (message,heard)
  | .answered _ (.send message) (.error _) => some (message,false)
  | _ => none

def isFetch : Event bucketPorts PyExc → Bool
  | .answered _ .fetch _ => true
  | _ => false

-- A step adds at most the object that is uploaded, and only where there was none.
theorem bucketStep_adds {before after : Objects} {event : Event bucketPorts PyExc} (step : bucketStep before event after) :
    after = before ∨ ∃ key body, uploadOf event = some (key,body) ∧ before key = none ∧ after = Function.update before key (some body) := by
  cases event with
  | fault held error => exact .inl step
  | marked label => exact .inl step
  | answered held call answer =>
    cases call with
    | reload key =>
      cases answer with
      | ok size => exact .inl step
      | error exc => exact .inl step.1
    | download key => cases answer <;> exact .inl step.1
    | upload key body =>
      cases answer with
      | ok written => exact .inr ⟨key,body,rfl,step.1,step.2⟩
      | error exc =>
        rcases step with ⟨same,_⟩ | ⟨_,missing,added⟩
        · exact .inl same
        · exact .inr ⟨key,body,rfl,missing,added⟩
    | fetch => cases answer <;> exact .inl step
    | clock =>
      cases answer with
      | ok time => exact .inl step.1
      | error exc => exact .inl step
    | send message => cases answer <;> exact .inl step

theorem bucketStep_keeps {before after : Objects} {event : Event bucketPorts PyExc} (step : bucketStep before event after) {key : String} {body : PyVal}
    (there : before key = some body) : after key = some body := by
  rcases bucketStep_adds step with rfl | ⟨other,added,_,missing,rfl⟩
  · exact there
  · have apart : key ≠ other := by
      rintro rfl
      rw [missing] at there
      cases there
    rw [Function.update_of_ne apart]
    exact there

-- A new object is one that was uploaded.
theorem bucketStep_new {before after : Objects} {event : Event bucketPorts PyExc} (step : bucketStep before event after) {key : String} {body : PyVal}
    (there : after key = some body) : before key = some body ∨ uploadOf event = some (key,body) := by
  rcases bucketStep_adds step with rfl | ⟨other,added,uploaded,_,rfl⟩
  · exact .inl there
  · by_cases same : key = other
    · subst same
      rw [Function.update_self] at there
      cases there
      exact .inr uploaded
    · rw [Function.update_of_ne same] at there
      exact .inl there

-- One scheduled run of a job
inductive Role where
  | collector (binding : String) (start : ℕ)
  | watchdog (watch : Watch)
  | blind (watch : Watch)

structure Job where
  now : ℤ
  role : Role

namespace Job

def script (bundle : Bundle) (job : Job) : ObservationRun String :=
  match job.role with
  | .collector binding start => collect bundle binding start job.now
  | .watchdog watch => watchRun bundle watch job.now
  | .blind watch => watchBlind watch job.now

def program (weigh : PyVal → ℕ) (bundle : Bundle) (job : Job) : Tree bucketPorts PyExc (Except PyExc String × Unit) :=
  (overBucket weigh (job.script bundle)).run false ()

def creating (bundle : Bundle) (job : Job) (requests : Requests) (key : String) (value : PyVal) : Prop :=
  match job.role with
  | .collector .. => MayCreate bundle job.now (requests.steady = true) requests.seen key value
  | .watchdog watch => MayMark watch requests.told requests.Holds key
  | .blind watch => MayMark watch requests.told requests.Holds key

def fetching (bundle : Bundle) (job : Job) (requests : Requests) : Prop :=
  match job.role with
  | .collector .. => MayFetch bundle job.now requests.fetched requests.Owns
  | _ => False

def telling (job : Job) (requests : Requests) (message : String) : Prop :=
  match job.role with
  | .collector .. => False
  | .watchdog watch => MayTell watch job.now requests.Owns requests.Holds requests.Lacks message
  | .blind watch => MayTell watch job.now requests.Owns requests.Holds requests.Lacks message

def rule (bundle : Bundle) (job : Job) : Discipline bucketPorts PyExc Requests := onBucket (job.creating bundle) (job.fetching bundle) job.telling

-- A collector that returns has covered its days.
def ends (bundle : Bundle) (job : Job) (requests : Requests) (result : Except PyExc String × Unit) : Prop :=
  match job.role,result.1 with
  | .collector _ start,.ok _ => ∃ doing, Covered bundle start job.now doing ∧ Serves doing requests
  | _,_ => True

end Job

theorem collection_permits (bundle : Bundle) (now : ℤ) : Permits (fun doing => MayCreate bundle now (doing.steady = true) doing.known)
    (collectorFetch bundle now) (fun _ _ => False) (fun requests => MayCreate bundle now (requests.steady = true) requests.seen)
    (fun requests => MayFetch bundle now requests.fetched requests.Owns) (fun _ _ => False) where
  creates doing requests key value serves may := may.mono (fun held => serves.steady.trans held) serves.known
  fetches doing requests serves may := by
    obtain ⟨unfetched,key,own,owned⟩ := may
    exact ⟨serves.fetched.symm.trans unfetched,key,own,serves.owned _ owned⟩
  tells doing requests message serves may := may

theorem watch_permits (watch : Watch) (now : ℤ) : Permits (fun doing key _ => MayMark watch doing.told (· ∈ doing.present) key) (fun _ => False)
    (fun doing => MayTell watch now (fun key value => (key,value) ∈ doing.owned) (· ∈ doing.present) (· ∈ doing.missing))
    (fun requests key _ => MayMark watch requests.told requests.Holds key) (fun _ => False)
    (fun requests => MayTell watch now requests.Owns requests.Holds requests.Lacks) where
  creates doing requests key value serves may := by
    cases may with
    | mark notice incident proper own accepted known =>
      exact .mark notice incident proper own (serves.told ▸ accepted) fun same => serves.present _ (known same)
    | note own => exact .note own
  fetches doing requests serves may := may
  tells doing requests message serves may := by
    cases may with
    | claimed notice incident own claim unmarked known =>
      exact .claimed notice incident own (serves.owned _ claim) (serves.missing _ unmarked) fun same => serves.present _ (known same)
    | fallback front own => exact .fallback front own

theorem job_conforms {weigh : PyVal → ℕ} {bundle : Bundle} (dated : Dated bundle) (job : Job) (positive : 0 ≤ job.now) :
    Conforms (job.rule bundle) (job.ends bundle) (.fresh job.now) (job.program weigh bundle) := by
  obtain ⟨now,role⟩ := job
  cases role with
  | collector binding start =>
    refine conforms_mono ?_ (overBucket_promises (collection_permits bundle now) (serves_fresh now) (collect_promises dated positive))
    intro requests result reached
    obtain ⟨doing,locals,covered,serves⟩ := reached
    obtain ⟨result,left⟩ := result
    cases result with
    | ok text => exact ⟨doing,covered,serves⟩
    | error exc => trivial
  | watchdog watch =>
    refine conforms_mono ?_ (overBucket_promises (watch_permits watch now) (serves_fresh now) watchRun_promises)
    intro requests result reached
    trivial
  | blind watch =>
    refine conforms_mono ?_ (overBucket_promises (watch_permits watch now) (serves_fresh now) watchBlind_promises)
    intro requests result reached
    trivial

end LongBridge.Observation
