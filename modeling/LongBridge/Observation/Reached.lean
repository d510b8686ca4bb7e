import LongBridge.Observation.Facts

namespace LongBridge.Observation
open Effects

section reached
variable {ι : Type} [DecidableEq ι] {weigh : PyVal → ℕ} {bundle : Bundle} {jobs : ι → Job} {start objects : Objects} {turns : Turns ι}
  {left : ι → Tree bucketPorts PyExc (Except PyExc String × Unit)}

-- Any number of scheduled runs over one bucket, request by request, each of which may stop anywhere
abbrev Reaches (weigh : PyVal → ℕ) (bundle : Bundle) (jobs : ι → Job) : Objects → Turns ι → Objects →
    (ι → Tree bucketPorts PyExc (Except PyExc String × Unit)) → Prop :=
  Interleaves bucketStep fun who => (jobs who).program weigh bundle

theorem allowed_uploads {job : Job} {requests : Requests} {event : Event bucketPorts PyExc} (allowed : (job.rule bundle).allows requests event)
    {key : String} {body : PyVal} (uploads : uploadOf event = some (key,body)) :
    ∃ value, value.jsonSorted = .ok body ∧ job.creating bundle requests key value := by
  cases event with
  | fault held error => cases uploads
  | marked label => cases uploads
  | answered held call answer =>
    cases call with
    | upload other content =>
      cases uploads
      exact allowed
    | _ => cases uploads

theorem allowed_tells {job : Job} {requests : Requests} {event : Event bucketPorts PyExc} (allowed : (job.rule bundle).allows requests event)
    {entry : String × Bool} (tells : tellingOf event = some entry) : job.telling requests entry.1 := by
  cases event with
  | fault held error => cases tells
  | marked label => cases tells
  | answered held call answer =>
    cases call with
    | send message => cases answer <;> cases tells <;> exact allowed
    | _ => cases tells

theorem allowed_fetches {job : Job} {requests : Requests} {event : Event bucketPorts PyExc} (allowed : (job.rule bundle).allows requests event)
    (fetches : isFetch event = true) : job.fetching bundle requests := by
  cases event with
  | fault held error => cases fetches
  | marked label => cases fetches
  | answered held call answer =>
    cases call with
    | fetch => exact allowed
    | _ => cases fetches

theorem step_expects {job : Job} {requests : Requests} {before after : Objects} {event : Event bucketPorts PyExc} (step : bucketStep before event after) :
    (job.rule bundle).expects requests event := by
  cases event with
  | fault held error => trivial
  | marked label => trivial
  | answered held call answer =>
    cases call with
    | clock =>
      cases answer with
      | ok time => exact step.2
      | error exc => trivial
    | _ => trivial

-- What every allowed request keeps
def StepKeeps (bundle : Bundle) (jobs : ι → Job) (J : Turns ι → Objects → (ι → Requests) → Prop) : Prop :=
  ∀ turns objects phases who event after, (∀ other, Knows turns objects (jobs other).now other (phases other)) → J turns objects phases →
    ((jobs who).rule bundle).allows (phases who) event → bucketStep objects event after →
    J (turns ++ [ownTurn objects who event after]) after (Function.update phases who (((jobs who).rule bundle).moved (phases who) event))

-- It holds in every state that is reached.
theorem system_keeps (dated : Dated bundle) (positive : ∀ who, 0 ≤ (jobs who).now) {J : Turns ι → Objects → (ι → Requests) → Prop}
    (keeps : StepKeeps bundle jobs J) (init : J [] start fun who => .fresh (jobs who).now) (run : Reaches weigh bundle jobs start turns objects left) :
    ∃ phases, (∀ who, Knows turns objects (jobs who).now who (phases who)) ∧ J turns objects phases ∧
      ∀ who, Conforms ((jobs who).rule bundle) ((jobs who).ends bundle) (phases who) (left who) := by
  have keep : ∀ turns objects phases who event after, ((∀ other, Knows turns objects (jobs other).now other (phases other)) ∧ J turns objects phases) →
      ((jobs who).rule bundle).allows (phases who) event → bucketStep objects event after → ((jobs who).rule bundle).expects (phases who) event ∧
        (∀ other, Knows (turns ++ [ownTurn objects who event after]) after (jobs other).now other
          (Function.update phases who (((jobs who).rule bundle).moved (phases who) event) other)) ∧
        J (turns ++ [ownTurn objects who event after]) after (Function.update phases who (((jobs who).rule bundle).moved (phases who) event)) := by
    intro turns objects phases who event after ⟨knows,held⟩ allowed step
    refine ⟨step_expects step,fun other => ?_,keeps _ _ _ _ _ _ knows held allowed step⟩
    by_cases same : other = who
    · subst same
      rw [Function.update_self]
      exact knows_own (knows other) step
    · rw [Function.update_of_ne same]
      exact (knows other).quiet step fun own => absurd own.symm same
  obtain ⟨phases,⟨knows,held⟩,conforms⟩ := interleaved_keeps (fun who => (jobs who).rule bundle) (fun who => (jobs who).ends bundle)
    (fun who => Requests.fresh (jobs who).now) (fun who => job_conforms dated (jobs who) (positive who))
    (fun turns objects phases => (∀ who, Knows turns objects (jobs who).now who (phases who)) ∧ J turns objects phases)
    ⟨fun who => knows_fresh,init⟩ keep run
  exact ⟨phases,knows,held,conforms⟩

end reached

section example_runs

-- One session of New York, in winter
def eastern : NewYork := ⟨fun time => utcOrdinal (time - 5 * hourSpan),fun wall => wall + 5 * hourSpan⟩

def sessionDay : ℕ := 738887

def oneSession : Bundle := ⟨⟨sessionDay,sessionDay,[("2024-01-02","16:00:00")]⟩,eastern,fun _ => "180.0"⟩

def sessionDue : ℤ := 738886 * daySpan + 21 * hourSpan + 30 * minuteSpan

theorem oneSession_due : oneSession.due sessionDay = .ok (some sessionDue) := by
  have read : (oneSession.due sessionDay).toOption = some (some sessionDue) := by decide +kernel
  cases found : oneSession.due sessionDay with
  | error raised =>
    rw [found] at read
    cases read
  | ok due =>
    rw [found] at read
    cases read
    rfl

theorem oneSession_dated : Dated oneSession where
  starts := by decide
  stops := by decide
  dues day due found := by
    have same : day = sessionDay := by
      unfold Bundle.due Calendar.due at found
      split at found
      · cases found
      · rename_i inside
        have range := not_not.mp inside
        exact Nat.le_antisymm range.2 range.1
    have read := oneSession_due
    rw [← same,found] at read
    cases read
    decide

def accountBinding : String := "aaaaaaaaaaaaaaaaaaaaaaaaaaaaaaaaaaaaaaaaaaaaaaaaaaaaaaaaaaaaaaaa"

def accountPayload : PyVal := .dict [
  ("schema_version",.str "longbridge_account_snapshot.v1"),("status",.str "partial"),("account_scope",.str "PAPER"),("no_order",.bool true),
  ("live_authority_granted",.bool false),("snapshot_atomic",.bool false),("cash_complete",.bool true),("positions_complete",.bool true),
  ("source_binding",.dict [("status",.str "bound"),("id",.str accountBinding)]),
  ("observed_started_at",.str "2024-01-02T21:33:00+00:00"),("observed_finished_at",.str "2024-01-02T21:33:01+00:00"),
  ("cash",.list [.dict [("currency",.str "USD"),("available_cash",.str "10.5"),("frozen_cash",.str "0"),("settling_cash",.str "0")]]),
  ("broker_reported_balances",.list [.dict [("currency",.str "USD"),("net_assets",.str "10.5"),("total_cash",.str "10.5")]]),
  ("positions",.list []),("recent_orders_complete",.bool false),("recent_orders_7d",.list []),
  ("recent_orders_query",.dict [("start_at",.str "2023-12-26T21:33:00+00:00"),("end_at",.str "2024-01-02T21:33:00+00:00"),("paging_complete",.bool false)])]

def reloaded (key : String) : Option PyVal → Except PyExc (Option ℕ)
  | some _ => .ok (some 100)
  | none => .error ⟨"NotFound",key⟩

def downloaded (key : String) : Option PyVal → Except PyExc PyVal
  | some body => .ok body
  | none => .error ⟨"NotFound",key⟩

def uploaded (objects : Objects) (key : String) (body : PyVal) : Option PyVal → Except PyExc Unit × Objects
  | some _ => (.error ⟨"PreconditionFailed",key⟩,objects)
  | none => (.ok (),Function.update objects key (some body))

-- A bucket without failures, beside an account that answers and a sender that accepts
def plainBucket (objects : Objects) : (call : BucketCall) → Except PyExc call.Result × Objects
  | .reload key => (reloaded key (objects key),objects)
  | .download key => (downloaded key (objects key),objects)
  | .upload key body => uploaded objects key body (objects key)
  | .fetch => (.ok accountPayload,objects)
  | .clock => (.ok (sessionDue + 4 * minuteSpan),objects)
  | .send _ => (.ok true,objects)

theorem plainBucket_answers : Answers plainBucket bucketStep where
  calls objects held call := by
    cases call with
    | reload key =>
      show bucketStep objects (.answered held (.reload key) (reloaded key (objects key))) objects
      cases found : objects key with
      | some body => exact rfl
      | none => exact ⟨rfl,fun _ => found⟩
    | download key =>
      show bucketStep objects (.answered held (.download key) (downloaded key (objects key))) objects
      cases found : objects key with
      | some body => exact ⟨rfl,found⟩
      | none => exact ⟨rfl,fun _ => found⟩
    | upload key body =>
      show bucketStep objects (.answered held (.upload key body) (uploaded objects key body (objects key)).1) (uploaded objects key body (objects key)).2
      cases found : objects key with
      | some old => exact .inl ⟨rfl,fun _ => by rw [found]; nofun⟩
      | none => exact ⟨found,rfl⟩
    | fetch => exact rfl
    | clock => exact ⟨rfl,by decide⟩
    | send message => exact rfl
  faults objects held error := rfl
  marks objects label := rfl

abbrev Performed := Turns Bool × Objects × (Bool → Tree bucketPorts PyExc (Except PyExc String × Unit))

def performed (jobs : Bool → Job) (start : Objects) (order : List Bool) : Performed :=
  perform plainBucket order [] start fun who => (jobs who).program (fun _ => 100) oneSession

theorem performed_reaches (jobs : Bool → Job) (start : Objects) (order : List Bool) : Reaches (fun _ => 100) oneSession jobs start
    (performed jobs start order).1 (performed jobs start order).2.1 (performed jobs start order).2.2 :=
  perform_interleaves plainBucket_answers order .start

def noObjects : Objects := fun _ => none

def returnedText : Tree bucketPorts PyExc (Except PyExc String × Unit) → Option String
  | .done (.ok text,_) => some text
  | _ => none

theorem returned_of {tree : Tree bucketPorts PyExc (Except PyExc String × Unit)} {text : String} (shown : returnedText tree = some text) :
    tree = .done (.ok text,()) := by
  unfold returnedText at shown
  split at shown
  · cases shown
    rfl
  · cases shown

-- Two collectors a minute apart, each moving on in turn
def twoCollectors : Bool → Job
  | true => ⟨sessionDue + 1 * minuteSpan,.collector accountBinding sessionDay⟩
  | false => ⟨sessionDue + 2 * minuteSpan,.collector accountBinding sessionDay⟩

def inTurn (count : ℕ) : List Bool := (List.range count).map fun number => number % 2 == 0

theorem twoCollectors_times (who : Bool) : 0 ≤ (twoCollectors who).now ∧ (twoCollectors who).now < lastInstant := by
  cases who <;> decide

end example_runs

end LongBridge.Observation
