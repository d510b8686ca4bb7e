import LongBridge.Notifications.Incidents

namespace LongBridge.Notifications
open Effects

-- What one call knows of its own doing: the marker it read last, the generation it has
-- reserved, whether it has sent, and whether it was overtaken before it could.
structure Progress where
  seen : Option (String × Option (ℕ × Marker))
  reserved : Option (String × ℤ)
  sent : Bool
  lost : Bool

namespace Progress

def fresh : Progress := ⟨none,none,false,false⟩

def pending (progress : Progress) : Bool := progress.reserved.isSome && !progress.sent

def generationOf (found : Option (ℕ × Marker)) : ℤ := (previousOf found).generation

def seenGeneration (progress : Progress) : ℤ :=
  match progress.seen with
  | some (_,found) => generationOf found
  | none => 0

def read (progress : Progress) (stamp : Moment) (key : String) (found : Option (ℕ × Marker)) : Progress :=
  { progress with seen := some (key,found), lost := progress.lost || (progress.pending && isNewer stamp found) }

def wrote (progress : Progress) (key : String) (value : Marker) : Progress :=
  { progress with
    seen := none
    reserved := if value.generation = progress.seenGeneration then progress.reserved else some (key,value.generation) }

def missed (progress : Progress) : Progress := { progress with lost := progress.lost || progress.pending }

def delivered (progress : Progress) : Progress := { progress with sent := true }

end Progress

-- A write never turns the observation time back.
def KeepsTime (found : Option (ℕ × Marker)) (value : Marker) : Prop :=
  ∀ version marker moment, found = some (version,marker) → marker.observedAt = some moment →
    ∃ later, value.observedAt = some later ∧ moment.instant ≤ later.instant

-- A write keeps the generation that was read, or reserves the next one, once.
def MaySet (progress : Progress) (key : String) (version : Option ℕ) (value : Marker) : Prop :=
  ∃ found, progress.seen = some (key,found) ∧ version = found.map Prod.fst ∧ KeepsTime found value ∧
    (value.generation = Progress.generationOf found ∨
      (value.generation = Progress.generationOf found + 1 ∧ progress.reserved = none))

def MaySend (progress : Progress) : Prop :=
  progress.reserved.isSome = true ∧ progress.sent = false ∧ progress.lost = false

def moved (stamp : Moment) (progress : Progress) : (call : IncidentCall) → Except PyExc call.Result → Progress
  | .reloadMarker key,.ok none => progress.read stamp key none
  | .downloadMarker key generation,.ok value => progress.read stamp key (some (generation,value))
  | .downloadMarker ..,.error _ => progress.missed
  | .downloadGroup ..,.error _ => progress.missed
  | .setMarker key _ value,.ok true => progress.wrote key value
  | .setMarker ..,.ok false => progress.missed
  | .setGroup ..,.ok false => progress.missed
  | .send,_ => progress.delivered
  | _,_ => progress

-- What the store may answer: a download fails only under another generation, and nothing else of it fails.
def StoreAnswers : (call : IncidentCall) → Except PyExc call.Result → Prop
  | .send,_ => True
  | .downloadMarker ..,answer => (∃ value, answer = .ok value) ∨ answer = .error preconditionFailed
  | .downloadGroup ..,answer => (∃ value, answer = .ok value) ∨ answer = .error preconditionFailed
  | _,answer => ∃ value, answer = .ok value

def oneObservation (stamp : Moment) : Discipline incidentPorts PyExc Progress where
  allow progress call := match call with
    | .setMarker key version value => MaySet progress key version value
    | .send => MaySend progress
    | _ => True
  possible _ := StoreAnswers
  move := moved stamp

section Calls

variable {stamp : Moment} {progress : Progress} {held : Bool} {key : String}

theorem readMarker_promises {ends : Progress → Except PyExc (Option (ℕ × Marker)) → Unit → Prop}
    (next : ∀ found, ends (progress.read stamp key found) (.ok found) ())
    (changed : ends progress.missed (.error preconditionFailed) ()) :
    (readMarker key).Promises (oneObservation stamp) ends progress held () := by
  refine promises_bind.mpr (promises_invoke.mpr ⟨trivial,?_⟩)
  rintro answer ⟨found,rfl⟩
  cases found with
  | none => exact promises_pure.mpr (next none)
  | some generation =>
    refine promises_bind.mpr (promises_invoke.mpr ⟨trivial,?_⟩)
    rintro answer (⟨value,rfl⟩ | rfl)
    · exact promises_pure.mpr (next (some (generation,value)))
    · exact changed

theorem readGroup_promises {ends : Progress → Except PyExc (Option (ℕ × Reasons)) → Unit → Prop}
    (next : ∀ found, ends progress (.ok found) ()) (changed : ends progress.missed (.error preconditionFailed) ()) :
    (readGroup key).Promises (oneObservation stamp) ends progress held () := by
  refine promises_bind.mpr (promises_invoke.mpr ⟨trivial,?_⟩)
  rintro answer ⟨found,rfl⟩
  cases found with
  | none => exact promises_pure.mpr (next none)
  | some generation =>
    refine promises_bind.mpr (promises_invoke.mpr ⟨trivial,?_⟩)
    rintro answer (⟨value,rfl⟩ | rfl)
    · exact promises_pure.mpr (next (some (generation,value)))
    · exact changed

theorem setMarker_promises {ends : Progress → Except PyExc Bool → Unit → Prop} {version : Option ℕ} {value : Marker}
    (may : MaySet progress key version value) (through : ends (progress.wrote key value) (.ok true) ())
    (refused : ends progress.missed (.ok false) ()) :
    (askIncident (.setMarker key version value)).Promises (oneObservation stamp) ends progress held () := by
  refine promises_invoke.mpr ⟨may,?_⟩
  rintro answer ⟨set,rfl⟩
  cases set with
  | true => exact through
  | false => exact refused

theorem orderedRead_promises {ends : Progress → Except PyExc (Option (ℕ × Marker)) → Unit → Prop}
    (stale : ∀ found, isNewer stamp found = true → ends (progress.read stamp key found) (.error staleObservation) ())
    (next : ∀ found, isNewer stamp found = false → ends (progress.read stamp key found) (.ok found) ())
    (changed : ends progress.missed (.error preconditionFailed) ()) :
    (orderedRead stamp key).Promises (oneObservation stamp) ends progress held () := by
  refine promises_bind.mpr (readMarker_promises (fun found => ?_) changed)
  cases newer : isNewer stamp found with
  | true =>
    simp only [newer]
    exact promises_raise.mpr (stale found newer)
  | false =>
    simp only [newer,Bool.false_eq_true]
    exact promises_pure.mpr (next found newer)

theorem keepsTime_stamped {found : Option (ℕ × Marker)} (current : isNewer stamp found = false) (value : Marker) :
    KeepsTime found { value with observedAt := some stamp } := by
  rintro version marker moment rfl held
  refine ⟨stamp,rfl,?_⟩
  unfold isNewer at current
  simp only [held,decide_eq_false_iff_not,not_lt] at current
  exact current

end Calls

-- Before the send, a call that has reserved either goes on or was overtaken.
structure Unsent (progress : Progress) : Prop where
  sent : progress.sent = false
  lost : progress.lost = false

def GoesOn (reserved : Option (String × ℤ)) (progress : Progress) (result : Except PyExc Unit) : Prop :=
  progress.sent = false ∧ progress.reserved = reserved ∧ match result with
    | .ok _ => progress.lost = false
    | .error _ => reserved.isSome = true → progress.lost = true

section Observing

variable {digests : Digests} {stamp : Moment} {progress : Progress} {held : Bool} {key state : String} {severity : ℤ}
  {recovered : Bool}

theorem observed_generation (digests : Digests) (key : String) (previous : Marker) (state : String) (severity : ℤ)
    (recovered : Bool) :
    ((observed digests key previous state severity recovered).2 = .send ∧
      (observed digests key previous state severity recovered).1.generation = previous.generation + 1) ∨
    ((observed digests key previous state severity recovered).2 ≠ .send ∧
      (observed digests key previous state severity recovered).1.generation = previous.generation) := by
  unfold observed
  split
  · exact .inr ⟨(fun same => nomatch same),rfl⟩
  · split
    · exact .inr ⟨(fun same => nomatch same),rfl⟩
    · exact .inl ⟨rfl,rfl⟩

-- What the rounds leave behind: a reservation exactly with the decision to send.
def Decided (progress : Progress) : Except PyExc IncidentDecision → Prop
  | .ok decision => progress.sent = false ∧ progress.lost = false ∧
      (progress.reserved.isSome = true ↔ decision.action = .send)
  | .error _ => progress.sent = false ∧ progress.lost = false ∧ progress.reserved = none

theorem completeMarker_same {read found : Option (ℕ × Marker)} (complete : completeMarker read = .ok found) : found = read := by
  unfold completeMarker at complete
  split at complete
  · cases complete; rfl
  · split at complete
    · cases complete; rfl
    · cases complete

theorem concludeRound_promises {found : Option (ℕ × Marker)} {outcome : Marker × Action} {again : IncidentRun IncidentDecision}
    (unsent : Unsent progress) (free : progress.reserved = none) (seen : progress.seen = some (key,found))
    (current : isNewer stamp found = false)
    (generation : (outcome.2 = .send ∧ outcome.1.generation = (previousOf found).generation + 1) ∨
      (outcome.2 ≠ .send ∧ outcome.1.generation = (previousOf found).generation))
    (next : again.Promises (oneObservation stamp) (fun progress result _ => Decided progress result) progress.missed held ()) :
    (concludeRound stamp key found outcome again).Promises (oneObservation stamp) (fun progress result _ => Decided progress result)
      progress held () := by
  have own : progress.seenGeneration = Progress.generationOf found := by rw [Progress.seenGeneration,seen]
  unfold concludeRound
  split
  · rename_i unchanged
    refine promises_pure.mpr ⟨unsent.sent,unsent.lost,?_⟩
    rcases generation with ⟨_,later⟩ | ⟨quiet,_⟩
    · rw [unchanged] at later; omega
    · refine iff_of_false ?_ quiet
      rw [free]; decide
  · refine promises_bind.mpr (setMarker_promises ?_ ?_ next)
    · refine ⟨found,seen,rfl,keepsTime_stamped current _,?_⟩
      rcases generation with ⟨_,later⟩ | ⟨_,kept⟩
      · exact .inr ⟨later,free⟩
      · exact .inl kept
    · refine promises_pure.mpr ⟨unsent.sent,unsent.lost,?_⟩
      change (if outcome.1.generation = progress.seenGeneration then progress.reserved else some (key,_)).isSome = true ↔
        outcome.2 = .send
      rw [own]
      rcases generation with ⟨sends,later⟩ | ⟨quiet,kept⟩
      · refine iff_of_true ?_ sends
        rw [if_neg (by rw [later,Progress.generationOf]; omega)]; rfl
      · refine iff_of_false ?_ quiet
        rw [if_pos (show outcome.1.generation = Progress.generationOf found from kept),free]; decide

theorem Unsent.missed (unsent : Unsent progress) (free : progress.reserved = none) : Unsent progress.missed := by
  refine ⟨unsent.sent,?_⟩
  change (progress.lost || (progress.reserved.isSome && !progress.sent)) = false
  rw [unsent.lost,free]; rfl

theorem Unsent.read (unsent : Unsent progress) (free : progress.reserved = none) (found : Option (ℕ × Marker)) :
    Unsent (progress.read stamp key found) := by
  refine ⟨unsent.sent,?_⟩
  change (progress.lost || (progress.reserved.isSome && !progress.sent && isNewer stamp found)) = false
  rw [unsent.lost,free]; rfl

theorem observeRounds_promises (rounds : ℕ) (unsent : Unsent progress) (free : progress.reserved = none) :
    (observeRounds digests stamp key state severity recovered rounds).Promises (oneObservation stamp)
      (fun progress result _ => Decided progress result) progress held () := by
  induction rounds generalizing progress with
  | zero => exact promises_raise.mpr ⟨unsent.sent,unsent.lost,free⟩
  | succ rounds ih =>
    refine promises_bind.mpr (orderedRead_promises ?_ ?_ ⟨unsent.sent,(unsent.missed free).lost,free⟩)
    · intro found _
      exact ⟨(unsent.read free found).sent,(unsent.read free found).lost,free⟩
    · intro found current
      have after : Unsent (progress.read stamp key found) := unsent.read free found
      refine promises_bind.mpr (promises_fromExcept.mpr ?_)
      cases complete : completeMarker found with
      | error exc => exact ⟨after.sent,after.lost,free⟩
      | ok same =>
        obtain rfl := completeMarker_same complete
        exact concludeRound_promises after free rfl current (observed_generation ..) (ih (after.missed free) free)

-- Whoever has reserved is lost with a request that came too late.
theorem goesOn_missed {reserved : Option (String × ℤ)} {exc : PyExc} (sent : progress.sent = false)
    (own : progress.reserved = reserved) : GoesOn reserved progress.missed (.error exc) := by
  refine ⟨sent,own,fun some => ?_⟩
  change (progress.lost || (progress.reserved.isSome && !progress.sent)) = true
  rw [own,some,sent]; simp

theorem advanceMarker_promises {reserved : Option (String × ℤ)} (unsent : Unsent progress)
    (own : progress.reserved = reserved) :
    (advanceMarker stamp key).Promises (oneObservation stamp) (fun progress result _ => GoesOn reserved progress result)
      progress held () := by
  have lostNow : ∀ found, (progress.read stamp key found).lost = (reserved.isSome && isNewer stamp found) := fun found => by
    change (progress.lost || (progress.reserved.isSome && !progress.sent && isNewer stamp found)) = _
    rw [unsent.lost,unsent.sent,own,Bool.false_or,Bool.not_false,Bool.and_true]
  refine promises_bind.mpr (orderedRead_promises ?_ ?_ (goesOn_missed unsent.sent own))
  · intro found newer
    refine ⟨unsent.sent,own,fun some => ?_⟩
    rw [lostNow,some,newer]; rfl
  · intro found current
    have kept : (progress.read stamp key found).lost = false := by rw [lostNow,current,Bool.and_false]
    cases found with
    | none => exact promises_pure.mpr ⟨unsent.sent,own,kept⟩
    | some cell =>
      obtain ⟨version,marker⟩ := cell
      change Script.Promises (if _ then _ else _) _ _ _ _ _
      split
      · exact promises_pure.mpr ⟨unsent.sent,own,kept⟩
      · refine promises_bind.mpr (setMarker_promises ?_ ?_ ?_)
        · exact ⟨_,rfl,rfl,keepsTime_stamped current _,.inl rfl⟩
        · refine promises_pure.mpr ⟨unsent.sent,?_,kept⟩
          exact (if_pos rfl).trans own
        · exact promises_raise.mpr (goesOn_missed unsent.sent own)

theorem noteReason_promises {event : NotificationEvent} {group : String} {reserved : Option (String × ℤ)} (unsent : Unsent progress)
    (own : progress.reserved = reserved) :
    (noteReason digests event group).Promises (oneObservation stamp) (fun progress result _ => GoesOn reserved progress result)
      progress held () := by
  refine promises_bind.mpr (readGroup_promises (fun index => ?_) (goesOn_missed unsent.sent own))
  change Script.Promises (if _ then _ else _) _ _ _ _ _
  split
  · exact promises_pure.mpr ⟨unsent.sent,own,unsent.lost⟩
  · refine promises_bind.mpr (promises_invoke.mpr ⟨trivial,?_⟩)
    rintro answer ⟨set,rfl⟩
    cases set with
    | true => exact promises_pure.mpr ⟨unsent.sent,own,unsent.lost⟩
    | false => exact promises_raise.mpr (goesOn_missed unsent.sent own)

theorem observeTransition_promises {event : NotificationEvent} (unsent : Unsent progress) (free : progress.reserved = none) :
    (observeTransition digests event state severity recovered).Promises (oneObservation event.occurredAt)
      (fun progress result _ => Decided progress result) progress held () := by
  unfold observeTransition
  split
  · refine promises_pure.mpr ⟨unsent.sent,unsent.lost,iff_of_false ?_ fun same => nomatch same⟩
    rw [free]; decide
  · split
    · exact promises_raise.mpr ⟨unsent.sent,unsent.lost,free⟩
    · exact observeRounds_promises 8 unsent free

-- After the transition and both updates behind it.
def Concluded (progress : Progress) : Except PyExc IncidentDecision → Prop
  | .ok decision => progress.sent = false ∧ progress.lost = false ∧
      (progress.reserved.isSome = true ↔ decision.action = .send)
  | .error _ => progress.sent = false ∧ (progress.reserved.isSome = true → progress.lost = true)

theorem goesOn_pure {reserved : Option (String × ℤ)} (unsent : Unsent progress) (own : progress.reserved = reserved) :
    (pure () : IncidentRun Unit).Promises (oneObservation stamp) (fun progress result _ => GoesOn reserved progress result)
      progress held () :=
  promises_pure.mpr ⟨unsent.sent,own,unsent.lost⟩

theorem observeOrdered_promises {event : NotificationEvent} (unsent : Unsent progress) (free : progress.reserved = none) :
    (observeOrdered digests event state severity recovered).Promises (oneObservation event.occurredAt)
      (fun progress result _ => Concluded progress result) progress held () := by
  refine promises_bind.mpr (promises_mono ?_ (observeTransition_promises unsent free))
  intro after result _ decided
  cases result with
  | error exc =>
    refine ⟨decided.1,fun some => ?_⟩
    rw [decided.2.2] at some; cases some
  | ok decision =>
    obtain ⟨sent,lost,sends⟩ := decided
    refine promises_bind.mpr (promises_mono ?_ (?_ : Script.Promises _ (oneObservation event.occurredAt)
      (fun progress result _ => GoesOn after.reserved progress result) after held ()))
    · rintro middle result _ ⟨sentThen,same,goes⟩
      cases result with
      | error exc => exact ⟨sentThen,fun some => goes (same ▸ some)⟩
      | ok _ =>
        refine promises_bind.mpr (promises_mono ?_ (?_ : Script.Promises _ (oneObservation event.occurredAt)
          (fun progress result _ => GoesOn after.reserved progress result) middle held ()))
        · rintro last result _ ⟨sentLast,sameLast,goesLast⟩
          cases result with
          | error exc => exact ⟨sentLast,fun some => goesLast (sameLast ▸ some)⟩
          | ok _ => exact promises_pure.mpr ⟨sentLast,goesLast,by rw [sameLast]; exact sends⟩
        · unfold indexReason
          split
          · split
            · exact goesOn_pure ⟨sentThen,goes⟩ same
            · exact noteReason_promises ⟨sentThen,goes⟩ same
          · exact goesOn_pure ⟨sentThen,goes⟩ same
    · unfold advanceDecision
      split
      · exact advanceMarker_promises ⟨sent,lost⟩ rfl
      · exact goesOn_pure ⟨sent,lost⟩ rfl

-- What the caller of an observation may rely on.
def Observed (progress : Progress) : Except PyExc IncidentDecision → Prop
  | .ok decision => progress.sent = false ∧ (decision.action = .send → progress.reserved.isSome = true ∧ progress.lost = false) ∧
      (decision.action ≠ .send → progress.reserved.isSome = true → progress.lost = true)
  | .error _ => progress.sent = false ∧ (progress.reserved.isSome = true → progress.lost = true)

theorem observeIncident_promises {event : NotificationEvent} (unsent : Unsent progress) (free : progress.reserved = none) :
    (observeIncident digests event state severity recovered).Promises (oneObservation event.occurredAt)
      (fun progress result _ => Observed progress result) progress held () := by
  refine promises_bind.mpr (promises_attempt.mpr (promises_mono ?_ (observeOrdered_promises unsent free)))
  intro after result _ concluded
  cases result with
  | ok decision =>
    obtain ⟨sent,lost,sends⟩ := concluded
    exact promises_pure.mpr ⟨sent,fun action => ⟨sends.mpr action,lost⟩,fun quiet some => absurd (sends.mp some) quiet⟩
  | error exc =>
    obtain ⟨sent,overtaken⟩ := concluded
    change Script.Promises (if _ then _ else _) _ _ _ _ _
    split
    · exact promises_pure.mpr ⟨sent,(fun same => nomatch same),fun _ => overtaken⟩
    · exact promises_raise.mpr ⟨sent,overtaken⟩

end Observing

section Sending

variable {digests : Digests} {stamp : Moment} {progress : Progress} {held : Bool} {event : NotificationEvent}
  {decision : IncidentDecision}

theorem recordDelivery_promises {receiptId : Option String} (sent : progress.sent = true) :
    (recordDelivery decision receiptId).Promises (oneObservation stamp) (fun progress _ _ => progress.sent = true)
      progress held () := by
  unfold recordDelivery
  split
  · refine promises_bind.mpr (readMarker_promises (fun found => promises_bind.mpr (promises_fromExcept.mpr ?_)) sent)
    cases complete : completeMarker found with
    | error exc => exact sent
    | ok same =>
      obtain rfl := completeMarker_same complete
      cases same with
      | none => exact promises_raise.mpr sent
      | some cell =>
        obtain ⟨version,marker⟩ := cell
        change Script.Promises (if _ then _ else _) _ _ _ _ _
        split
        · exact promises_raise.mpr sent
        · refine promises_bind.mpr (setMarker_promises ?_ (promises_pure.mpr sent) (promises_raise.mpr sent))
          refine ⟨_,rfl,rfl,?_,.inl rfl⟩
          rintro _ _ moment ⟨⟩ observed
          exact ⟨moment,observed,le_refl _⟩
  · exact promises_raise.mpr sent

theorem deliver_promises (may : MaySend progress) :
    (deliver digests event decision).Promises (oneObservation stamp) (fun progress _ _ => progress.sent = true) progress held () := by
  refine promises_bind.mpr (promises_attempt.mpr (promises_invoke.mpr ⟨may,fun answer _ => ?_⟩))
  have sent : (moved stamp progress .send answer).sent = true := by cases answer <;> rfl
  cases answer with
  | error exc =>
    refine promises_bind.mpr (promises_mono ?_ (recordDelivery_promises sent))
    intro after result _ sentThen
    cases result with
    | ok _ => exact promises_raise.mpr sentThen
    | error _ => exact sentThen
  | ok result =>
    refine promises_bind.mpr (promises_mono ?_ (recordDelivery_promises sent))
    intro after result _ sentThen
    cases result with
    | ok _ => exact promises_pure.mpr sentThen
    | error _ => exact sentThen

-- A call with a sender leaves no reservation behind unless it was overtaken.
theorem sendIncident_promises {state : Option String} {severity : ℤ} (unsent : Unsent progress) (free : progress.reserved = none) :
    (sendIncident digests event state severity).Promises (oneObservation event.occurredAt)
      (fun progress _ _ => progress.pending = true → progress.lost = true) progress held () := by
  have ended : ∀ {after : Progress}, after.sent = true → after.pending = true → after.lost = true := by
    intro after sent pending
    rw [Progress.pending,sent,Bool.not_true,Bool.and_false] at pending
    cases pending
  have some : ∀ {after : Progress}, after.pending = true → after.reserved.isSome = true := by
    intro after pending
    rw [Progress.pending,Bool.and_eq_true] at pending
    exact pending.1
  refine promises_bind.mpr (promises_mono ?_ (observeIncident_promises unsent free))
  intro after result _ observed
  cases result with
  | error exc => exact fun pending => observed.2 (some pending)
  | ok decision =>
    obtain ⟨sent,sends,quiet⟩ := observed
    change Script.Promises (if _ then _ else _) _ _ _ _ _
    split
    · rename_i other
      exact promises_pure.mpr fun pending => quiet other (some pending)
    · rename_i same
      obtain ⟨reserved,lost⟩ := sends (not_not.mp same)
      exact promises_mono (fun _ _ _ sentThen => ended sentThen) (deliver_promises ⟨reserved,sent,lost⟩)

end Sending

end LongBridge.Notifications
