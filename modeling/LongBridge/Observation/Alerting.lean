import LongBridge.Observation.Doings
import LongBridge.Observation.Watching

namespace LongBridge.Observation
open Effects

-- Where an object under alerts/ belongs is read off the sixth character from its end.
def keyEnd (key : String) : Option Char := key.toList.reverse[5]?

theorem keyEnd_append {back : String} (long : 5 < back.toList.length) (front : String) : keyEnd (front ++ back) = keyEnd back := by
  unfold keyEnd
  rw [String.toList_append,List.reverse_append,List.getElem?_append_left (by rw [List.length_reverse]; exact long)]

def isAlertNote (key : String) : Bool := key.toList.head? == some 'a' && keyEnd key == some 'Z'

theorem slot_end (now : ℤ) : keyEnd (slotText now ++ ".json") = some 'Z' := by
  unfold keyEnd slotText
  rw [String.toList_append,String.toList_ofList,List.reverse_append]
  simp only [List.reverse_append,List.reverse_cons,List.append_assoc]
  rfl

theorem slot_long (now : ℤ) : 5 < (slotText now ++ ".json").toList.length := by
  have tail : 5 = (".json".toList).length := rfl
  rw [String.toList_append,List.length_append,← tail]
  unfold slotText
  rw [String.toList_ofList,List.length_append,List.length_cons]
  omega

theorem root_head (watch : Watch) (incident rest : String) : (watch.root incident ++ rest).toList.head? = some 'a' := by
  unfold Watch.root
  simp only [String.toList_append,List.append_assoc]
  rfl

theorem isAlertNote_claim (watch : Watch) (notice : Notice) (incident : String) (now : ℤ) : isAlertNote (noticeKey watch notice incident now) = true := by
  unfold isAlertNote noticeKey
  rw [String.append_assoc,keyEnd_append (slot_long now),slot_end,String.append_assoc,root_head]
  rfl

theorem isAlertNote_heartbeat (now : ℤ) : isAlertNote (watchHeartbeatKey now) = true := by
  unfold isAlertNote watchHeartbeatKey
  rw [String.append_assoc,keyEnd_append (slot_long now),slot_end]
  simp only [String.toList_append]
  rfl

-- No incident is taken for one of a watchdog that verifies.
def isIncident (incident : String) : Bool := incident.toList.head? != some 'v'

theorem isIncident_dated (day : ℕ) (rest : String) : isIncident (dateText day ++ rest) = true := by
  unfold isIncident dateText
  rw [String.toList_append,String.toList_ofList]
  simp only [padded,List.nil_append,List.cons_append,List.head?_cons,bne_iff_ne,ne_eq,Option.some.injEq]
  intro same
  have digits := (digit_facts ((civilOf day).year / 10 / 10 / 10)).1
  rw [same] at digits
  cases digits

theorem isIncident_coverage (threshold : ℕ) : isIncident ("calendar/coverage_" ++ toString threshold) = true := by
  unfold isIncident
  rw [String.toList_append]
  rfl

-- What a watchdog may create: the mark of a message that was accepted, a claim or a heartbeat.
inductive MayMark (watch : Watch) (told : List (String × Bool)) (holds : String → Prop) (key : String) : Prop where
  | mark (notice : Notice) (incident : String) (proper : isIncident incident = true) (own : key = watch.root incident ++ notice.mark)
      (accepted : (watch.worded (notice.text incident),true) ∈ told) (known : notice = .recovery → holds (ackKey watch incident))
  | note (own : isAlertNote key = true)

-- What it may tell: a claimed message that is not marked yet, or that the storage does not work.
inductive MayTell (watch : Watch) (now : ℤ) (owns : String → PyVal → Prop) (holds lacks : String → Prop) (message : String) : Prop where
  | claimed (notice : Notice) (incident : String) (own : message = watch.worded (notice.text incident))
      (claim : owns (noticeKey watch notice incident now) (timed now)) (unmarked : lacks (watch.root incident ++ notice.mark))
      (known : notice = .recovery → holds (ackKey watch incident))
  | fallback (front : String) (own : message = watch.worded (Notice.alert.text (front ++ dedupNote)))

def oneWatch (watch : Watch) (now : ℤ) : Discipline observationPorts PyExc Doing :=
  oneJob (fun doing key _ => MayMark watch doing.told (· ∈ doing.present) key) (fun _ => False)
    fun doing => MayTell watch now (fun key value => (key,value) ∈ doing.owned) (· ∈ doing.present) (· ∈ doing.missing)

section promises
variable {bundle : Bundle} {watch : Watch} {now : ℤ} {doing : Doing} {held : Bool} {incident : String}

theorem free_done {α : Type} {rule : Discipline observationPorts PyExc Doing} {script : ObservationRun α} {good : Doing → α → Unit → Prop}
    (promises : script.Promises rule (Outcome good Anything) doing held ()) : script.Promises rule Free doing held () := by
  refine promises_mono ?_ promises
  intro after result locals _
  cases result <;> trivial

theorem tell_promises {message : String} (may : MayTell watch now (fun key value => (key,value) ∈ doing.owned) (· ∈ doing.present) (· ∈ doing.missing)
      (watch.worded message)) : (tell watch message).Promises (oneWatch watch now)
      (Outcome (fun after heard _ => after = doing.tells (watch.worded message) heard) Anything) doing held () := by
  refine promises_invoke.mpr ⟨may,fun answer _ => ?_⟩
  cases answer with
  | error exc => trivial
  | ok heard => exact rfl

theorem claimNotice_promises {notice : Notice} {fields : Fields} (proper : isIncident incident = true) (unmarked : watch.root incident ++ notice.mark ∈ doing.missing)
    (known : notice = .recovery → ackKey watch incident ∈ doing.present) :
    (claimNotice watch now notice incident (watch.root incident ++ notice.mark) (.dict fields)).Promises (oneWatch watch now) Free doing held () := by
  refine promises_then (create_promises (.note (isAlertNote_claim ..))) ?_ (fun _ _ _ _ => trivial)
  intro after claimed locals reached
  subst reached
  cases claimed with
  | false => trivial
  | true =>
    have present : notice = .recovery → ackKey watch incident ∈ (doing.created (noticeKey watch notice incident now) (timed now) true).present :=
      fun same => List.mem_cons_of_mem _ (known same)
    refine promises_then (tell_promises (.claimed notice incident rfl List.mem_cons_self unmarked present)) ?_ (fun _ _ _ _ => trivial)
    intro after accepted locals reached
    subst reached
    cases accepted with
    | false => trivial
    | true => exact free_done (storeObject_promises (.mark notice incident proper rfl List.mem_cons_self present))

theorem notify_promises {active : Bool} (proper : isIncident incident = true) : (notify watch now incident active).Promises (oneWatch watch now) Free doing held () := by
  unfold notify
  cases active with
  | true =>
    refine promises_then (get_promises _) ?_ (fun _ _ _ _ => trivial)
    intro after ack locals reached
    subst reached
    cases truthy : ack.truthy with
    | true => trivial
    | false => exact claimNotice_promises proper (read_missing truthy) nofun
  | false =>
    refine promises_then (get_promises _) ?_ (fun _ _ _ _ => trivial)
    intro after ack locals reached
    subst reached
    cases truthy : ack.truthy with
    | false => trivial
    | true =>
      refine promises_then (learns (get_promises _)) ?_ (fun _ _ _ _ => trivial)
      intro after recovered locals ⟨reached,learnt⟩
      subst reached
      cases done : recovered.truthy with
      | true => trivial
      | false => exact claimNotice_promises proper (read_missing done) fun _ => learnt.present _ (read_present truthy)

theorem readBeats_promises : (readBeats now).Promises (oneWatch watch now) Free doing held () := by
  refine free_done (promises_foldlM (I := fun _ _ _ _ => True) (B := Anything) ?_ trivial)
  intro front count doing beats locals _ _
  refine promises_then (get_promises _) ?_ (fun _ _ _ _ => trivial)
  intro after beat locals _
  trivial

theorem watchHeartbeat_promises : (watchHeartbeat watch now).Promises (oneWatch watch now) Free doing held () := by
  refine promises_then readBeats_promises ?_ (fun _ _ _ _ => trivial)
  intro after beats locals _
  refine promises_bind.mpr (promises_fromExcept.mpr ?_)
  cases anyOk (isAlive now) beats with
  | error exc => trivial
  | ok alive => exact notify_promises (isIncident_dated ..)

theorem watchMarker_promises {day : ℕ} : (watchMarker watch now day).Promises (oneWatch watch now) Free doing held () := by
  refine promises_then (get_promises _) ?_ (fun _ _ _ _ => trivial)
  intro after marker locals _
  refine promises_then (notify_promises (isIncident_dated ..)) ?_ (fun _ _ _ _ => trivial)
  intro after result locals _
  refine promises_bind.mpr (promises_fromExcept.mpr ?_)
  cases isLate marker with
  | error exc => trivial
  | ok late => exact notify_promises (isIncident_dated ..)

theorem watchDue_promises {day : ℕ} {due : ℤ} : (watchDue watch now day due).Promises (oneWatch watch now) Free doing held () := by
  refine promises_then (get_promises _) ?_ (fun _ _ _ _ => trivial)
  intro after stopped locals _
  refine promises_then (notify_promises (isIncident_dated ..)) ?_ (fun _ _ _ _ => trivial)
  intro after result locals _
  split
  · trivial
  · exact watchMarker_promises

theorem watchDay_promises {day : ℕ} : (watchDay bundle watch now day).Promises (oneWatch watch now) Free doing held () := by
  refine promises_bind.mpr (promises_fromExcept.mpr ?_)
  cases bundle.due day with
  | error exc => trivial
  | ok due =>
    cases due with
    | none => trivial
    | some due =>
      show (if due ≤ now then watchDue watch now day due else pure ()).Promises _ _ doing held ()
      split
      · exact watchDue_promises
      · trivial

theorem each_promises {α : Type} {items : List α} {body : α → ObservationRun Unit}
    (each : ∀ item doing, (body item).Promises (oneWatch watch now) Free doing held ()) : (items.forM body).Promises (oneWatch watch now) Free doing held () := by
  refine free_done (promises_forM (I := fun _ _ _ => True) (B := Anything) ?_ trivial)
  intro front item doing locals _ _
  exact free_done (each item doing)

theorem watchAll_promises : (watchAll bundle watch now).Promises (oneWatch watch now) Free doing held () := by
  refine promises_then (storeObject_promises (.note (isAlertNote_heartbeat now))) ?_ (fun _ _ _ _ => trivial)
  intro after result locals _
  refine promises_then watchHeartbeat_promises ?_ (fun _ _ _ _ => trivial)
  intro after result locals _
  refine promises_bind.mpr (promises_fromExcept.mpr ?_)
  cases bundle.due (bundle.newYork.date now) with
  | error exc => trivial
  | ok due =>
    refine promises_then (each_promises fun _ _ => watchDay_promises) ?_ (fun _ _ _ _ => trivial)
    intro after result locals _
    exact each_promises fun _ _ => notify_promises (isIncident_coverage _)

theorem fallback_promises {front : String} : (tell watch (Notice.alert.text (front ++ dedupNote))).Promises (oneWatch watch now)
    Free doing held () := free_done (tell_promises (.fallback front rfl))

theorem tellStorage_promises : (tellStorage watch now).Promises (oneWatch watch now) Free doing held () := by
  refine promises_then fallback_promises ?_ (fun _ _ _ _ => trivial)
  intro after result locals _
  trivial

theorem tellCalendar_promises : (tellCalendar watch now).Promises (oneWatch watch now) Free doing held () := by
  refine promises_bind.mpr (promises_attempt.mpr (promises_mono ?_ (notify_promises (isIncident_dated ..))))
  intro after result locals _
  cases result with
  | ok told => trivial
  | error exc =>
    show (if exc.kind = "ObservationError" then tellStorage watch now else Script.raise exc).Promises _ _ after held locals
    split
    · exact tellStorage_promises
    · trivial

theorem watchRun_promises : (watchRun bundle watch now).Promises (oneWatch watch now) Free doing held () := by
  unfold watchRun
  split
  · trivial
  · refine promises_bind.mpr (promises_attempt.mpr (promises_mono ?_ watchAll_promises))
    intro after result locals _
    cases result with
    | ok seen => trivial
    | error exc =>
      show (watchFailed watch now exc).Promises _ _ after held locals
      unfold watchFailed
      split
      · split
        · exact tellCalendar_promises
        · exact tellStorage_promises
      · trivial

theorem watchBlind_promises : (watchBlind watch now).Promises (oneWatch watch now) Free doing held () := by
  refine promises_bind.mpr (promises_attempt.mpr (promises_mono ?_ (notify_promises (isIncident_dated ..))))
  intro after result locals _
  cases result with
  | ok told => trivial
  | error exc =>
    show (if exc.kind = "ObservationError" then tell watch (Notice.alert.text ("calendar_unavailable" ++ dedupNote)) >>=
      fun _ => Script.raise (observationError "calendar_unavailable") else Script.raise exc).Promises _ _ after held locals
    split
    · refine promises_then fallback_promises ?_ (fun _ _ _ _ => trivial)
      intro last result locals _
      trivial
    · trivial

end promises

end LongBridge.Observation
