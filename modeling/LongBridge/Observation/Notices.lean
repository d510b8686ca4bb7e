import LongBridge.Observation.Fetches

namespace LongBridge.Observation
open Effects

section texts

theorem text_after {front one two : String} (same : front ++ one = front ++ two) : one = two := by
  have chars := congrArg String.toList same
  simp only [String.toList_append,List.append_cancel_left_eq] at chars
  exact String.toList_injective chars

theorem text_before {one two back : String} (same : one ++ back = two ++ back) : one = two := by
  have chars := congrArg String.toList same
  simp only [String.toList_append,List.append_cancel_right_eq] at chars
  exact String.toList_injective chars

theorem letter_append {front : String} (long : 18 < front.toList.length) (rest : String) : (front ++ rest).toList[18]? = front.toList[18]? := by
  rw [String.toList_append,List.getElem?_append_left long]

theorem text_letter (notice : Notice) (incident : String) : (notice.text incident).toList[18]? = match notice with
    | .alert => some 'a'
    | .recovery => some 'r' := by
  cases notice with
  | alert => exact (letter_append (by decide +kernel) incident).trans (by decide +kernel)
  | recovery => exact (letter_append (by decide +kernel) incident).trans (by decide +kernel)

theorem text_injective {one two : Notice} {first second : String} (same : one.text first = two.text second) : one = two ∧ first = second := by
  have letters := (text_letter one first).symm.trans ((congrArg (fun text : String => text.toList[18]?) same).trans (text_letter two second))
  cases one with
  | alert =>
    cases two with
    | alert =>
      unfold Notice.text at same
      exact ⟨rfl,text_after same⟩
    | recovery => cases letters
  | recovery =>
    cases two with
    | recovery =>
      unfold Notice.text at same
      exact ⟨rfl,text_after same⟩
    | alert => cases letters

theorem text_head (notice : Notice) (incident : String) : (notice.text incident).toList.head? = some 'P' := by
  cases notice <;> (unfold Notice.text; rw [String.toList_append]; rfl)

-- A message tells which watchdog tells it, what, and of which incident.
theorem worded_injective {watch other : Watch} {one two : Notice} {first second : String}
    (same : watch.worded (one.text first) = other.worded (two.text second)) : watch.verification = other.verification ∧ one = two ∧ first = second := by
  unfold Watch.worded at same
  cases mine : watch.verification with
  | true =>
    cases yours : other.verification with
    | true =>
      rw [mine,yours] at same
      exact ⟨rfl,text_injective (text_after same)⟩
    | false =>
      rw [mine,yours] at same
      have chars := congrArg (fun text : String => text.toList.head?) same
      simp only [Bool.false_eq_true,if_false,if_true,String.toList_append,String.toList_empty,List.nil_append,text_head] at chars
      cases chars
  | false =>
    cases yours : other.verification with
    | false =>
      rw [mine,yours] at same
      exact ⟨rfl,text_injective (text_after same)⟩
    | true =>
      rw [mine,yours] at same
      have chars := congrArg (fun text : String => text.toList.head?) same
      simp only [Bool.false_eq_true,if_false,if_true,String.toList_append,String.toList_empty,List.nil_append,text_head] at chars
      cases chars

theorem root_congr {watch other : Watch} (same : watch.verification = other.verification) (incident : String) :
    watch.root incident = other.root incident := by
  unfold Watch.root
  rw [same]

theorem root_injective {watch other : Watch} {first second : String} (proper : isIncident first = true) (proper' : isIncident second = true)
    (same : watch.root first = other.root second) : watch.verification = other.verification ∧ first = second := by
  have headed : ∀ {incident rest : String}, isIncident incident = true → incident ≠ "verification/" ++ rest := by
    rintro incident rest proper rfl
    unfold isIncident at proper
    rw [String.toList_append] at proper
    cases proper
  unfold Watch.root at same
  rw [String.append_assoc,String.append_assoc] at same
  have rests := text_after same
  cases mine : watch.verification with
  | true =>
    cases yours : other.verification with
    | true =>
      rw [mine,yours] at rests
      exact ⟨rfl,text_after rests⟩
    | false =>
      rw [mine,yours] at rests
      exact absurd ((String.empty_append).symm.trans rests.symm) (headed proper')
  | false =>
    cases yours : other.verification with
    | true =>
      rw [mine,yours] at rests
      exact absurd ((String.empty_append).symm.trans rests) (headed proper)
    | false =>
      rw [mine,yours] at rests
      exact ⟨rfl,text_after rests⟩

theorem mark_end (root : String) (notice : Notice) : keyEnd (root ++ notice.mark) = match notice with
    | .alert => some 'k'
    | .recovery => some 'd' := by
  cases notice with
  | alert => exact (keyEnd_append (by decide) root).trans (by decide +kernel)
  | recovery => exact (keyEnd_append (by decide) root).trans (by decide +kernel)

theorem mark_injective {watch other : Watch} {one two : Notice} {first second : String} (proper : isIncident first = true) (proper' : isIncident second = true)
    (same : watch.root first ++ one.mark = other.root second ++ two.mark) : watch.verification = other.verification ∧ one = two ∧ first = second := by
  have ends := (mark_end (watch.root first) one).symm.trans ((congrArg keyEnd same).trans (mark_end (other.root second) two))
  have alike : one = two := by
    cases one with
    | alert =>
      cases two with
      | alert => rfl
      | recovery => cases ends
    | recovery =>
      cases two with
      | recovery => rfl
      | alert => cases ends
  subst alike
  obtain ⟨flags,incidents⟩ := root_injective proper proper' (text_before same)
  exact ⟨flags,rfl,incidents⟩

end texts

namespace Job

def watch (job : Job) : Option Watch :=
  match job.role with
  | .collector .. => none
  | .watchdog watch => some watch
  | .blind watch => some watch

end Job

theorem telling_watch {job : Job} {requests : Requests} {message : String} (tells : job.telling requests message) :
    ∃ watch, job.watch = some watch ∧ MayTell watch job.now requests.Owns requests.Holds requests.Lacks message := by
  obtain ⟨now,role⟩ := job
  cases role with
  | collector binding start => cases tells
  | watchdog watch => exact ⟨watch,rfl,tells⟩
  | blind watch => exact ⟨watch,rfl,tells⟩

theorem creating_watch {bundle : Bundle} {job : Job} {requests : Requests} {key : String} {value : PyVal} (creates : job.creating bundle requests key value)
    (alerts : (keyStart key).1 = some 'a') : ∃ watch, job.watch = some watch ∧ MayMark watch requests.told requests.Holds key := by
  have apart : ∀ {start : Option Char × Option Char}, keyStart key = start → start.1 ≠ some 'a' → False := by
    rintro start same other
    rw [same] at alerts
    exact other alerts
  obtain ⟨now,role⟩ := job
  cases role with
  | collector binding start =>
    cases creates with
    | snapshot day own => exact (apart (own ▸ snapshotKey_start day) (by decide)).elim
    | marker day record own => exact (apart (own ▸ markerKey_start day) (by decide)).elim
    | baseline day record own => exact (apart (own ▸ baseline_start) (by decide)).elim
    | claim own =>
      rcases claim_start own with same | same
      · exact (apart same (by decide)).elim
      · exact (apart same (by decide)).elim
    | note own =>
      rw [isNote] at own
      rcases Bool.or_eq_true_iff.mp own with other | health
      · rw [alerts] at other
        cases other
      · simp only [List.contains_cons,List.contains_nil,Bool.or_false,Bool.or_eq_true,beq_iff_eq] at health
        rcases health with same | same | same | same
        · exact (apart same (by decide)).elim
        · exact (apart same (by decide)).elim
        · exact (apart same (by decide)).elim
        · exact (apart same (by decide)).elim
  | watchdog watch => exact ⟨watch,rfl,creates⟩
  | blind watch => exact ⟨watch,rfl,creates⟩

section runs
variable {ι : Type} [DecidableEq ι] {weigh : PyVal → ℕ} {bundle : Bundle} {jobs : ι → Job} {start objects : Objects} {turns : Turns ι}
  {left : ι → Tree bucketPorts PyExc (Except PyExc String × Unit)}

-- A run has asked for an object and found nothing, or nothing in it.
def AskedInVain (turns : Turns ι) (who : ι) (key : String) : Prop :=
  ∃ earlier ∈ turns, earlier.who = who ∧ readsKey key earlier.event = true ∧ ¬Filled earlier.before key

-- What stands behind a message: it says that the storage does not work, or it has been claimed by the run that
-- tells it, which has seen that it was not marked yet.
inductive Justified (jobs : ι → Job) (turns : Turns ι) (objects : Objects) (who : ι) (watch : Watch) (message : String) : Prop where
  | fallback (front : String) (own : message = watch.worded (Notice.alert.text (front ++ dedupNote)))
  | claimed (notice : Notice) (incident : String) (own : message = watch.worded (notice.text incident))
      (claim : Bears objects (noticeKey watch notice incident (jobs who).now) "at" (jobs who).now)
      (unmarked : AskedInVain turns who (watch.root incident ++ notice.mark))
      (known : notice = .recovery → objects (ackKey watch incident) ≠ none)

-- Each message that was told, with what its run had seen before
def AllJustified (jobs : ι → Job) (turns : Turns ι) (objects : Objects) : Prop :=
  ∀ first turn rest, turns = first ++ turn :: rest → ∀ entry, tellingOf turn.event = some entry →
    ∃ watch, (jobs turn.who).watch = some watch ∧ Justified jobs first objects turn.who watch entry.1

theorem still_there {before after : Objects} {event : Event bucketPorts PyExc} (step : bucketStep before event after) {key : String}
    (there : before key ≠ none) : after key ≠ none := by
  obtain ⟨body,found⟩ := Option.ne_none_iff_exists'.mp there
  rw [bucketStep_keeps step found]
  nofun

omit [DecidableEq ι] in
theorem justified_later {who : ι} {watch : Watch} {message : String} {after : Objects} {event : Event bucketPorts PyExc}
    (step : bucketStep objects event after) (justified : Justified jobs turns objects who watch message) :
    Justified jobs turns after who watch message := by
  cases justified with
  | fallback front own => exact .fallback front own
  | claimed notice incident own claim unmarked known =>
    exact .claimed notice incident own (bears_keeps step claim) unmarked fun same => still_there step (known same)

omit [DecidableEq ι] in
-- The turns before one of them, once one more was added: it is the new one, or was there before.
theorem split_last {turns first rest : Turns ι} {last turn : Turn bucketPorts PyExc Objects ι} (split : turns ++ [last] = first ++ turn :: rest) :
    (turns = first ∧ last = turn) ∨ ∃ earlier, turns = first ++ turn :: earlier := by
  rcases List.eq_nil_or_concat rest with rfl | ⟨earlier,final,rfl⟩
  · obtain ⟨same,equal⟩ := List.append_inj' split rfl
    exact .inl ⟨same,List.singleton_inj.mp equal⟩
  · right
    rw [List.concat_eq_append,← List.cons_append,← List.append_assoc] at split
    exact ⟨earlier,(List.append_inj' split rfl).1⟩

theorem justified_step : StepKeeps bundle jobs fun turns objects _ => AllJustified jobs turns objects := by
  intro turns objects phases who event after knows justified allowed step first turn rest split entry tells
  rcases split_last split with ⟨rfl,rfl⟩ | ⟨earlier,old⟩
  · obtain ⟨watch,own,may⟩ := telling_watch (allowed_tells allowed tells)
    have stands : Justified jobs turns objects who watch entry.1 := by
      cases may with
      | fallback front own => exact .fallback front own
      | claimed notice incident own claim unmarked known =>
        exact .claimed notice incident own (owns_bears (knows who) claim) (knows_lacks (knows who) unmarked) fun same =>
          knows_holds (knows who) (known same)
    exact ⟨watch,own,justified_later step stands⟩
  · obtain ⟨watch,own,holds⟩ := justified first turn earlier old entry tells
    exact ⟨watch,own,justified_later step holds⟩

theorem all_justified (dated : Dated bundle) (positive : ∀ who, 0 ≤ (jobs who).now) (run : Reaches weigh bundle jobs start turns objects left) :
    AllJustified jobs turns objects := by
  have fresh : AllJustified jobs [] start := by
    intro first turn rest split
    exact absurd split.symm (by simp)
  obtain ⟨phases,_,justified,_⟩ := system_keeps dated positive justified_step fresh run
  exact justified

def isFallback (message : String) : Bool := dedupNote.toList.isSuffixOf message.toList

theorem fallback_ends (watch : Watch) (front : String) : isFallback (watch.worded (Notice.alert.text (front ++ dedupNote))) = true := by
  unfold isFallback Watch.worded Notice.text
  simp only [String.toList_append,List.isSuffixOf_iff_suffix]
  exact (List.suffix_append _ _).trans ((List.suffix_append _ _).trans (List.suffix_append _ _))

omit [DecidableEq ι] in
theorem justified_claim {who : ι} {watch : Watch} {message : String} (justified : Justified jobs turns objects who watch message)
    (deduplicated : isFallback message = false) : ∃ notice incident, message = watch.worded (Notice.text notice incident) ∧
      Bears objects (noticeKey watch notice incident (jobs who).now) "at" (jobs who).now ∧
      AskedInVain turns who (watch.root incident ++ notice.mark) ∧ (notice = .recovery → objects (ackKey watch incident) ≠ none) := by
  cases justified with
  | fallback front own =>
    rw [own,fallback_ends] at deduplicated
    cases deduplicated
  | claimed notice incident own claim unmarked known => exact ⟨notice,incident,own,claim,unmarked,known⟩

-- The runs that tell a message
def tellers (turns : Turns ι) (message : String) : List ι :=
  (turns.filter fun turn => (tellingOf turn.event).any fun entry => entry.1 == message).map fun turn => turn.who

omit [DecidableEq ι] in
theorem teller_turn {who : ι} {message : String} (member : who ∈ tellers turns message) :
    ∃ turn ∈ turns, turn.who = who ∧ ∃ heard, tellingOf turn.event = some (message,heard) := by
  obtain ⟨turn,listed,rfl⟩ := List.mem_map.mp member
  obtain ⟨listed,tells⟩ := List.mem_filter.mp listed
  refine ⟨turn,listed,rfl,?_⟩
  cases shown : tellingOf turn.event with
  | none =>
    rw [shown] at tells
    cases tells
  | some entry =>
    rw [shown] at tells
    obtain ⟨told,heard⟩ := entry
    cases (eq_of_beq tells : told = message)
    exact ⟨heard,rfl⟩

-- In one slot, one message is told by at most one run.
theorem notices_once (dated : Dated bundle) (times : ∀ who, 0 ≤ (jobs who).now ∧ (jobs who).now < lastInstant)
    (apart : ∀ one two, (jobs one).watch.isSome = true → (jobs two).watch.isSome = true → (jobs one).now = (jobs two).now → one = two)
    (run : Reaches weigh bundle jobs start turns objects left) {message : String} (deduplicated : isFallback message = false) :
    ∀ one ∈ tellers turns message, ∀ two ∈ tellers turns message, slotText (jobs one).now = slotText (jobs two).now → one = two := by
  intro one first two second slot
  have justified := all_justified dated (fun who => (times who).1) run
  obtain ⟨turn,listed,rfl,heard,tells⟩ := teller_turn first
  obtain ⟨other,listed',rfl,again,repeats⟩ := teller_turn second
  obtain ⟨before,later,split⟩ := List.append_of_mem listed
  obtain ⟨watch,own,mine⟩ := justified before turn later split _ tells
  obtain ⟨before',later',split'⟩ := List.append_of_mem listed'
  obtain ⟨watch',own',yours⟩ := justified before' other later' split' _ repeats
  obtain ⟨notice,incident,same,claim,-⟩ := justified_claim mine deduplicated
  obtain ⟨notice',incident',same',claim',-⟩ := justified_claim yours deduplicated
  obtain ⟨flags,rfl,rfl⟩ := worded_injective (same.symm.trans same')
  have keys : noticeKey watch notice incident (jobs turn.who).now = noticeKey watch' notice incident (jobs other.who).now := by
    unfold noticeKey
    rw [root_congr flags,slot]
  rw [keys] at claim
  exact apart _ _ (by rw [own]; rfl) (by rw [own']; rfl) (bears_unique (times _) (times _) claim claim')

-- Two watchdogs of one slot, one after the other, with nothing to be found
def emptyWatch : Watch := ⟨sessionDay,sessionDue - daySpan,false⟩

def twoWatchdogs : Bool → Job
  | true => ⟨sessionDue + 65 * minuteSpan,.watchdog emptyWatch⟩
  | false => ⟨sessionDue + 66 * minuteSpan,.watchdog emptyWatch⟩

theorem twoWatchdogs_times (who : Bool) : 0 ≤ (twoWatchdogs who).now ∧ (twoWatchdogs who).now < lastInstant := by
  cases who <;> decide

theorem twoWatchdogs_apart (one two : Bool) (_ : (twoWatchdogs one).watch.isSome = true) (_ : (twoWatchdogs two).watch.isSome = true)
    (same : (twoWatchdogs one).now = (twoWatchdogs two).now) : one = two := by
  cases one <;> cases two <;> first | rfl | exact absurd same (by decide)

def watched : Performed := performed twoWatchdogs noObjects (List.replicate 9 true ++ List.replicate 9 false)

def beatIncident : String := "2024-01-02/collector_heartbeat"

def beatMessage : String := emptyWatch.worded (Notice.alert.text beatIncident)

theorem watched_once : tellers watched.1 beatMessage = [true] ∧ ∀ one ∈ tellers watched.1 beatMessage, ∀ two ∈ tellers watched.1 beatMessage,
    slotText (twoWatchdogs one).now = slotText (twoWatchdogs two).now → one = two :=
  ⟨by decide +kernel,notices_once oneSession_dated twoWatchdogs_times twoWatchdogs_apart (performed_reaches ..) (by decide +kernel)⟩

-- A run tells only what one of its reads before found unmarked, and a recovery only beside an acknowledgement.
theorem notices_unmarked (dated : Dated bundle) (positive : ∀ who, 0 ≤ (jobs who).now) (run : Reaches weigh bundle jobs start turns objects left)
    (watch : Watch) (notice : Notice) (incident : String) (deduplicated : isFallback (watch.worded (notice.text incident)) = false)
    (first rest : Turns ι) (turn : Turn bucketPorts PyExc Objects ι) (heard : Bool) (split : turns = first ++ turn :: rest)
    (tells : tellingOf turn.event = some (watch.worded (notice.text incident),heard)) :
    AskedInVain first turn.who (watch.root incident ++ notice.mark) ∧ (notice = .recovery → objects (ackKey watch incident) ≠ none) := by
  obtain ⟨other,own,justified⟩ := all_justified dated positive run first turn rest split _ tells
  obtain ⟨notice',incident',same,_,unmarked,known⟩ := justified_claim justified deduplicated
  obtain ⟨flags,rfl,rfl⟩ := worded_injective same
  unfold ackKey at known ⊢
  rw [root_congr flags]
  exact ⟨unmarked,known⟩

theorem watched_unmarked : ∃ first turn rest, watched.1 = first ++ turn :: rest ∧ turn.who = true ∧
    AskedInVain first true (emptyWatch.root beatIncident ++ Notice.alert.mark) := by
  have told : true ∈ tellers watched.1 beatMessage := by decide +kernel
  obtain ⟨turn,listed,same,heard,tells⟩ := teller_turn told
  obtain ⟨first,rest,split⟩ := List.append_of_mem listed
  have unmarked := notices_unmarked oneSession_dated (fun who => (twoWatchdogs_times who).1) (performed_reaches ..) emptyWatch .alert beatIncident
    (by decide +kernel) first rest turn heard split tells
  rw [same] at unmarked
  exact ⟨first,turn,rest,split,same,unmarked.1⟩

-- A mark stands for a message that was accepted; a recovery is marked beside an acknowledgement.
def MarksTold (start : Objects) (turns : Turns ι) (objects : Objects) : Prop :=
  ∀ (watch : Watch) (notice : Notice) (incident : String), isIncident incident = true → objects (watch.root incident ++ notice.mark) ≠ none →
    start (watch.root incident ++ notice.mark) ≠ none ∨
      ((∃ turn ∈ turns, tellingOf turn.event = some (watch.worded (notice.text incident),true)) ∧
        (notice = .recovery → objects (ackKey watch incident) ≠ none))

theorem marks_step : StepKeeps bundle jobs fun turns objects _ => MarksTold start turns objects := by
  intro turns objects phases who event after knows marks allowed step watch notice incident proper there
  obtain ⟨body,found⟩ := Option.ne_none_iff_exists'.mp there
  rcases bucketStep_new step found with old | uploads
  · rcases marks watch notice incident proper (by rw [old]; nofun) with stood | ⟨⟨turn,listed,told⟩,known⟩
    · exact .inl stood
    · exact .inr ⟨⟨turn,List.mem_append_left _ listed,told⟩,fun same => still_there step (known same)⟩
  · obtain ⟨value,_,creates⟩ := allowed_uploads allowed uploads
    obtain ⟨other,_,may⟩ := creating_watch creates (root_head ..)
    cases may with
    | note own =>
      have ends := eq_of_beq (Bool.and_eq_true_iff.mp own).2
      rw [mark_end] at ends
      cases notice <;> cases ends
    | mark notice' incident' proper' own accepted known =>
      obtain ⟨flags,rfl,rfl⟩ := mark_injective proper proper' own
      obtain ⟨turn,listed,_,told⟩ := (knows who).told _ accepted
      refine .inr ⟨⟨turn,List.mem_append_left _ listed,?_⟩,fun same => ?_⟩
      · unfold Watch.worded at told ⊢
        rw [flags]
        exact told
      · unfold ackKey at known ⊢
        rw [root_congr flags]
        exact still_there step (knows_holds (knows who) (known same))

-- Each mark was told, and one key marks one notice of one incident, for a verifying watchdog or for a real one.
theorem marks_told (dated : Dated bundle) (positive : ∀ who, 0 ≤ (jobs who).now) (run : Reaches weigh bundle jobs start turns objects left) :
    MarksTold start turns objects ∧
      ∀ (watch other : Watch) (one two : Notice) (first second : String), isIncident first = true → isIncident second = true →
        watch.root first ++ one.mark = other.root second ++ two.mark → watch.verification = other.verification ∧ one = two ∧ first = second := by
  obtain ⟨phases,_,marks,_⟩ := system_keeps dated positive marks_step (fun _ _ _ _ there => .inl there) run
  exact ⟨marks,fun _ _ _ _ _ _ proper proper' same => mark_injective proper proper' same⟩

theorem watched_marks : (watched.2.1 (ackKey emptyWatch beatIncident)).isSome = true ∧ MarksTold noObjects watched.1 watched.2.1 :=
  ⟨by decide +kernel,(marks_told oneSession_dated (fun who => (twoWatchdogs_times who).1) (performed_reaches ..)).1⟩

end runs

end LongBridge.Observation
