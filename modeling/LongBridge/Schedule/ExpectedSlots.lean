import LongBridge.Schedule.Expectations

namespace LongBridge.Schedule
open Effects Projection

section loops

variable {kit : ExpectationKit} {request : ExpectationRequest} {plan : ExpectationPlan} {minutes : List ℤ}

-- A minute on a session date of the market that the cron names in its own zone
def Named (kit : ExpectationKit) (plan : ExpectationPlan) (minute : ℤ) : Bool :=
  plan.days.contains (plan.market.date minute) && kit.cronMatches (plan.zone.wall minute)

theorem dated_ok {instant result : ℤ} : dated instant = .ok result ↔ (0 ≤ instant ∧ instant < lastInstant) ∧ result = instant := by
  unfold dated
  split
  · rename_i inside
    constructor
    · intro same
      exact ⟨inside,(Except.ok.inj same).symm⟩
    · rintro ⟨_,rfl⟩
      rfl
  · rename_i outside
    constructor
    · intro impossible
      cases impossible
    · rintro ⟨inside,_⟩
      exact absurd inside outside

theorem eligible_ok {minute : ℤ} {found : Bool} (asked : eligible kit plan minute = .ok found) : found = Named kit plan minute := by
  unfold eligible at asked
  obtain ⟨day,there,asked⟩ := bind_ok.mp asked
  obtain ⟨_,rfl⟩ := dated_ok.mp there
  unfold Named Zone.date
  split at asked
  · rename_i session
    obtain ⟨wall,here,asked⟩ := bind_ok.mp asked
    obtain ⟨_,rfl⟩ := dated_ok.mp here
    rw [session,Bool.true_and]
    exact (return_ok.mp asked).symm
  · rename_i closed
    rw [Bool.not_eq_true] at closed
    rw [closed,Bool.false_and]
    exact (return_ok.mp asked).symm

def slotAt (grace minute : ℤ) : ExpectedSlot := ⟨minute,minute + grace⟩

-- The walk ends with all slots, or at the first minute beyond the limit.
def WalkEnds (maxSlots : ℕ) (grace : ℤ) (slots : List ExpectedSlot) (named : List ℤ) : WalkedSlots → Prop
  | .all taken => taken = slots ++ named.map (slotAt grace) ∧ taken.length ≤ maxSlots
  | .overflow taken minute => taken.length = maxSlots ∧ ∃ first rest, named = first ++ minute :: rest ∧ taken = slots ++ first.map (slotAt grace)

theorem walkSlots_ends {slots : List ExpectedSlot} {walked : WalkedSlots} (room : slots.length ≤ request.maxSlots) (ran : walkSlots kit request plan minutes slots = .ok walked) :
    WalkEnds request.maxSlots request.publicationGrace slots (minutes.filter (Named kit plan)) walked := by
  induction minutes generalizing slots with
  | nil =>
    cases ran
    exact ⟨(List.append_nil _).symm,room⟩
  | cons minute rest ih =>
    obtain ⟨found,asked,ran⟩ := bind_ok.mp ran
    have same := eligible_ok asked
    cases found with
    | true =>
      rw [if_pos rfl] at ran
      rw [List.filter_cons_of_pos same.symm]
      split at ran
      · rename_i full
        cases return_ok.mp ran
        exact ⟨full,[],_,rfl,(List.append_nil _).symm⟩
      · rename_i short
        obtain ⟨deadline,due,ran⟩ := bind_ok.mp ran
        obtain ⟨_,rfl⟩ := dated_ok.mp due
        obtain ⟨_,_,ran⟩ := bind_ok.mp ran
        have later := ih (by rw [List.length_append,List.length_singleton]; omega) ran
        cases walked with
        | all taken =>
          obtain ⟨rfl,few⟩ := later
          exact ⟨List.append_assoc _ _ _,few⟩
        | overflow taken exceeding =>
          obtain ⟨full,first,others,split,rfl⟩ := later
          exact ⟨full,minute :: first,others,by rw [split,List.cons_append],List.append_assoc _ _ _⟩
    | false =>
      rw [if_neg (by decide)] at ran
      obtain ⟨_,_,ran⟩ := bind_ok.mp ran
      rw [List.filter_cons_of_neg (by rw [← same]; decide)]
      exact ih room ran

theorem findDue_least {due : ℤ} (ascending : minutes.Pairwise (· < ·)) (ran : findDue kit plan minutes = .ok (some due)) :
    due ∈ minutes ∧ Named kit plan due = true ∧ ∀ minute ∈ minutes, Named kit plan minute = true → due ≤ minute := by
  induction minutes with
  | nil => cases ran
  | cons minute rest ih =>
    obtain ⟨found,asked,ran⟩ := bind_ok.mp ran
    have same := eligible_ok asked
    obtain ⟨least,others⟩ := List.pairwise_cons.mp ascending
    cases found with
    | true =>
      rw [if_pos rfl] at ran
      cases return_ok.mp ran
      refine ⟨List.mem_cons_self,same.symm,?_⟩
      intro other member _
      rcases List.mem_cons.mp member with rfl | later
      · exact le_rfl
      · exact (least other later).le
    | false =>
      rw [if_neg (by decide)] at ran
      obtain ⟨_,_,ran⟩ := bind_ok.mp ran
      obtain ⟨member,named,first⟩ := ih others ran
      refine ⟨List.mem_cons_of_mem _ member,named,?_⟩
      intro other present held
      rcases List.mem_cons.mp present with rfl | later
      · rw [held] at same
        cases same
      · exact first other later held

theorem getLast_greatest {items : List ℤ} {last : ℤ} (ascending : items.Pairwise (· < ·)) (found : items.getLast? = some last) :
    last ∈ items ∧ ∀ item ∈ items, item ≤ last := by
  obtain ⟨before,rfl⟩ := List.getLast?_eq_some_iff.mp found
  refine ⟨List.mem_append_right _ List.mem_cons_self,?_⟩
  obtain ⟨_,_,across⟩ := List.pairwise_append.mp ascending
  intro item member
  rcases List.mem_append.mp member with early | own
  · exact (across item early last List.mem_cons_self).le
  · rw [List.mem_singleton] at own
    exact own.le

end loops

section classifier

variable {kit : ExpectationKit} {target : Fields} {request : ExpectationRequest} {plan : ExpectationPlan} {window : Option Bool}

theorem dueOn_ok {zone market : Zone} {day : ℕ} {minute : ℤ} {found : Bool} (asked : dueOn kit zone market day minute = .ok found) :
    found = (kit.cronMatches (zone.wall minute) && market.date minute == day) := by
  unfold dueOn at asked
  obtain ⟨wall,here,asked⟩ := bind_ok.mp asked
  obtain ⟨_,rfl⟩ := dated_ok.mp here
  unfold Zone.date
  split at asked
  · rename_i named
    obtain ⟨place,there,asked⟩ := bind_ok.mp asked
    obtain ⟨_,rfl⟩ := dated_ok.mp there
    obtain ⟨_,_,asked⟩ := bind_ok.mp asked
    rw [named,Bool.true_and]
    exact (return_ok.mp asked).symm
  · rename_i unnamed
    obtain ⟨_,_,asked⟩ := bind_ok.mp asked
    rw [Bool.not_eq_true] at unnamed
    rw [unnamed,Bool.false_and]
    exact (return_ok.mp asked).symm

theorem selectOk_filter {test : ℤ → Except PyExc Bool} {holds : ℤ → Bool} (sound : ∀ {item found}, test item = .ok found → found = holds item)
    {items chosen : List ℤ} (selected : selectOk test items = .ok chosen) : chosen = items.filter holds := by
  induction items generalizing chosen with
  | nil =>
    cases selected
    rfl
  | cons item rest ih =>
    obtain ⟨found,asked,selected⟩ := bind_ok.mp selected
    obtain ⟨others,later,selected⟩ := bind_ok.mp selected
    cases return_ok.mp selected
    rw [ih later,List.filter_cons,← sound asked]

-- A state that calls for a report
def Calls (state : String) : Prop := state = "within_grace" ∨ state = "due"

instance (state : String) : Decidable (Calls state) := inferInstanceAs (Decidable (_ ∨ _))

theorem applyWindow_calls {schedule : DaySchedule} (calls : Calls (applyWindow window schedule).state) : applyWindow window schedule = schedule := by
  unfold applyWindow at calls ⊢
  split
  · rename_i outside
    rw [if_pos outside] at calls
    exact absurd calls (by show ¬Calls "outside_window"; decide)
  · rfl

theorem classifyDue_calls {day : ℕ} {due : List ℤ} {today : DaySchedule} (ran : classifyDue target request plan window day due = .ok today)
    (calls : Calls today.state) : ∃ latest, (due.filter (· ≤ request.now)).getLast? = some latest ∧ plan.days.contains day = true ∧
      today.latestDueAt = some latest ∧ today.graceEndsAt = some (latest + max request.publicationGrace 0) := by
  unfold classifyDue at ran
  dsimp only at ran
  split at ran
  · cases ran
    rw [applyWindow_calls calls] at calls
    exact absurd calls (show ¬Calls "not_due" by decide)
  · rename_i latest found
    split at ran
    · cases ran
      rw [applyWindow_calls calls] at calls
      exact absurd calls (show ¬Calls "unevaluable" by decide)
    · split at ran
      · cases ran
        rw [applyWindow_calls calls] at calls
        exact absurd calls (show ¬Calls "market_closed" by decide)
      · rename_i open_
        obtain ⟨ends,shifted,ran⟩ := bind_ok.mp ran
        obtain ⟨_,rfl⟩ := dated_ok.mp shifted
        have session : plan.days.contains day = true := by
          cases held : plan.days.contains day with
          | true => rfl
          | false =>
            rw [held] at open_
            exact absurd rfl open_
        split at ran
        · cases return_ok.mp ran
          rw [applyWindow_calls calls]
          exact ⟨latest,found,session,rfl,rfl⟩
        · cases return_ok.mp ran
          rw [applyWindow_calls calls]
          exact ⟨latest,found,session,rfl,rfl⟩

-- The clocks of the zone never turn across a midnight of the date: all of it lies between what the
-- zone gives for its own midnight and for the next.
def Undivided (market : Zone) (day : ℕ) : Prop :=
  ∀ instant, market.date instant = day → market.instantOf ((day - 1) * daySpan) ≤ instant ∧ instant < market.instantOf (day * daySpan)

-- The zones of the plan are those of the target.
structure Zoned (kit : ExpectationKit) (target : Fields) (plan : ExpectationPlan) : Prop where
  zone : kit.zones ((schedulerOf target).get "timezone").textOrEmpty = some plan.zone
  market : kit.zones (marketName target) = some plan.market

theorem timezoneOf_zoned (zoned : Zoned kit target plan) : timezoneOf target = marketName target := by
  obtain ⟨stripped,nonempty⟩ := kit.plain _ _ zoned.market
  obtain ⟨plainZone,_⟩ := kit.plain _ _ zoned.zone
  unfold timezoneOf
  unfold fieldText
  unfold marketName at stripped nonempty ⊢
  split at stripped
  · rename_i truthy
    have whole : (target.get "market_timezone").textOrEmpty = (target.get "market_timezone").text := by
      unfold PyVal.textOrEmpty
      rw [if_pos truthy]
    rw [if_pos truthy] at nonempty ⊢
    rw [whole,stripped,if_neg nonempty]
  · rename_i falsy
    have empty : (target.get "market_timezone").textOrEmpty = "" := by
      unfold PyVal.textOrEmpty
      rw [if_neg falsy]
    rw [empty,if_neg falsy]
    rw [if_pos (by decide)]
    exact plainZone

theorem schedulerZoneOf_zoned (zoned : Zoned kit target plan) : schedulerZoneOf target = ((schedulerOf target).get "timezone").textOrEmpty := by
  obtain ⟨stripped,nonempty⟩ := kit.plain _ _ zoned.zone
  unfold schedulerZoneOf fieldText
  rw [stripped,if_neg nonempty]

-- The last minute that is due on the date of now, where the date is undivided
structure LatestDue (kit : ExpectationKit) (plan : ExpectationPlan) (now latest : ℤ) : Prop where
  whole : latest % minuteSpan = 0
  named : Named kit plan latest = true
  past : latest ≤ now
  today : plan.market.date latest = plan.market.date now
  greatest : Undivided plan.market (plan.market.date now) → ∀ minute, minute % minuteSpan = 0 → Named kit plan minute = true → minute ≤ now →
    plan.market.date minute = plan.market.date now → minute ≤ latest

theorem classifyToday_calls (zoned : Zoned kit target plan) (positive : 0 ≤ request.publicationGrace) {today : DaySchedule}
    (ran : classifyToday kit target request plan window = .ok today) (calls : Calls today.state) :
    ∃ latest, LatestDue kit plan request.now latest ∧ today.latestDueAt = some latest ∧
      today.graceEndsAt = some (latest + request.publicationGrace) := by
  have missed : ∀ {reason : String}, ¬Calls (unevaluable reason).state := by
    intro reason
    show ¬Calls "unevaluable"
    decide
  unfold classifyToday at ran
  rw [timezoneOf_zoned zoned,schedulerZoneOf_zoned zoned,zoned.zone,zoned.market] at ran
  split at ran
  · cases ran
    exact absurd calls missed
  · dsimp only at ran
    split at ran
    · cases ran
      exact absurd calls missed
    · obtain ⟨place,there,ran⟩ := bind_ok.mp ran
      obtain ⟨_,rfl⟩ := dated_ok.mp there
      obtain ⟨_,_,ran⟩ := bind_ok.mp ran
      obtain ⟨start,opens,ran⟩ := bind_ok.mp ran
      obtain ⟨_,rfl⟩ := dated_ok.mp opens
      obtain ⟨stop,closes,ran⟩ := bind_ok.mp ran
      obtain ⟨_,rfl⟩ := dated_ok.mp closes
      obtain ⟨due,selected,ran⟩ := bind_ok.mp ran
      obtain ⟨latest,found,session,shown,ends⟩ := classifyDue_calls ran calls
      rw [max_eq_left positive] at ends
      have listed := selectOk_filter (fun asked => dueOn_ok asked) selected
      subst listed
      rw [List.filter_filter] at found
      obtain ⟨member,greatest⟩ := getLast_greatest ((minutesFrom_ascending _ _).filter _) found
      have session : plan.days.contains (plan.market.date request.now) = true := session
      obtain ⟨inside,held⟩ := List.mem_filter.mp member
      rw [Bool.and_eq_true,Bool.and_eq_true,decide_eq_true_eq,beq_iff_eq] at held
      obtain ⟨past,cron,today⟩ := held
      have today : plan.market.date latest = plan.market.date request.now := today
      refine ⟨latest,⟨(mem_wholeMinutes.mp inside).2.2,?_,past,today,?_⟩,shown,ends⟩
      · unfold Named
        rw [today,session,cron]
        rfl
      · intro undivided minute whole named early same
        obtain ⟨after,before⟩ := undivided minute same
        apply greatest
        refine List.mem_filter.mpr ⟨mem_wholeMinutes.mpr ⟨after,Int.le_sub_one_of_lt before,whole⟩,?_⟩
        unfold Named at named
        rw [Bool.and_eq_true] at named
        rw [Bool.and_eq_true,Bool.and_eq_true,decide_eq_true_eq,beq_iff_eq]
        exact ⟨early,named.2,same⟩

end classifier

section request

variable {kit : ExpectationKit} {target : Fields} {request : ExpectationRequest} {plan : ExpectationPlan}

-- What a request has been resolved to, and what it has passed for it
structure Planned (kit : ExpectationKit) (target : Fields) (request : ExpectationRequest) (plan : ExpectationPlan) : Prop
    extends Zoned kit target plan where
  valid : validRequest request
  near : request.coverageEnd - request.since ≤ horizonSpan request
  fields : (words ((schedulerOf target).get "main_time").textOrEmpty).length = 5
  calendar : (target.get "market_calendar").textOrEmpty ≠ ""
  present : ∃ wall, localIn plan.zone request.now = .ok wall
  horizon : dated (request.now + horizonSpan request) = .ok (request.now + horizonSpan request)
  sessions : loadSessions kit target request plan.market (request.now + horizonSpan request) = .ok (.dates plan.days)

theorem named_ok {name : String} {zone : Zone} : named kit name = .ok zone ↔ kit.zones name = some zone := by
  unfold named
  cases kit.zones name with
  | none =>
    constructor
    · intro impossible
      cases impossible
    · intro impossible
      cases impossible
  | some other =>
    constructor
    · intro same
      rw [Except.ok.inj same]
    · intro same
      rw [Option.some.inj same]

-- An outcome that says more than that nothing can be told
def Told (outcome : Expectations) : Prop := ∀ state reason, outcome ≠ .stopped state reason [] none

theorem expect_planned {outcome : Expectations} (told : Told outcome) (ran : expect kit target request = .ok outcome) :
    ∃ plan, Planned kit target request plan ∧ expectFrom kit target request plan (request.now + horizonSpan request) = .ok outcome := by
  unfold expect at ran
  obtain ⟨_,valid,ran⟩ := bind_ok.mp ran
  split at ran
  · cases return_ok.mp ran
    exact absurd rfl (told _ _)
  · rename_i near
    obtain ⟨zone,own,ran⟩ := bind_ok.mp ran
    obtain ⟨market,place,ran⟩ := bind_ok.mp ran
    obtain ⟨_,fields,ran⟩ := bind_ok.mp ran
    obtain ⟨wall,present,ran⟩ := bind_ok.mp ran
    obtain ⟨stop,horizon,ran⟩ := bind_ok.mp ran
    obtain ⟨inside,rfl⟩ := dated_ok.mp horizon
    split at ran
    · cases return_ok.mp ran
      exact absurd rfl (told _ _)
    · cases return_ok.mp ran
      exact absurd rfl (told _ _)
    · cases ran
    · rename_i days loaded
      obtain ⟨words,calendar⟩ := require_ok.mp fields
      exact ⟨⟨zone,market,days⟩,⟨⟨named_ok.mp own,named_ok.mp place⟩,require_ok.mp valid,not_lt.mp near,words,calendar,⟨wall,present⟩,horizon,loaded⟩,ran⟩

theorem planned_expect (planned : Planned kit target request plan) :
    expect kit target request = expectFrom kit target request plan (request.now + horizonSpan request) := by
  obtain ⟨⟨zone,market⟩,valid,near,words,calendar,⟨wall,present⟩,horizon,sessions⟩ := planned
  unfold expect
  rw [show require (validRequest request) badRequest = .ok () from require_ok.mpr valid]
  show (if horizonSpan request < request.coverageEnd - request.since then _ else _) = _
  rw [if_neg (not_lt.mpr near),named_ok.mpr zone,named_ok.mpr market]
  show (require _ badRequest >>= _) = _
  rw [show require ((LongBridge.Schedule.words ((schedulerOf target).get "main_time").textOrEmpty).length = 5 ∧
    (target.get "market_calendar").textOrEmpty ≠ "") badRequest = .ok () from require_ok.mpr ⟨words,calendar⟩]
  show (localIn plan.zone request.now >>= _) = _
  rw [present]
  show (dated (request.now + horizonSpan request) >>= _) = _
  rw [horizon]
  dsimp only [bind,Except.bind]
  rw [sessions]

theorem enumerate_told {outcome : Expectations} (told : Told outcome) : enumerateCycleExpectations kit target request = outcome ↔
    expect kit target request = .ok outcome := by
  unfold enumerateCycleExpectations
  cases expect kit target request with
  | ok other =>
    constructor
    · intro same
      rw [← same]
    · intro same
      exact Except.ok.inj same
  | error error =>
    constructor
    · intro same
      exact absurd same.symm (told _ _)
    · intro impossible
      cases impossible

theorem told_ready (slots : List ExpectedSlot) (schedule : ExpectedSchedule) : Told (.ready slots schedule) := fun _ _ impossible => nomatch impossible

theorem told_exceeded (slots : List ExpectedSlot) (minute : ℤ) : Told (limitExceeded slots minute) := fun _ _ impossible => nomatch impossible

-- All minutes of the interval that are named, in order
structure AllDue (kit : ExpectationKit) (request : ExpectationRequest) (plan : ExpectationPlan) (minutes : List ℤ) : Prop where
  ascending : minutes.Pairwise (· < ·)
  all : ∀ minute, minute ∈ minutes ↔ (request.since ≤ minute ∧ minute ≤ request.coverageEnd ∧ minute % minuteSpan = 0) ∧ Named kit plan minute = true

def dueMinutes (kit : ExpectationKit) (request : ExpectationRequest) (plan : ExpectationPlan) : List ℤ :=
  (minutesFrom (nextMinute request.since) request.coverageEnd).filter (Named kit plan)

theorem dueMinutes_all : AllDue kit request plan (dueMinutes kit request plan) where
  ascending := (minutesFrom_ascending _ _).filter _
  all minute := by
    unfold dueMinutes
    rw [List.mem_filter,mem_wholeMinutes]

theorem allDue_unique {minutes others : List ℤ} (one : AllDue kit request plan minutes) (two : AllDue kit request plan others) : minutes = others := by
  have same : minutes.Perm others := by
    apply (List.perm_ext_iff_of_nodup (one.ascending.imp ne_of_lt) (two.ascending.imp ne_of_lt)).mpr
    intro minute
    rw [one.all,two.all]
  exact same.eq_of_pairwise (fun _ _ _ _ first second => absurd second (not_lt.mpr first.le)) one.ascending two.ascending

-- The least named minute behind now
structure NextDue (kit : ExpectationKit) (plan : ExpectationPlan) (now due : ℤ) : Prop where
  whole : due % minuteSpan = 0
  named : Named kit plan due = true
  later : now < due
  least : ∀ minute, minute % minuteSpan = 0 → Named kit plan minute = true → now < minute → due ≤ minute

theorem findDue_next {stop due : ℤ} (ran : findDue kit plan (minutesFrom (request.now / minuteSpan * minuteSpan + minuteSpan) stop) = .ok (some due)) :
    NextDue kit plan request.now due := by
  obtain ⟨member,named,least⟩ := findDue_least (minutesFrom_ascending _ _) ran
  obtain ⟨start,inside,step⟩ := mem_minutesFrom.mp member
  unfold minuteSpan at *
  refine ⟨?_,named,by omega,?_⟩
  · unfold minuteSpan
    omega
  · intro minute whole held later
    unfold minuteSpan at whole
    by_cases beyond : minute ≤ stop
    · apply least minute _ held
      rw [mem_minutesFrom]
      unfold minuteSpan
      omega
    · omega

-- The interval keeps a day away from both ends of the calendar.
structure Roomy (request : ExpectationRequest) : Prop where
  first : daySpan ≤ request.since
  last : request.now + horizonSpan request + daySpan < lastInstant
  deadlines : request.now + request.publicationGrace < lastInstant

theorem horizonSpan_bounds (valid : validRequest request) : daySpan ≤ horizonSpan request := by
  obtain ⟨_,_,_,_,least,_,_⟩ := valid
  have least : (1 : ℤ) ≤ request.horizonDays := by exact_mod_cast least
  unfold horizonSpan daySpan
  omega

theorem localIn_roomy (roomy : Roomy request) (valid : validRequest request) (zone : Zone) {minute : ℤ} (late : request.since ≤ minute)
    (early : minute ≤ request.now) : localIn zone minute = .ok (zone.wall minute) := by
  have near := abs_lt.mp (zone.offsetNear minute)
  have span := horizonSpan_bounds valid
  obtain ⟨first,last,_⟩ := roomy
  refine dated_ok.mpr ⟨?_,rfl⟩
  unfold Zone.wall
  unfold daySpan at *
  omega

theorem eligible_roomy (roomy : Roomy request) (valid : validRequest request) {minute : ℤ} (late : request.since ≤ minute)
    (early : minute ≤ request.now) : eligible kit plan minute = .ok (Named kit plan minute) := by
  unfold eligible Named Zone.date
  rw [localIn_roomy roomy valid plan.market late early]
  show (if plan.days.contains (utcOrdinal (plan.market.wall minute)) = true then _ else _) = _
  rw [localIn_roomy roomy valid plan.zone late early]
  cases plan.days.contains (utcOrdinal (plan.market.wall minute)) <;> rfl

theorem walkSlots_roomy (roomy : Roomy request) (valid : validRequest request) {minutes : List ℤ} {slots : List ExpectedSlot}
    (inside : ∀ minute ∈ minutes, request.since ≤ minute ∧ minute ≤ request.now) : ∃ walked, walkSlots kit request plan minutes slots = .ok walked := by
  induction minutes generalizing slots with
  | nil => exact ⟨_,rfl⟩
  | cons minute rest ih =>
    obtain ⟨⟨late,early⟩,others⟩ := List.forall_mem_cons.mp inside
    have span := horizonSpan_bounds valid
    have positive : 0 ≤ request.publicationGrace := valid.2.2.2.2.2.2
    obtain ⟨first,last,deadlines⟩ := roomy
    have deadline : dated (minute + request.publicationGrace) = .ok (minute + request.publicationGrace) := by
      refine dated_ok.mpr ⟨?_,rfl⟩
      unfold daySpan at *
      omega
    have next : dated (minute + minuteSpan) = .ok (minute + minuteSpan) := by
      refine dated_ok.mpr ⟨?_,rfl⟩
      unfold daySpan minuteSpan at *
      omega
    unfold walkSlots
    rw [eligible_roomy ⟨first,last,deadlines⟩ valid late early,deadline,next]
    simp only [bind,Except.bind,pure,Except.pure]
    split
    · split
      · exact ⟨_,rfl⟩
      · exact ih others
    · exact ih others

-- The slots beyond which there is another
def Exceeds (kit : ExpectationKit) (request : ExpectationRequest) (plan : ExpectationPlan) (slots : List ExpectedSlot) (overflowAt : ℤ) : Prop :=
  ∃ first rest, AllDue kit request plan (first ++ overflowAt :: rest) ∧ first.length = request.maxSlots ∧
    slots = first.map (slotAt request.publicationGrace)

theorem expectFrom_exceeds {stop : ℤ} {slots : List ExpectedSlot} {exceeding : ℤ}
    (ran : expectFrom kit target request plan stop = .ok (limitExceeded slots exceeding)) : Exceeds kit request plan slots exceeding := by
  unfold expectFrom at ran
  obtain ⟨walked,walk,ran⟩ := bind_ok.mp ran
  have ends := walkSlots_ends (Nat.zero_le _) walk
  cases walked with
  | overflow taken minute =>
    cases return_ok.mp ran
    obtain ⟨full,first,rest,split,rfl⟩ := ends
    rw [List.nil_append] at full ⊢
    rw [List.length_map] at full
    refine ⟨first,rest,?_,full,rfl⟩
    rw [← split]
    exact dueMinutes_all
  | all taken =>
    obtain ⟨_,_,ran⟩ := bind_ok.mp ran
    obtain ⟨due,_,ran⟩ := bind_ok.mp ran
    cases due with
    | none => exact absurd (return_ok.mp ran).symm (told_exceeded slots exceeding _ _)
    | some due =>
      obtain ⟨_,_,ran⟩ := bind_ok.mp ran
      obtain ⟨_,_,ran⟩ := bind_ok.mp ran
      cases return_ok.mp ran

-- What a ready outcome shows
structure Shows (kit : ExpectationKit) (request : ExpectationRequest) (plan : ExpectationPlan) (slots : List ExpectedSlot)
    (schedule : ExpectedSchedule) : Prop where
  slots : ∃ minutes, AllDue kit request plan minutes ∧ slots = minutes.map (slotAt request.publicationGrace)
  next : NextDue kit plan request.now schedule.nextDueAt
  latest : Calls schedule.state → ∃ latest, LatestDue kit plan request.now latest ∧ schedule.latestDueAt = some latest ∧
    schedule.deadlineAt = some (latest + request.publicationGrace)

theorem shownSchedule_calls {today : DaySchedule} {next : ℤ} (calls : Calls (shownSchedule target today next).state) :
    Calls today.state ∧ (shownSchedule target today next).latestDueAt = today.latestDueAt ∧
      (shownSchedule target today next).deadlineAt = today.graceEndsAt := by
  unfold shownSchedule at calls ⊢
  split
  · rename_i missing
    rw [if_pos missing] at calls
    exact absurd calls (show ¬Calls "not_due" by decide)
  · rename_i present
    rw [if_neg present] at calls
    exact ⟨calls,rfl,rfl⟩

theorem expectFrom_shows (zoned : Zoned kit target plan) (positive : 0 ≤ request.publicationGrace) {stop : ℤ} {slots : List ExpectedSlot}
    {schedule : ExpectedSchedule} (ran : expectFrom kit target request plan stop = .ok (.ready slots schedule)) :
    Shows kit request plan slots schedule := by
  unfold expectFrom at ran
  obtain ⟨walked,walk,ran⟩ := bind_ok.mp ran
  have ends := walkSlots_ends (Nat.zero_le _) walk
  cases walked with
  | overflow taken minute => cases return_ok.mp ran
  | all taken =>
    obtain ⟨listed,_⟩ := ends
    obtain ⟨cursor,start,ran⟩ := bind_ok.mp ran
    obtain ⟨_,rfl⟩ := dated_ok.mp start
    obtain ⟨due,found,ran⟩ := bind_ok.mp ran
    cases due with
    | none => cases return_ok.mp ran
    | some due =>
      obtain ⟨window,_,ran⟩ := bind_ok.mp ran
      obtain ⟨today,classified,ran⟩ := bind_ok.mp ran
      cases return_ok.mp ran
      have next := findDue_next found
      refine ⟨⟨_,dueMinutes_all,listed⟩,?_,?_⟩
      · unfold shownSchedule
        split
        · exact next
        · exact next
      · intro calls
        obtain ⟨own,latest,ends⟩ := shownSchedule_calls calls
        rw [latest,ends]
        exact classifyToday_calls zoned positive classified own

theorem ready_shows {slots : List ExpectedSlot} {schedule : ExpectedSchedule}
    (shown : enumerateCycleExpectations kit target request = .ready slots schedule) :
    ∃ plan, Planned kit target request plan ∧ Shows kit request plan slots schedule := by
  obtain ⟨plan,planned,ran⟩ := expect_planned (told_ready slots schedule) ((enumerate_told (told_ready slots schedule)).mp shown)
  exact ⟨plan,planned,expectFrom_shows planned.toZoned planned.valid.2.2.2.2.2.2 ran⟩

-- A ready outcome lists all and only the due minutes; the limit is reported only where there are
-- more, and wherever there are more in an interval within the calendar.
theorem expectations_are_exact :
    (∀ slots schedule, enumerateCycleExpectations kit target request = .ready slots schedule →
      ∃ plan, Planned kit target request plan ∧ Shows kit request plan slots schedule) ∧
    (∀ slots exceeding, enumerateCycleExpectations kit target request = limitExceeded slots exceeding →
      ∃ plan, Planned kit target request plan ∧ Exceeds kit request plan slots exceeding) ∧
    ∀ plan minutes, Planned kit target request plan → Roomy request → AllDue kit request plan minutes → request.maxSlots < minutes.length →
      ∃ slots exceeding, enumerateCycleExpectations kit target request = limitExceeded slots exceeding ∧ Exceeds kit request plan slots exceeding := by
  refine ⟨fun _ _ => ready_shows,?_,?_⟩
  · intro slots exceeding exceeded
    obtain ⟨plan,planned,ran⟩ := expect_planned (told_exceeded slots exceeding) ((enumerate_told (told_exceeded slots exceeding)).mp exceeded)
    exact ⟨plan,planned,expectFrom_exceeds ran⟩
  · intro plan minutes planned roomy all many
    obtain ⟨walked,walk⟩ := @walkSlots_roomy kit request plan roomy planned.valid (minutesFrom (nextMinute request.since) request.coverageEnd) []
      fun minute member => ⟨(mem_wholeMinutes.mp member).1,(mem_wholeMinutes.mp member).2.1.trans planned.valid.2.1⟩
    have ends := walkSlots_ends (Nat.zero_le _) walk
    cases walked with
    | all taken =>
      obtain ⟨rfl,few⟩ := ends
      rw [List.nil_append,List.length_map] at few
      rw [allDue_unique all dueMinutes_all] at many
      exact absurd few (not_le.mpr many)
    | overflow taken minute =>
      have ran : expectFrom kit target request plan (request.now + horizonSpan request) = .ok (limitExceeded taken minute) := by
        unfold expectFrom
        rw [walk]
        rfl
      exact ⟨taken,minute,(enumerate_told (told_exceeded taken minute)).mpr ((planned_expect planned).trans ran),expectFrom_exceeds ran⟩

-- Clocks that turn back by an hour one minute behind a midnight
def turnsBack (turn : ℤ) : Zone where
  offset instant := if instant < turn then 0 else -hourSpan
  instantOf wall := if wall < turn then wall else wall + hourSpan
  offsetNear instant := by
    rw [abs_lt]
    unfold hourSpan daySpan
    split <;> omega
  instantNear wall := by
    rw [abs_lt]
    unfold hourSpan daySpan
    split <;> omega
  first instant := by
    unfold hourSpan
    split
    · rename_i early
      rw [add_zero,if_pos early]
      rw [if_pos early]
      omega
    · rename_i late
      by_cases again : instant + -3600000000 < turn
      · rw [if_pos again,if_pos again]
        omega
      · rw [if_neg again]
        rw [if_neg (by omega)]
        omega

def midnight : ℤ := 738000 * daySpan

def lateZone : Zone := turnsBack (midnight + minuteSpan)

def lateKit : ExpectationKit where
  zones name := if name = "America/St_Johns" then some lateZone else none
  plain name zone known := by
    split at known
    · rename_i same
      subst same
      decide
    · cases known
  cronMatches wall := wall % daySpan == 23 * hourSpan + 30 * minuteSpan || wall % daySpan == 23 * hourSpan + 36 * minuteSpan
  sessionDates _ _ _ := .dates [738000,738001]

def lateTarget : Fields :=
  [("market_timezone",.str "America/St_Johns"),("market_calendar",.str "XTSE"),
    ("scheduler",.dict [("main_time",.str "30,36 23 * * *"),("timezone",.str "America/St_Johns")])]

-- 23:35 for the second time
def lateRequest : ExpectationRequest where
  since := midnight + 35 * minuteSpan
  now := midnight + 35 * minuteSpan
  coverageEnd := midnight + 35 * minuteSpan
  publicationGrace := 30 * minuteSpan
  expectedWindow := none
  maxSlots := 20
  horizonDays := 1

theorem late_outcome : enumerateCycleExpectations lateKit lateTarget lateRequest = .ready []
    ⟨"due","publication_grace_ended","America/St_Johns",some (midnight - 24 * minuteSpan),midnight + 36 * minuteSpan,
      some (midnight + 6 * minuteSpan)⟩ := by
  decide +kernel

def latePlan : ExpectationPlan := ⟨lateZone,lateZone,[738000,738001]⟩

theorem late_planned : Planned lateKit lateTarget lateRequest latePlan where
  zone := rfl
  market := rfl
  valid := by decide
  near := by decide
  fields := by decide
  calendar := by decide
  present := ⟨_,rfl⟩
  horizon := rfl
  sessions := rfl

def longRequest : ExpectationRequest := { lateRequest with since := midnight - 48 * hourSpan, maxSlots := 1 }

-- The second 23:30 of a night is later than the minute that is shown as the latest, and an interval
-- beyond the horizon is not searched for its limit.
theorem repeated_minute_is_not_the_latest :
    (¬∀ (kit : ExpectationKit) (target : Fields) (request : ExpectationRequest) (plan : ExpectationPlan) (slots : List ExpectedSlot)
      (schedule : ExpectedSchedule), Planned kit target request plan → enumerateCycleExpectations kit target request = .ready slots schedule →
      Calls schedule.state → ∀ minute, minute % minuteSpan = 0 → Named kit plan minute = true → minute ≤ request.now →
        plan.market.date minute = plan.market.date request.now → ∃ latest, schedule.latestDueAt = some latest ∧ minute ≤ latest) ∧
    enumerateCycleExpectations lateKit lateTarget longRequest = .stopped "incomplete" "expectation_horizon_exceeded" [] none ∧
      longRequest.maxSlots < (dueMinutes lateKit longRequest latePlan).length := by
  refine ⟨?_,by decide +kernel,by decide +kernel⟩
  intro claimed
  obtain ⟨latest,shown,later⟩ := claimed lateKit lateTarget lateRequest latePlan _ _ late_planned late_outcome (.inr rfl)
    (midnight + 30 * minuteSpan) (by decide +kernel) (by decide +kernel) (by decide +kernel) (by decide +kernel)
  cases shown
  exact absurd later (by decide)

end request

end LongBridge.Schedule
