import Mathlib.Data.List.Sort
import LongBridge.Effects.Fallible
import LongBridge.Schedule.Cron

namespace LongBridge.Schedule
open Effects

-- `_stop(category)`
def canaryStop (category : String) : PyExc := ⟨"CanaryError","hk_notification_canary_" ++ category⟩

def scheduleUnknown : PyExc := canaryStop "scheduler_schedule_unknown"

def naturalWindow : PyExc := canaryStop "scheduler_natural_window"

-- `IN_FLIGHT_QUIET_WINDOW`
def inFlightQuietWindow : ℤ := 20 * minuteSpan

-- `datetime(day.year, day.month, day.day, hour, minute)` of the date with that ordinal
def wallAt (day : ℕ) (hour minute : ℤ) : ℤ := ((day : ℤ) - 1) * daySpan + hour * hourSpan + minute * minuteSpan

-- `date.weekday()`: a Monday is 0.
def weekday (day : ℕ) : ℕ := (day + 6) % 7

structure JobSchedule where
  minute : ℤ
  hours : List ℤ
  weekdaysOnly : Bool
  zone : Zone
  minuteOfHour : 0 ≤ minute ∧ minute ≤ 59
  stated : hours ≠ []
  hoursOfDay : ∀ hour ∈ hours, 0 ≤ hour ∧ hour ≤ 23

-- `sorted({...})`
def sortedHours (hours : List ℤ) : List ℤ := hours.dedup.insertionSort (· ≤ ·)

def readSchedule (zones : String → Option Zone) (job : Fields) : Except PyExc JobSchedule :=
  match job.get "schedule",job.get "timeZone" with
  | .str schedule,.str timezone =>
    match words schedule with
    | [minute,hours,['*'],['*'],days] =>
      if days = ['1','-','5'] ∨ days = ['*'] then
        match wholeNumber minute,(splitMarks ',' hours).mapM wholeNumber,zones timezone with
        | some minute,some hours,some zone =>
          if inside : (0 ≤ minute ∧ minute ≤ 59) ∧ sortedHours hours ≠ [] ∧ ∀ hour ∈ sortedHours hours, 0 ≤ hour ∧ hour ≤ 23 then
            .ok ⟨minute,sortedHours hours,decide (days = ['1','-','5']),zone,inside.1,inside.2.1,inside.2.2⟩
          else .error scheduleUnknown
        | _,_,_ => .error scheduleUnknown
      else .error scheduleUnknown
    | _ => .error scheduleUnknown
  | _,_ => .error scheduleUnknown

namespace JobSchedule

def runsOn (schedule : JobSchedule) (day : ℕ) : Bool := !(schedule.weekdaysOnly && decide (5 ≤ weekday day))

def candidate (schedule : JobSchedule) (day : ℕ) (hour : ℤ) : ℤ := schedule.zone.instantOf (wallAt day hour schedule.minute)

def nextTimes (schedule : JobSchedule) (now : ℤ) : List ℤ :=
  (((List.range 9).map fun offset : ℕ => schedule.zone.date now + offset).filter fun day => schedule.runsOn day).flatMap fun day =>
    (schedule.hours.map fun hour => schedule.candidate day hour).filter fun candidate => decide (now ≤ candidate)

end JobSchedule

-- `_cron_next_times`
def cronNextTimes (zones : String → Option Zone) (job : Fields) (now : ℤ) : Except PyExc (List ℤ) := do
  let schedule ← readSchedule zones job
  if schedule.nextTimes now = [] then .error scheduleUnknown else return schedule.nextTimes now

-- `_require_quiet_window`
def requireQuietWindow (zones : String → Option Zone) (now : ℤ) : List (String × Fields) → Except PyExc Unit
  | [] => .ok ()
  | (_,job) :: rest => do
    let scheduled ← cronNextTimes zones job now
    if scheduled.any fun item => decide (|item - now| < inFlightQuietWindow) then .error naturalWindow
    else requireQuietWindow zones now rest

namespace JobSchedule

variable {schedule : JobSchedule} {now : ℤ}

theorem mem_nextTimes {item : ℤ} : item ∈ schedule.nextTimes now ↔ ∃ day hour, schedule.zone.date now ≤ day ∧ day < schedule.zone.date now + 9 ∧
    schedule.runsOn day = true ∧ hour ∈ schedule.hours ∧ schedule.candidate day hour = item ∧ now ≤ item := by
  unfold nextTimes
  rw [List.mem_flatMap]
  constructor
  · rintro ⟨day,member,listed⟩
    rw [List.mem_filter,List.mem_map] at member
    obtain ⟨⟨offset,small,rfl⟩,runs⟩ := member
    rw [List.mem_filter,List.mem_map,decide_eq_true_eq] at listed
    obtain ⟨⟨hour,given,rfl⟩,ahead⟩ := listed
    rw [List.mem_range] at small
    exact ⟨_,hour,Nat.le_add_right _ _,by omega,runs,given,rfl,ahead⟩
  · rintro ⟨day,hour,least,most,runs,given,rfl,ahead⟩
    refine ⟨day,?_,?_⟩
    · rw [List.mem_filter,List.mem_map]
      exact ⟨⟨day - schedule.zone.date now,List.mem_range.mpr (by omega),by omega⟩,runs⟩
    · rw [List.mem_filter,List.mem_map,decide_eq_true_eq]
      exact ⟨⟨hour,given,rfl⟩,ahead⟩

theorem minutes_of_day (schedule : JobSchedule) {hour : ℤ} (given : hour ∈ schedule.hours) (day : ℕ) :
    ((day : ℤ) - 1) * daySpan ≤ wallAt day hour schedule.minute ∧ wallAt day hour schedule.minute < day * daySpan := by
  have minutes := schedule.minuteOfHour
  have hours := schedule.hoursOfDay hour given
  unfold wallAt daySpan hourSpan minuteSpan
  omega

-- Of three days in a row one is no weekend.
theorem runs_soon (schedule : JobSchedule) (day : ℕ) : ∃ later, day ≤ later ∧ later < day + 3 ∧ schedule.runsOn later = true := by
  have weekdays : ∃ later, day ≤ later ∧ later < day + 3 ∧ weekday later < 5 := by
    unfold weekday
    rcases Nat.lt_or_ge ((day + 6) % 7) 5 with first | weekend
    · exact ⟨day,le_rfl,by omega,first⟩
    · rcases Nat.lt_or_ge ((day + 1 + 6) % 7) 5 with second | sunday
      · exact ⟨day + 1,by omega,by omega,second⟩
      · exact ⟨day + 2,by omega,by omega,by omega⟩
  obtain ⟨later,least,most,working⟩ := weekdays
  refine ⟨later,least,most,?_⟩
  unfold runsOn
  rw [decide_eq_false (Nat.not_le_of_lt working),Bool.and_false,Bool.not_false]

theorem nextTimes_nonempty (schedule : JobSchedule) (now : ℤ) : schedule.nextTimes now ≠ [] := by
  obtain ⟨hour,given⟩ := List.exists_mem_of_ne_nil _ schedule.stated
  obtain ⟨day,least,most,runs⟩ := schedule.runs_soon (schedule.zone.date now + 5)
  have later : now ≤ schedule.candidate day hour := by
    have close := abs_lt.mp (schedule.zone.instantNear (wallAt day hour schedule.minute))
    have today := schedule.zone.now_bound now
    have start := (schedule.minutes_of_day given day).1
    unfold candidate
    unfold daySpan at *
    omega
  exact List.ne_nil_of_mem (mem_nextTimes.mpr ⟨day,hour,by omega,by omega,runs,given,rfl,later⟩)

-- An instant of a wall time of the schedule: one that reads it, or the one it stands for.
def Occurs (schedule : JobSchedule) (day : ℕ) (hour instant : ℤ) : Prop :=
  schedule.runsOn day = true ∧ hour ∈ schedule.hours ∧
    (schedule.zone.wall instant = wallAt day hour schedule.minute ∨ instant = schedule.candidate day hour)

def Near (schedule : JobSchedule) (now instant : ℤ) : Prop :=
  (∃ day hour, schedule.Occurs day hour instant) ∧ |instant - now| < inFlightQuietWindow

-- A near occurrence whose wall time was first read before now, or is of an earlier local date
def Passed (schedule : JobSchedule) (now : ℤ) : Prop :=
  ∃ day hour instant, schedule.Occurs day hour instant ∧ |instant - now| < inFlightQuietWindow ∧
    (schedule.candidate day hour < now ∨ day < schedule.zone.date now)

-- A near occurrence of the local date or a later one that is still to come
def Ahead (schedule : JobSchedule) (now : ℤ) : Prop :=
  ∃ day hour, schedule.runsOn day = true ∧ hour ∈ schedule.hours ∧ schedule.zone.date now ≤ day ∧
    now ≤ schedule.candidate day hour ∧ schedule.candidate day hour < now + inFlightQuietWindow

theorem candidate_le {day : ℕ} {hour instant : ℤ} (occurs : schedule.Occurs day hour instant) : schedule.candidate day hour ≤ instant := by
  obtain ⟨_,_,reads | rfl⟩ := occurs
  · unfold candidate
    rw [← reads]
    exact schedule.zone.instantOf_le instant
  · exact le_rfl

theorem near_iff : (∃ instant, schedule.Near now instant) ↔ schedule.Passed now ∨ schedule.Ahead now := by
  constructor
  · rintro ⟨instant,⟨day,hour,occurs⟩,near⟩
    rcases lt_or_ge (schedule.candidate day hour) now with before | ahead
    · exact .inl ⟨day,hour,instant,occurs,near,.inl before⟩
    · rcases Nat.lt_or_ge day (schedule.zone.date now) with earlier | later
      · exact .inl ⟨day,hour,instant,occurs,near,.inr earlier⟩
      · refine .inr ⟨day,hour,occurs.1,occurs.2.1,later,ahead,?_⟩
        have first := candidate_le occurs
        have bound := (abs_lt.mp near).2
        omega
  · rintro (⟨day,hour,instant,occurs,near,_⟩ | ⟨day,hour,runs,given,_,ahead,soon⟩)
    · exact ⟨instant,⟨day,hour,occurs⟩,near⟩
    · refine ⟨schedule.candidate day hour,⟨day,hour,runs,given,.inr rfl⟩,?_⟩
      rw [abs_of_nonneg (by omega)]
      omega

-- The selection by date loses nothing that lies ahead.
theorem seen_iff : (schedule.nextTimes now).any (fun item => decide (|item - now| < inFlightQuietWindow)) = true ↔ schedule.Ahead now := by
  rw [List.any_eq_true]
  constructor
  · rintro ⟨item,listed,near⟩
    obtain ⟨day,hour,least,_,runs,given,rfl,ahead⟩ := mem_nextTimes.mp listed
    rw [decide_eq_true_eq,abs_of_nonneg (by omega)] at near
    exact ⟨day,hour,runs,given,least,ahead,by omega⟩
  · rintro ⟨day,hour,runs,given,least,ahead,soon⟩
    refine ⟨schedule.candidate day hour,mem_nextTimes.mpr ⟨day,hour,least,?_,runs,given,rfl,ahead⟩,?_⟩
    · have close := abs_lt.mp (schedule.zone.instantNear (wallAt day hour schedule.minute))
      have today := schedule.zone.now_bound now
      have start := (schedule.minutes_of_day given day).1
      unfold candidate at soon
      unfold inFlightQuietWindow minuteSpan at soon
      unfold daySpan at *
      omega
    · rw [decide_eq_true_eq,abs_of_nonneg (by omega)]
      omega

end JobSchedule

variable {zones : String → Option Zone} {jobs : List (String × Fields)} {now : ℤ}

-- Jobs with a schedule the canary admits
def Admitted (zones : String → Option Zone) (jobs : List (String × Fields)) : Prop :=
  ∀ entry ∈ jobs, ∃ schedule, readSchedule zones entry.2 = .ok schedule

def SomeJob (zones : String → Option Zone) (jobs : List (String × Fields)) (holds : JobSchedule → Prop) : Prop :=
  ∃ entry ∈ jobs, ∃ schedule, readSchedule zones entry.2 = .ok schedule ∧ holds schedule

theorem cronNextTimes_read {job : Fields} {schedule : JobSchedule} (read : readSchedule zones job = .ok schedule) :
    cronNextTimes zones job now = .ok (schedule.nextTimes now) := by
  unfold cronNextTimes
  rw [read]
  show (if schedule.nextTimes now = [] then _ else _) = _
  rw [if_neg (schedule.nextTimes_nonempty now)]
  rfl

theorem someJob_cons {name : String} {job : Fields} {schedule : JobSchedule} {holds : JobSchedule → Prop} (read : readSchedule zones job = .ok schedule) :
    SomeJob zones ((name,job) :: jobs) holds ↔ holds schedule ∨ SomeJob zones jobs holds := by
  constructor
  · rintro ⟨entry,member,other,known,held⟩
    rcases List.mem_cons.mp member with rfl | later
    · cases read.symm.trans known
      exact .inl held
    · exact .inr ⟨entry,later,other,known,held⟩
  · rintro (held | ⟨entry,later,other,known,held⟩)
    · exact ⟨_,List.mem_cons_self,schedule,read,held⟩
    · exact ⟨entry,List.mem_cons_of_mem _ later,other,known,held⟩

theorem requireQuietWindow_admitted (admitted : Admitted zones jobs) :
    (SomeJob zones jobs (JobSchedule.Ahead · now) ∧ requireQuietWindow zones now jobs = .error naturalWindow) ∨
      (¬SomeJob zones jobs (JobSchedule.Ahead · now) ∧ requireQuietWindow zones now jobs = .ok ()) := by
  induction jobs with
  | nil =>
    refine .inr ⟨?_,rfl⟩
    rintro ⟨entry,member,_⟩
    cases member
  | cons entry rest ih =>
    obtain ⟨name,job⟩ := entry
    obtain ⟨schedule,read⟩ := admitted _ List.mem_cons_self
    have step : requireQuietWindow zones now ((name,job) :: rest) =
        if (schedule.nextTimes now).any (fun item => decide (|item - now| < inFlightQuietWindow)) = true then .error naturalWindow
        else requireQuietWindow zones now rest := by
      rw [requireQuietWindow,cronNextTimes_read read]
      rfl
    rw [step,someJob_cons read]
    by_cases ahead : schedule.Ahead now
    · rw [if_pos (JobSchedule.seen_iff.mpr ahead)]
      exact .inl ⟨.inl ahead,rfl⟩
    · rw [if_neg (mt JobSchedule.seen_iff.mp ahead)]
      rcases ih fun entry member => admitted entry (List.mem_cons_of_mem _ member) with ⟨soon,stopped⟩ | ⟨quiet,passed⟩
      · exact .inl ⟨.inr soon,stopped⟩
      · exact .inr ⟨not_or.mpr ⟨ahead,quiet⟩,passed⟩

theorem someJob_or {one two : JobSchedule → Prop} :
    SomeJob zones jobs (fun schedule => one schedule ∨ two schedule) ↔ SomeJob zones jobs one ∨ SomeJob zones jobs two := by
  constructor
  · rintro ⟨entry,member,schedule,read,held | held⟩
    · exact .inl ⟨entry,member,schedule,read,held⟩
    · exact .inr ⟨entry,member,schedule,read,held⟩
  · rintro (⟨entry,member,schedule,read,held⟩ | ⟨entry,member,schedule,read,held⟩)
    · exact ⟨entry,member,schedule,read,.inl held⟩
    · exact ⟨entry,member,schedule,read,.inr held⟩

theorem someJob_near : SomeJob zones jobs (fun schedule => ∃ instant, schedule.Near now instant) ↔
    SomeJob zones jobs (JobSchedule.Passed · now) ∨ SomeJob zones jobs (JobSchedule.Ahead · now) := by
  rw [← someJob_or]
  unfold SomeJob
  simp only [JobSchedule.near_iff]

theorem quiet_window_is_two_sided_iff (admitted : Admitted zones jobs) :
    ((requireQuietWindow zones now jobs = .ok () → ¬SomeJob zones jobs fun schedule => ∃ instant, schedule.Near now instant) ∧
      ((SomeJob zones jobs fun schedule => ∃ instant, schedule.Near now instant) → requireQuietWindow zones now jobs = .error naturalWindow)) ↔
    (SomeJob zones jobs (JobSchedule.Passed · now) → SomeJob zones jobs (JobSchedule.Ahead · now)) := by
  rw [someJob_near]
  rcases @requireQuietWindow_admitted zones jobs now admitted with ⟨soon,stopped⟩ | ⟨quiet,passed⟩
  · rw [stopped]
    constructor
    · intro _ _
      exact soon
    · intro _
      exact And.intro (fun done => nomatch done) (fun _ => rfl)
  · rw [passed]
    constructor
    · intro sided started
      exact absurd (.inl started) (sided.1 rfl)
    · intro ahead
      have calm : ¬(SomeJob zones jobs (JobSchedule.Passed · now) ∨ SomeJob zones jobs (JobSchedule.Ahead · now)) := by
        rintro (started | soon)
        · exact quiet (ahead started)
        · exact quiet soon
      exact ⟨fun _ => calm,fun near => absurd near calm⟩

def utcZones (name : String) : Option Zone := if name = "UTC" then some Zone.utc else none

def nineDaily : Fields := [("schedule",.str "0 9 * * *"),("timeZone",.str "UTC")]

def nineSchedule : JobSchedule := ⟨0,[9],false,Zone.utc,by decide,by decide,by decide⟩

theorem nine_read : readSchedule utcZones nineDaily = .ok nineSchedule := by
  with_unfolding_all rfl

def morning (hour minute : ℤ) : ℤ := wallAt 739621 hour minute

-- The run of 09:00 began five minutes ago, and the window counts as quiet.
theorem started_run_counts_as_quiet : requireQuietWindow utcZones (morning 9 5) [("probe",nineDaily)] = .ok () ∧
    SomeJob utcZones [("probe",nineDaily)] fun schedule => ∃ instant, schedule.Near (morning 9 5) instant := by
  constructor
  · decide +kernel
  · exact ⟨_,List.mem_cons_self,nineSchedule,nine_read,morning 9 0,⟨739621,9,rfl,by decide,.inl (by decide)⟩,by decide⟩

-- Ten minutes before the run there is none under way.
theorem coming_run_is_seen : requireQuietWindow utcZones (morning 8 50) [("probe",nineDaily)] = .error naturalWindow := by
  have admitted : Admitted utcZones [("probe",nineDaily)] := by
    intro entry member
    rw [List.mem_singleton] at member
    subst member
    exact ⟨nineSchedule,nine_read⟩
  have ahead : SomeJob utcZones [("probe",nineDaily)] (JobSchedule.Ahead · (morning 8 50)) :=
    ⟨_,List.mem_cons_self,nineSchedule,nine_read,739621,9,rfl,by decide,by decide +kernel,by decide,by decide⟩
  exact ((quiet_window_is_two_sided_iff admitted).mpr fun _ => ahead).2 (someJob_near.mpr (.inr ahead))

end LongBridge.Schedule
