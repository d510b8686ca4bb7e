import LongBridge.Effects.Fallible
import LongBridge.Schedule.Cron

namespace LongBridge.Schedule
open Effects

def shortcutStep (stepped : Bool) (stepText : List Char) : Option ℤ := if stepped then wholeNumber stepText else some 1

def shortcutBase (base : List Char) (step : ℤ) : Option (List ℤ) :=
  match partitionAt '-' base with
  | (startText,true,endText) => do
    let start ← wholeNumber startText
    let stop ← wholeNumber endText
    if stop < start then none
    else some ((spaced start stop (max 1 step)).filter fun day => decide (1 ≤ day ∧ day ≤ 31))
  | _ => do
    let day ← wholeNumber base
    some (if 1 ≤ day ∧ day ≤ 31 then [day] else [])

-- One part of the field as the shortcut reads it; none gives the field up.
def shortcutPart (part : List Char) : Option (List ℤ) := do
  let (base,stepped,stepText) := partitionAt '/' part
  let step ← shortcutStep stepped stepText
  shortcutBase base step

-- `_parse_schedule_day_of_month_field`
def parseScheduleDayOfMonthField (raw : List Char) : Option (List ℤ) := do
  let text := trimmed raw
  if text = [] ∨ text = ['*'] ∨ text = ['?'] then none
  else
    let days ← (((splitMarks ',' text).map trimmed).filter (· ≠ [])).mapM shortcutPart
    if days.flatten = [] then none else some days.flatten

structure TargetScheduler where
  mainTime : String
  timezone : String

-- The zone of a name, and the name it goes by: UTC for one that is not known.
def zoneNamed (zones : String → Option Zone) (name : String) : Zone × String :=
  let name := if strip (if name = "" then "UTC" else name) = "" then "UTC" else strip (if name = "" then "UTC" else name)
  match zones name with
  | some zone => (zone,name)
  | none => (Zone.utc,"UTC")

-- From one local date to another, in order.
def datesFrom (first last : ℕ) : List ℕ := (List.range (last + 1 - first)).map fun index => first + index

structure WindowStatus where
  due : Bool
  reason : String

-- `_scheduler_window_status`
def schedulerWindowStatus (zones : String → Option Zone) (scheduler : TargetScheduler) (since now : ℤ) : Option WindowStatus :=
  match words (strip scheduler.mainTime) with
  | [_,_,dayOfMonth,_,_] => do
    let expected ← parseScheduleDayOfMonthField dayOfMonth
    let (zone,timezone) := zoneNamed zones scheduler.timezone
    let dates := datesFrom (zone.date since) (zone.date now)
    let due := dates.any fun date => expected.contains ((civilOf date).day : ℤ)
    some ⟨due,timezone ++ " date_window=" ++ dateText (zone.date since) ++ ".." ++ dateText (zone.date now) ++ "; expected day(s)=" ++
      ",".intercalate (((expected.dedup).mergeSort (· ≤ ·)).map toString)⟩
  | _ => none

-- `_runtime_target_scheduler_skip_reason`, for the candidates of the runtime target
def skipReasons (zones : String → Option Zone) (since now : ℤ) : List (String × TargetScheduler) → Option (List String)
  | [] => some []
  | (service,scheduler) :: rest =>
    match schedulerWindowStatus zones scheduler since now with
    | none => none
    | some status => if status.due then none else (skipReasons zones since now rest).map fun reasons => (service ++ ": " ++ status.reason) :: reasons

def runtimeTargetSchedulerSkipReason (zones : String → Option Zone) (candidates : List (String × TargetScheduler)) (since now : ℤ) : Option String :=
  if candidates = [] then none
  else (skipReasons zones since now candidates).map fun reasons =>
    "runtime target scheduler main_time is not due today (" ++ "; ".intercalate reasons ++ ")"

-- `_scheduler_job_due_between`
def schedulerJobDueBetween (zones : String → Option Zone) (schedule timeZone : String) (since now : ℤ) : Except PyExc Bool :=
  let schedule := strip schedule
  if schedule = "" then .ok false
  else
    let zone := (zones (if timeZone = "" then "UTC" else timeZone)).getD Zone.utc
    anyOk (fun minute => cronMatches schedule (zone.wall minute)) (minutesFrom (nextMinute since) now)

section lower

-- Signs, marks, digits and spaces are no letters and stay as they are.
def isPlainMark (char : Char) : Bool := ['_','+','-','*','/',',','?'].contains char || isSpace char || char.isDigit

theorem upperLetters_facts : (upperLetters.all fun char => !isPlainMark char && !isPlainMark char.toLower) = true := by decide

theorem plain_toLower (char : Char) : isPlainMark char.toLower = isPlainMark char ∧ (isPlainMark char = true → char.toLower = char) := by
  rcases toLower_cases char with same | letter
  · rw [same]
    exact ⟨rfl,fun _ => rfl⟩
  · have facts := List.all_eq_true.mp upperLetters_facts char letter
    simp only [Bool.and_eq_true,Bool.not_eq_true'] at facts
    rw [facts.1,facts.2]
    exact ⟨rfl,fun wrong => by cases wrong⟩

theorem toLower_eq {char mark : Char} (plain : isPlainMark mark = true) : char.toLower = mark ↔ char = mark := by
  constructor
  · intro same
    have mine := (plain_toLower char).1
    rw [same,plain] at mine
    exact ((plain_toLower char).2 mine.symm).symm.trans same
  · rintro rfl
    exact (plain_toLower _).2 plain

theorem isSpace_toLower (char : Char) : isSpace char.toLower = isSpace char := by
  rcases toLower_cases char with same | letter
  · rw [same]
  · have facts := List.all_eq_true.mp upperLetters_facts char letter
    simp only [isPlainMark,Bool.and_eq_true,Bool.not_eq_true',Bool.or_eq_false_iff] at facts
    rw [facts.1.1.2,facts.2.1.2]

theorem dropWhile_lower (chars : List Char) : (chars.map Char.toLower).dropWhile isSpace = (chars.dropWhile isSpace).map Char.toLower := by
  induction chars with
  | nil => rfl
  | cons char rest ih =>
    rw [List.map_cons,List.dropWhile_cons,List.dropWhile_cons,isSpace_toLower]
    split
    · exact ih
    · rfl

theorem trimmed_lower (chars : List Char) : trimmed (chars.map Char.toLower) = (trimmed chars).map Char.toLower := by
  unfold trimmed List.rdropWhile
  rw [dropWhile_lower,← List.map_reverse,dropWhile_lower,List.map_reverse]

theorem splitMarks_lower {mark : Char} (plain : isPlainMark mark = true) (chars : List Char) :
    splitMarks mark (chars.map Char.toLower) = (splitMarks mark chars).map (List.map Char.toLower) := by
  induction chars with
  | nil => rfl
  | cons char rest ih =>
    rw [List.map_cons,splitMarks,splitMarks,ih]
    by_cases same : char = mark
    · rw [if_pos same,if_pos ((toLower_eq plain).mpr same)]
      rfl
    · rw [if_neg same,if_neg fun wrong => same ((toLower_eq plain).mp wrong)]
      cases splitMarks mark rest with
      | nil => rfl
      | cons first others => rfl

theorem partitionAt_lower {mark : Char} (plain : isPlainMark mark = true) (chars : List Char) :
    partitionAt mark (chars.map Char.toLower) =
      ((partitionAt mark chars).1.map Char.toLower,(partitionAt mark chars).2.1,(partitionAt mark chars).2.2.map Char.toLower) := by
  have same : ∀ char : Char, (char.toLower != mark) = (char != mark) := by
    intro char
    rw [Bool.eq_iff_iff,bne_iff_ne,bne_iff_ne]
    exact not_congr (toLower_eq plain)
  have spans : (chars.map Char.toLower).span (· != mark) = ((chars.span (· != mark)).1.map Char.toLower,(chars.span (· != mark)).2.map Char.toLower) := by
    rw [List.span_eq_takeWhile_dropWhile,List.span_eq_takeWhile_dropWhile,List.takeWhile_map,List.dropWhile_map]
    have tests : ((fun char => char != mark) ∘ Char.toLower) = fun char => char != mark := funext same
    rw [tests]
  unfold partitionAt
  rw [spans]
  cases found : chars.span (· != mark) with
  | mk front back =>
    cases back with
    | nil => rfl
    | cons _ after => rfl

theorem digitsOf_lower (chars : List Char) : digitsOf (chars.map Char.toLower) = digitsOf chars := by
  have digits : ∀ char : Char, (char.toLower.isDigit || char.toLower == '_') = (char.isDigit || char == '_') := by
    intro char
    rcases toLower_cases char with same | letter
    · rw [same]
    · have facts : (upperLetters.all fun char => (char.toLower.isDigit || char.toLower == '_') == (char.isDigit || char == '_')) = true := by decide
      simpa using List.all_eq_true.mp facts char letter
  by_cases all : (chars.all fun char => char.isDigit || char == '_') = true
  · have same : chars.map Char.toLower = chars := by
      conv_rhs => rw [← List.map_id chars]
      apply List.map_congr_left
      intro char member
      apply (plain_toLower char).2
      have digit := List.all_eq_true.mp all char member
      rcases Bool.or_eq_true_iff.mp digit with number | underscore
      · simp [isPlainMark,number]
      · simp [isPlainMark,beq_iff_eq.mp underscore]
    rw [same]
  · have other : ((chars.map Char.toLower).all fun char => char.isDigit || char == '_') = false := by
      rw [List.all_map]
      have tests : ((fun char : Char => char.isDigit || char == '_') ∘ Char.toLower) = fun char => char.isDigit || char == '_' := funext digits
      rw [tests]
      simpa using all
    unfold digitsOf
    rw [other]
    rw [Bool.not_eq_true] at all
    rw [all]
    rfl

theorem wholeNumber_lower (chars : List Char) : wholeNumber (chars.map Char.toLower) = wholeNumber chars := by
  unfold wholeNumber
  rw [trimmed_lower]
  cases trimmed chars with
  | nil => rfl
  | cons sign rest =>
    rw [List.map_cons]
    by_cases minus : sign = '-'
    · subst minus
      have same : Char.toLower '-' = '-' := by decide
      rw [same]
      show (digitsOf (rest.map Char.toLower)).map _ = (digitsOf rest).map _
      rw [digitsOf_lower]
    by_cases plus : sign = '+'
    · subst plus
      have same : Char.toLower '+' = '+' := by decide
      rw [same]
      show (digitsOf (rest.map Char.toLower)).map _ = (digitsOf rest).map _
      rw [digitsOf_lower]
    have lowMinus : sign.toLower ≠ '-' := fun wrong => minus ((toLower_eq (by decide)).mp wrong)
    have lowPlus : sign.toLower ≠ '+' := fun wrong => plus ((toLower_eq (by decide)).mp wrong)
    have whole := digitsOf_lower (sign :: rest)
    rw [List.map_cons] at whole
    split
    · rename_i same
      exact absurd (List.cons.inj same).1 lowMinus
    · rename_i same
      exact absurd (List.cons.inj same).1 lowPlus
    · split
      · rename_i same
        exact absurd (List.cons.inj same).1 minus
      · rename_i same
        exact absurd (List.cons.inj same).1 plus
      · rw [whole]

theorem wholeNumber_trimmed (chars : List Char) : wholeNumber (trimmed chars) = wholeNumber chars := by
  unfold wholeNumber
  rw [trimmed_idem]

end lower

-- What the shortcut reads of a part is what the matcher reads of it.
theorem readWhole_lower {chars : List Char} {value : ℤ} (read : wholeNumber chars = some value) :
    readWhole (chars.map Char.toLower) = .ok value := by
  unfold readWhole
  rw [wholeNumber_lower,read]

theorem cronTokenValue_lower {chars : List Char} {value : ℤ} (read : wholeNumber chars = some value) :
    cronTokenValue [] (chars.map Char.toLower) = .ok value := by
  unfold cronTokenValue
  dsimp only
  rw [List.lookup_nil]
  unfold readWhole
  rw [wholeNumber_lower,wholeNumber_trimmed,wholeNumber_lower,read]

theorem admit_dayOfMonth (value : ℤ) : dayOfMonthRange.admit value = if 1 ≤ value ∧ value ≤ 31 then some value else none := by
  unfold FieldRange.admit dayOfMonthRange
  dsimp only
  split
  · rfl
  · rfl

theorem spaced_one (value step : ℤ) : spaced value value step = [value] := by
  unfold spaced
  rw [if_neg (lt_irrefl value),sub_self,Int.zero_ediv]
  simp

theorem filterMap_admitted (values : List ℤ) :
    values.filterMap dayOfMonthRange.admit = values.filter fun day => decide (1 ≤ day ∧ day ≤ 31) := by
  induction values with
  | nil => rfl
  | cons value rest ih =>
    rw [List.filterMap_cons,admit_dayOfMonth,List.filter_cons]
    by_cases inside : 1 ≤ value ∧ value ≤ 31
    · rw [if_pos inside,if_pos (decide_eq_true inside),ih]
    · rw [if_neg inside,if_neg (by simpa using inside),ih]

theorem lower_star {chars : List Char} (starred : chars.map Char.toLower = ['*']) : chars = ['*'] := by
  cases chars with
  | nil => cases starred
  | cons mark rest =>
    rw [List.map_cons] at starred
    obtain ⟨first,others⟩ := List.cons.inj starred
    rw [(toLower_eq (by decide)).mp first,List.map_eq_nil_iff.mp others]

theorem cronBase_shortcut {base : List Char} {step : ℤ} {days : List ℤ} (read : shortcutBase base step = some days) :
    ∃ start stop, cronBase dayOfMonthRange (base.map Char.toLower) = .ok (start,stop) ∧
      (spaced start stop (max 1 step)).filterMap dayOfMonthRange.admit = days := by
  have star : base.map Char.toLower ≠ ['*'] := by
    intro starred
    rw [lower_star starred] at read
    have none : shortcutBase ['*'] step = none := rfl
    rw [none] at read
    cases read
  unfold shortcutBase at read
  unfold cronBase
  rw [if_neg star,partitionAt_lower (by decide)]
  generalize partitionAt '-' base = cut at read ⊢
  obtain ⟨startText,ranged,endText⟩ := cut
  cases ranged with
  | true =>
    obtain ⟨start,startRead,read⟩ := Option.bind_eq_some_iff.mp read
    obtain ⟨stop,stopRead,read⟩ := Option.bind_eq_some_iff.mp read
    split at read
    · cases read
    · refine ⟨start,stop,?_,?_⟩
      · show (cronTokenValue [] (startText.map Char.toLower) >>= fun start => cronTokenValue [] (endText.map Char.toLower) >>= fun stop => pure (start,stop)) = _
        rw [cronTokenValue_lower startRead,cronTokenValue_lower stopRead]
        rfl
      · rw [filterMap_admitted]
        exact Option.some.inj read
  | false =>
    obtain ⟨day,dayRead,read⟩ := Option.bind_eq_some_iff.mp read
    refine ⟨day,day,?_,?_⟩
    · show (cronTokenValue [] (base.map Char.toLower) >>= fun value => pure (value,value)) = _
      rw [cronTokenValue_lower dayRead]
      rfl
    · rw [spaced_one day _,filterMap_admitted]
      have same := Option.some.inj read
      rw [← same]
      by_cases inside : 1 ≤ day ∧ day ≤ 31
      · simp [inside]
      · rw [if_neg inside]
        simpa using inside

theorem cronPart_shortcut {part : List Char} {days : List ℤ} (read : shortcutPart part = some days) :
    cronPart dayOfMonthRange (part.map Char.toLower) = .ok days := by
  unfold shortcutPart at read
  unfold cronPart
  rw [partitionAt_lower (by decide)]
  generalize partitionAt '/' part = cut at read ⊢
  obtain ⟨base,stepped,stepText⟩ := cut
  obtain ⟨step,stepRead,read⟩ := Option.bind_eq_some_iff.mp read
  have steps : readWhole (if stepped = true then stepText.map Char.toLower else ['1']) = .ok step := by
    cases stepped with
    | true => exact readWhole_lower stepRead
    | false =>
      obtain rfl : 1 = step := Option.some.inj stepRead
      show readWhole ['1'] = .ok 1
      decide
  obtain ⟨start,stop,ends,same⟩ := cronBase_shortcut read
  show (readWhole (if stepped = true then stepText.map Char.toLower else ['1']) >>= fun step => cronBase dayOfMonthRange (base.map Char.toLower) >>= fun ends =>
    pure ((spaced ends.1 ends.2 (max 1 step)).filterMap dayOfMonthRange.admit)) = _
  rw [steps]
  show (cronBase dayOfMonthRange (base.map Char.toLower) >>= fun ends => pure ((spaced ends.1 ends.2 (max 1 step)).filterMap dayOfMonthRange.admit)) = _
  rw [ends]
  exact congrArg Except.ok same

theorem mapM_lowered {parts : List (List Char)} {days : List (List ℤ)} (read : parts.mapM shortcutPart = some days) :
    (parts.map (List.map Char.toLower)).mapM (cronPart dayOfMonthRange) = .ok days := by
  induction parts generalizing days with
  | nil =>
    rw [List.mapM_nil] at read
    obtain rfl := Option.some.inj read
    rfl
  | cons part rest ih =>
    rw [List.mapM_cons] at read
    obtain ⟨first,firstRead,read⟩ := Option.bind_eq_some_iff.mp read
    obtain ⟨others,othersRead,read⟩ := Option.bind_eq_some_iff.mp read
    obtain rfl := Option.some.inj read
    rw [List.map_cons,List.mapM_cons,cronPart_shortcut firstRead,ih othersRead]
    rfl

-- What the shortcut reads of the whole field.
theorem cronFieldValues_shortcut {raw : List Char} {days : List ℤ} (read : parseScheduleDayOfMonthField raw = some days) :
    cronFieldValues dayOfMonthRange raw = .ok (some days) := by
  unfold parseScheduleDayOfMonthField at read
  dsimp only at read
  split at read
  · cases read
  · rename_i plain
    obtain ⟨parts,partsRead,read⟩ := Option.bind_eq_some_iff.mp read
    split at read
    · cases read
    · obtain rfl := Option.some.inj read
      have named : ¬((trimmed raw).map Char.toLower = [] ∨ (trimmed raw).map Char.toLower = ['*']) := by
        rintro (empty | starred)
        · exact plain (.inl (List.map_eq_nil_iff.mp empty))
        · exact plain (.inr (.inl (lower_star starred)))
      have lowered : ((splitMarks ',' ((trimmed raw).map Char.toLower)).map trimmed).filter (· ≠ []) =
          (((splitMarks ',' (trimmed raw)).map trimmed).filter (· ≠ [])).map (List.map Char.toLower) := by
        rw [splitMarks_lower (by decide),List.map_map,List.filter_map,List.filter_map,List.map_map]
        have trims : (trimmed ∘ List.map Char.toLower) = List.map Char.toLower ∘ trimmed := funext trimmed_lower
        rw [trims]
        congr 1
        apply List.filter_congr
        intro chars _
        simp
      unfold cronFieldValues
      dsimp only
      rw [if_neg named,lowered]
      have all : ((((splitMarks ',' (trimmed raw)).map trimmed).filter (· ≠ [])).map (List.map Char.toLower)).mapM (cronPart dayOfMonthRange) = .ok parts :=
        mapM_lowered partsRead
      rw [all]
      rfl

variable {zones : String → Option Zone} {scheduler : TargetScheduler} {zone : Zone} {dayOfMonth : List Char} {fields : CronFields} {since now minute : ℤ}

-- A cron of five fields that the matcher accepts, in a zone that is known.
structure AcceptedCron (zones : String → Option Zone) (scheduler : TargetScheduler) (zone : Zone) (dayOfMonth : List Char)
    (fields : CronFields) : Prop where
  known : zones scheduler.timezone = some zone
  plain : strip scheduler.timezone = scheduler.timezone
  named : scheduler.timezone ≠ ""
  read : ∃ minute hour month dayOfWeek, words (strip scheduler.mainTime) = [minute,hour,dayOfMonth,month,dayOfWeek] ∧
    readCron minute hour dayOfMonth month dayOfWeek = .ok fields

-- The dates of the window have none of these days of the month.
def Dayless (zone : Zone) (since now : ℤ) (days : List ℤ) : Prop :=
  ∀ date, zone.date since ≤ date → date ≤ zone.date now → ((civilOf date).day : ℤ) ∉ days

-- A whole minute of the window at which the cron fires by its day of the week, or, where the
-- clocks have gone back to a date outside the window's dates, by its day of the month.
def FiresUnlisted (fields : CronFields) (zone : Zone) (since now : ℤ) (days : List ℤ) (minute : ℤ) : Prop :=
  (since ≤ minute ∧ minute ≤ now ∧ minute % minuteSpan = 0) ∧ fields.admitsTime (zone.wall minute) = true ∧
  ((∃ weekdays, fields.dayOfWeek = some weekdays ∧ wallWeekday (zone.wall minute) ∈ weekdays) ∨
    ¬(zone.date since ≤ zone.date minute ∧ zone.date minute ≤ zone.date now) ∧ wallDay (zone.wall minute) ∈ days)

theorem zoneNamed_known (known : zones scheduler.timezone = some zone) (plain : strip scheduler.timezone = scheduler.timezone)
    (named : scheduler.timezone ≠ "") : zoneNamed zones scheduler.timezone = (zone,scheduler.timezone) := by
  unfold zoneNamed
  dsimp only
  rw [if_neg named,plain,if_neg named,known]

theorem mem_datesFrom {first last date : ℕ} : date ∈ datesFrom first last ↔ first ≤ date ∧ date ≤ last := by
  unfold datesFrom
  rw [List.mem_map]
  constructor
  · rintro ⟨index,member,rfl⟩
    rw [List.mem_range] at member
    omega
  · rintro ⟨least,most⟩
    refine ⟨date - first,?_,by omega⟩
    rw [List.mem_range]
    omega

theorem dueDates_false {days : List ℤ} : ((datesFrom (zone.date since) (zone.date now)).any fun date => days.contains ((civilOf date).day : ℤ)) = false ↔
    Dayless zone since now days := by
  unfold Dayless
  rw [List.any_eq_false]
  constructor
  · intro none date least most listed
    exact none date (mem_datesFrom.mpr ⟨least,most⟩) (by simpa using listed)
  · intro none date member
    obtain ⟨least,most⟩ := mem_datesFrom.mp member
    simpa using none date least most

-- The summary says that nothing is due.
theorem window_not_due (accepted : AcceptedCron zones scheduler zone dayOfMonth fields) :
    (∃ status, schedulerWindowStatus zones scheduler since now = some status ∧ status.due = false) ↔
      ∃ days, parseScheduleDayOfMonthField dayOfMonth = some days ∧ Dayless zone since now days := by
  obtain ⟨known,plain,named,_,_,_,_,five,_⟩ := accepted
  unfold schedulerWindowStatus
  rw [five,zoneNamed_known known plain named]
  dsimp only
  cases parseScheduleDayOfMonthField dayOfMonth with
  | none =>
    constructor
    · rintro ⟨_,wrong,_⟩
      cases wrong
    · rintro ⟨_,wrong,_⟩
      cases wrong
  | some days =>
    constructor
    · rintro ⟨status,same,quiet⟩
      obtain rfl := Option.some.inj same
      exact ⟨days,rfl,dueDates_false.mp quiet⟩
    · rintro ⟨_,same,quiet⟩
      obtain rfl := Option.some.inj same
      exact ⟨_,rfl,dueDates_false.mpr quiet⟩

theorem readCron_dayOfMonth {minute hour month dayOfWeek : List Char} (read : readCron minute hour dayOfMonth month dayOfWeek = .ok fields) :
    cronFieldValues dayOfMonthRange dayOfMonth = .ok fields.dayOfMonth := by
  obtain ⟨_,_,read⟩ := bind_ok.mp read
  obtain ⟨_,_,read⟩ := bind_ok.mp read
  obtain ⟨_,found,read⟩ := bind_ok.mp read
  obtain ⟨_,_,read⟩ := bind_ok.mp read
  obtain ⟨_,_,read⟩ := bind_ok.mp read
  obtain rfl := return_ok.mp read
  exact found

theorem anyOk_total {test : ℤ → Except PyExc Bool} {holds : ℤ → Bool} (total : ∀ item, test item = .ok (holds item)) (items : List ℤ) :
    anyOk test items = .ok (items.any holds) := by
  induction items with
  | nil => rfl
  | cons item rest ih =>
    rw [List.any_cons]
    unfold anyOk
    rw [total]
    show (if holds item = true then pure true else anyOk test rest) = _
    cases holds item with
    | true => rfl
    | false => exact ih

theorem jobDue_accepted (accepted : AcceptedCron zones scheduler zone dayOfMonth fields) :
    schedulerJobDueBetween zones scheduler.mainTime scheduler.timezone since now = .ok ((minutesFrom (nextMinute since) now).any fun minute =>
      fields.admitsTime (zone.wall minute) && fields.admitsDay (zone.wall minute)) := by
  obtain ⟨known,_,named,_,_,_,_,five,read⟩ := accepted
  have stated : strip scheduler.mainTime ≠ "" := by
    intro empty
    rw [empty] at five
    cases five
  unfold schedulerJobDueBetween
  dsimp only
  rw [if_neg stated,if_neg named,known]
  apply anyOk_total
  intro minute
  unfold cronMatches
  rw [five]
  dsimp only
  rw [read]
  rfl

theorem admitsDay_unlisted {days : List ℤ} {wall : ℤ} (listed : fields.dayOfMonth = some days) : fields.admitsDay wall = true ↔
    wallDay wall ∈ days ∨ ∃ weekdays, fields.dayOfWeek = some weekdays ∧ wallWeekday wall ∈ weekdays := by
  unfold CronFields.admitsDay
  rw [listed]
  cases fields.dayOfWeek with
  | none => simp [admits]
  | some weekdays => simp [admits]

-- Where the summary finds no day, the cron fires only unlisted.
theorem fires_unlisted {days : List ℤ} (listed : fields.dayOfMonth = some days) (dayless : Dayless zone since now days) :
    ((minutesFrom (nextMinute since) now).any fun minute => fields.admitsTime (zone.wall minute) && fields.admitsDay (zone.wall minute)) = true ↔
      ∃ minute, FiresUnlisted fields zone since now days minute := by
  rw [List.any_eq_true]
  apply exists_congr
  intro minute
  rw [mem_wholeMinutes,Bool.and_eq_true,admitsDay_unlisted listed]
  unfold FiresUnlisted
  refine and_congr_right fun inside => and_congr_right fun _ => ?_
  constructor
  · rintro (day | weekday)
    · right
      refine ⟨?_,day⟩
      rintro ⟨least,most⟩
      exact dayless _ least most day
    · exact .inl weekday
  · rintro (weekday | ⟨_,day⟩)
    · exact .inr weekday
    · exact .inl day

theorem skipReasons_not_due {candidates : List (String × TargetScheduler)} {reasons : List String}
    (skips : skipReasons zones since now candidates = some reasons) {candidate : String × TargetScheduler} (member : candidate ∈ candidates) :
    ∃ status, schedulerWindowStatus zones candidate.2 since now = some status ∧ status.due = false := by
  induction candidates generalizing reasons with
  | nil => cases member
  | cons first rest ih =>
    obtain ⟨service,other⟩ := first
    unfold skipReasons at skips
    cases found : schedulerWindowStatus zones other since now with
    | none =>
      rw [found] at skips
      cases skips
    | some status =>
      rw [found] at skips
      dsimp only at skips
      split at skips
      · cases skips
      · rename_i quiet
        rcases List.mem_cons.mp member with rfl | later
        · exact ⟨status,found,by simpa using quiet⟩
        · obtain ⟨others,skipped,_⟩ := Option.map_eq_some_iff.mp skips
          exact ih skipped later

-- The summary never hides a run of its cron, and no skip does, exactly if the
-- cron does not fire unlisted in a window without its days of the month.
theorem summary_hides_no_run_iff (accepted : AcceptedCron zones scheduler zone dayOfMonth fields) :
    ((∀ status, schedulerWindowStatus zones scheduler since now = some status → status.due = false →
        schedulerJobDueBetween zones scheduler.mainTime scheduler.timezone since now = .ok false) ∧
      ∀ candidates reason, scheduler ∈ candidates.map Prod.snd → runtimeTargetSchedulerSkipReason zones candidates since now = some reason →
        schedulerJobDueBetween zones scheduler.mainTime scheduler.timezone since now = .ok false) ↔
    ∀ days, parseScheduleDayOfMonthField dayOfMonth = some days → Dayless zone since now days →
      ∀ minute, ¬FiresUnlisted fields zone since now days minute := by
  have listed : ∀ {days}, parseScheduleDayOfMonthField dayOfMonth = some days → fields.dayOfMonth = some days := by
    intro days read
    obtain ⟨_,_,_,_,_,_,_,_,cron⟩ := accepted
    have found := readCron_dayOfMonth cron
    rw [cronFieldValues_shortcut read] at found
    exact (Except.ok.inj found).symm
  have silent : ∀ {days}, parseScheduleDayOfMonthField dayOfMonth = some days → Dayless zone since now days →
      (schedulerJobDueBetween zones scheduler.mainTime scheduler.timezone since now = .ok false ↔
        ∀ minute, ¬FiresUnlisted fields zone since now days minute) := by
    intro days read dayless
    rw [jobDue_accepted accepted,Except.ok.injEq,← not_exists,← fires_unlisted (listed read) dayless,Bool.not_eq_true]
  constructor
  · rintro ⟨hides,_⟩ days read dayless
    obtain ⟨status,found,quiet⟩ := (window_not_due accepted).mpr ⟨days,read,dayless⟩
    exact (silent read dayless).mp (hides status found quiet)
  · intro quiet
    have hides : ∀ status, schedulerWindowStatus zones scheduler since now = some status → status.due = false →
        schedulerJobDueBetween zones scheduler.mainTime scheduler.timezone since now = .ok false := by
      intro status found due
      obtain ⟨days,read,dayless⟩ := (window_not_due accepted).mp ⟨status,found,due⟩
      exact (silent read dayless).mpr (quiet days read dayless)
    refine ⟨hides,?_⟩
    intro candidates reason member skips
    unfold runtimeTargetSchedulerSkipReason at skips
    split at skips
    · cases skips
    · obtain ⟨reasons,skipped,_⟩ := Option.map_eq_some_iff.mp skips
      obtain ⟨candidate,inside,rfl⟩ := List.mem_map.mp member
      obtain ⟨status,found,due⟩ := skipReasons_not_due skipped inside
      exact hides status found due

-- Every Monday and every first of the month at 09:00.
def mondays : TargetScheduler := ⟨"0 9 1 * 1","UTC"⟩

def utcOnly (name : String) : Option Zone := if name = "UTC" then some Zone.utc else none

def momentAt (civil : Civil) (hour minute : ℕ) : ℤ := ((ordinalOf civil : ℤ) - 1) * daySpan + hour * hourSpan + minute * minuteSpan

-- On Monday the 5th the summary says that no run is due, and the heartbeat skips the window of the run at 09:00.
theorem monday_run_is_hidden :
    (schedulerWindowStatus utcOnly mondays (momentAt ⟨2026,1,5⟩ 8 59) (momentAt ⟨2026,1,5⟩ 9 1)).map WindowStatus.due = some false ∧
    (runtimeTargetSchedulerSkipReason utcOnly [("runtime_target",mondays)] (momentAt ⟨2026,1,5⟩ 8 59) (momentAt ⟨2026,1,5⟩ 9 1)).isSome = true ∧
    (schedulerJobDueBetween utcOnly mondays.mainTime mondays.timezone (momentAt ⟨2026,1,5⟩ 8 59) (momentAt ⟨2026,1,5⟩ 9 1)).toOption = some true := by
  decide +kernel

def firsts : TargetScheduler := ⟨"0 9 1 * *","UTC"⟩

theorem utcOrdinal_mono {one two : ℤ} (order : one ≤ two) : utcOrdinal one ≤ utcOrdinal two := by
  unfold utcOrdinal daySpan
  omega

theorem first_of_the_month_is_summarised :
    schedulerJobDueBetween utcOnly firsts.mainTime firsts.timezone (momentAt ⟨2026,1,5⟩ 8 59) (momentAt ⟨2026,1,5⟩ 9 1) = .ok false := by
  have accepted : AcceptedCron utcOnly firsts Zone.utc ['1'] ⟨some [0],some [9],some [1],none,none⟩ :=
    ⟨rfl,by decide,by decide,['0'],['9'],['*'],['*'],by decide +kernel,by rfl⟩
  have found : ((schedulerWindowStatus utcOnly firsts (momentAt ⟨2026,1,5⟩ 8 59) (momentAt ⟨2026,1,5⟩ 9 1)).map WindowStatus.due) = some false := by
    decide +kernel
  obtain ⟨status,known,quiet⟩ := Option.map_eq_some_iff.mp found
  refine ((summary_hides_no_run_iff accepted).mpr ?_).1 status known quiet
  rintro days _ _ minute ⟨⟨least,most,_⟩,_,⟨weekdays,none,_⟩ | ⟨outside,_⟩⟩
  · cases none
  · apply outside
    have plain : ∀ instant, Zone.utc.date instant = utcOrdinal instant := by
      intro instant
      show utcOrdinal (instant + 0) = utcOrdinal instant
      rw [add_zero]
    rw [plain,plain,plain]
    exact ⟨utcOrdinal_mono least,utcOrdinal_mono most⟩

end LongBridge.Schedule
