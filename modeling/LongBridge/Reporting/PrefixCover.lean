import LongBridge.Reporting.PrefixRanges

namespace LongBridge.Reporting

section months

theorem Month.Valid.first {month : Month} (valid : month.Valid) : Civil.Valid ⟨month.year,month.month,1⟩ := by
  refine ⟨valid.1,valid.2,Nat.le_refl 1,?_⟩
  have all : ∀ leap, ∀ month < 13, 1 ≤ month → 1 ≤ daysInMonth leap month := by decide
  exact all _ _ (Nat.lt_succ_of_le valid.2.2) valid.2.1

theorem monthOf_valid {instant : ℤ} (positive : 0 ≤ instant) (bound : instant < lastInstant) : (monthOf instant).Valid := by
  obtain ⟨⟨first,last⟩,_⟩ := utc_split positive bound
  have valid := (civilOf_facts first last).1
  exact ⟨valid.year,valid.month⟩

-- A month has begun exactly when the month of the instant is not before it.
theorem start_le_iff {month : Month} {instant : ℤ} (valid : month.Valid) (positive : 0 ≤ instant) (bound : instant < lastInstant) :
    month.start ≤ instant ↔ month.index ≤ (monthOf instant).index := by
  obtain ⟨⟨first,last⟩,_⟩ := utc_split positive bound
  obtain ⟨civil,back⟩ := civilOf_facts first last
  have order := ordinalOf_lt_iff civil valid.first
  rw [back] at order
  have begun : month.start ≤ instant ↔ ¬ utcOrdinal instant < ordinalOf ⟨month.year,month.month,1⟩ := by
    unfold Month.start utcOrdinal daySpan
    omega
  have months := civil.month
  have days := civil.day
  have bounds := valid.2
  rw [begun,order]
  unfold Civil.Before Month.index monthOf
  dsimp only
  omega

theorem Month.start_whole (month : Month) : month.start % secondSpan = 0 := by
  unfold Month.start daySpan secondSpan
  omega

theorem start_bounds {month : Month} (valid : month.Valid) : 0 ≤ month.start ∧ month.start < lastInstant := by
  have positive : 1 ≤ ordinalOf ⟨month.year,month.month,1⟩ := Nat.le_add_left ..
  have year := valid.1.2
  have whole := daysBeforeMonth_end (isLeap month.year) month.month (Nat.lt_succ_of_le valid.2.2) valid.2.1
  have days := valid.first.day.2
  have years := daysBeforeYear_le (Nat.succ_le_succ year)
  rw [daysBeforeYear_next valid.1.1] at years
  have total : daysBeforeYear (Nat.succ lastYear) = 3652059 := by decide
  rw [total] at years
  unfold Month.start lastInstant lastOrdinal daySpan ordinalOf at *
  dsimp only at *
  omega

theorem index_injective {one two : Month} (first : one.Valid) (second : two.Valid) (same : one.index = two.index) : one = two := by
  obtain ⟨year,month⟩ := one
  obtain ⟨other,another⟩ := two
  have months := first.2
  have others := second.2
  unfold Month.index at same
  dsimp only at *
  rw [Month.mk.injEq]
  omega

theorem next_ok {month next : Month} (valid : month.Valid) (found : month.next = .ok next) : next.Valid ∧ next.index = month.index + 1 := by
  obtain ⟨⟨positive,bound⟩,start,stop⟩ := valid
  unfold Month.next at found
  split at found
  · rename_i last
    split at found
    · rename_i year
      obtain rfl := Except.ok.inj found
      refine ⟨⟨⟨Nat.le_add_left ..,year⟩,Nat.le_refl 1,Nat.le_add_left ..⟩,?_⟩
      unfold Month.index
      dsimp only
      omega
    · cases found
  · obtain rfl := Except.ok.inj found
    refine ⟨⟨⟨positive,bound⟩,Nat.le_add_left ..,by dsimp only; omega⟩,?_⟩
    unfold Month.index
    dsimp only
    omega

-- The calendar has no month after December 9999.
theorem next_exists {month : Month} (valid : month.Valid) : (∃ next, month.next = .ok next) ↔ month.index < Month.index ⟨9999,12⟩ := by
  obtain ⟨⟨positive,bound⟩,start,stop⟩ := valid
  unfold Month.next Month.index
  unfold lastYear at *
  dsimp only
  constructor
  · rintro ⟨next,found⟩
    split at found
    · split at found
      · omega
      · cases found
    · omega
  · intro early
    split
    · rw [if_pos (by omega)]
      exact ⟨_,rfl⟩
    · exact ⟨_,rfl⟩

theorem monthOf_le {one two : ℤ} (positive : 0 ≤ one) (order : one ≤ two) (bound : two < lastInstant) :
    (monthOf one).index ≤ (monthOf two).index := by
  have valid := monthOf_valid positive (by omega)
  have begun := (start_le_iff valid positive (by omega)).mpr (Nat.le_refl _)
  exact (start_le_iff valid (by omega) bound).mp (by omega)

end months

section names

theorem length_runId (instant : ℤ) : (runId instant).length = 16 := by simp [runId]

theorem Month.Valid.small {month : Month} (valid : month.Valid) : month.year < 10 ^ 4 ∧ month.month < 10 ^ 2 := by
  have year : month.year ≤ 9999 := valid.1.2
  have last := valid.2.2
  omega

theorem length_monthText (month : Month) : month.text.length = 7 := by simp [Month.text]

theorem monthText_injective {one two : Month} (first : one.Valid) (second : two.Valid) (same : one.text = two.text) : one = two := by
  obtain ⟨years,months⟩ := List.append_inj same (by simp)
  have year := padded_injective first.small.1 second.small.1 years
  have month := padded_injective first.small.2 second.small.2 (List.cons.inj months).2
  obtain ⟨_,_⟩ := one
  exact Month.mk.injEq .. ▸ ⟨year,month⟩

theorem length_monthPrefix (path : String) (month : Month) : (monthPrefix path month).length = path.toList.length + 9 := by
  simp [monthPrefix,length_monthText]

-- A name begins with the prefix of one month only.
theorem monthPrefix_unique {path : String} {one two : Month} {name : List Char} (first : one.Valid) (second : two.Valid)
    (begins : monthPrefix path one <+: name) (starts : monthPrefix path two <+: name) : one = two := by
  have same : monthPrefix path one = monthPrefix path two := by
    have length : (monthPrefix path one).length = (monthPrefix path two).length := by rw [length_monthPrefix,length_monthPrefix]
    exact (List.prefix_of_prefix_length_le begins starts length.le).eq_of_length length
  have texts := List.append_cancel_left same
  exact monthText_injective first second (List.append_cancel_right (List.cons.inj texts).2)

theorem padded_append_lt {width one two : ℕ} {rest others : List Char} (small : one < 10 ^ width) (bound : two < 10 ^ width) :
    padded width one ++ rest < padded width two ++ others ↔ one < two ∨ one = two ∧ rest < others := by
  have same : padded width one = padded width two ↔ one = two := ⟨padded_injective small bound,congrArg _⟩
  rw [append_lt_append (by simp),padded_lt_padded small bound,same]

-- Clock readings of whole seconds are ordered by hour, minute and second.
theorem clock_lt_iff {one two : ℕ} (wholeOne : one % 1000000 = 0) (wholeTwo : two % 1000000 = 0) : one < two ↔
    (Clock.ofSpan one).hour < (Clock.ofSpan two).hour ∨ (Clock.ofSpan one).hour = (Clock.ofSpan two).hour ∧
      ((Clock.ofSpan one).minute < (Clock.ofSpan two).minute ∨ (Clock.ofSpan one).minute = (Clock.ofSpan two).minute ∧
        (Clock.ofSpan one).second < (Clock.ofSpan two).second) := by
  unfold Clock.ofSpan
  dsimp only
  have first : one = one / 3600000000 * 3600000000 + one / 60000000 % 60 * 60000000 + one / 1000000 % 60 * 1000000 := by omega
  have second : two = two / 3600000000 * 3600000000 + two / 60000000 % 60 * 60000000 + two / 1000000 % 60 * 1000000 := by omega
  have minutes : one / 60000000 % 60 < 60 ∧ two / 60000000 % 60 < 60 := by omega
  have seconds : one / 1000000 % 60 < 60 ∧ two / 1000000 % 60 < 60 := by omega
  generalize one / 3600000000 = hourOne at *
  generalize two / 3600000000 = hourTwo at *
  generalize one / 60000000 % 60 = minuteOne at *
  generalize two / 60000000 % 60 = minuteTwo at *
  generalize one / 1000000 % 60 = secondOne at *
  generalize two / 1000000 % 60 = secondTwo at *
  omega

theorem utcClock_small (instant : ℤ) : (utcClock instant).hour < 10 ^ 2 ∧ (utcClock instant).minute < 10 ^ 2 ∧ (utcClock instant).second < 10 ^ 2 := by
  unfold utcClock Clock.ofSpan daySpan
  dsimp only
  omega

theorem ordered_parts {year sameYear month sameMonth day sameDay time : Prop} :
    (year ∨ sameYear ∧ (month ∨ sameMonth ∧ (day ∨ sameDay ∧ time))) ↔
      (year ∨ sameYear ∧ (month ∨ sameMonth ∧ day)) ∨ (sameYear ∧ sameMonth ∧ sameDay) ∧ time := by tauto

-- The run ids of whole seconds are ordered as the seconds are.
theorem runId_lt_iff {one two : ℤ} (wholeOne : one % secondSpan = 0) (wholeTwo : two % secondSpan = 0)
    (first : 0 ≤ one ∧ one < lastInstant) (second : 0 ≤ two ∧ two < lastInstant) : runId one < runId two ↔ one < two := by
  obtain ⟨⟨low,high⟩,_⟩ := utc_split first.1 first.2
  obtain ⟨⟨least,most⟩,_⟩ := utc_split second.1 second.2
  obtain ⟨civil,back⟩ := civilOf_facts low high
  obtain ⟨other,again⟩ := civilOf_facts least most
  obtain ⟨year,month,day⟩ := civil.small
  obtain ⟨otherYear,otherMonth,otherDay⟩ := other.small
  obtain ⟨hour,minute,sec⟩ := utcClock_small one
  obtain ⟨otherHour,otherMinute,otherSecond⟩ := utcClock_small two
  have secondsOne : (one % daySpan).toNat % 1000000 = 0 := by unfold daySpan secondSpan at *; omega
  have secondsTwo : (two % daySpan).toNat % 1000000 = 0 := by unfold daySpan secondSpan at *; omega
  have ordinals := ordinalOf_lt_iff civil other
  rw [back,again] at ordinals
  have sameDay : utcOrdinal one = utcOrdinal two ↔ (civilOf (utcOrdinal one)).year = (civilOf (utcOrdinal two)).year ∧
      (civilOf (utcOrdinal one)).month = (civilOf (utcOrdinal two)).month ∧ (civilOf (utcOrdinal one)).day = (civilOf (utcOrdinal two)).day := by
    constructor
    · intro same
      rw [same]
      exact ⟨rfl,rfl,rfl⟩
    · rintro ⟨years,months,days⟩
      rw [← back,← again,Civil.ext years months days]
  have whole : one < two ↔ utcOrdinal one < utcOrdinal two ∨ utcOrdinal one = utcOrdinal two ∧ (one % daySpan).toNat < (two % daySpan).toNat := by
    unfold utcOrdinal daySpan
    omega
  rw [whole,ordinals,sameDay,clock_lt_iff secondsOne secondsTwo]
  unfold runId Civil.Before
  dsimp only
  rw [padded_append_lt year otherYear,padded_append_lt month otherMonth,padded_append_lt day otherDay,append_left_lt_iff,
    padded_append_lt hour otherHour,padded_append_lt minute otherMinute,padded_append_lt sec otherSecond]
  have same : ¬ ['Z'] < ['Z'] := lt_irrefl _
  simp only [same,and_false,or_false]
  exact ordered_parts

end names

section ranges

variable {path : String} {start finish second : ℤ}

theorem floorTo_facts (instant : ℤ) : floorTo secondSpan instant % secondSpan = 0 ∧ floorTo secondSpan instant ≤ instant ∧
    instant < floorTo secondSpan instant + secondSpan := by
  unfold floorTo secondSpan
  omega

theorem runSecond_bounds (run : RunSecond second) : 0 ≤ second ∧ second < lastInstant := by
  have early := run.early
  have positive : 0 ≤ Month.start ⟨1000,1⟩ := by decide +kernel
  exact ⟨by omega,run.late⟩

-- Which objects the range of one month lists.
theorem monthRange_lists {month next : Month} (valid : month.Valid) (followed : month.next = .ok next) (run : RunSecond second)
    (ends : start < lastInstant) (stops : month.start ≤ finish) :
    (monthRange path start finish month next).Lists (objectName path second) ↔
      monthOf second = month ∧ floorTo secondSpan start ≤ second ∧ second ≤ floorTo secondSpan finish := by
  obtain ⟨nextValid,nextIndex⟩ := next_ok valid followed
  obtain ⟨positive,late⟩ := runSecond_bounds run
  have bounds := start_bounds valid
  have nextBounds := start_bounds nextValid
  have wholeStart := month.start_whole
  have wholeNext := next.start_whole
  have here := monthOf_valid positive late
  have left := floorTo_facts (max start month.start)
  have right := floorTo_facts (min finish (next.start - secondSpan))
  have begun := start_le_iff valid positive late
  have passed := start_le_iff nextValid positive late
  have wholeLeft := left.1
  have wholeRight : (floorTo secondSpan (min finish (next.start - secondSpan)) + secondSpan) % secondSpan = 0 := by
    rw [Int.add_emod_right]
    exact right.1
  have leftBounds : 0 ≤ floorTo secondSpan (max start month.start) ∧ floorTo secondSpan (max start month.start) < lastInstant := by
    unfold floorTo secondSpan at *
    omega
  have rightBounds : 0 ≤ floorTo secondSpan (min finish (next.start - secondSpan)) + secondSpan ∧
      floorTo secondSpan (min finish (next.start - secondSpan)) + secondSpan < lastInstant := by
    unfold floorTo secondSpan at *
    omega
  unfold PrefixRange.Lists monthRange objectName
  dsimp only
  rw [String.le_iff_toList_le,String.lt_iff_toList_lt]
  simp only [String.toList_ofList]
  by_cases same : monthOf second = month
  · rw [same,append_left_le_iff,append_left_lt_iff,le_append_iff (by rw [length_runId,length_runId]),
      append_lt_iff (by rw [length_runId,length_runId]),← not_lt,
      runId_lt_iff run.whole wholeLeft ⟨positive,late⟩ leftBounds,runId_lt_iff run.whole wholeRight ⟨positive,late⟩ rightBounds]
    rw [same] at begun passed
    have started := begun.mpr (Nat.le_refl _)
    have unended : ¬ next.start ≤ second := fun ended => by have := passed.mp ended; omega
    have whole := run.whole
    unfold floorTo secondSpan at *
    simp only [true_and]
    omega
  · refine ⟨fun ⟨above,below⟩ => ?_,fun ⟨equal,_⟩ => absurd equal same⟩
    exact absurd (monthPrefix_unique here valid (List.prefix_append ..) (begins_between above below)) same

-- The loop ends unless it would have to step past December 9999.
theorem monthRanges_exist {months : ℕ} {month : Month} (valid : month.Valid) :
    (∃ ranges, monthRanges path start finish months month = .ok ranges) ↔ months = 0 ∨ month.index + months ≤ Month.index ⟨9999,12⟩ := by
  induction months generalizing month with
  | zero => exact ⟨fun _ => .inl rfl,fun _ => ⟨[],rfl⟩⟩
  | succ months ih =>
    have followable := next_exists valid
    unfold monthRanges
    cases followed : month.next with
    | error error =>
      have late : ¬ month.index < Month.index ⟨9999,12⟩ := fun early => by
        obtain ⟨next,found⟩ := followable.mpr early
        cases followed.symm.trans found
      refine ⟨fun ⟨ranges,found⟩ => ?_,fun bound => ?_⟩
      · cases found
      · omega
    | ok next =>
      obtain ⟨nextValid,nextIndex⟩ := next_ok valid followed
      have early := followable.mp ⟨next,followed⟩
      have rest := ih nextValid
      dsimp only [bind,Except.bind]
      constructor
      · rintro ⟨ranges,found⟩
        cases later : monthRanges path start finish months next with
        | error error => rw [later] at found; cases found
        | ok others =>
          have bound := rest.mp ⟨others,later⟩
          omega
      · intro bound
        obtain ⟨others,later⟩ := rest.mpr (by omega)
        exact ⟨monthRange path start finish month next :: others,by rw [later]; rfl⟩

-- Its entries are the ranges of the months it visits.
theorem mem_monthRanges {months : ℕ} {month : Month} {ranges : List PrefixRange} (valid : month.Valid)
    (ran : monthRanges path start finish months month = .ok ranges) {range : PrefixRange} :
    range ∈ ranges ↔ ∃ visited next, visited.Valid ∧ visited.next = .ok next ∧
      (month.index ≤ visited.index ∧ visited.index < month.index + months) ∧ range = monthRange path start finish visited next := by
  induction months generalizing month ranges with
  | zero =>
    cases ran
    refine ⟨fun member => absurd member List.not_mem_nil,?_⟩
    rintro ⟨visited,next,_,_,bounds,_⟩
    omega
  | succ months ih =>
    unfold monthRanges at ran
    cases followed : month.next with
    | error error => rw [followed] at ran; cases ran
    | ok next =>
      rw [followed] at ran
      dsimp only [bind,Except.bind] at ran
      cases later : monthRanges path start finish months next with
      | error error => rw [later] at ran; cases ran
      | ok others =>
        rw [later] at ran
        cases ran
        obtain ⟨nextValid,nextIndex⟩ := next_ok valid followed
        rw [List.mem_cons,ih nextValid later]
        constructor
        · rintro (rfl | ⟨visited,after,valid,found,bounds,rfl⟩)
          · exact ⟨month,next,valid,followed,⟨Nat.le_refl _,by omega⟩,rfl⟩
          · exact ⟨visited,after,valid,found,by omega,rfl⟩
        · rintro ⟨visited,after,visitedValid,found,bounds,rfl⟩
          by_cases here : visited.index = month.index
          · obtain rfl := index_injective visitedValid valid here
            obtain rfl := Except.ok.inj (found.symm.trans followed)
            exact .inl rfl
          · exact .inr ⟨visited,after,visitedValid,found,by omega,rfl⟩

theorem monthRange_apart {month next other : Month} {name : String} (valid : month.Valid) (unlike : other ≠ month) (stated : other.Valid)
    (begins : monthPrefix path other <+: name.toList) : ¬ (monthRange path start finish month next).Lists name := by
  rintro ⟨above,below⟩
  rw [String.le_iff_toList_le] at above
  rw [String.lt_iff_toList_lt] at below
  unfold monthRange at above below
  simp only [String.toList_ofList] at above below
  exact unlike (monthPrefix_unique stated valid begins (begins_between above below))

-- The window of the loop, from the month of its start to the month of its end.
structure Window (start finish : ℤ) : Prop where
  early : Month.start ⟨1000,1⟩ ≤ start
  ordered : start ≤ finish
  late : finish < lastInstant

theorem monthRanges_cover {ranges : List PrefixRange} (window : Window start finish)
    (ran : monthRanges path start finish ((monthOf finish).index + 1 - (monthOf start).index) (monthOf start) = .ok ranges) :
    CoversWindow path start finish ranges := by
  obtain ⟨early,ordered,late⟩ := window
  have origin : 0 ≤ Month.start ⟨1000,1⟩ := by decide +kernel
  have begins : 0 ≤ start := by omega
  have valid := monthOf_valid begins (by omega)
  have order := monthOf_le begins ordered late
  have listed : ∀ range ∈ ranges, ∃ visited next, visited.Valid ∧ visited.next = .ok next ∧ visited.start ≤ finish ∧
      range = monthRange path start finish visited next := by
    intro range member
    obtain ⟨visited,next,visitedValid,found,bounds,rfl⟩ := (mem_monthRanges valid ran).mp member
    exact ⟨visited,next,visitedValid,found,(start_le_iff visitedValid (by omega) late).mpr (by omega),rfl⟩
  refine ⟨?_,?_,?_⟩
  · intro second run above below
    obtain ⟨positive,bound⟩ := runSecond_bounds run
    have here := monthOf_valid positive bound
    have startWhole := (monthOf start).start_whole
    have startBegun := (start_le_iff valid begins (by omega)).mpr (Nat.le_refl _)
    have low : (monthOf start).index ≤ (monthOf second).index :=
      (start_le_iff valid positive bound).mp (by unfold floorTo secondSpan at *; omega)
    have high : (monthOf second).index ≤ (monthOf finish).index := by
      have floors := floorTo_facts finish
      exact monthOf_le positive (by omega) late
    have room := (monthRanges_exist valid).mp ⟨ranges,ran⟩
    obtain ⟨next,followed⟩ := (next_exists here).mpr (by omega)
    have begun := (start_le_iff here (by omega) late).mpr high
    refine ⟨monthRange path start finish (monthOf second) next,⟨(mem_monthRanges valid ran).mpr ⟨_,next,here,followed,by omega,rfl⟩,
      (monthRange_lists here followed run (by omega) begun).mpr ⟨rfl,above,below⟩⟩,?_⟩
    rintro range ⟨member,lists⟩
    obtain ⟨visited,after,visitedValid,found,stops,rfl⟩ := listed range member
    obtain ⟨rfl,_⟩ := (monthRange_lists visitedValid found run (by omega) stops).mp lists
    obtain rfl := Except.ok.inj (found.symm.trans followed)
    rfl
  · intro second run off range member lists
    obtain ⟨visited,after,visitedValid,found,stops,rfl⟩ := listed range member
    obtain ⟨_,above,below⟩ := (monthRange_lists visitedValid found run (by omega) stops).mp lists
    omega
  · intro range member
    obtain ⟨visited,after,visitedValid,found,_,rfl⟩ := listed range member
    exact ⟨visited,visitedValid,rfl,fun other stated unlike name begins => monthRange_apart visitedValid unlike stated begins⟩

-- The ranges cover the window exactly when it ends before December 9999.
theorem runtimeReportPrefixRanges_cover_iff (kit : PathKit) (reportRootUri strategyProfile accountScope path : String) (since through : Stamp)
    (start finish : ℤ) (starts : instant since = .ok start) (ends : instant through = .ok finish) (early : Month.start ⟨1000,1⟩ ≤ start)
    (ordered : start ≤ finish) (accepted : targetPath kit reportRootUri strategyProfile accountScope start finish = .ok path) :
    (∃ ranges, runtimeReportPrefixRanges kit reportRootUri strategyProfile accountScope since through = .ok ranges ∧
      CoversWindow path start finish ranges) ↔ finish < Month.start ⟨9999,12⟩ := by
  have late : finish < lastInstant := by
    unfold instant at ends
    split at ends
    · cases ends
    · split at ends
      · rename_i bounds
        obtain rfl := Except.ok.inj ends
        exact bounds.2
      · cases ends
  have origin : 0 ≤ Month.start ⟨1000,1⟩ := by decide +kernel
  have valid := monthOf_valid (by omega : 0 ≤ start) (by omega)
  have order := monthOf_le (by omega : 0 ≤ start) ordered late
  have december : Month.Valid ⟨9999,12⟩ := ⟨⟨by decide,by decide⟩,by decide,by decide⟩
  have reached := start_le_iff december (by omega : 0 ≤ finish) late
  have loop : runtimeReportPrefixRanges kit reportRootUri strategyProfile accountScope since through =
      monthRanges path start finish ((monthOf finish).index + 1 - (monthOf start).index) (monthOf start) := by
    unfold runtimeReportPrefixRanges
    rw [starts,ends]
    dsimp only [bind,Except.bind]
    rw [accepted]
  have ended : (∃ ranges, monthRanges path start finish ((monthOf finish).index + 1 - (monthOf start).index) (monthOf start) = .ok ranges) ↔ _ :=
    monthRanges_exist valid
  rw [loop]
  constructor
  · rintro ⟨ranges,ran,_⟩
    have room := ended.mp ⟨ranges,ran⟩
    by_contra passed
    have := reached.mp (not_lt.mp passed)
    omega
  · intro before
    have inside : ¬ Month.index ⟨9999,12⟩ ≤ (monthOf finish).index := fun beyond => by
      have := reached.mpr beyond
      omega
    obtain ⟨ranges,ran⟩ := ended.mpr (by omega)
    exact ⟨ranges,ran,monthRanges_cover ⟨early,ordered,late⟩ ran⟩

end ranges

def pathSample : PathKit := ⟨fun _ => true,Char.isAlphanum⟩

-- From half a second before a month to its first second
theorem sample_window_covered : ∃ ranges, runtimeReportPrefixRanges pathSample "gs://synthetic-bucket/reports" "paper_profile" "PAPER"
    ⟨Month.start ⟨2026,10⟩ - 500000,some 0⟩ ⟨Month.start ⟨2026,10⟩,some 0⟩ = .ok ranges ∧
      CoversWindow "reports/longbridge/paper_profile/PAPER" (Month.start ⟨2026,10⟩ - 500000) (Month.start ⟨2026,10⟩) ranges :=
  (runtimeReportPrefixRanges_cover_iff _ _ _ _ _ _ _ _ _ (by decide +kernel) (by decide +kernel) (by decide +kernel) (by decide +kernel)
    (by decide +kernel)).mpr (by decide +kernel)

-- A run of the first second of December 9999 is in no range, since there are none.
theorem last_month_not_covered : ∃ second, RunSecond second ∧
    targetPath pathSample "gs://synthetic-bucket/reports" "paper_profile" "PAPER" second second = .ok "reports/longbridge/paper_profile/PAPER" ∧
    ¬ ∃ ranges, runtimeReportPrefixRanges pathSample "gs://synthetic-bucket/reports" "paper_profile" "PAPER" ⟨second,some 0⟩ ⟨second,some 0⟩ =
      .ok ranges ∧ CoversWindow "reports/longbridge/paper_profile/PAPER" second second ranges := by
  refine ⟨Month.start ⟨9999,12⟩,⟨by decide +kernel,by decide +kernel,by decide +kernel⟩,by decide +kernel,?_⟩
  rintro ⟨ranges,ran,_⟩
  have raised : runtimeReportPrefixRanges pathSample "gs://synthetic-bucket/reports" "paper_profile" "PAPER" ⟨Month.start ⟨9999,12⟩,some 0⟩
      ⟨Month.start ⟨9999,12⟩,some 0⟩ = .error ⟨"ValueError","year 10000 is out of range"⟩ := by decide +kernel
  cases raised.symm.trans ran

end LongBridge.Reporting
