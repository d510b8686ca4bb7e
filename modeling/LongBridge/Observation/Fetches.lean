import LongBridge.Observation.Consistent

namespace LongBridge.Observation
open Effects

-- A body that is equal to a time under one name is that very entry.
theorem same_single {body : PyVal} {name text : String} (same : body.same (.dict [(name,.str text)]) = true) :
    body = .dict [(name,.str text)] := by
  cases body with
  | dict entries =>
    obtain ⟨long,equal⟩ := Bool.and_eq_true_iff.mp same
    obtain ⟨⟨key,value⟩,rfl⟩ := List.length_eq_one_iff.mp (eq_of_beq long)
    obtain ⟨found,_⟩ := Bool.and_eq_true_iff.mp equal
    by_cases own : key = name
    · subst own
      rw [List.lookup_cons_self] at found
      cases value with
      | str other =>
        have texts : other = text := eq_of_beq found
        rw [texts]
      | _ => cases found
    · rw [List.lookup_cons,beq_false_of_ne own] at found
      cases found
  | _ => cases same

theorem isoformat_injective {one two : ℤ} (first : 0 ≤ one ∧ one < lastInstant) (second : 0 ≤ two ∧ two < lastInstant)
    (same : isoformat one = isoformat two) : one = two := by
  have read := instant_isoformat first
  rw [same,instant_isoformat second] at read
  cases read
  rfl

-- The object that a run puts under a name with its time is its own.
def Bears (objects : Objects) (key name : String) (now : ℤ) : Prop := objects key = some (.dict [(name,.str (isoformat now))])

theorem bears_unique {objects : Objects} {key name : String} {one two : ℤ} (first : 0 ≤ one ∧ one < lastInstant) (second : 0 ≤ two ∧ two < lastInstant)
    (left : Bears objects key name one) (right : Bears objects key name two) : one = two := by
  unfold Bears at left right
  rw [left] at right
  simp only [Option.some.injEq,PyVal.dict.injEq,List.cons.injEq,Prod.mk.injEq,PyVal.str.injEq,true_and,and_true] at right
  exact isoformat_injective first second right

section runs
variable {ι : Type} [DecidableEq ι] {weigh : PyVal → ℕ} {bundle : Bundle} {jobs : ι → Job} {start objects : Objects} {turns : Turns ι}
  {left : ι → Tree bucketPorts PyExc (Except PyExc String × Unit)}

theorem owns_bears {now time : ℤ} {who : ι} {requests : Requests} {key name : String} (knows : Knows turns objects now who requests)
    (owns : requests.Owns key (.dict [(name,.str (isoformat time))])) : Bears objects key name time := by
  rcases owns with ⟨body,⟨sorted,written⟩ | ⟨same,seen⟩⟩
  · cases sorted
    exact knows.written _ written
  · rw [same_single same] at seen
    exact (knows.seen _ seen).1

theorem bears_keeps {before after : Objects} {event : Event bucketPorts PyExc} (step : bucketStep before event after) {key name : String} {now : ℤ}
    (bears : Bears before key name now) : Bears after key name now := bucketStep_keeps step bears

def fetchers (turns : Turns ι) : List ι := (turns.filter fun turn => isFetch turn.event).map fun turn => turn.who

def Job.collects (job : Job) : Bool :=
  match job.role with
  | .collector .. => true
  | _ => false

-- Who has fetched is a collector, and has fetched once, under a claim of its own.
structure Fetched (bundle : Bundle) (jobs : ι → Job) (turns : Turns ι) (objects : Objects) (phases : ι → Requests) : Prop where
  once : (fetchers turns).Nodup
  collects : ∀ who ∈ fetchers turns, (jobs who).collects = true
  counted : ∀ who ∈ fetchers turns, (phases who).fetched = true
  claimed : ∀ who ∈ fetchers turns, ∃ key ∈ runClaims bundle (jobs who).now, Bears objects key "started_at" (jobs who).now

theorem moved_fetched {job : Job} {requests : Requests} {event : Event bucketPorts PyExc} (fetched : requests.fetched = true ∨ isFetch event = true) :
    ((job.rule bundle).moved requests event).fetched = true := by
  cases event with
  | fault held error => exact fetched.resolve_right nofun
  | marked label => exact fetched.resolve_right nofun
  | answered held call answer =>
    cases call with
    | fetch => cases answer <;> rfl
    | reload key =>
      have old := fetched.resolve_right nofun
      cases answer with
      | ok size => exact old
      | error exc => exact grown_misses.fetched.trans old
    | download key =>
      have old := fetched.resolve_right nofun
      cases answer with
      | ok body => exact old
      | error exc => exact grown_misses.fetched.trans old
    | upload key body =>
      have old := fetched.resolve_right nofun
      cases answer with
      | ok written => exact old
      | error exc => exact grown_fails.fetched.trans old
    | clock => cases answer <;> exact fetched.resolve_right nofun
    | send message => cases answer <;> exact fetched.resolve_right nofun

theorem fetching_collector {job : Job} {requests : Requests} (fetches : job.fetching bundle requests) :
    job.collects = true ∧ MayFetch bundle job.now requests.fetched requests.Owns := by
  obtain ⟨now,role⟩ := job
  cases role with
  | collector binding start => exact ⟨rfl,fetches⟩
  | watchdog watch => cases fetches
  | blind watch => cases fetches

omit [DecidableEq ι] in
theorem fetchers_append (turn : Turn bucketPorts PyExc Objects ι) :
    fetchers (turns ++ [turn]) = if isFetch turn.event then fetchers turns ++ [turn.who] else fetchers turns := by
  unfold fetchers
  rw [List.filter_append]
  by_cases fetch : isFetch turn.event = true
  · have alone : [turn].filter (fun turn => isFetch turn.event) = [turn] := List.filter_cons_of_pos fetch
    rw [if_pos fetch,alone,List.map_append]
    rfl
  · have none : [turn].filter (fun turn => isFetch turn.event) = [] := List.filter_cons_of_neg fetch
    rw [if_neg fetch,none,List.append_nil]

theorem fetched_step : StepKeeps bundle jobs fun turns objects phases => Fetched bundle jobs turns objects phases := by
  intro turns objects phases who event after knows held allowed step
  have kept : ∀ other ∈ fetchers turns, (Function.update phases who (((jobs who).rule bundle).moved (phases who) event) other).fetched = true := by
    intro other member
    by_cases same : other = who
    · subst same
      rw [Function.update_self]
      exact moved_fetched (.inl (held.counted other member))
    · rw [Function.update_of_ne same]
      exact held.counted other member
  have claims : ∀ other ∈ fetchers turns, ∃ key ∈ runClaims bundle (jobs other).now, Bears after key "started_at" (jobs other).now := by
    intro other member
    obtain ⟨key,own,bears⟩ := held.claimed other member
    exact ⟨key,own,bears_keeps step bears⟩
  have shown : fetchers (turns ++ [ownTurn objects who event after]) = if isFetch event then fetchers turns ++ [who] else fetchers turns :=
    fetchers_append _
  cases fetch : isFetch event with
  | false =>
    rw [if_neg (by rw [fetch]; decide)] at shown
    exact ⟨shown ▸ held.once,shown ▸ held.collects,shown ▸ kept,shown ▸ claims⟩
  | true =>
    rw [if_pos fetch] at shown
    obtain ⟨collects,unfetched,key,own,owns⟩ := fetching_collector (allowed_fetches allowed fetch)
    have fresh : who ∉ fetchers turns := by
      intro member
      rw [held.counted who member] at unfetched
      cases unfetched
    refine ⟨?_,?_,?_,?_⟩
    · rw [shown]
      refine List.nodup_append.mpr ⟨held.once,List.nodup_singleton _,fun one first two second => ?_⟩
      rintro rfl
      rw [List.mem_singleton.mp second] at first
      exact fresh first
    · intro other member
      rw [shown] at member
      rcases List.mem_append.mp member with old | new
      · exact held.collects other old
      · rw [List.mem_singleton.mp new]
        exact collects
    · intro other member
      rw [shown] at member
      rcases List.mem_append.mp member with old | new
      · exact kept other old
      · rw [List.mem_singleton.mp new,Function.update_self]
        exact moved_fetched (.inr fetch)
    · intro other member
      rw [shown] at member
      rcases List.mem_append.mp member with old | new
      · exact claims other old
      · rw [List.mem_singleton.mp new]
        exact ⟨key,own,bears_keeps step (owns_bears (knows who) owns)⟩

-- A run that belongs to a day in New York and to a date
def runsOn (bundle : Bundle) (jobs : ι → Job) (today date : ℕ) (who : ι) : Bool :=
  decide (bundle.newYork.date (jobs who).now = today ∧ utcOrdinal (jobs who).now = date)

-- However many collectors run on a day, and however their requests fall, the account is read at most four times.
theorem fetches_bounded (dated : Dated bundle) (times : ∀ who, 0 ≤ (jobs who).now ∧ (jobs who).now < lastInstant)
    (apart : ∀ one two, (jobs one).collects = true → (jobs two).collects = true → (jobs one).now = (jobs two).now → one = two) (run : Reaches weigh bundle jobs start turns objects left) (today date : ℕ) :
    (turns.filter fun turn => isFetch turn.event && runsOn bundle jobs today date turn.who).length ≤ 4 := by
  obtain ⟨phases,_,fetched,_⟩ := system_keeps dated (fun who => (times who).1) fetched_step
    ⟨List.nodup_nil,(fun _ member => nomatch member),(fun _ member => nomatch member),fun _ member => nomatch member⟩ run
  have whos : ((fetchers turns).filter (runsOn bundle jobs today date)).length =
      (turns.filter fun turn => isFetch turn.event && runsOn bundle jobs today date turn.who).length := by
    unfold fetchers
    rw [List.filter_map,List.length_map,List.filter_filter]
    congr 2
    funext turn
    exact Bool.and_comm ..
  have claim : ∀ who : { who // who ∈ (fetchers turns).filter (runsOn bundle jobs today date) }, ∃ key ∈ claimKeys today date,
      Bears objects key "started_at" (jobs who.1).now := by
    rintro ⟨who,member⟩
    obtain ⟨listed,own⟩ := List.mem_filter.mp member
    obtain ⟨key,claims,bears⟩ := fetched.claimed who listed
    obtain ⟨newYork,utc⟩ := of_decide_eq_true own
    rw [runClaims,newYork,utc] at claims
    exact ⟨key,claims,bears⟩
  choose claimOf claims bears using claim
  have distinct : (((fetchers turns).filter (runsOn bundle jobs today date)).attach.map claimOf).Nodup := by
    refine List.Nodup.map ?_ (List.nodup_attach.mpr (fetched.once.filter _))
    intro one two same
    have left := bears one
    rw [same] at left
    have collects : ∀ who : { who // who ∈ (fetchers turns).filter (runsOn bundle jobs today date) }, (jobs who.1).collects = true :=
      fun who => fetched.collects who.1 (List.mem_filter.mp who.2).1
    exact Subtype.ext (apart _ _ (collects one) (collects two) (bears_unique (times _) (times _) left (bears two)))
  have inside : ((fetchers turns).filter (runsOn bundle jobs today date)).attach.map claimOf ⊆ claimKeys today date := by
    intro key member
    obtain ⟨who,_,rfl⟩ := List.mem_map.mp member
    exact claims who
  have bound := (List.subperm_of_subset distinct inside).length_le
  rw [List.length_map,List.length_attach,whos] at bound
  exact bound

theorem twoCollectors_apart (one two : Bool) (_ : (twoCollectors one).collects = true) (_ : (twoCollectors two).collects = true)
    (same : (twoCollectors one).now = (twoCollectors two).now) : one = two := by
  cases one <;> cases two <;> first | rfl | exact absurd same (by decide)

theorem twoCollectors_fetches : ((performed twoCollectors noObjects (inTurn 50)).1.filter fun turn =>
    isFetch turn.event && runsOn oneSession twoCollectors sessionDay sessionDay turn.who).length ≤ 4 :=
  fetches_bounded oneSession_dated twoCollectors_times twoCollectors_apart (performed_reaches ..) sessionDay sessionDay

end runs

end LongBridge.Observation
