import LongBridge.Effects.Environment
import LongBridge.Notifications.Archived
import LongBridge.Notifications.Persistence

namespace LongBridge.Notifications
open Effects

-- A call that returns True, with nobody else at the stores meanwhile.
def Accepts (script : CandidateRun Bool) (before after : CandidateStores) : Prop :=
  ∃ events, script.Steps false () events (.ok true) () ∧ Follows storesStep before events after

-- What any calls that were accepted, one after the other, have left.
inductive Reached (hashes : CandidateHashes) : CandidateStores → Prop where
  | empty : Reached hashes .empty
  | call : Reached hashes before → Accepts (persistCandidate hashes request) before after → Reached hashes after

section calls

variable {hashes : CandidateHashes} {request : PersistRequest} {before after : CandidateStores} {key : String} {state : CandidateState}
  {events : List (Event candidatePorts PyExc)} {read : Option (ℕ × CandidateState)}

theorem readState_follows {found : Option (ℕ × CandidateState)} {rest : List (Event candidatePorts PyExc)}
    (follows : Follows storesStep before (.answered false (.readState key) (.ok found) :: rest) after) :
    found = before.states.cells key ∧ Follows storesStep before rest after := by
  obtain ⟨middle,⟨one,same⟩,later⟩ := follows_cons.mp follows
  have same : middle = before := same
  subst same
  rcases one with same | ⟨error,impossible⟩
  · exact ⟨Except.ok.inj same,later⟩
  · cases impossible

theorem readExport_follows {found : Option (ℕ × CandidateObject)} {rest : List (Event candidatePorts PyExc)}
    (follows : Follows storesStep before (.answered false (.readExport key) (.ok found) :: rest) after) :
    found = before.exports.cells key ∧ Follows storesStep before rest after := by
  obtain ⟨middle,⟨one,same⟩,later⟩ := follows_cons.mp follows
  have same : middle = before := same
  subst same
  rcases one with same | ⟨error,impossible⟩
  · exact ⟨Except.ok.inj same,later⟩
  · cases impossible

theorem exportProjection_accepts (steps : (exportProjection key state).Steps false () events (.ok true) ())
    (follows : Follows storesStep before events after) :
    (before.states.cells key).map Prod.snd = some state.stored ∧ after.states = before.states ∧
      (after.exports.cells key).map Prod.snd = some (projection state) := by
  rcases steps_invoke_bind.mp steps with ⟨previous,tail,rfl,reading⟩ | ⟨_,_,impossible,_⟩
  · obtain ⟨rfl,reads⟩ := readExport_follows follows
    rcases steps_invoke_bind.mp reading with ⟨latest,tail,rfl,checking⟩ | ⟨_,_,impossible,_⟩
    · obtain ⟨rfl,rest⟩ := readState_follows reads
      split at checking
      · cases (steps_raise.mp checking).2.1
      · rename_i current
        refine ⟨not_not.mp current,?_⟩
        split at checking
        · rename_i shown
          obtain ⟨rfl,_⟩ := steps_pure.mp checking
          have same := follows_nil.mp rest
          subst same
          exact ⟨rfl,shown⟩
        · rcases steps_invoke_bind.mp checking with ⟨set,nothing,rfl,ending⟩ | ⟨_,_,impossible,_⟩
          · obtain ⟨middle,⟨sets,same⟩,last⟩ := follows_cons.mp rest
            cases set with
            | false =>
              have ending : (Script.raise candidateConflict : CandidateRun Bool).Steps false () nothing (.ok true) () := ending
              cases (steps_raise.mp ending).2.1
            | true =>
              obtain ⟨rfl,_⟩ := steps_pure.mp ending
              have still := follows_nil.mp last
              subst still
              refine ⟨same,?_⟩
              rcases Versioned.sets_cases (before.exports.recalls_read key) sets with ⟨_,written⟩ | ⟨_,failed⟩
              · rw [written,Versioned.write_same]
                rfl
              · exact absurd rfl failed
          · cases impossible
    · cases impossible
  · cases impossible

theorem storeState_accepts (steps : (storeState key (before.states.cells key) state).Steps false () events (.ok ()) ())
    (follows : Follows storesStep before events after) :
    (after.states.cells key).map Prod.snd = some state.stored ∧ ∀ other, other ≠ key → after.states.cells other = before.states.cells other := by
  unfold storeState at steps
  split at steps
  · rename_i held
    obtain ⟨rfl,_⟩ := steps_pure.mp steps
    have same := follows_nil.mp follows
    subst same
    exact ⟨held,fun _ _ => rfl⟩
  · rcases steps_invoke_bind.mp steps with ⟨set,tail,rfl,ending⟩ | ⟨_,_,impossible,_⟩
    · obtain ⟨middle,⟨sets,_⟩,last⟩ := follows_cons.mp follows
      cases set with
      | false =>
        have ending : (Script.raise candidateConflict : CandidateRun Unit).Steps false () tail (.ok ()) () := ending
        cases (steps_raise.mp ending).2.1
      | true =>
        obtain ⟨rfl,_⟩ := steps_pure.mp ending
        have still := follows_nil.mp last
        subst still
        rcases Versioned.sets_cases (before.states.recalls_read key) sets with ⟨_,written⟩ | ⟨_,failed⟩
        · rw [written,Versioned.write_same]
          exact ⟨rfl,fun other unlike => Versioned.write_other _ _ unlike⟩
        · exact absurd rfl failed
    · cases impossible

theorem checkHistory_accepts {identity : Identity} (steps : (checkHistory hashes identity key read).Steps false () events (.ok ()) ())
    (follows : Follows storesStep before events after) : after = before := by
  cases read with
  | none =>
    rcases steps_invoke_bind.mp steps with ⟨exported,tail,rfl,ending⟩ | ⟨_,_,impossible,_⟩
    · obtain ⟨rfl,rest⟩ := readExport_follows follows
      split at ending
      · cases (steps_raise.mp ending).2.1
      · obtain ⟨rfl,_⟩ := steps_pure.mp ending
        exact follows_nil.mp rest
    · cases impossible
  | some cell =>
    have steps : (if cell.2.scopeKey ≠ hashes.scope identity then Script.raise (valueError "notification_candidate_scope_conflict")
      else pure () : CandidateRun Unit).Steps false () events (.ok ()) () := steps
    split at steps
    · cases (steps_raise.mp steps).2.1
    · obtain ⟨rfl,_⟩ := steps_pure.mp steps
      exact follows_nil.mp follows

-- The state a call reads, as it works on it
def heldState (stores : CandidateStores) (key : String) : CandidateState := ((stores.states.cells key).map Prod.snd).getD emptyState

structure Stored (hashes : CandidateHashes) (request : PersistRequest) (before after : CandidateStores) (identity : Identity) (dryRun : Bool)
    (state : CandidateState) : Prop where
  bound : boundTarget request = .ok (identity,dryRun)
  merged : mergedState hashes request identity dryRun (heldState before (candidateKey request identity)) = .ok state
  states : (after.states.cells (candidateKey request identity)).map Prod.snd = some state.stored
  exports : (after.exports.cells (candidateKey request identity)).map Prod.snd = some (projection state)
  others : ∀ other, other ≠ candidateKey request identity → after.states.cells other = before.states.cells other

theorem persistCandidate_accepts (accepts : Accepts (persistCandidate hashes request) before after) :
    ∃ identity dryRun state, Stored hashes request before after identity dryRun state := by
  obtain ⟨events,steps,follows⟩ := accepts
  rcases steps_fromExcept_bind.mp steps with ⟨⟨identity,dryRun⟩,bound,asked⟩ | ⟨_,_,_,impossible,_⟩
  · rcases steps_invoke_bind.mp asked with ⟨read,tail,rfl,checked⟩ | ⟨_,_,impossible,_⟩
    · obtain ⟨rfl,rest⟩ := readState_follows follows
      rcases steps_bind.mp checked with ⟨first,second,_,_,rfl,check,merging⟩ | ⟨_,impossible,_⟩
      · obtain ⟨middle,front,back⟩ := follows_append.mp rest
        have same := checkHistory_accepts check front
        subst same
        rcases steps_fromExcept_bind.mp merging with ⟨state,merged,storing⟩ | ⟨_,_,_,impossible,_⟩
        · rcases steps_bind.mp storing with ⟨third,fourth,_,_,rfl,store,exporting⟩ | ⟨_,impossible,_⟩
          · obtain ⟨written,wrote,last⟩ := follows_append.mp back
            obtain ⟨_,others⟩ := storeState_accepts store wrote
            obtain ⟨latest,same,exported⟩ := exportProjection_accepts exporting last
            refine ⟨identity,dryRun,state,bound,merged,?_,exported,?_⟩
            · rw [same]
              exact latest
            · intro other unlike
              rw [same]
              exact others other unlike
          · cases impossible
        · cases impossible
      · cases impossible
    · cases impossible
  · cases impossible

end calls

-- Each key once in the events and in the sources
structure Tidy (state : CandidateState) : Prop where
  events : (state.events.map Prod.fst).Nodup
  sources : (state.sources.map Prod.fst).Nodup

theorem mergedState_tidy {hashes : CandidateHashes} {request : PersistRequest} {identity : Identity} {dryRun : Bool}
    {previous state : CandidateState} (tidy : Tidy previous) (merged : mergedState hashes request identity dryRun previous = .ok state) :
    Tidy state := by
  obtain ⟨⟨sources,conflicts⟩,ran,same⟩ := bind_ok.mp merged
  cases same
  exact ⟨nodup_setEntry tidy.events _ _,(recordSource_grows tidy.sources ran).1.keys⟩

theorem heldState_tidy {stores : CandidateStores} (tidy : ∀ key version state, stores.states.cells key = some (version,state) → Tidy state)
    (key : String) : Tidy (heldState stores key) := by
  unfold heldState
  cases found : stores.states.cells key with
  | none => exact ⟨.nil,.nil⟩
  | some cell => exact tidy key cell.1 cell.2 found

theorem reached_tidy {hashes : CandidateHashes} {stores : CandidateStores} (reached : Reached hashes stores) :
    ∀ key version state, stores.states.cells key = some (version,state) → Tidy state := by
  induction reached with
  | empty => exact fun _ _ _ held => nomatch held
  | @call _ request _ _ accepts ih =>
    obtain ⟨identity,dryRun,state,stored⟩ := persistCandidate_accepts accepts
    have tidy := mergedState_tidy (heldState_tidy ih _) stored.merged
    intro key version found held
    by_cases own : key = candidateKey request identity
    · subst own
      have same := stored.states
      rw [held] at same
      have same : found = state.stored := Option.some.inj same
      subst same
      exact ⟨nodup_byKey tidy.events,nodup_byKey tidy.sources⟩
    · rw [stored.others key own] at held
      exact ih key version found held

-- Kinds that make a row an alert
def isLoud (event : CandidateEvent) : Bool := !quietKinds.contains event.eventKind

theorem ranRow_alert {identity : Identity} {businessDay run asOf : String} {dryRun : Bool} {conflicts : List Conflict}
    {runEvents : List CandidateEvent} {orderCount fillCount previewCount : Option ℤ} {counts : Option Counts} :
    (ranRow identity businessDay run asOf dryRun conflicts runEvents orderCount fillCount previewCount counts).status = "alert" ↔
      (∃ conflict ∈ conflicts, conflict.sourceRunId = run) ∨ ∃ event ∈ runEvents, isLoud event = true := by
  show (if (!(conflicts.filter fun conflict => conflict.sourceRunId = run).isEmpty || runEvents.any isLoud) = true then "alert" else "ok") = "alert" ↔ _
  have filtered : (!(conflicts.filter fun conflict => conflict.sourceRunId = run).isEmpty) = true ↔
      ∃ conflict ∈ conflicts, conflict.sourceRunId = run := by
    rw [Bool.not_eq_true',← Bool.not_eq_true,List.isEmpty_iff,List.filter_eq_nil_iff]
    push Not
    simp only [decide_eq_true_eq]
  rw [← filtered,← List.any_eq_true,← Bool.or_eq_true]
  split
  · rename_i urgent
    exact ⟨fun _ => urgent,fun _ => rfl⟩
  · rename_i calm
    exact ⟨fun impossible => absurd impossible (by decide),fun urgent => absurd urgent calm⟩

theorem noteConflict_run {run field : String} {old observed : Option ℤ} {conflicts : List Conflict} :
    (∃ conflict ∈ noteConflict run field old observed conflicts, conflict.sourceRunId = run) ↔
      (∃ conflict ∈ conflicts, conflict.sourceRunId = run) ∨ ∃ one two, old = some one ∧ observed = some two ∧ one ≠ two := by
  unfold noteConflict
  cases old with
  | none =>
    constructor
    · exact .inl
    · rintro (noted | ⟨_,_,impossible,_⟩)
      · exact noted
      · cases impossible
  | some one =>
    cases observed with
    | none =>
      constructor
      · exact .inl
      · rintro (noted | ⟨_,_,_,impossible,_⟩)
        · exact noted
        · cases impossible
    | some two =>
      show (∃ conflict ∈ (if one ≠ two ∧ _ ∉ conflicts then _ else _), _) ↔ _
      by_cases differ : one = two
      · rw [if_neg fun both => both.1 differ]
        constructor
        · exact .inl
        · rintro (noted | ⟨_,_,first,second,apart⟩)
          · exact noted
          · cases first
            cases second
            exact absurd differ apart
      · constructor
        · intro _
          exact .inr ⟨one,two,rfl,rfl,differ⟩
        · intro _
          by_cases fresh : (⟨run,field,one,two⟩ : Conflict) ∈ conflicts
          · rw [if_neg fun both => both.2 fresh]
            exact ⟨_,fresh,rfl⟩
          · rw [if_pos ⟨differ,fresh⟩]
            exact ⟨_,List.mem_append_right _ (List.mem_singleton_self _),rfl⟩

-- A count that another one was recorded for
def CountApart (request : PersistRequest) (old : Option SourceRun) : Prop :=
  ∃ field ∈ [("order_count",request.event.orderCount),("fill_count",request.event.fillCount),("preview_count",request.previewCount)],
    ∃ one two, countField field.1 old = some one ∧ field.2 = some two ∧ one ≠ two

-- A run that a call records: its conflicts, and its one source.
structure RecordedRun (request : PersistRequest) (before after : List (String × SourceRun)) (conflicts noted : List Conflict) : Prop where
  keys : (after.map Prod.fst).Nodup
  own : ∃ source, source.actuallyRan = true ∧ ∀ other, (request.event.sourceRunId,other) ∈ after ↔ other = source
  apart : (∃ conflict ∈ noted, conflict.sourceRunId = request.event.sourceRunId) ↔
    (∃ conflict ∈ conflicts, conflict.sourceRunId = request.event.sourceRunId) ∨ CountApart request (before.lookup request.event.sourceRunId)

theorem mem_setEntry_own {α : Type} {entries : List (String × α)} {key : String} {value other : α} (nodup : (entries.map Prod.fst).Nodup) :
    (key,other) ∈ setEntry key value entries ↔ other = value := by
  rw [mem_setEntry nodup]
  constructor
  · rintro (⟨_,same⟩ | ⟨unlike,_⟩)
    · exact same
    · exact absurd rfl unlike
  · intro same
    exact .inl ⟨rfl,same⟩

theorem recordRun_recorded {request : PersistRequest} {dryRun : Bool} {before after : List (String × SourceRun)} {conflicts noted : List Conflict}
    (nodup : (before.map Prod.fst).Nodup) (ran : recordRun request dryRun before conflicts = .ok (after,noted)) :
    RecordedRun request before after conflicts noted := by
  have grows := (recordRun_grows nodup ran).1.keys
  obtain ⟨counts,_,rest⟩ := bind_ok.mp ran
  split at rest
  · cases rest
  · cases rest
    refine ⟨grows,⟨_,?_,fun _ => mem_setEntry_own nodup⟩,?_⟩
    · rfl
    · rw [noteConflict_run,noteConflict_run,noteConflict_run]
      unfold CountApart
      simp only [List.mem_cons,List.not_mem_nil,or_false,exists_eq_or_imp,exists_eq_left,or_assoc]

-- What makes the row of the run an alert, besides the kind of its event: an urgent event of the run
-- that this one is not written over, a conflict noted before, or a count that another was recorded for
def RunAlarmed (hashes : CandidateHashes) (previous : CandidateState) (request : PersistRequest) : Prop :=
  (∃ key event, (key,event) ∈ previous.events ∧ key ≠ factKey hashes previous.events request.event ∧
    event.sourceRunId = request.event.sourceRunId ∧ isLoud event = true) ∨
  (∃ conflict ∈ previous.conflicts, conflict.sourceRunId = request.event.sourceRunId) ∨
  CountApart request (previous.sources.lookup request.event.sourceRunId)

theorem recordEvent_loud {hashes : CandidateHashes} {request : PersistRequest} {events : List (String × CandidateEvent)}
    (nodup : (events.map Prod.fst).Nodup) :
    (∃ event ∈ eventsOf (recordEvent hashes events request.event) request.event.sourceRunId, isLoud event = true) ↔
      isLoud request.event = true ∨ ∃ key event, (key,event) ∈ events ∧ key ≠ factKey hashes events request.event ∧
        event.sourceRunId = request.event.sourceRunId ∧ isLoud event = true := by
  constructor
  · rintro ⟨event,member,loud⟩
    obtain ⟨⟨key,held⟩,own⟩ := mem_eventsOf.mp member
    rw [recordEvent,mem_setEntry nodup] at held
    rcases held with ⟨_,rfl⟩ | ⟨other,old⟩
    · exact .inl loud
    · exact .inr ⟨key,event,old,other,own,loud⟩
  · rintro (loud | ⟨key,event,old,other,own,loud⟩)
    · exact ⟨request.event,mem_eventsOf.mpr ⟨⟨_,(mem_setEntry nodup).mpr (.inl ⟨rfl,rfl⟩)⟩,rfl⟩,loud⟩
    · exact ⟨event,mem_eventsOf.mpr ⟨⟨key,(mem_setEntry nodup).mpr (.inr ⟨other,old⟩)⟩,own⟩,loud⟩

-- The exported object has a row of the run, and it is an alert.
def ShowsAlert (stores : CandidateStores) (key run : String) : Prop :=
  ∃ version object, stores.exports.cells key = some (version,object) ∧ (∃ row ∈ object, row.sourceRunId = run) ∧
    ∀ row ∈ object, row.sourceRunId = run → row.status = "alert"

theorem sourceRow_run_id (identity : Identity) (businessDay : String) (dryRun : Bool) (events : List (String × CandidateEvent))
    (conflicts : List Conflict) (entry : String × SourceRun) :
    (exportRow (sourceRow identity businessDay dryRun events conflicts entry)).sourceRunId = entry.1 :=
  (sourceRow_run identity dryRun businessDay events conflicts entry).1

theorem stored_alert {hashes : CandidateHashes} {request : PersistRequest} {before after : CandidateStores} {identity : Identity} {dryRun : Bool}
    {state : CandidateState} (stored : Stored hashes request before after identity dryRun state)
    (tidy : Tidy (heldState before (candidateKey request identity))) (ran : request.actuallyRan = true) (run : request.notRun = false) :
    ShowsAlert after (candidateKey request identity) request.event.sourceRunId ↔
      isLoud request.event = true ∨ RunAlarmed hashes (heldState before (candidateKey request identity)) request := by
  obtain ⟨⟨sources,conflicts⟩,recorded,same⟩ := bind_ok.mp stored.merged
  have record : recordRun request dryRun (heldState before (candidateKey request identity)).sources
      (heldState before (candidateKey request identity)).conflicts = .ok (sources,conflicts) := by
    obtain ⟨merged,first,rest⟩ := bind_ok.mp recorded
    unfold idleSources at first
    rw [run,if_neg Bool.false_ne_true] at first
    cases first
    rw [ran,if_pos rfl] at rest
    exact rest
  obtain ⟨keys,⟨source,really,own⟩,apart⟩ := recordRun_recorded tidy.sources record
  have status : (exportRow (sourceRow identity request.event.businessDay dryRun (recordEvent hashes
        (heldState before (candidateKey request identity)).events request.event) conflicts (request.event.sourceRunId,source))).status = "alert" ↔
      isLoud request.event = true ∨ RunAlarmed hashes (heldState before (candidateKey request identity)) request := by
    cases source with
    | notRun => cases really
    | ran orderCount fillCount previewCount dry asOf kind counts =>
      show (ranRow identity request.event.businessDay request.event.sourceRunId asOf dryRun conflicts _ orderCount fillCount previewCount
        counts).status = "alert" ↔ _
      rw [ranRow_alert,apart,recordEvent_loud tidy.events,or_comm,or_assoc]
      rfl
  obtain ⟨version,object,exported,shown⟩ : ∃ version object, after.exports.cells (candidateKey request identity) = some (version,object) ∧
      object = projection state := by
    obtain ⟨⟨version,object⟩,found,same⟩ := Option.map_eq_some_iff.mp stored.exports
    exact ⟨version,object,found,same⟩
  cases same
  have rows : ∀ row, row ∈ object ↔ ∃ entry ∈ sources, exportRow (sourceRow identity request.event.businessDay dryRun
      (recordEvent hashes (heldState before (candidateKey request identity)).events request.event) conflicts entry) = row := by
    intro row
    rw [shown]
    unfold projection
    rw [List.mem_map]
    constructor
    · rintro ⟨inner,member,rfl⟩
      obtain ⟨entry,listed,rfl⟩ := List.mem_map.mp member
      exact ⟨entry,mem_byKey.mp listed,rfl⟩
    · rintro ⟨entry,listed,rfl⟩
      exact ⟨_,List.mem_map.mpr ⟨entry,mem_byKey.mpr listed,rfl⟩,rfl⟩
  constructor
  · rintro ⟨_,other,found,⟨row,member,named⟩,alert⟩
    rw [exported] at found
    cases found
    obtain ⟨⟨name,held⟩,listed,rfl⟩ := (rows row).mp member
    rw [sourceRow_run_id] at named
    have named : name = request.event.sourceRunId := named
    subst named
    cases (own held).mp listed
    exact status.mp (alert _ member (sourceRow_run_id ..))
  · intro alarmed
    refine ⟨version,object,exported,⟨_,(rows _).mpr ⟨_,(own _).mpr rfl,rfl⟩,sourceRow_run_id ..⟩,?_⟩
    intro row member named
    obtain ⟨⟨name,held⟩,listed,rfl⟩ := (rows row).mp member
    rw [sourceRow_run_id] at named
    have named : name = request.event.sourceRunId := named
    subst named
    cases (own held).mp listed
    exact status.mpr alarmed

section reports

variable {kit : NotificationKit} {env : NotificationEnv} {report : Fields} {heartbeat : Bool} {bound : PyVal} {request : PersistRequest}

-- The kind that the report's saved event states, or else the one a failed status stands for.
def keptKind (report : Fields) : PyVal :=
  match (digestFacts report).toOption.map fun facts => Fields.get facts "event" with
  | some (.dict saved) => Fields.get saved "event_kind"
  | _ => .str "real_error"

theorem hasStatus_iff {statuses : List String} : hasStatus report statuses = true ↔ ∃ status ∈ statuses, report.get "status" = .str status := by
  unfold hasStatus
  rw [List.any_eq_true]
  constructor
  · rintro ⟨status,member,same⟩
    cases value : report.get "status" with
    | str text =>
      rw [value] at same
      have same : text = status := beq_iff_eq.mp same
      subst same
      exact ⟨text,member,rfl⟩
    | _ =>
      rw [value] at same
      cases same
  · rintro ⟨status,member,same⟩
    refine ⟨status,member,?_⟩
    rw [same]
    exact beq_self_eq_true status

theorem failed_ran (failed : hasStatus report failedStatuses = true) : hasStatus report ["skipped"] = false := by
  obtain ⟨status,member,same⟩ := hasStatus_iff.mp failed
  have other : ∀ status ∈ failedStatuses, (["skipped"].any fun idle => (PyVal.str status).isStr idle) = false := by decide
  unfold hasStatus
  rw [same]
  exact other status member

theorem checkedEvent_facts {kind : PyVal} {occurredAt : ℤ} {identity : Identity} {run : String} {reason orderCount fillCount : PyVal}
    {event : ArchivedEvent} (made : checkedEvent kind occurredAt identity run reason orderCount fillCount = .ok event) :
    event.eventKind = kind ∧ event.sourceRunId = run := by
  obtain ⟨orders,_,rest⟩ := bind_ok.mp made
  obtain ⟨fills,_,rest⟩ := bind_ok.mp rest
  split at rest
  · cases rest
  · cases rest
    exact ⟨rfl,rfl⟩

theorem savedEvent_facts {saved : Fields} {event replaced : ArchivedEvent} (accepted : savedEvent kit report saved event = .ok replaced) :
    replaced.eventKind = saved.get "event_kind" ∧ replaced.sourceRunId = event.sourceRunId := by
  obtain ⟨_,_,accepted⟩ := bind_ok.mp accepted
  obtain ⟨_,_,accepted⟩ := bind_ok.mp accepted
  obtain ⟨_,_,accepted⟩ := bind_ok.mp accepted
  obtain ⟨_,_,accepted⟩ := bind_ok.mp accepted
  split at accepted
  · cases accepted
  · rename_i kind stated
    obtain ⟨made,new,accepted⟩ := bind_ok.mp accepted
    obtain ⟨_,_,accepted⟩ := bind_ok.mp accepted
    obtain ⟨_,_,accepted⟩ := bind_ok.mp accepted
    cases accepted
    obtain ⟨kinds,runs⟩ := checkedEvent_facts new
    refine ⟨?_,runs⟩
    rw [kinds]
    unfold Fields.get
    rw [stated]
    rfl

theorem archivedEvent_facts {event : ArchivedEvent} {facts : Fields} (failed : hasStatus report failedStatuses = true)
    (archived : archivedEvent kit env report = .ok (event,facts)) :
    event.eventKind = keptKind report ∧ event.sourceRunId = (report.get "run_id").text := by
  obtain ⟨⟨identity,dryRun⟩,_,archived⟩ := bind_ok.mp archived
  obtain ⟨_,_,archived⟩ := bind_ok.mp archived
  obtain ⟨found,read,archived⟩ := bind_ok.mp archived
  obtain ⟨_,_,archived⟩ := bind_ok.mp archived
  obtain ⟨_,_,archived⟩ := bind_ok.mp archived
  obtain ⟨stamp,_,archived⟩ := bind_ok.mp archived
  obtain ⟨made,new,archived⟩ := bind_ok.mp archived
  obtain ⟨kinds,runs⟩ := checkedEvent_facts new
  rw [failed,if_pos rfl] at kinds
  unfold keptKind
  rw [read]
  split at archived
  · rename_i none
    cases archived
    refine ⟨?_,runs⟩
    rw [kinds]
    simp only [Except.toOption,Option.map_some,none]
  · rename_i saved stated
    obtain ⟨replaced,accepted,archived⟩ := bind_ok.mp archived
    cases archived
    obtain ⟨kept,same⟩ := savedEvent_facts accepted
    refine ⟨?_,same.trans runs⟩
    rw [kept]
    simp only [Except.toOption,Option.map_some,stated]
  · cases archived

theorem eventDedupeKey_text {event : ArchivedEvent} {key : String} (keyed : eventDedupeKey kit event = .ok (some key)) :
    ∃ kind, event.eventKind = .str kind := by
  unfold eventDedupeKey at keyed
  split at keyed
  · rename_i kind stated
    exact ⟨kind,stated⟩
  · cases keyed
  · cases keyed
  · cases keyed

structure FailedRequest (env : NotificationEnv) (report : Fields) (request : PersistRequest) : Prop where
  ran : request.actuallyRan = true
  run : request.notRun = false
  bound : request.binding = targetBinding env none
  named : request.event.sourceRunId = (report.get "run_id").text
  kind : request.event.eventKind = textOf (keptKind report)
  known : request.event.coverageStatus = "known" → ∃ kind, keptKind report = .str kind

theorem failed_request (failed : hasStatus report failedStatuses = true)
    (archived : archivedRequest kit env report heartbeat bound = .ok request) : FailedRequest env report request := by
  obtain ⟨⟨event,facts⟩,read,archived⟩ := bind_ok.mp archived
  obtain ⟨kinds,runs⟩ := archivedEvent_facts failed read
  obtain ⟨⟨_,dryRun⟩,_,archived⟩ := bind_ok.mp archived
  obtain ⟨candidate,made,archived⟩ := bind_ok.mp archived
  obtain ⟨_,_,archived⟩ := bind_ok.mp archived
  obtain ⟨_,_,archived⟩ := bind_ok.mp archived
  obtain ⟨key,keyed,shape⟩ := bind_ok.mp made
  cases shape
  cases archived
  refine ⟨?_,failed_ran failed,rfl,runs,?_,?_⟩
  · show (!hasStatus report ["skipped"]) = true
    rw [failed_ran failed]
    rfl
  · show textOf event.eventKind = _
    rw [kinds]
  · intro known
    cases key with
    | none => exact absurd known (show ("unknown" : String) ≠ "known" by decide)
    | some key =>
      rw [← kinds]
      exact eventDedupeKey_text keyed

-- A failed run is shown as an alert: its event is no quiet one, or the run is alarmed otherwise.
def FailureKept (hashes : CandidateHashes) (report : Fields) (previous : CandidateState) (request : PersistRequest) : Prop :=
  (quietKinds.any fun kind => (keptKind report).isStr kind) = false ∨ RunAlarmed hashes previous request

theorem failed_run_is_an_alert_iff {hashes : CandidateHashes} {before after : CandidateStores} {identity : Identity} {dryRun : Bool}
    (reached : Reached hashes before) (failed : hasStatus report failedStatuses = true)
    (archived : archivedRequest kit env report heartbeat bound = .ok request) (target : targetBinding env none = .ok (identity,dryRun))
    (accepts : Accepts (persistArchivedReport hashes kit env report heartbeat bound) before after) :
    ShowsAlert after (candidateKey request identity) (report.get "run_id").text ↔
      FailureKept hashes report (heldState before (candidateKey request identity)) request := by
  have asked := failed_request failed archived
  have persisted : Accepts (persistCandidate hashes request) before after := by
    obtain ⟨events,steps,follows⟩ := accepts
    rcases steps_fromExcept_bind.mp steps with ⟨found,same,steps⟩ | ⟨_,_,_,impossible,_⟩
    · rw [archived] at same
      cases same
      exact ⟨events,steps,follows⟩
    · cases impossible
  obtain ⟨own,dry,state,stored⟩ := persistCandidate_accepts persisted
  obtain ⟨⟨holder,flag⟩,known,checks⟩ := bind_ok.mp stored.bound
  rw [asked.bound,target] at known
  cases known
  dsimp only at checks
  split at checks
  · cases checks
  · rename_i covered
    split at checks
    · cases checks
    · cases checks
      have coverage : request.event.coverageStatus = "known" := by
        rw [Bool.or_eq_true,not_or] at covered
        exact not_not.mp (mt bne_iff_ne.mpr covered.2)
      obtain ⟨kind,kept⟩ := asked.known coverage
      rw [← asked.named,stored_alert stored (heldState_tidy (reached_tidy reached) _) asked.ran asked.run]
      have loud : isLoud request.event = true ↔ (quietKinds.any fun quiet => (keptKind report).isStr quiet) = false := by
        unfold isLoud
        rw [asked.kind,kept,Bool.not_eq_true']
        show quietKinds.contains kind = false ↔ (quietKinds.any fun quiet => kind == quiet) = false
        rw [List.any_beq]
      rw [loud]
      rfl

end reports

-- One program at stores that answer at once: its events, its result and the stores then.
def attend (before : CandidateStores) : Tree candidatePorts PyExc α → List (Event candidatePorts PyExc) × α × CandidateStores
  | .done value => ([],value,before)
  | .ask held call next =>
    let (answer,middle) := storesServe before call
    let (events,value,after) := attend middle (next answer)
    (.answered held call answer :: events,value,after)
  | .fault held error next =>
    let (events,value,after) := attend before next
    (.fault held error :: events,value,after)
  | .mark label next =>
    let (events,value,after) := attend before next
    (.marked label :: events,value,after)

theorem attend_runs (before : CandidateStores) (tree : Tree candidatePorts PyExc α) :
    Runs tree (attend before tree).1 (attend before tree).2.1 ∧ Follows storesStep before (attend before tree).1 (attend before tree).2.2 := by
  induction tree generalizing before with
  | done value => exact ⟨.done,.nil⟩
  | ask held call next ih =>
    obtain ⟨runs,follows⟩ := ih (storesServe before call).1 (storesServe before call).2
    exact ⟨.ask runs,.cons (storesServe_answers.1 before held call) follows⟩
  | fault held error next ih =>
    obtain ⟨runs,follows⟩ := ih before
    exact ⟨.fault runs,.cons rfl follows⟩
  | mark label next ih => exact label.elim

theorem attend_accepts {script : CandidateRun Bool} {before : CandidateStores} (served : List (Event candidatePorts PyExc) ×
      (Except PyExc Bool × Unit) × CandidateStores) (same : served = attend before (script.run false ()))
    (accepted : served.2.1.1.toOption = some true) : Accepts script before served.2.2 := by
  obtain ⟨runs,follows⟩ := attend_runs before (script.run false ())
  rw [← same] at runs follows
  obtain ⟨events,⟨result,done⟩,after⟩ := served
  cases result with
  | error failure => cases accepted
  | ok value =>
    cases accepted
    exact ⟨events,runs,follows⟩

def joinedKit : NotificationKit where
  sgt := Zone.fixed (8 * hourSpan) (by decide)
  digest parts := "/".intercalate parts
  previewNumber value := match value with
    | .int value => some value
    | _ => none
  reasonText value := match value with
    | .str text => some text
    | _ => none
  previewNumber_none := rfl
  previewNumber_int _ := rfl
  reasonText_none := rfl
  reasonText_str _ := rfl

def liveTarget : PyVal :=
  .dict [("platform_id",.str "longbridge"),("strategy_profile",.str "profile"),("service_name",.str "service"),("account_scope",.str "scope"),
    ("account_selector",.list [.str "main"]),("deployment_selector",.str "prod"),("dry_run_only",.bool false)]

def liveEnv : NotificationEnv := ⟨some "true",.ok liveTarget,"target","account","","","slot"⟩

def failedReport (digest : Fields) : Fields :=
  [("schema_version",.str "runtime_report.v1"),("status",.str "error"),("run_id",.str "run-1"),("started_at",.str "2026-01-05T15:00:00+00:00"),
    ("runtime_target",liveTarget),("platform",.str "longbridge"),("strategy_profile",.str "profile"),("service_name",.str "service"),
    ("dry_run",.bool false),("summary",.dict [("notification_digest",.dict digest)])]

-- The event that the summary of a routine cycle carries.
def routineEvent : Fields :=
  [("event_kind",.str "routine_cycle"),("occurred_at",.str "2026-01-05T15:00:00+00:00"),("platform_id",.str "longbridge"),
    ("opaque_account_uid",.str "account"),("target_id",.str "target"),("strategy_profile",.str "profile"),("source_run_id",.str "run-1"),
    ("schema_version",.str "qsl.notification_event.v1"),("business_day",.str "2026-01-05"),("report_date",.str "2026-01-06"),
    ("window_id",.str "sgt-0600:2026-01-05"),("dedupe_key",.str "longbridge/account/target/profile/run-1/routine_cycle"),
    ("coverage_status",.str "known")]

def shownStatuses (stores : CandidateStores) (key : String) : Option (List (String × String)) :=
  (stores.exports.cells key).map fun cell => cell.2.map fun row => (row.sourceRunId,row.status)

def lateFailure : List (Event candidatePorts PyExc) × (Except PyExc Bool × Unit) × CandidateStores :=
  attend .empty ((persistArchivedReport plainHashes joinedKit liveEnv (failedReport [("event",.dict routineEvent)]) false .none).run false ())

-- A run that failed after it had written its summary goes into the digest as an ok cycle.
theorem late_failure_is_an_ok_cycle : hasStatus (failedReport [("event",.dict routineEvent)]) failedStatuses = true ∧
    ∃ after, Accepts (persistArchivedReport plainHashes joinedKit liveEnv (failedReport [("event",.dict routineEvent)]) false .none) .empty after ∧
      shownStatuses after "longbridge/2026-01-05/slot" = some [("run-1","ok")] := by
  refine ⟨by decide +kernel,lateFailure.2.2,attend_accepts lateFailure (by unfold lateFailure; rfl) (by decide +kernel),by decide +kernel⟩

def plainFailure : List (Event candidatePorts PyExc) × (Except PyExc Bool × Unit) × CandidateStores :=
  attend .empty ((persistArchivedReport plainHashes joinedKit liveEnv (failedReport []) false .none).run false ())

theorem plain_failure_is_an_alert : ShowsAlert plainFailure.2.2 "longbridge/2026-01-05/slot" "run-1" := by
  have accepts : Accepts (persistArchivedReport plainHashes joinedKit liveEnv (failedReport []) false .none) .empty plainFailure.2.2 :=
    attend_accepts plainFailure (by unfold plainFailure; rfl) (by decide +kernel)
  have target : targetBinding liveEnv none = .ok (⟨"longbridge","profile","target","account"⟩,false) := by decide +kernel
  have keyed : (archivedRequest joinedKit liveEnv (failedReport []) false .none).toOption.map
      (fun request => candidateKey request ⟨"longbridge","profile","target","account"⟩) = some "longbridge/2026-01-05/slot" := by decide +kernel
  cases archived : archivedRequest joinedKit liveEnv (failedReport []) false .none with
  | error failure =>
    rw [archived] at keyed
    cases keyed
  | ok request =>
    rw [archived] at keyed
    rw [← Option.some.inj keyed]
    exact (failed_run_is_an_alert_iff .empty (by decide +kernel) archived target accepts).mpr (.inl (by decide +kernel))

end LongBridge.Notifications
