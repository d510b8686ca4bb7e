import LongBridge.Effects.Fallible
import LongBridge.Python.Entries
import LongBridge.Notifications.Candidates

namespace LongBridge.Notifications
open Effects

-- Dictionaries with each key once: what an entry set, sorted or looked up is.
section Entries

variable {α : Type} {entries : List (String × α)} {key name : String} {value held : α}

theorem mem_keys_setEntry : name ∈ (setEntry key value entries).map Prod.fst ↔ name = key ∨ name ∈ entries.map Prod.fst := by
  induction entries with
  | nil => simp [setEntry]
  | cons entry rest ih =>
    obtain ⟨other,old⟩ := entry
    unfold setEntry
    split
    · rename_i same
      have equal : other = key := by simpa using same
      subst equal; simp
    · rw [List.map_cons,List.map_cons,List.mem_cons,List.mem_cons,ih]; tauto

theorem nodup_setEntry (nodup : (entries.map Prod.fst).Nodup) (key : String) (value : α) :
    ((setEntry key value entries).map Prod.fst).Nodup := by
  induction entries with
  | nil => simp [setEntry]
  | cons entry rest ih =>
    obtain ⟨other,old⟩ := entry
    rw [List.map_cons,List.nodup_cons] at nodup
    unfold setEntry
    split
    · rw [List.map_cons,List.nodup_cons]; exact nodup
    · rename_i unlike
      have apart : other ≠ key := by simpa using unlike
      rw [List.map_cons,List.nodup_cons,mem_keys_setEntry]
      exact ⟨not_or.mpr ⟨apart,nodup.1⟩,ih nodup.2⟩

theorem mem_setEntry (nodup : (entries.map Prod.fst).Nodup) :
    (name,held) ∈ setEntry key value entries ↔ (name = key ∧ held = value) ∨ (name ≠ key ∧ (name,held) ∈ entries) := by
  induction entries with
  | nil => simp [setEntry]
  | cons entry rest ih =>
    obtain ⟨other,old⟩ := entry
    rw [List.map_cons,List.nodup_cons] at nodup
    unfold setEntry
    split
    · rename_i same
      have equal : other = key := by simpa using same
      subst equal
      rw [List.mem_cons,List.mem_cons,Prod.mk.injEq,Prod.mk.injEq]
      constructor
      · rintro (⟨rfl,rfl⟩ | later)
        · exact .inl ⟨rfl,rfl⟩
        · refine .inr ⟨?_,.inr later⟩
          rintro rfl
          exact nodup.1 (List.mem_map.mpr ⟨_,later,rfl⟩)
      · rintro (⟨rfl,rfl⟩ | ⟨unlike,⟨rfl,_⟩ | later⟩)
        · exact .inl ⟨rfl,rfl⟩
        · exact absurd rfl unlike
        · exact .inr later
    · rename_i unlike
      have apart : other ≠ key := by simpa using unlike
      rw [List.mem_cons,List.mem_cons,ih nodup.2,Prod.mk.injEq]
      constructor
      · rintro (⟨rfl,rfl⟩ | set | ⟨other,later⟩)
        · exact .inr ⟨apart,.inl ⟨rfl,rfl⟩⟩
        · exact .inl set
        · exact .inr ⟨other,.inr later⟩
      · rintro (set | ⟨other,⟨rfl,rfl⟩ | later⟩)
        · exact .inr (.inl set)
        · exact .inl ⟨rfl,rfl⟩
        · exact .inr (.inr ⟨other,later⟩)

theorem mem_byKey {entry : String × α} : entry ∈ byKey entries ↔ entry ∈ entries := (List.perm_insertionSort ..).mem_iff

theorem nodup_byKey (nodup : (entries.map Prod.fst).Nodup) : ((byKey entries).map Prod.fst).Nodup :=
  ((List.perm_insertionSort ..).map Prod.fst).nodup_iff.mpr nodup

end Entries

def variantKey (hashes : CandidateHashes) (event : CandidateEvent) : String := event.dedupeKey ++ "-" ++ hashes.event event

-- Digests of different events differ, and a plain key is none with a suffix.
structure Separated {ι : Type} (hashes : CandidateHashes) (requests : ι → PersistRequest) : Prop where
  variants : ∀ one two, variantKey hashes (requests one).event = variantKey hashes (requests two).event →
    (requests one).event = (requests two).event
  plain : ∀ one two, (requests one).event.dedupeKey ≠ variantKey hashes (requests two).event

structure Recorded {ι : Type} (hashes : CandidateHashes) (requests : ι → PersistRequest) (state : CandidateState) : Prop where
  eventKeys : (state.events.map Prod.fst).Nodup
  sourceKeys : (state.sources.map Prod.fst).Nodup
  keyed : ∀ key event, (key,event) ∈ state.events →
    ∃ who, event = (requests who).event ∧ (key = event.dedupeKey ∨ key = variantKey hashes event)
  listed : ∀ run source, (run,source) ∈ state.sources → ∃ row ∈ state.runs, row.sourceRunId = run ∧
    row.actuallyRan = source.actuallyRan ∧ (source.actuallyRan = true →
      ∀ key event, (key,event) ∈ state.events → event.sourceRunId = run → event ∈ row.notificationEvents)
  shown : ∀ row ∈ state.runs, (∃ source, (row.sourceRunId,source) ∈ state.sources ∧ source.actuallyRan = row.actuallyRan) ∧
    ∀ event ∈ row.notificationEvents, ∃ key, (key,event) ∈ state.events

-- Nothing recorded is gone.
structure Grows (before after : CandidateState) : Prop where
  events : ∀ key event, (key,event) ∈ before.events → (key,event) ∈ after.events
  sources : ∀ run source, (run,source) ∈ before.sources →
    ∃ later, (run,later) ∈ after.sources ∧ later.actuallyRan = source.actuallyRan

theorem Grows.refl (state : CandidateState) : Grows state state := ⟨fun _ _ held => held,fun _ source held => ⟨source,held,rfl⟩⟩

theorem Grows.trans {one two three : CandidateState} (first : Grows one two) (second : Grows two three) : Grows one three := by
  constructor
  · exact fun key event held => second.events _ _ (first.events _ _ held)
  · intro run source held
    obtain ⟨middle,there,same⟩ := first.sources _ _ held
    obtain ⟨later,last,equal⟩ := second.sources _ _ there
    exact ⟨later,last,equal.trans same⟩

-- The call's event and, if it ran, its run.
structure Holds (request : PersistRequest) (state : CandidateState) : Prop where
  event : ∃ key, (key,request.event) ∈ state.events
  source : request.actuallyRan = true → ∃ source, (request.event.sourceRunId,source) ∈ state.sources ∧ source.actuallyRan = true

-- The row of a run, with an event of it.
def Shows (object : CandidateObject) (run : String) (event : CandidateEvent) : Prop :=
  ∃ row ∈ object, row.sourceRunId = run ∧ row.actuallyRan = true ∧ event ∈ row.notificationEvents

section Merging

variable {ι : Type} {hashes : CandidateHashes} {requests : ι → PersistRequest} {state previous after : CandidateState}
  {who : ι} {identity : Identity} {dryRun : Bool}

theorem recorded_stored (recorded : Recorded hashes requests state) : Recorded hashes requests state.stored := by
  refine ⟨nodup_byKey recorded.eventKeys,nodup_byKey recorded.sourceKeys,?_,?_,?_⟩
  · exact fun key event member => recorded.keyed key event (mem_byKey.mp member)
  · intro run source member
    obtain ⟨row,there,same,ran,events⟩ := recorded.listed run source (mem_byKey.mp member)
    exact ⟨row,there,same,ran,fun really key event held => events really key event (mem_byKey.mp held)⟩
  · intro row member
    obtain ⟨⟨source,held,ran⟩,events⟩ := recorded.shown row member
    refine ⟨⟨source,mem_byKey.mpr held,ran⟩,fun event listed => ?_⟩
    obtain ⟨key,there⟩ := events event listed
    exact ⟨key,mem_byKey.mpr there⟩

theorem grows_stored (grows : Grows previous state) : Grows previous state.stored := by
  constructor
  · exact fun key event held => mem_byKey.mpr (grows.events key event held)
  · intro run source held
    obtain ⟨later,there,same⟩ := grows.sources run source held
    exact ⟨later,mem_byKey.mpr there,same⟩

theorem recorded_empty : Recorded hashes requests emptyState :=
  ⟨.nil,.nil,(fun _ _ member => nomatch member),(fun _ _ member => nomatch member),(fun _ member => nomatch member)⟩

theorem shows_projection (recorded : Recorded hashes requests state) {run : String} {event : CandidateEvent}
    (own : event.sourceRunId = run) (held : ∃ key, (key,event) ∈ state.events)
    (ran : ∃ source, (run,source) ∈ state.sources ∧ source.actuallyRan = true) : Shows (projection state) run event := by
  obtain ⟨source,there,really⟩ := ran
  obtain ⟨key,member⟩ := held
  obtain ⟨row,listed,same,equal,events⟩ := recorded.listed run source there
  exact ⟨exportRow row,List.mem_map_of_mem (f := exportRow) listed,same,equal.trans really,events really key event member own⟩

theorem shows_grows (recorded : Recorded hashes requests state) (later : Recorded hashes requests after) (grows : Grows state after)
    {run : String} {event : CandidateEvent} (own : event.sourceRunId = run) (shows : Shows (projection state) run event) :
    Shows (projection after) run event := by
  obtain ⟨exported,member,same,ran,listed⟩ := shows
  obtain ⟨row,there,rfl⟩ := List.mem_map.mp member
  obtain ⟨⟨source,held,equal⟩,events⟩ := recorded.shown row there
  obtain ⟨key,inside⟩ := events event listed
  have named : row.sourceRunId = run := same
  have really : row.actuallyRan = true := ran
  rw [named] at held
  obtain ⟨more,last,again⟩ := grows.sources _ _ held
  exact shows_projection later own ⟨key,grows.events _ _ inside⟩ ⟨more,last,again.trans (equal.trans really)⟩

theorem recordEvent_grows (separated : Separated hashes requests) (recorded : Recorded hashes requests previous) (who : ι)
    {key : String} {event : CandidateEvent} (held : (key,event) ∈ previous.events) :
    (key,event) ∈ recordEvent hashes previous.events (requests who).event := by
  rw [recordEvent,mem_setEntry recorded.eventKeys]
  by_cases other : key = factKey hashes previous.events (requests who).event
  · refine .inl ⟨other,?_⟩
    have found := lookup_of_mem recorded.eventKeys held
    unfold factKey at other
    split at other
    · rename_i missing
      rw [other,missing] at found; cases found
    · rename_i first known
      split at other
      · rename_i same
        rw [other,known] at found
        exact (Option.some.inj found).symm.trans same
      · obtain ⟨writer,rfl,plain | variant⟩ := recorded.keyed key event held
        · exact absurd (plain.symm.trans other) (separated.plain writer who)
        · exact separated.variants writer who (variant.symm.trans other)
  · exact .inr ⟨other,held⟩

theorem recordEvent_keyed (recorded : Recorded hashes requests previous) (who : ι) {key : String} {event : CandidateEvent}
    (held : (key,event) ∈ recordEvent hashes previous.events (requests who).event) :
    ∃ writer, event = (requests writer).event ∧ (key = event.dedupeKey ∨ key = variantKey hashes event) := by
  rw [recordEvent,mem_setEntry recorded.eventKeys] at held
  rcases held with ⟨rfl,rfl⟩ | ⟨_,old⟩
  · refine ⟨who,rfl,?_⟩
    unfold factKey
    split
    · exact .inl rfl
    · split
      · exact .inl rfl
      · exact .inr rfl
  · exact recorded.keyed key event old

-- What a source list owes to the one before it.
structure SourcesGrow (request : PersistRequest) (before after : List (String × SourceRun)) : Prop where
  keys : (after.map Prod.fst).Nodup
  kept : ∀ run source, (run,source) ∈ before → ∃ later, (run,later) ∈ after ∧ later.actuallyRan = source.actuallyRan

theorem sourcesGrow_refl {request : PersistRequest} {before : List (String × SourceRun)} (nodup : (before.map Prod.fst).Nodup) :
    SourcesGrow request before before := ⟨nodup,fun _ source held => ⟨source,held,rfl⟩⟩

theorem setSource_grows {request : PersistRequest} {before : List (String × SourceRun)} {run : String} {source : SourceRun}
    (nodup : (before.map Prod.fst).Nodup)
    (same : ∀ old, before.lookup run = some old → source.actuallyRan = old.actuallyRan) :
    SourcesGrow request before (setEntry run source before) := by
  refine ⟨nodup_setEntry nodup run source,fun other old held => ?_⟩
  by_cases own : other = run
  · subst own
    exact ⟨source,(mem_setEntry nodup).mpr (.inl ⟨rfl,rfl⟩),same old (lookup_of_mem nodup held)⟩
  · exact ⟨old,(mem_setEntry nodup).mpr (.inr ⟨own,held⟩),rfl⟩

theorem recordNotRun_grows {request : PersistRequest} {before after : List (String × SourceRun)}
    (nodup : (before.map Prod.fst).Nodup) (ran : recordNotRun request before = .ok after) : SourcesGrow request before after := by
  unfold recordNotRun at ran
  split at ran
  · cases ran
  · split at ran
    · rename_i old known
      dsimp only at ran
      split at ran
      · cases ran
      · rename_i same
        cases ran
        refine setSource_grows nodup fun other found => ?_
        rw [known,Option.some.injEq] at found
        rw [← found,not_not.mp same]
    · rename_i missing
      cases ran
      refine setSource_grows nodup fun other found => ?_
      rw [missing] at found; cases found

theorem recordRun_grows {request : PersistRequest} {before after : List (String × SourceRun)} {conflicts noted : List Conflict}
    (nodup : (before.map Prod.fst).Nodup) (ran : recordRun request dryRun before conflicts = .ok (after,noted)) :
    SourcesGrow request before after ∧
      ∃ source, (request.event.sourceRunId,source) ∈ after ∧ source.actuallyRan = true := by
  obtain ⟨counts,_,rest⟩ := bind_ok.mp ran
  split at rest
  · cases rest
  · rename_i old executed
    cases rest
    refine ⟨setSource_grows nodup fun other found => ?_,_,(mem_setEntry nodup).mpr (.inl ⟨rfl,rfl⟩),rfl⟩
    cases other with
    | notRun asOf reason => exact absurd found (executed asOf reason)
    | ran => rfl

theorem recordSource_grows {request : PersistRequest} {before after : List (String × SourceRun)}
    {conflicts noted : List Conflict} (nodup : (before.map Prod.fst).Nodup)
    (ran : recordSource request dryRun before conflicts = .ok (after,noted)) : SourcesGrow request before after ∧
      (request.actuallyRan = true → ∃ source, (request.event.sourceRunId,source) ∈ after ∧ source.actuallyRan = true) := by
  obtain ⟨merged,first,rest⟩ := bind_ok.mp ran
  have start : SourcesGrow request before merged := by
    unfold idleSources at first
    split at first
    · exact recordNotRun_grows nodup first
    · cases first; exact sourcesGrow_refl nodup
  split at rest
  · rename_i executed
    obtain ⟨grows,own⟩ := recordRun_grows start.keys rest
    refine ⟨⟨grows.keys,fun run source held => ?_⟩,fun _ => own⟩
    obtain ⟨middle,there,same⟩ := start.kept run source held
    obtain ⟨later,last,equal⟩ := grows.kept run middle there
    exact ⟨later,last,equal.trans same⟩
  · rename_i idle
    cases rest
    exact ⟨start,fun executed => absurd executed idle⟩

theorem sourceRow_run (identity : Identity) (dryRun : Bool) (businessDay : String) (events : List (String × CandidateEvent)) (conflicts : List Conflict)
    (entry : String × SourceRun) :
    (sourceRow identity businessDay dryRun events conflicts entry).sourceRunId = entry.1 ∧
    (sourceRow identity businessDay dryRun events conflicts entry).actuallyRan = entry.2.actuallyRan ∧
    (sourceRow identity businessDay dryRun events conflicts entry).notificationEvents =
      if entry.2.actuallyRan then eventsOf events entry.1 else [] := by
  obtain ⟨run,source⟩ := entry
  cases source with
  | notRun asOf reason => exact ⟨rfl,rfl,rfl⟩
  | ran orderCount fillCount previewCount dry asOf kind counts => exact ⟨rfl,rfl,rfl⟩

theorem mem_eventsOf {events : List (String × CandidateEvent)} {run : String} {event : CandidateEvent} :
    event ∈ eventsOf events run ↔ (∃ key, (key,event) ∈ events) ∧ event.sourceRunId = run := by
  unfold eventsOf
  simp only [List.mem_filter,List.mem_map,decide_eq_true_eq]
  constructor
  · rintro ⟨⟨⟨key,same⟩,member,rfl⟩,own⟩
    exact ⟨⟨key,member⟩,own⟩
  · rintro ⟨⟨key,member⟩,own⟩
    exact ⟨⟨_,member,rfl⟩,own⟩

-- A call's state records all that the state it read records, and its own event and run.
theorem mergedState_records (separated : Separated hashes requests) (recorded : Recorded hashes requests previous)
    (merged : mergedState hashes (requests who) identity dryRun previous = .ok state) :
    Recorded hashes requests state ∧ Grows previous state ∧ Holds (requests who) state := by
  obtain ⟨⟨sources,conflicts⟩,ran,same⟩ := bind_ok.mp merged
  cases same
  obtain ⟨grows,own⟩ := recordSource_grows recorded.sourceKeys ran
  refine ⟨⟨nodup_setEntry recorded.eventKeys ..,grows.keys,fun key event held => recordEvent_keyed recorded who held,?_,?_⟩,
    ⟨fun key event held => recordEvent_grows separated recorded who held,grows.kept⟩,
    ⟨_,(mem_setEntry recorded.eventKeys).mpr (.inl ⟨rfl,rfl⟩)⟩,own⟩
  · intro run source held
    obtain ⟨named,executed,events⟩ := sourceRow_run identity dryRun (requests who).event.businessDay
      (recordEvent hashes previous.events (requests who).event) conflicts (run,source)
    refine ⟨_,List.mem_map.mpr ⟨(run,source),mem_byKey.mpr held,rfl⟩,named,executed,fun really key event member mine => ?_⟩
    rw [events,if_pos really]
    exact mem_eventsOf.mpr ⟨⟨key,member⟩,mine⟩
  · intro row member
    obtain ⟨⟨run,source⟩,held,rfl⟩ := List.mem_map.mp member
    obtain ⟨named,executed,events⟩ := sourceRow_run identity dryRun (requests who).event.businessDay
      (recordEvent hashes previous.events (requests who).event) conflicts (run,source)
    rw [named,executed,events]
    refine ⟨⟨source,mem_byKey.mp held,rfl⟩,fun event listed => ?_⟩
    split at listed
    · exact (mem_eventsOf.mp listed).1
    · cases listed

end Merging

end LongBridge.Notifications
