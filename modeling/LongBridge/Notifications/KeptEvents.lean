import LongBridge.Notifications.Recorded

namespace LongBridge.Notifications
open Effects

section entries
variable {α : Type} {entries : List (String × α)} {key : String} {value : α}

theorem setEntry_held (found : entries.lookup key = some value) : setEntry key value entries = entries := by
  induction entries with
  | nil => cases found
  | cons entry rest ih =>
    obtain ⟨name,old⟩ := entry
    rw [List.lookup_cons] at found
    unfold setEntry
    by_cases own : name = key
    · subst own
      rw [beq_self_eq_true] at found
      cases found
      exact if_pos (beq_self_eq_true _)
    · rw [beq_eq_false_iff_ne.mpr (Ne.symm own)] at found
      rw [if_neg (by simpa using own),ih found]

theorem setEntry_new (missing : entries.lookup key = none) : setEntry key value entries = entries ++ [(key,value)] := by
  induction entries with
  | nil => rfl
  | cons entry rest ih =>
    obtain ⟨name,old⟩ := entry
    rw [List.lookup_cons] at missing
    unfold setEntry
    by_cases own : name = key
    · subst own
      rw [beq_self_eq_true] at missing
      cases missing
    · rw [beq_eq_false_iff_ne.mpr (Ne.symm own)] at missing
      rw [if_neg (by simpa using own),ih missing]
      rfl

theorem lookup_none (missing : ∀ value, (key,value) ∉ entries) : entries.lookup key = none := by
  cases found : entries.lookup key with
  | none => rfl
  | some value => exact absurd (mem_of_lookup found) (missing value)

end entries

abbrev SeparatedCalls (hashes : CandidateHashes) (calls : List PersistRequest) : Prop :=
  Separated hashes fun call : { call // call ∈ calls } => call.1

-- The events are those of the calls so far, each once: under its own key, or beside another.
structure KeepsEvents (hashes : CandidateHashes) (past : List PersistRequest) (events : List (String × CandidateEvent)) : Prop where
  keys : (events.map Prod.fst).Nodup
  once : (events.map Prod.snd).Nodup
  held : ∀ event, event ∈ events.map Prod.snd ↔ ∃ call ∈ past, event = call.event
  keyed : ∀ key event, (key,event) ∈ events → key = event.dedupeKey ∨
    (key = variantKey hashes event ∧ ∃ other, other ≠ event ∧ (event.dedupeKey,other) ∈ events)

theorem keepsEvents_nil (hashes : CandidateHashes) : KeepsEvents hashes [] [] := by
  refine ⟨List.nodup_nil,List.nodup_nil,fun event => ?_,fun key event member => nomatch member⟩
  simp

section record
variable {hashes : CandidateHashes} {calls past : List PersistRequest} {call : PersistRequest} {events : List (String × CandidateEvent)}

theorem keepsEvents_again (keeps : KeepsEvents hashes past events) (known : call.event ∈ events.map Prod.snd) :
    KeepsEvents hashes (past ++ [call]) events := by
  refine ⟨keeps.keys,keeps.once,fun event => ?_,keeps.keyed⟩
  rw [keeps.held]
  constructor
  · rintro ⟨other,member,same⟩
    exact ⟨other,List.mem_append_left _ member,same⟩
  · rintro ⟨other,member,rfl⟩
    rcases List.mem_append.mp member with earlier | last
    · exact ⟨other,earlier,rfl⟩
    · rw [List.mem_singleton.mp last]
      exact (keeps.held _).mp known

theorem keepsEvents_new (keeps : KeepsEvents hashes past events) {key : String} (missing : ∀ value, (key,value) ∉ events)
    (fresh : call.event ∉ events.map Prod.snd) (under : key = call.event.dedupeKey ∨
      (key = variantKey hashes call.event ∧ ∃ other, other ≠ call.event ∧ (call.event.dedupeKey,other) ∈ events)) :
    KeepsEvents hashes (past ++ [call]) (events ++ [(key,call.event)]) := by
  refine ⟨?_,?_,fun event => ?_,fun name event member => ?_⟩
  · rw [List.map_append]
    refine List.nodup_append.mpr ⟨keeps.keys,List.nodup_singleton _,fun name held other last => ?_⟩
    rw [List.mem_singleton.mp last]
    rintro rfl
    obtain ⟨⟨_,value⟩,member,rfl⟩ := List.mem_map.mp held
    exact missing value member
  · rw [List.map_append]
    refine List.nodup_append.mpr ⟨keeps.once,List.nodup_singleton _,fun event held other last => ?_⟩
    rw [List.mem_singleton.mp last]
    rintro rfl
    exact fresh held
  · rw [List.map_append,List.mem_append,keeps.held]
    constructor
    · rintro (⟨other,member,same⟩ | last)
      · exact ⟨other,List.mem_append_left _ member,same⟩
      · exact ⟨call,List.mem_append_right _ List.mem_cons_self,List.mem_singleton.mp last⟩
    · rintro ⟨other,member,rfl⟩
      rcases List.mem_append.mp member with earlier | last
      · exact Or.inl ⟨other,earlier,rfl⟩
      · rw [List.mem_singleton.mp last]
        exact Or.inr (List.mem_singleton.mpr rfl)
  · rcases List.mem_append.mp member with old | last
    · rcases keeps.keyed name event old with plain | ⟨variant,other,apart,there⟩
      · exact Or.inl plain
      · exact Or.inr ⟨variant,other,apart,List.mem_append_left _ there⟩
    · cases List.mem_singleton.mp last
      rcases under with plain | ⟨variant,other,apart,there⟩
      · exact Or.inl plain
      · exact Or.inr ⟨variant,other,apart,List.mem_append_left _ there⟩

-- An event that is not there under its key is put there; beside another event it gets the key with its digest.
theorem keepsEvents_record (separated : SeparatedCalls hashes calls) (keeps : KeepsEvents hashes past events) (earlier : past ⊆ calls)
    (member : call ∈ calls) : KeepsEvents hashes (past ++ [call]) (recordEvent hashes events call.event) := by
  have own : ∀ name event, (name,event) ∈ events → ∃ other : { call // call ∈ calls }, event = other.1.event := by
    intro name event held
    obtain ⟨other,before,same⟩ := (keeps.held event).mp (List.mem_map_of_mem (f := Prod.snd) held)
    exact ⟨⟨other,earlier before⟩,same⟩
  unfold recordEvent factKey
  split
  · rename_i missing
    have none : ∀ value, (call.event.dedupeKey,value) ∉ events := by
      intro value held
      have found := lookup_of_mem keeps.keys held
      rw [missing] at found
      cases found
    rw [setEntry_new missing]
    refine keepsEvents_new keeps none (fun held => ?_) (Or.inl rfl)
    obtain ⟨⟨name,event⟩,there,same⟩ := List.mem_map.mp held
    rcases keeps.keyed name event there with rfl | ⟨-,other,-,beside⟩
    · cases same
      exact none _ there
    · cases same
      exact none _ beside
  · rename_i first found
    have plain := mem_of_lookup found
    split
    · rename_i same
      rw [same] at found plain
      rw [setEntry_held found]
      exact keepsEvents_again keeps (List.mem_map_of_mem (f := Prod.snd) plain)
    · rename_i apart
      change KeepsEvents hashes (past ++ [call]) (setEntry (variantKey hashes call.event) call.event events)
      by_cases known : call.event ∈ events.map Prod.snd
      · obtain ⟨⟨name,event⟩,there,rfl⟩ := List.mem_map.mp known
        rcases keeps.keyed name _ there with rfl | ⟨rfl,-⟩
        · have again := lookup_of_mem keeps.keys there
          rw [found] at again
          exact absurd (Option.some.inj again) apart
        · rw [setEntry_held (lookup_of_mem keeps.keys there)]
          exact keepsEvents_again keeps known
      · have missing : ∀ value, (variantKey hashes call.event,value) ∉ events := by
          intro value held
          obtain ⟨other,rfl⟩ := own _ value held
          rcases keeps.keyed _ _ held with same | ⟨same,-⟩
          · exact separated.plain other ⟨call,member⟩ same.symm
          · have alike : call.event = other.1.event := separated.variants ⟨call,member⟩ other same
            rw [alike] at known
            exact known (List.mem_map_of_mem (f := Prod.snd) held)
        rw [setEntry_new (lookup_none missing)]
        exact keepsEvents_new keeps missing known (Or.inr ⟨rfl,first,apart,plain⟩)

theorem keepsEvents_stored (keeps : KeepsEvents hashes past events) : KeepsEvents hashes past (byKey events) := by
  have perm : (byKey events).Perm events := List.perm_insertionSort ..
  refine ⟨nodup_byKey keeps.keys,(perm.map Prod.snd).nodup_iff.mpr keeps.once,fun event => ?_,fun key event member => ?_⟩
  · rw [(perm.map Prod.snd).mem_iff]
    exact keeps.held event
  · rcases keeps.keyed key event (mem_byKey.mp member) with plain | ⟨variant,other,apart,there⟩
    · exact Or.inl plain
    · exact Or.inr ⟨variant,other,apart,mem_byKey.mpr there⟩

end record

end LongBridge.Notifications
