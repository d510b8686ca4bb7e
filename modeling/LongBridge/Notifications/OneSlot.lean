import LongBridge.Notifications.AnyOrder

namespace LongBridge.Notifications
open Effects

-- The rows of the private state and those of the export, when the last call has ended
def lastRows (stores : CandidateStores) (key : String) : List Row := ((stores.states.cells key).map fun cell => cell.2.runs).getD []

def exportedRows (stores : CandidateStores) (key : String) : CandidateObject := ((stores.exports.cells key).map Prod.snd).getD []

structure Described (key : String) (calls : List PersistRequest) (after : CandidateStores) : Prop where
  exported : exportedRows after key = (lastRows after key).map exportRow
  tells : ∀ row ∈ lastRows after key, Tells calls row
  listed : ∀ call ∈ calls, ∃ row ∈ lastRows after key, row.sourceRunId = call.event.sourceRunId

structure Settled (hashes : CandidateHashes) (key : String) (stores : CandidateStores) (calls : List PersistRequest) : Prop where
  accepted : ∀ order, SameMembers order calls → ∃ after, persistInTurn hashes order stores = .ok after ∧ Described key calls after
  alike : ∀ one two after later, SameMembers one calls → SameMembers two calls → persistInTurn hashes one stores = .ok after →
    persistInTurn hashes two stores = .ok later → List.Forall₂ AlikeRow (exportedRows after key) (exportedRows later key)

-- In every order of the calls one of them raises, or in none.
def OneOutcome (hashes : CandidateHashes) (key : String) (stores : CandidateStores) (calls : List PersistRequest) : Prop :=
  (∀ order, SameMembers order calls → ∃ raised, persistInTurn hashes order stores = .error raised) ∨ Settled hashes key stores calls

def SameMode (one two : PersistRequest) : Prop :=
  ∀ first second, boundTarget one = .ok first → boundTarget two = .ok second → first.2 = second.2

-- Calls for one object of the store
def OneSlot (key : String) (calls : List PersistRequest) : Prop :=
  ∀ call ∈ calls, ∀ identity dryRun, boundTarget call = .ok (identity,dryRun) → candidateKey call identity = key

def OneTime (calls : List PersistRequest) : Prop :=
  ∀ one ∈ calls, ∀ two ∈ calls, one.event.sourceRunId = two.event.sourceRunId → one.event.occurredAt = two.event.occurredAt

instance (calls : List PersistRequest) : Decidable (OneTime calls) :=
  inferInstanceAs (Decidable (∀ one ∈ calls, ∀ two ∈ calls, one.event.sourceRunId = two.event.sourceRunId →
    one.event.occurredAt = two.event.occurredAt))

section slot

theorem slot_plain {slot : String} (valid : slotIsValid slot = true) : '/' ∉ slot.toList := by
  unfold slotIsValid at valid
  cases chars : slot.toList with
  | nil => simp
  | cons first rest =>
    simp only [chars,Bool.and_eq_true,List.all_eq_true] at valid
    obtain ⟨⟨plain,-⟩,others⟩ := valid
    intro member
    rcases List.mem_cons.mp member with rfl | later
    · revert plain
      decide
    · have own := others _ later
      revert own
      decide

theorem boundTarget_slot {call : PersistRequest} {target : Identity × Bool} (bound : boundTarget call = .ok target) : slotIsValid call.slot = true := by
  obtain ⟨⟨identity,dryRun⟩,-,rest⟩ := bind_ok.mp bound
  dsimp only at rest
  split at rest
  · cases rest
  · split at rest
    · cases rest
    · rename_i valid
      simpa using valid

theorem last_part {one two : List Char} {first second : List Char} (plain : '/' ∉ first) (also : '/' ∉ second)
    (same : one ++ '/' :: first = two ++ '/' :: second) : one = two := by
  rcases List.append_eq_append_iff.mp same with ⟨extra,rfl,rest⟩ | ⟨extra,rfl,rest⟩
  · cases extra with
    | nil => rw [List.append_nil]
    | cons char more =>
      obtain ⟨-,rest'⟩ := List.cons.inj rest
      exact absurd (rest' ▸ List.mem_append_right _ List.mem_cons_self) plain
  · cases extra with
    | nil => rw [List.append_nil]
    | cons char more =>
      obtain ⟨-,rest'⟩ := List.cons.inj rest
      exact absurd (rest' ▸ List.mem_append_right _ List.mem_cons_self) also

-- One slot is one business day.
theorem oneSlot_day {key : String} {calls : List PersistRequest} (slot : OneSlot key calls) {one two : PersistRequest} (first : one ∈ calls)
    (second : two ∈ calls) {identity : Identity} {dryRun other : Bool} (bound : boundTarget one = .ok (identity,dryRun))
    (also : boundTarget two = .ok (identity,other)) : one.event.businessDay = two.event.businessDay := by
  have same := (slot one first identity dryRun bound).trans (slot two second identity other also).symm
  have chars := congrArg String.toList same
  unfold candidateKey at chars
  simp only [String.toList_append,List.append_assoc,List.append_cancel_left_eq] at chars
  exact String.toList_injective (last_part (slot_plain (boundTarget_slot bound)) (slot_plain (boundTarget_slot also)) chars)

end slot

section turns
variable {hashes : CandidateHashes} {key : String} {stores : CandidateStores} {calls : List PersistRequest}

theorem lastRows_slot {after : CandidateStores} {last : Option CandidateState} (slot : Slot after key last) :
    lastRows after key = (last.map CandidateState.runs).getD [] ∧ exportedRows after key = (lastRows after key).map exportRow := by
  unfold lastRows exportedRows
  cases last with
  | none =>
    rw [slot.1,slot.2]
    exact ⟨rfl,rfl⟩
  | some state =>
    obtain ⟨⟨version,held⟩,number,exported⟩ := slot
    rw [held,exported]
    exact ⟨rfl,rfl⟩

-- The calls in some order, with repetitions
theorem persistInTurn_sound (separated : SeparatedCalls hashes calls) (scopes : SeparatedScopes hashes calls)
    (ran : ∀ call ∈ calls, call.actuallyRan = true) (slot : OneSlot key calls) (empty : Slot stores key none) {order : List PersistRequest}
    (same : SameMembers order calls) :
    (∃ last after, persistInTurn hashes order stores = .ok after ∧ Slot after key last ∧ Absorbed hashes order last ∧ SoundCalls order) ∨
    ((∃ raised, persistInTurn hashes order stores = .error raised) ∧ ¬SoundCalls order) := by
  have here : OneSlot key order := fun call member => slot call ((same call).mp member)
  rcases absorbAll_step separated scopes ran (fun call member => (same call).mp member) with ⟨last,done,absorbed,sound⟩ | ⟨⟨error,failed⟩,unsound⟩
  · rcases persistInTurn_absorbs here empty with ⟨other,after,also,ended,slotted⟩ | ⟨error,raised,failed,_⟩
    · rw [done] at also
      cases also
      exact Or.inl ⟨last,after,ended,slotted,absorbed,sound⟩
    · rw [done] at failed
      cases failed
  · rcases persistInTurn_absorbs here empty with ⟨other,after,also,ended,slotted⟩ | ⟨_,raised,_,ended⟩
    · rw [failed] at also
      cases also
    · exact Or.inr ⟨⟨raised,ended⟩,unsound⟩

theorem absorbed_described {order : List PersistRequest} {after : CandidateStores} {last : Option CandidateState} (slot : Slot after key last)
    (absorbed : Absorbed hashes order last) : Described key order after := by
  obtain ⟨rows,exported⟩ := lastRows_slot slot
  cases last with
  | none =>
    rw [(absorbed : order = [])]
    refine ⟨exported,fun row member => ?_,fun call member => nomatch member⟩
    rw [rows] at member
    cases member
  | some state =>
    obtain ⟨last,identity,dryRun,-,-,written⟩ := absorbed
    have made : lastRows after key = (byKey state.sources).map (sourceRow identity last.event.businessDay dryRun state.events state.conflicts) :=
      rows.trans written.rows
    refine ⟨exported,fun row member => ?_,fun call member => ?_⟩
    · rw [made] at member
      obtain ⟨⟨run,source⟩,listed,rfl⟩ := List.mem_map.mp member
      exact tells_row written.toSummed (mem_byKey.mp listed) identity _ dryRun
    · obtain ⟨⟨run,source⟩,listed,own⟩ := List.mem_map.mp ((mem_runs written.toSummed).mpr ⟨call,member,rfl⟩)
      rw [made]
      exact ⟨_,List.mem_map_of_mem listed,(sourceRow_run ..).1.trans own⟩

theorem described_members {one two : List PersistRequest} (same : SameMembers one two) {after : CandidateStores} (described : Described key one after) :
    Described key two after :=
  ⟨described.exported,fun row member => tells_members same (described.tells row member),fun call member => described.listed call ((same call).mpr member)⟩

theorem absorbed_empty {order : List PersistRequest} {last : Option CandidateState} (absorbed : Absorbed hashes order last) :
    last = none ↔ order = [] := by
  cases last with
  | none => exact iff_of_true rfl absorbed
  | some state =>
    obtain ⟨last,identity,dryRun,ending,-⟩ := absorbed
    refine iff_of_false (by simp) ?_
    rintro rfl
    cases ending

-- Two orders of calls of one mode end with the same rows.
theorem exported_alike {one two : List PersistRequest} (same : SameMembers one two) (slot : OneSlot key one) (times : OneTime one)
    (mode : ∀ a ∈ one, ∀ b ∈ one, SameMode a b) (sound : SoundCalls one) {after later : CandidateStores} {first second : Option CandidateState}
    (slotted : Slot after key first) (slotted' : Slot later key second) (absorbed : Absorbed hashes one first) (absorbed' : Absorbed hashes two second) :
    List.Forall₂ AlikeRow (exportedRows after key) (exportedRows later key) := by
  obtain ⟨rows,exported⟩ := lastRows_slot slotted
  obtain ⟨rows',exported'⟩ := lastRows_slot slotted'
  rw [exported,exported',rows,rows']
  cases first with
  | none =>
    cases (absorbed : one = [])
    have none : two = [] := List.eq_nil_iff_forall_not_mem.mpr fun call member => nomatch (same call).mpr member
    rw [(absorbed_empty absorbed').mpr none]
    exact List.Forall₂.nil
  | some state =>
    cases second with
    | none =>
      cases (absorbed' : two = [])
      obtain ⟨last,identity,dryRun,ending,-⟩ := absorbed
      exact nomatch (same last).mp (List.mem_of_getLast? ending)
    | some other =>
      obtain ⟨last,identity,dryRun,ending,bound,written⟩ := absorbed
      obtain ⟨last',identity',dryRun',ending',bound',written'⟩ := absorbed'
      have member := List.mem_of_getLast? ending
      have member' := (same last').mpr (List.mem_of_getLast? ending')
      cases (sound.target last member last' member' _ _ bound bound' : identity = identity')
      cases (mode last member last' member' _ _ bound bound' : dryRun = dryRun')
      show List.Forall₂ AlikeRow (state.runs.map exportRow) (other.runs.map exportRow)
      rw [written.rows,written'.rows,List.map_map,List.map_map,oneSlot_day slot member member' bound bound']
      refine forall₂_byKey (runs_alike same written.toSummed written'.toSummed) fun run source theirs listed also => ?_
      exact sourceRow_alike same sound written.toSummed written'.toSummed times (mem_byKey.mp listed) (mem_byKey.mp also) ..

-- The mode of a row is that of the last call.
theorem sourceRow_mode {past : List PersistRequest} {state : CandidateState} (summed : Summed hashes past state) {run : String} {source : SourceRun}
    (listed : (run,source) ∈ state.sources) (identity : Identity) (day : String) (dryRun : Bool) :
    (exportRow (sourceRow identity day dryRun state.events state.conflicts (run,source))).executionMode =
      some (if dryRun then "dry_run" else "live") := by
  obtain ⟨call,-,-,same⟩ := sourceRow_ran summed listed identity day dryRun
  rw [same]
  rfl

theorem exported_mode {order : List PersistRequest} {call : PersistRequest} {after : CandidateStores} {last : Option CandidateState}
    (slotted : Slot after key last) (absorbed : Absorbed hashes (order ++ [call]) last) {identity : Identity} {dryRun : Bool}
    (bound : boundTarget call = .ok (identity,dryRun)) :
    ∃ row rest, exportedRows after key = row :: rest ∧ ∀ other ∈ row :: rest, other.executionMode = some (if dryRun then "dry_run" else "live") := by
  obtain ⟨rows,exported⟩ := lastRows_slot slotted
  have described := absorbed_described slotted absorbed
  obtain ⟨listed,member,-⟩ := described.listed call (List.mem_append_right _ List.mem_cons_self)
  have mode : ∀ other ∈ exportedRows after key, other.executionMode = some (if dryRun then "dry_run" else "live") := by
    cases last with
    | none =>
      rw [rows] at member
      cases member
    | some state =>
      obtain ⟨last,before,dry,ending,known,written⟩ := absorbed
      rw [List.getLast?_concat] at ending
      cases ending
      rw [bound] at known
      cases known
      rw [exported,rows,Option.map_some,Option.getD_some,written.rows]
      intro other shown
      obtain ⟨row,made,rfl⟩ := List.mem_map.mp shown
      obtain ⟨⟨run,source⟩,there,rfl⟩ := List.mem_map.mp made
      exact sourceRow_mode written.toSummed (mem_byKey.mp there) identity _ dryRun
  have shown : exportRow listed ∈ exportedRows after key := by
    rw [exported]
    exact List.mem_map_of_mem member
  cases found : exportedRows after key with
  | nil =>
    rw [found] at shown
    cases shown
  | cons row rest => exact ⟨row,rest,rfl,found ▸ mode⟩

theorem extended_members {call : PersistRequest} (member : call ∈ calls) : SameMembers (calls ++ [call]) calls := by
  intro other
  rw [List.mem_append,List.mem_singleton]
  exact or_iff_left_of_imp fun own => own ▸ member

theorem SoundCalls.members {one two : List PersistRequest} (sound : SoundCalls two) (same : SameMembers one two) : SoundCalls one :=
  sound.of_subset fun call member => (same call).mp member

theorem mode_injective : ∀ one two : Bool,
    (some (if one then "dry_run" else "live") : Option String) = some (if two then "dry_run" else "live") → one = two := by decide

-- The calls in the order that ends with one of them
theorem ends_with (separated : SeparatedCalls hashes calls) (scopes : SeparatedScopes hashes calls) (ran : ∀ call ∈ calls, call.actuallyRan = true)
    (slot : OneSlot key calls) (empty : Slot stores key none) (sound : SoundCalls calls) {call : PersistRequest} (member : call ∈ calls)
    {identity : Identity} {dryRun : Bool} (bound : boundTarget call = .ok (identity,dryRun)) :
    ∃ after row rest, persistInTurn hashes (calls ++ [call]) stores = .ok after ∧ exportedRows after key = row :: rest ∧
      row.executionMode = some (if dryRun then "dry_run" else "live") := by
  rcases persistInTurn_sound separated scopes ran slot empty (extended_members member) with
    ⟨last,after,ended,slotted,absorbed,-⟩ | ⟨-,unsound⟩
  · obtain ⟨row,rest,rows,mode⟩ := exported_mode slotted absorbed bound
    exact ⟨after,row,rest,ended,rows,mode row List.mem_cons_self⟩
  · exact absurd (sound.members (extended_members member)) unsound

theorem settled_mode (separated : SeparatedCalls hashes calls) (scopes : SeparatedScopes hashes calls) (ran : ∀ call ∈ calls, call.actuallyRan = true)
    (slot : OneSlot key calls) (empty : Slot stores key none) (sound : SoundCalls calls) (settled : Settled hashes key stores calls) :
    ∀ one ∈ calls, ∀ two ∈ calls, SameMode one two := by
  intro one first two second target other bound also
  obtain ⟨after,row,rest,ended,rows,mode⟩ := ends_with separated scopes ran slot empty sound first bound
  obtain ⟨later,row',rest',ended',rows',mode'⟩ := ends_with separated scopes ran slot empty sound second also
  have alike := settled.alike _ _ after later (extended_members first) (extended_members second) ended ended'
  rw [rows,rows',List.forall₂_cons] at alike
  have facts := congrArg ExportRow.executionMode alike.1.facts
  exact mode_injective _ _ (mode.symm.trans (facts.trans mode'))

theorem mode_settled (separated : SeparatedCalls hashes calls) (scopes : SeparatedScopes hashes calls) (ran : ∀ call ∈ calls, call.actuallyRan = true)
    (slot : OneSlot key calls) (times : OneTime calls) (empty : Slot stores key none) (sound : SoundCalls calls)
    (mode : ∀ one ∈ calls, ∀ two ∈ calls, SameMode one two) : Settled hashes key stores calls := by
  have ends : ∀ order, SameMembers order calls →
      ∃ last after, persistInTurn hashes order stores = .ok after ∧ Slot after key last ∧ Absorbed hashes order last := by
    intro order same
    rcases persistInTurn_sound separated scopes ran slot empty same with ⟨last,after,ended,slotted,absorbed,-⟩ | ⟨-,unsound⟩
    · exact ⟨last,after,ended,slotted,absorbed⟩
    · exact absurd (sound.members same) unsound
  constructor
  · intro order same
    obtain ⟨last,after,ended,slotted,absorbed⟩ := ends order same
    exact ⟨after,ended,described_members same (absorbed_described slotted absorbed)⟩
  · intro one two after later same same' ended ended'
    obtain ⟨last,stores',done,slotted,absorbed⟩ := ends one same
    obtain ⟨last',stores'',done',slotted',absorbed'⟩ := ends two same'
    rw [ended] at done
    rw [ended'] at done'
    cases done
    cases done'
    have inside : ∀ call ∈ one, call ∈ calls := fun call member => (same call).mp member
    exact exported_alike (fun call => (same call).trans (same' call).symm) (fun call member => slot call (inside call member))
      (fun a first b second => times a (inside a first) b (inside b second)) (fun a first b second => mode a (inside a first) b (inside b second))
      (sound.members same) slotted slotted' absorbed absorbed'

end turns

-- Calls on one slot come to one outcome in every order unless nothing refuses them and two of them differ in mode.
theorem persistInTurn_one_outcome (hashes : CandidateHashes) (key : String) (stores : CandidateStores) (empty : Slot stores key none)
    (calls : List PersistRequest) (ran : ∀ call ∈ calls, call.actuallyRan = true) (slot : OneSlot key calls) (times : OneTime calls)
    (separated : SeparatedCalls hashes calls) (scopes : SeparatedScopes hashes calls) :
    OneOutcome hashes key stores calls ↔ ¬SoundCalls calls ∨ ∀ one ∈ calls, ∀ two ∈ calls, SameMode one two := by
  constructor
  · intro outcome
    by_cases sound : SoundCalls calls
    · rcases outcome with raises | settled
      · rcases persistInTurn_sound separated scopes ran slot empty (fun _ => Iff.rfl) with ⟨last,after,ended,-⟩ | ⟨-,unsound⟩
        · obtain ⟨raised,failed⟩ := raises calls fun _ => Iff.rfl
          rw [ended] at failed
          cases failed
        · exact absurd sound unsound
      · exact Or.inr (settled_mode separated scopes ran slot empty sound settled)
    · exact Or.inl sound
  · intro condition
    by_cases sound : SoundCalls calls
    · exact Or.inr (mode_settled separated scopes ran slot times empty sound (condition.resolve_left (not_not.mpr sound)))
    · refine Or.inl fun order same => ?_
      rcases persistInTurn_sound separated scopes ran slot empty same with ⟨last,after,ended,slotted,absorbed,accepted⟩ | ⟨failed,-⟩
      · exact absurd (accepted.of_subset fun call member => (same call).mpr member) sound
      · exact failed

-- A morning cycle that reports two order counts, and an evening cycle, all in dry run
def dryCycle (run dedupe : String) (orders : ℤ) : PersistRequest :=
  { ranCycle run dedupe with
    binding := .ok (⟨"longbridge","profile","target","account"⟩,true)
    event := { (ranCycle run dedupe).event with orderCount := some orders } }

def dryCalls : List PersistRequest := [dryCycle "morning" "one" 1,dryCycle "morning" "three" 2,dryCycle "evening" "two" 0]

-- A dry run in the morning, a live one in the evening
def modeCalls : List PersistRequest := [dryCycle "morning" "one" 0,ranCycle "evening" "two"]

def sampleSlot : String := "longbridge/2026-01-05/slot"

theorem separatedCalls_iff {hashes : CandidateHashes} {calls : List PersistRequest} : SeparatedCalls hashes calls ↔
    (∀ one ∈ calls, ∀ two ∈ calls, variantKey hashes one.event = variantKey hashes two.event → one.event = two.event) ∧
      ∀ one ∈ calls, ∀ two ∈ calls, one.event.dedupeKey ≠ variantKey hashes two.event := by
  constructor
  · intro separated
    exact ⟨fun one first two second => separated.variants ⟨one,first⟩ ⟨two,second⟩,fun one first two second => separated.plain ⟨one,first⟩ ⟨two,second⟩⟩
  · rintro ⟨variants,plain⟩
    exact ⟨fun one two => variants one.1 one.2 two.1 two.2,fun one two => plain one.1 one.2 two.1 two.2⟩

theorem dryCalls_slot : OneSlot sampleSlot dryCalls := by
  intro call member identity dryRun bound
  simp only [dryCalls,List.mem_cons,List.not_mem_nil,or_false] at member
  rcases member with rfl | rfl | rfl
  all_goals
    cases bound
    rfl

theorem dryCalls_bound : ∀ call ∈ dryCalls, boundTarget call = .ok (⟨"longbridge","profile","target","account"⟩,true) := by
  intro call member
  simp only [dryCalls,List.mem_cons,List.not_mem_nil,or_false] at member
  rcases member with rfl | rfl | rfl <;> rfl

theorem empty_slot (key : String) : Slot .empty key none := ⟨rfl,rfl⟩

theorem dry_calls_agree : OneOutcome plainHashes sampleSlot .empty dryCalls := by
  refine (persistInTurn_one_outcome plainHashes sampleSlot .empty (empty_slot _) dryCalls (by decide) dryCalls_slot (by decide)
    (separatedCalls_iff.mpr ⟨by decide,by decide⟩) fun one first two second target other bound also same => ?_).mpr
    (Or.inr fun one first two second target other bound also => ?_)
  · rw [dryCalls_bound one first] at bound
    rw [dryCalls_bound two second] at also
    cases bound
    cases also
    rfl
  · rw [dryCalls_bound one first] at bound
    rw [dryCalls_bound two second] at also
    cases bound
    cases also
    rfl

theorem alike_modes {one two : CandidateObject} (alike : List.Forall₂ AlikeRow one two) :
    one.map ExportRow.executionMode = two.map ExportRow.executionMode := by
  induction alike with
  | nil => rfl
  | @cons first second _ _ row _ ih =>
    have same := congrArg ExportRow.executionMode row.facts
    exact congrArg₂ List.cons same ih

def shownModes (order : List PersistRequest) : Except PyExc (List (Option String)) :=
  (persistInTurn plainHashes order .empty).map fun after => (exportedRows after sampleSlot).map ExportRow.executionMode

theorem shownModes_ran {order : List PersistRequest} {modes : List (Option String)} (shown : shownModes order = .ok modes) :
    ∃ after, persistInTurn plainHashes order .empty = .ok after ∧ (exportedRows after sampleSlot).map ExportRow.executionMode = modes := by
  unfold shownModes at shown
  cases ran : persistInTurn plainHashes order .empty with
  | error raised =>
    rw [ran] at shown
    cases shown
  | ok after =>
    rw [ran] at shown
    cases shown
    exact ⟨after,rfl,rfl⟩

-- Whichever comes last, both rows take its mode.
theorem modeCalls_shown : shownModes modeCalls = .ok [some "live",some "live"] ∧ shownModes modeCalls.reverse = .ok [some "dry_run",some "dry_run"] := by
  constructor <;> decide +kernel

theorem rows_take_the_last_mode : (∀ call ∈ modeCalls, call.actuallyRan = true) ∧ OneTime modeCalls ∧
    ¬OneOutcome plainHashes sampleSlot .empty modeCalls := by
  refine ⟨by decide,by decide,?_⟩
  obtain ⟨after,ended,modes⟩ := shownModes_ran modeCalls_shown.1
  obtain ⟨later,ended',modes'⟩ := shownModes_ran modeCalls_shown.2
  rintro (raises | settled)
  · obtain ⟨raised,failed⟩ := raises modeCalls fun _ => Iff.rfl
    rw [ended] at failed
    cases failed
  · have alike := alike_modes (settled.alike _ _ after later (fun _ => Iff.rfl) (fun _ => List.mem_reverse) ended ended')
    rw [modes,modes'] at alike
    revert alike
    decide

end LongBridge.Notifications
