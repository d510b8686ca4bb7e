import LongBridge.Notifications.KeptEvents
import LongBridge.Notifications.Summed

namespace LongBridge.Notifications
open Effects

-- Two calls of one identity
def SameTarget (one two : PersistRequest) : Prop :=
  ∀ first second, boundTarget one = .ok first → boundTarget two = .ok second → first.1 = second.1

-- Two calls that do not give a run different observation counts
def AgreeOnRun (one two : PersistRequest) : Prop :=
  one.event.sourceRunId = two.event.sourceRunId → ∀ first second, observedCounts one = some first → observedCounts two = some second → first = second

-- Digests of the calls' identities differ.
def SeparatedScopes (hashes : CandidateHashes) (calls : List PersistRequest) : Prop :=
  ∀ one ∈ calls, ∀ two ∈ calls, ∀ first second, boundTarget one = .ok first → boundTarget two = .ok second →
    hashes.scope first.1 = hashes.scope second.1 → first.1 = second.1

-- Calls that nothing refuses: each is bound and readable, and no two of them disagree.
structure SoundCalls (calls : List PersistRequest) : Prop where
  bound : ∀ call ∈ calls, ∃ target, boundTarget call = .ok target
  executed : ∀ call ∈ calls, call.notRun = false
  read : ∀ call ∈ calls, ∃ given, callCounts call = .ok given
  target : ∀ one ∈ calls, ∀ two ∈ calls, SameTarget one two
  agree : ∀ one ∈ calls, ∀ two ∈ calls, AgreeOnRun one two

theorem SoundCalls.of_subset {calls others : List PersistRequest} (sound : SoundCalls calls) (subset : others ⊆ calls) : SoundCalls others := by
  refine ⟨fun call member => sound.bound call (subset member),fun call member => sound.executed call (subset member),
    fun call member => sound.read call (subset member),fun one first two second => sound.target one (subset first) two (subset second),
    fun one first two second => sound.agree one (subset first) two (subset second)⟩

theorem soundCalls_nil : SoundCalls [] := by constructor <;> simp

section snoc

theorem all_snoc {α : Type} {p : α → Prop} {items : List α} {last : α} (old : ∀ item ∈ items, p item) (new : p last) : ∀ item ∈ items ++ [last], p item := by
  intro item member
  rcases List.mem_append.mp member with earlier | own
  · exact old item earlier
  · rw [List.mem_singleton.mp own]
    exact new

theorem pairs_snoc {α : Type} {r : α → α → Prop} {items : List α} {last : α} (symm : ∀ one two, r one two → r two one)
    (old : ∀ one ∈ items, ∀ two ∈ items, r one two) (new : ∀ one ∈ items, r one last) (self : r last last) :
    ∀ one ∈ items ++ [last], ∀ two ∈ items ++ [last], r one two :=
  all_snoc (fun one first => all_snoc (old one first) (new one first)) (all_snoc (fun two second => symm two last (new two second)) self)

end snoc

structure Summed (hashes : CandidateHashes) (past : List PersistRequest) (state : CandidateState) : Prop where
  events : KeepsEvents hashes past state.events
  sources : SumsSources past state.sources state.conflicts

-- The state that the last of the calls has made
structure Written (hashes : CandidateHashes) (past : List PersistRequest) (last : PersistRequest) (identity : Identity) (dryRun : Bool)
    (state : CandidateState) : Prop extends Summed hashes past state where
  scope : state.scopeKey = hashes.scope identity
  rows : state.runs = (byKey state.sources).map (sourceRow identity last.event.businessDay dryRun state.events state.conflicts)

def Absorbed (hashes : CandidateHashes) (past : List PersistRequest) : Option CandidateState → Prop
  | none => past = []
  | some state => ∃ last identity dryRun, past.getLast? = some last ∧ boundTarget last = .ok (identity,dryRun) ∧
      Written hashes past last identity dryRun state

section absorb
variable {hashes : CandidateHashes} {calls past : List PersistRequest} {call : PersistRequest} {state : Option CandidateState}

theorem absorbed_base (absorbed : Absorbed hashes past state) :
    Summed hashes past ((state.map CandidateState.stored).getD emptyState) := by
  cases state with
  | none =>
    cases (absorbed : past = [])
    exact ⟨keepsEvents_nil hashes,sumsSources_nil⟩
  | some state =>
    obtain ⟨last,identity,dryRun,-,-,written⟩ := absorbed
    exact ⟨keepsEvents_stored written.events,sumsSources_stored written.sources⟩

theorem mem_runCounts {run : String} {counts : Counts} : counts ∈ runCounts run past ↔
    ∃ call ∈ past, call.event.sourceRunId = run ∧ observedCounts call = some counts := by
  unfold runCounts
  rw [List.mem_filterMap]
  constructor
  · rintro ⟨call,member,found⟩
    split at found
    · exact ⟨call,member,‹_›,found⟩
    · cases found
  · rintro ⟨call,member,own,found⟩
    exact ⟨call,member,(if_pos own).trans found⟩

-- The counts that are kept for a run are those every call of it gives.
theorem runCounts_agree (sound : SoundCalls past) {run : String} {counts : Counts} :
    (runCounts run past).head? = some counts ↔ counts ∈ runCounts run past := by
  constructor
  · exact List.mem_of_head?
  · intro member
    cases held : runCounts run past with
    | nil => rw [held] at member; cases member
    | cons first rest =>
      obtain ⟨one,there,own,gives⟩ := mem_runCounts.mp member
      obtain ⟨two,also,same,tells⟩ := mem_runCounts.mp (held ▸ List.mem_cons_self : first ∈ runCounts run past)
      rw [sound.agree two also one there (same.trans own.symm) first counts tells gives]
      rfl

theorem mergedCounts_iff (sound : SoundCalls past) {sources : List (String × SourceRun)} {conflicts : List Conflict}
    (sums : SumsSources past sources conflicts) : (∃ counts, mergedCounts call (sources.lookup call.event.sourceRunId) = .ok counts) ↔
      (∃ given, callCounts call = .ok given) ∧ ∀ other ∈ past, AgreeOnRun other call := by
  constructor
  · rintro ⟨counts,merged⟩
    obtain ⟨given,read,agree,-⟩ := mergedCounts_ok.mp merged
    refine ⟨⟨given,read⟩,fun other member same first second tells gives => ?_⟩
    have kept := (runCounts_agree sound).mpr (mem_runCounts.mpr ⟨other,member,same,tells⟩)
    rw [observedCounts,read] at gives
    exact agree second first gives ((sums.observed _).trans kept)
  · rintro ⟨⟨given,read⟩,agree⟩
    refine ⟨_,mergedCounts_ok.mpr ⟨given,read,fun told held gives found => ?_,rfl⟩⟩
    rw [sums.observed,runCounts_agree sound] at found
    obtain ⟨other,member,same,tells⟩ := mem_runCounts.mp found
    exact agree other member same held told tells (by rw [observedCounts,read,gives])

theorem sameTarget_symm (one two : PersistRequest) (same : SameTarget one two) : SameTarget two one :=
  fun first second bound known => (same second first known bound).symm

theorem sameTarget_self (call : PersistRequest) : SameTarget call call := by
  intro first second bound known
  rw [bound] at known
  cases known
  rfl

theorem agreeOnRun_symm (one two : PersistRequest) (agree : AgreeOnRun one two) : AgreeOnRun two one :=
  fun same first second tells gives => (agree same.symm second first gives tells).symm

theorem agreeOnRun_self (call : PersistRequest) : AgreeOnRun call call := by
  intro _ first second tells gives
  rw [tells] at gives
  cases gives
  rfl

-- A scope that is the slot's own is the target of every call before.
theorem absorbed_target (scopes : SeparatedScopes hashes calls) (earlier : past ⊆ calls) (own : call ∈ calls) (sound : SoundCalls past) (absorbed : Absorbed hashes past state)
    {identity : Identity} {dryRun : Bool} (bound : boundTarget call = .ok (identity,dryRun))
    (matching : ¬(state.any fun previous => previous.scopeKey ≠ hashes.scope identity) = true) : ∀ other ∈ past, SameTarget other call := by
  intro other member first second known found
  rw [bound] at found
  cases found
  cases state with
  | none =>
    rw [(absorbed : past = [])] at member
    cases member
  | some previous =>
    obtain ⟨last,before,dry,ending,given,written⟩ := absorbed
    have there := List.mem_of_getLast? ending
    have scope : previous.scopeKey = hashes.scope identity := by simpa using matching
    have same : before = identity := scopes last (earlier there) call own _ _ given bound (written.scope.symm.trans scope)
    exact (sound.target other member last there _ _ known given).trans same

theorem recordSource_refused (ran : call.actuallyRan = true) (marked : call.notRun = true) {dryRun : Bool} {sources : List (String × SourceRun)}
    {conflicts : List Conflict} : recordSource call dryRun sources conflicts = .error nonExecutionConflict := by
  rw [recordSource,idleSources,marked,if_pos rfl,recordNotRun,ran]
  rfl

-- A call that ran is merged unless its counts are refused.
theorem mergedState_step (separated : SeparatedCalls hashes calls) (earlier : past ⊆ calls) (member : call ∈ calls) (ran : call.actuallyRan = true)
    {previous : CandidateState} (base : Summed hashes past previous) (identity : Identity) (dryRun : Bool) :
    (call.notRun = false ∧ (∃ counts, mergedCounts call (previous.sources.lookup call.event.sourceRunId) = .ok counts) ∧
      ∃ next, mergedState hashes call identity dryRun previous = .ok next ∧ Written hashes (past ++ [call]) call identity dryRun next) ∨
    ((∃ error, mergedState hashes call identity dryRun previous = .error error) ∧ (call.notRun = true ∨
      ¬∃ counts, mergedCounts call (previous.sources.lookup call.event.sourceRunId) = .ok counts)) := by
  unfold mergedState
  dsimp only
  cases recorded : recordSource call dryRun previous.sources previous.conflicts with
  | error raised =>
    refine Or.inr ⟨⟨raised,rfl⟩,?_⟩
    cases idle : call.notRun with
    | true => exact Or.inl rfl
    | false =>
      refine Or.inr fun ⟨counts,merged⟩ => ?_
      have through : recordSource call dryRun previous.sources previous.conflicts = .ok (_,_) :=
        (recordSource_ran ran idle (base.sources.ran _)).mpr ⟨counts,merged,rfl,rfl⟩
      rw [recorded] at through
      cases through
  | ok merged =>
    obtain ⟨sources,conflicts⟩ := merged
    have idle : call.notRun = false := by
      cases marked : call.notRun with
      | false => rfl
      | true =>
        rw [recordSource_refused ran marked] at recorded
        cases recorded
    obtain ⟨counts,merged,-⟩ := (recordSource_ran ran idle (base.sources.ran _)).mp recorded
    exact Or.inl ⟨idle,⟨counts,merged⟩,_,rfl,⟨⟨keepsEvents_record separated base.events earlier member,sumsSources_record base.sources ran idle recorded⟩,rfl,rfl⟩⟩

-- One call adds itself to what the state says, or is refused whatever comes after.
theorem absorb_step (separated : SeparatedCalls hashes calls) (scopes : SeparatedScopes hashes calls) (earlier : past ⊆ calls)
    (member : call ∈ calls) (ran : call.actuallyRan = true) (sound : SoundCalls past) (absorbed : Absorbed hashes past state) :
    (∃ next, absorb hashes state call = .ok next ∧ Absorbed hashes (past ++ [call]) (some next) ∧ SoundCalls (past ++ [call])) ∨
    ((∃ error, absorb hashes state call = .error error) ∧ ¬SoundCalls (past ++ [call])) := by
  have own : call ∈ past ++ [call] := List.mem_append_right _ List.mem_cons_self
  cases bound : boundTarget call with
  | error raised =>
    refine Or.inr ⟨⟨raised,by rw [absorb,bound]; rfl⟩,fun all => ?_⟩
    obtain ⟨target,found⟩ := all.bound call own
    rw [bound] at found
    cases found
  | ok target =>
    obtain ⟨identity,dryRun⟩ := target
    rw [absorb_bound bound]
    by_cases apart : (state.any fun previous => previous.scopeKey ≠ hashes.scope identity) = true
    · rw [if_pos apart]
      refine Or.inr ⟨⟨_,rfl⟩,fun all => ?_⟩
      obtain ⟨previous,rfl,differs⟩ := (Option.any_eq_true _ _).mp apart
      obtain ⟨last,before,dry,ending,known,written⟩ := absorbed
      have there : last ∈ past ++ [call] := List.mem_append_left _ (List.mem_of_getLast? ending)
      have same : before = identity := all.target last there call own _ _ known bound
      exact absurd (written.scope.trans (congrArg hashes.scope same)) (of_decide_eq_true differs)
    · rw [if_neg apart]
      rcases mergedState_step separated earlier member ran (absorbed_base absorbed) identity dryRun with
        ⟨idle,counted,next,merged,written⟩ | ⟨refused,reason⟩
      · obtain ⟨read,agree⟩ := (mergedCounts_iff sound (absorbed_base absorbed).sources).mp counted
        refine Or.inl ⟨next,merged,⟨call,identity,dryRun,List.getLast?_concat,bound,written⟩,all_snoc sound.bound ⟨_,bound⟩,all_snoc sound.executed idle,
          all_snoc sound.read read,pairs_snoc sameTarget_symm sound.target (fun other before => ?_) (sameTarget_self call),
          pairs_snoc agreeOnRun_symm sound.agree agree (agreeOnRun_self call)⟩
        exact absorbed_target scopes earlier member sound absorbed bound apart other before
      · refine Or.inr ⟨refused,fun all => ?_⟩
        rcases reason with marked | failed
        · rw [all.executed call own] at marked
          cases marked
        · exact failed ((mergedCounts_iff sound (absorbed_base absorbed).sources).mpr ⟨all.read call own,fun other before =>
            all.agree other (List.mem_append_left _ before) call own⟩)

-- Calls one after another
theorem absorbAll_step (separated : SeparatedCalls hashes calls) (scopes : SeparatedScopes hashes calls)
    (ran : ∀ call ∈ calls, call.actuallyRan = true) (subset : past ⊆ calls) :
    (∃ last, absorbAll hashes past none = .ok last ∧ Absorbed hashes past last ∧ SoundCalls past) ∨
    ((∃ error, absorbAll hashes past none = .error error) ∧ ¬SoundCalls past) := by
  induction past using List.reverseRecOn with
  | nil => exact Or.inl ⟨none,rfl,rfl,soundCalls_nil⟩
  | append_singleton past call ih =>
    have before : past ⊆ calls := fun other member => subset (List.mem_append_left _ member)
    have member : call ∈ calls := subset (List.mem_append_right _ List.mem_cons_self)
    unfold absorbAll at ih ⊢
    rw [List.foldlM_append]
    rcases ih before with ⟨last,done,absorbed,sound⟩ | ⟨⟨error,raised⟩,unsound⟩
    · rw [done]
      rcases absorb_step separated scopes before member (ran call member) sound absorbed with
        ⟨next,merged,held,all⟩ | ⟨⟨error,raised⟩,refused⟩
      · refine Or.inl ⟨some next,?_,held,all⟩
        show ((absorb hashes last call).map some >>= pure) = _
        rw [merged]
        rfl
      · refine Or.inr ⟨⟨error,?_⟩,refused⟩
        show ((absorb hashes last call).map some >>= pure) = _
        rw [raised]
        rfl
    · refine Or.inr ⟨⟨error,?_⟩,fun all => unsound (all.of_subset fun other member => List.mem_append_left _ member)⟩
      rw [raised]
      rfl

end absorb

end LongBridge.Notifications
