import LongBridge.Notifications.Recorded

namespace LongBridge.Notifications
open Effects

-- What one call has in hand: its last reads of state and export, whether the state was
-- read behind the export, and what it has exported.
structure Persisting where
  seenState : Option (String × Option (ℕ × CandidateState))
  seenExport : Option (String × Option (ℕ × CandidateObject))
  inOrder : Bool
  exported : Option (String × CandidateObject)

namespace Persisting

def fresh : Persisting := ⟨none,none,false,none⟩

def readState (phase : Persisting) (key : String) (found : Option (ℕ × CandidateState)) : Persisting :=
  { phase with seenState := some (key,found), inOrder := phase.seenExport.map Prod.fst == some key }

def readExport (phase : Persisting) (key : String) (found : Option (ℕ × CandidateObject)) : Persisting :=
  { phase with seenExport := some (key,found), inOrder := false }

def wroteState (phase : Persisting) : Persisting := { phase with seenState := none, inOrder := false }

def wroteExport (phase : Persisting) (key : String) (value : CandidateObject) : Persisting :=
  { phase with exported := some (key,value), inOrder := false }

end Persisting

section Rules

variable {ι : Type} (hashes : CandidateHashes) (requests : ι → PersistRequest)

def MaySetState (phase : Persisting) (key : String) (version : Option ℕ) (value : CandidateState) : Prop :=
  ∃ found, phase.seenState = some (key,found) ∧ version = found.map Prod.fst ∧ Recorded hashes requests value ∧
    ∀ number state, found = some (number,state) → Grows state value

def MaySetExport (phase : Persisting) (key : String) (version : Option ℕ) (value : CandidateObject) : Prop :=
  phase.inOrder = true ∧ ∃ found number state, phase.seenExport = some (key,found) ∧ version = found.map Prod.fst ∧
    phase.seenState = some (key,some (number,state)) ∧ value = projection state

def persistMoved (phase : Persisting) : (call : CandidateCall) → Except PyExc call.Result → Persisting
  | .readState key,.ok found => phase.readState key found
  | .readExport key,.ok found => phase.readExport key found
  | .setState ..,.ok _ => phase.wroteState
  | .setExport key _ value,.ok true => phase.wroteExport key value
  | _,_ => phase

-- Either store may fail; the private state is always one that calls have written.
def onePersist : Discipline candidatePorts PyExc Persisting where
  allow phase call := match call with
    | .setState key version value => MaySetState hashes requests phase key version value
    | .setExport key version value => MaySetExport phase key version value
    | _ => True
  possible _ call answer := match call,answer with
    | .readState _,.ok (some (_,state)) => Recorded hashes requests state
    | _,_ => True
  move := persistMoved

-- A call that returns True has seen or written an object that shows what it recorded.
def Persisted (who : ι) (phase : Persisting) (result : Except PyExc Bool) : Prop :=
  result = .ok true → ∃ identity dryRun, (requests who).binding = .ok (identity,dryRun) ∧
    ∃ state, Recorded hashes requests state ∧ Holds (requests who) state ∧
      (phase.exported = some (candidateKey (requests who) identity,projection state) ∨
        ∃ version, phase.seenExport = some (candidateKey (requests who) identity,some (version,projection state)))

end Rules

section Calls

variable {ι : Type} {hashes : CandidateHashes} {requests : ι → PersistRequest} {phase : Persisting} {held : Bool} {key : String}

theorem readState_promises {ends : Persisting → Except PyExc (Option (ℕ × CandidateState)) → Unit → Prop}
    (failed : ∀ exc, ends phase (.error exc) ())
    (next : ∀ found, (∀ number state, found = some (number,state) → Recorded hashes requests state) →
      ends (phase.readState key found) (.ok found) ()) :
    (askCandidate (.readState key)).Promises (onePersist hashes requests) ends phase held () := by
  refine promises_invoke.mpr ⟨trivial,fun answer possible => ?_⟩
  match answer with
  | .error exc => exact failed exc
  | .ok none => exact next none fun _ _ same => nomatch same
  | .ok (some cell) =>
    refine next (some cell) fun number state same => ?_
    cases same
    exact possible

theorem readExport_promises {ends : Persisting → Except PyExc (Option (ℕ × CandidateObject)) → Unit → Prop}
    (failed : ∀ exc, ends phase (.error exc) ()) (next : ∀ found, ends (phase.readExport key found) (.ok found) ()) :
    (askCandidate (.readExport key)).Promises (onePersist hashes requests) ends phase held () := by
  refine promises_invoke.mpr ⟨trivial,fun answer _ => ?_⟩
  cases answer with
  | error exc => exact failed exc
  | ok found => exact next found

theorem exportProjection_promises {who : ι} {identity : Identity} {dryRun : Bool} {state : CandidateState}
    (bound : (requests who).binding = .ok (identity,dryRun)) (recorded : Recorded hashes requests state)
    (holds : Holds (requests who) state) :
    (exportProjection (candidateKey (requests who) identity) state).Promises (onePersist hashes requests)
      (fun phase result _ => Persisted hashes requests who phase result) phase held () := by
  have failed : ∀ {phase : Persisting} {exc : PyExc}, Persisted hashes requests who phase (.error exc) :=
    fun same => nomatch same
  refine promises_bind.mpr (readExport_promises (fun _ => failed) fun previous =>
    promises_bind.mpr (readState_promises (fun _ => failed) fun latest known => ?_))
  change Script.Promises (if _ then _ else _) _ _ _ _ _
  split
  · exact promises_raise.mpr failed
  · rename_i current
    have read : latest.map Prod.snd = some state.stored := not_not.mp current
    obtain ⟨⟨number,found⟩,rfl,rfl⟩ := Option.map_eq_some_iff.mp read
    split
    · rename_i same
      obtain ⟨⟨version,object⟩,rfl,equal⟩ := Option.map_eq_some_iff.mp same
      refine promises_pure.mpr fun _ => ⟨identity,dryRun,bound,state,recorded,holds,.inr ⟨version,?_⟩⟩
      have object : object = projection state := equal
      rw [object]; rfl
    · refine promises_bind.mpr (promises_invoke.mpr ⟨⟨?_,previous,number,state.stored,rfl,rfl,rfl,rfl⟩,?_⟩)
      · exact beq_self_eq_true _
      · intro answer _
        match answer with
        | .error exc => exact failed
        | .ok true => exact promises_pure.mpr fun _ => ⟨identity,dryRun,bound,state,recorded,holds,.inl rfl⟩
        | .ok false => exact promises_raise.mpr failed

theorem persistCandidate_promises (separated : Separated hashes requests) (who : ι) :
    (persistCandidate hashes (requests who)).Promises (onePersist hashes requests)
      (fun phase result _ => Persisted hashes requests who phase result) phase held () := by
  have failed : ∀ {phase : Persisting} {exc : PyExc}, Persisted hashes requests who phase (.error exc) :=
    fun same => nomatch same
  refine promises_bind.mpr (promises_fromExcept.mpr ?_)
  cases checked : boundTarget (requests who) with
  | error exc => exact failed
  | ok target =>
    obtain ⟨identity,dryRun⟩ := target
    have bound : (requests who).binding = .ok (identity,dryRun) := by
      obtain ⟨⟨own,flag⟩,bound,rest⟩ := bind_ok.mp checked
      dsimp only at rest
      split at rest
      · cases rest
      · split at rest
        · cases rest
        · cases rest; exact bound
    refine promises_bind.mpr (readState_promises (fun _ => failed) fun read known => ?_)
    -- Whatever the history check reads, the state in hand stays the same.
    have checking : ∀ {phase : Persisting}, phase.seenState = some (candidateKey (requests who) identity,read) →
        (checkHistory hashes identity (candidateKey (requests who) identity) read).Promises (onePersist hashes requests)
          (fun phase _ _ => phase.seenState = some (candidateKey (requests who) identity,read)) phase held () := by
      intro phase seen
      cases read with
      | none =>
        refine promises_bind.mpr (readExport_promises (fun _ => seen) fun found => ?_)
        change Script.Promises (if _ then _ else _) _ _ _ _ _
        split
        · exact promises_raise.mpr seen
        · exact promises_pure.mpr seen
      | some cell =>
        change Script.Promises (if _ then _ else _) _ _ _ _ _
        split
        · exact promises_raise.mpr seen
        · exact promises_pure.mpr seen
    refine promises_bind.mpr (promises_mono ?_ (checking rfl))
    intro phase result _ seen
    cases result with
    | error exc => exact failed
    | ok _ =>
      refine promises_bind.mpr (promises_fromExcept.mpr ?_)
      cases merged : mergedState hashes (requests who) identity dryRun ((read.map Prod.snd).getD emptyState) with
      | error exc => exact failed
      | ok state =>
        have previous : Recorded hashes requests ((read.map Prod.snd).getD emptyState) := by
          cases read with
          | none => exact recorded_empty
          | some cell => exact known cell.1 cell.2 rfl
        obtain ⟨recorded,grows,holds⟩ := mergedState_records separated previous merged
        refine promises_bind.mpr ?_
        change Script.Promises (if _ then _ else _) _ _ _ _ _
        split
        · exact promises_pure.mpr (exportProjection_promises bound recorded holds)
        · refine promises_bind.mpr (promises_invoke.mpr ⟨⟨read,seen,rfl,recorded_stored recorded,?_⟩,?_⟩)
          · rintro number old rfl
            exact grows_stored grows
          · intro answer _
            match answer with
            | .error exc => exact failed
            | .ok true => exact promises_pure.mpr (exportProjection_promises bound recorded holds)
            | .ok false => exact promises_raise.mpr failed

end Calls

end LongBridge.Notifications
