import Mathlib.Algebra.BigOperators.Group.List.Basic
import Mathlib.Data.List.Induction
import Mathlib.Tactic.Linarith
import LongBridge.Effects.Fallible
import LongBridge.Paper.Proposals

namespace LongBridge.Paper
open Effects Sorting

-- What float() makes of a value that is finite
def finiteValue (value : PyVal) : ℚ := (asFiniteNumber value "").toOption.getD 0

theorem asFiniteNumber_ok {value : PyVal} {fieldName : String} {number : ℚ} (read : asFiniteNumber value fieldName = .ok number) :
    finiteValue value = number := by
  unfold finiteValue
  unfold asFiniteNumber at read ⊢
  split at read
  · obtain rfl := Except.ok.inj read
    rfl
  · cases read
  · split at read <;> cases read

section stated

-- The targets an intent states under one symbol, in order
def statedTargets (rawTargets : List (PyVal × PyVal)) (symbol : String) : List ℚ :=
  (rawTargets.filter fun entry => normalizedSymbol entry.1 = symbol).map fun entry => finiteValue entry.2

def totalTarget (intent : Intent) (symbol : String) : ℚ := (statedTargets (intent.targets.getD []) symbol).sum

def lastTarget (intent : Intent) (symbol : String) : ℚ := (statedTargets (intent.targets.getD []) symbol).getLast?.getD 0

-- The current value: the sum of all positions of the symbol
def heldValue (portfolio : Portfolio) (symbol : String) : ℚ :=
  ((portfolio.positions.filter fun position => normalizedSymbol position.symbol = symbol).map fun position => finiteValue position.marketValue).sum

theorem getOrZero_set_same (amounts : Amounts) (key : String) (value : ℚ) : (amounts.set key value).getOrZero key = value := by
  rw [Amounts.getOrZero,Amounts.lookup_set_same]
  rfl

theorem getOrZero_set_other (amounts : Amounts) {key other : String} (value : ℚ) (unlike : other ≠ key) :
    (amounts.set key value).getOrZero other = amounts.getOrZero other := by
  rw [Amounts.getOrZero,Amounts.lookup_set_other amounts value unlike]
  rfl

theorem statedTargets_append (rawTargets : List (PyVal × PyVal)) (entry : PyVal × PyVal) (symbol : String) :
    statedTargets (rawTargets ++ [entry]) symbol =
      statedTargets rawTargets symbol ++ if normalizedSymbol entry.1 = symbol then [finiteValue entry.2] else [] := by
  by_cases same : normalizedSymbol entry.1 = symbol <;> simp [statedTargets,same]

-- A dict keeps the last value that was written under a key.
theorem targets_keep_last {rawTargets : List (PyVal × PyVal)} {targets : Amounts} (read : rawTargets.foldlM keepTarget [] = .ok targets)
    {symbol : String} (named : symbol ≠ "") : targets.getOrZero symbol = (statedTargets rawTargets symbol).getLast?.getD 0 := by
  induction rawTargets using List.reverseRecOn generalizing targets with
  | nil =>
    rw [List.foldlM_nil,return_ok] at read
    subst read
    rfl
  | append_singleton rows entry ih =>
    rw [List.foldlM_append,bind_ok] at read
    obtain ⟨middle,early,late⟩ := read
    rw [List.foldlM_cons,bind_ok] at late
    obtain ⟨last,one,done⟩ := late
    rw [List.foldlM_nil,return_ok] at done
    subst done
    rw [statedTargets_append]
    unfold keepTarget at one
    split at one
    · rename_i blank
      obtain rfl := Except.ok.inj one
      have unlike : normalizedSymbol entry.1 ≠ symbol := fun same => named (same.symm.trans blank)
      rw [if_neg unlike,List.append_nil]
      exact ih early
    · obtain ⟨number,finite,one⟩ := bind_ok.mp one
      obtain rfl := return_ok.mp one
      by_cases same : normalizedSymbol entry.1 = symbol
      · rw [if_pos same,same,getOrZero_set_same,List.getLast?_concat,asFiniteNumber_ok finite]
        rfl
      · rw [if_neg same,List.append_nil,getOrZero_set_other _ _ (Ne.symm same)]
        exact ih early

end stated

section positions
variable {strategySymbols : List String} {book next : Book} {position : HeldPosition}

-- A position that leaves no finding is counted in full.
theorem reconcilePosition_clean (ran : reconcilePosition strategySymbols book position = .ok next) (clean : next.findings = []) :
    book.findings = [] ∧ normalizedSymbol position.symbol ∈ strategySymbols ∧
      next.values = book.values.set (normalizedSymbol position.symbol)
        (book.values.getOrZero (normalizedSymbol position.symbol) + finiteValue position.marketValue) := by
  have noted : ∀ other : Book, other.mismatch.findings ≠ [] := fun other => List.append_ne_nil_of_right_ne_nil _ (List.cons_ne_nil _ _)
  unfold reconcilePosition at ran
  dsimp only at ran
  split at ran
  · obtain rfl := Except.ok.inj ran
    exact absurd clean (noted book)
  · rename_i listed
    have inside : normalizedSymbol position.symbol ∈ strategySymbols := by
      by_contra outside
      exact listed (Or.inr outside)
    split at ran
    · split at ran
      · obtain rfl := Except.ok.inj ran
        exact absurd clean (noted book)
      · cases ran
    · rename_i marketValue quantity read
      obtain ⟨value,finite,read⟩ := bind_ok.mp read
      obtain ⟨amount,_,read⟩ := bind_ok.mp read
      obtain ⟨rfl,rfl⟩ := Prod.mk.inj (return_ok.mp read)
      obtain rfl := Except.ok.inj ran
      split at clean
      · exact absurd clean (noted book)
      · rename_i fine
        rw [if_neg fine]
        refine ⟨clean,inside,?_⟩
        rw [asFiniteNumber_ok finite]
        rfl

theorem positions_sum {portfolio : Portfolio} (ran : portfolio.positions.foldlM (reconcilePosition strategySymbols) ⟨[],[],[]⟩ = .ok book)
    (clean : book.findings = []) (symbol : String) : book.values.getOrZero symbol = heldValue portfolio symbol := by
  unfold heldValue
  generalize portfolio.positions = positions at ran ⊢
  induction positions using List.reverseRecOn generalizing book with
  | nil =>
    rw [List.foldlM_nil,return_ok] at ran
    subst ran
    rfl
  | append_singleton rows row ih =>
    rw [List.foldlM_append,bind_ok] at ran
    obtain ⟨middle,early,late⟩ := ran
    rw [List.foldlM_cons,bind_ok] at late
    obtain ⟨last,one,done⟩ := late
    rw [List.foldlM_nil,return_ok] at done
    subst done
    obtain ⟨before,_,values⟩ := reconcilePosition_clean one clean
    rw [values]
    by_cases same : normalizedSymbol row.symbol = symbol
    · rw [same,getOrZero_set_same,ih before early]
      simp [same]
    · rw [getOrZero_set_other _ _ (Ne.symm same),ih before early]
      simp [same]

theorem checkCash_clean {portfolio : Portfolio} (ran : checkCash portfolio book = .ok next) (clean : next.findings = []) : next = book := by
  have noted : ∀ other : Book, other.mismatch.findings ≠ [] := fun other => List.append_ne_nil_of_right_ne_nil _ (List.cons_ne_nil _ _)
  unfold checkCash at ran
  split at ran
  · exact (Except.ok.inj ran).symm
  · split at ran
    · split at ran
      · obtain rfl := Except.ok.inj ran
        exact absurd clean (noted book)
      · cases ran
    · obtain rfl := Except.ok.inj ran
      split at clean
      · exact absurd clean (noted book)
      · rename_i mismatch _ agree
        rw [if_neg agree]

end positions

section loop
variable {quote : String → Except PyExc PyVal} {targets : Amounts} {book : Book} {symbols : List String} {proposals : List Proposal}

-- Symbols that are to be traded
def due (targets : Amounts) (book : Book) (symbol : String) : Bool :=
  decide (notionalTolerance < |targets.getOrZero symbol - book.values.getOrZero symbol|)

-- The proposals of a loop that leaves no finding: one for each symbol that is due, in the order of the symbols
theorem propose_clean (ran : propose quote targets book symbols = (proposals,[])) :
    List.Forall₂ (fun symbol made => ∃ price, 0 < price ∧
      made = proposal symbol (book.values.getOrZero symbol) (targets.getOrZero symbol) (book.quantities.getOrZero symbol) price)
      (symbols.filter (due targets book)) proposals := by
  induction symbols generalizing proposals with
  | nil =>
    obtain ⟨rfl,_⟩ := Prod.mk.inj ran
    exact .nil
  | cons symbol rest ih =>
    cases inner : propose quote targets book rest with
    | mk made findings =>
      unfold propose at ran
      rw [inner] at ran
      dsimp only at ran
      split at ran
      · rename_i near
        obtain ⟨rfl,rfl⟩ := Prod.mk.inj ran
        rw [List.filter_cons_of_neg (by simpa [due] using near)]
        exact ih inner
      · rename_i far
        split at ran
        · cases (Prod.mk.inj ran).2
        · rename_i price priced
          obtain ⟨rfl,rfl⟩ := Prod.mk.inj ran
          rw [List.filter_cons_of_pos (by simpa [due] using far)]
          refine .cons ⟨price,?_,rfl⟩ (ih inner)
          unfold quotePrice at priced
          obtain ⟨lastPrice,_,priced⟩ := bind_ok.mp priced
          obtain ⟨number,_,priced⟩ := bind_ok.mp priced
          split at priced
          · cases priced
          · rename_i positive
            obtain rfl := return_ok.mp priced
            exact not_le.mp positive

end loop

end LongBridge.Paper
