import LongBridge.Paper.Targets
import LongBridge.Python.Symbols

namespace LongBridge.Paper
open Effects Sorting

-- What a run without a finding comes to
theorem build_clean {quote : String → Except PyExc PyVal} {intent : Intent} {portfolio : Portfolio} {proposals : List Proposal}
    (ran : buildReconciledOrderProposals quote intent portfolio = .ok (proposals,[])) :
    (∀ symbol ∈ normalizedSymbols intent.strategySymbols, 0 ≤ lastTarget intent symbol) ∧
    List.Forall₂ (fun symbol made => ∃ quantity price, 0 < price ∧
      made = proposal symbol (heldValue portfolio symbol) (lastTarget intent symbol) quantity price)
      ((normalizedSymbols intent.strategySymbols).filter fun symbol => notionalTolerance < |lastTarget intent symbol - heldValue portfolio symbol|)
      proposals := by
  have invalid : ∀ made : List Proposal, (([],[historyInvalid]) : List Proposal × List String) ≠ (made,[]) := fun made same =>
    List.cons_ne_nil _ _ (Prod.mk.inj same).2
  unfold buildReconciledOrderProposals at ran
  split at ran
  · exact absurd (Except.ok.inj ran) (invalid _)
  split at ran
  · exact absurd (Except.ok.inj ran) (invalid _)
  split at ran
  · exact absurd (Except.ok.inj ran) (invalid _)
  rename_i rawTargets stated
  split at ran
  · split at ran
    · exact absurd (Except.ok.inj ran) (invalid _)
    · cases ran
  rename_i targets read
  dsimp only at ran
  split at ran
  · exact absurd (Except.ok.inj ran) (invalid _)
  rename_i unshort
  split at ran
  · exact absurd (Except.ok.inj ran) (invalid _)
  obtain ⟨book,positions,ran⟩ := bind_ok.mp ran
  obtain ⟨checked,cash,ran⟩ := bind_ok.mp ran
  obtain ⟨rfl,silent⟩ := Prod.mk.inj (return_ok.mp ran)
  have empty : checked.findings ++ (propose quote targets checked (normalizedSymbols intent.strategySymbols)).2 = [] := by
    refine List.eq_nil_iff_forall_not_mem.mpr fun finding member => ?_
    have kept := mem_distinct.mpr member
    rw [silent] at kept
    exact List.not_mem_nil kept
  obtain ⟨clean,quoted⟩ := List.append_eq_nil_iff.mp empty
  obtain rfl := checkCash_clean cash clean
  have last : ∀ symbol ∈ normalizedSymbols intent.strategySymbols, targets.getOrZero symbol = lastTarget intent symbol := by
    intro symbol member
    have named : symbol ≠ "" := by simpa using (List.mem_filter.mp (mem_sortedSet.mp member)).2
    rw [targets_keep_last read named,lastTarget,stated]
    rfl
  refine ⟨?_,?_⟩
  · intro symbol member
    rw [← last symbol member,Amounts.getOrZero]
    cases found : targets.lookup symbol with
    | none => exact le_refl 0
    | some value =>
      by_contra negative
      obtain ⟨before,after,parts,_⟩ := List.lookup_eq_some_iff.mp found
      refine unshort (List.any_eq_true.mpr ⟨(symbol,value),?_,by simpa using negative⟩)
      rw [parts]
      exact List.mem_append_right _ List.mem_cons_self
  · have made := propose_clean (Prod.ext rfl quoted)
    have same : (normalizedSymbols intent.strategySymbols).filter (due targets checked) =
        (normalizedSymbols intent.strategySymbols).filter fun symbol => notionalTolerance < |lastTarget intent symbol - heldValue portfolio symbol| := by
      refine List.filter_congr fun symbol member => ?_
      rw [due,last symbol member,positions_sum positions clean]
    rw [same] at made
    refine (List.forall₂_iff_zip.mpr ⟨made.length_eq,?_⟩)
    intro symbol proposed pair
    obtain ⟨price,positive,rfl⟩ := (List.forall₂_iff_zip.mp made).2 pair
    have member : symbol ∈ normalizedSymbols intent.strategySymbols := (List.mem_filter.mp (List.of_mem_zip pair).1).1
    rw [last symbol member,positions_sum positions clean]
    exact ⟨_,price,positive,rfl⟩

section law
variable (intent : Intent) (portfolio : Portfolio)

-- What the proposals of a run without a finding should be
structure Reconciled (proposals : List Proposal) : Prop where
  ascending : (proposals.map Proposal.symbol).Pairwise (· < ·)
  listed : ∀ symbol, symbol ∈ proposals.map Proposal.symbol ↔ symbol ∈ normalizedSymbols intent.strategySymbols ∧
    notionalTolerance < |totalTarget intent symbol - heldValue portfolio symbol|
  balanced : ∀ made ∈ proposals, heldValue portfolio made.symbol + made.targetNotionalDelta = totalTarget intent made.symbol
  reducing : ∀ made ∈ proposals, made.exposureEffect = .reduces →
    (0 ≤ totalTarget intent made.symbol ∧ totalTarget intent made.symbol ≤ heldValue portfolio made.symbol) ∨
    (heldValue portfolio made.symbol ≤ totalTarget intent made.symbol ∧ totalTarget intent made.symbol ≤ 0)

-- Nothing is due: what is held is near the last target stated for the symbol, and near the sum of all of them.
structure AtRest (symbol : String) : Prop where
  last : |lastTarget intent symbol - heldValue portfolio symbol| ≤ notionalTolerance
  total : |totalTarget intent symbol - heldValue portfolio symbol| ≤ notionalTolerance

-- The last target stated for the symbol stands for all of them, eight decimals show the way to it, and a smaller one is on the side of zero
-- that is held.
structure Tradable (symbol : String) : Prop where
  last : notionalTolerance < |lastTarget intent symbol - heldValue portfolio symbol|
  total : notionalTolerance < |totalTarget intent symbol - heldValue portfolio symbol|
  shown : roundTo 8 (lastTarget intent symbol - heldValue portfolio symbol) = totalTarget intent symbol - heldValue portfolio symbol
  side : lastTarget intent symbol + notionalTolerance < |heldValue portfolio symbol| →
    (0 ≤ heldValue portfolio symbol → 0 ≤ totalTarget intent symbol) ∧ (heldValue portfolio symbol < 0 → totalTarget intent symbol ≤ 0)

end law

theorem roundTo_neg {digits : ℕ} {value : ℚ} (negative : value < 0) : roundTo digits value ≤ 0 := by
  have near := (abs_le.mp (roundHalfEven_near (value * 10 ^ digits))).2
  have scale : (0 : ℚ) < 10 ^ digits := by positivity
  have below : value * 10 ^ digits < 0 := mul_neg_of_neg_of_pos negative scale
  have whole : (roundHalfEven (value * 10 ^ digits) : ℚ) < 1 := by linarith
  have floor : roundHalfEven (value * 10 ^ digits) ≤ 0 := by
    have : roundHalfEven (value * 10 ^ digits) < 1 := by exact_mod_cast whole
    omega
  exact div_nonpos_of_nonpos_of_nonneg (by exact_mod_cast floor) scale.le

theorem roundTo_nonneg {digits : ℕ} {value : ℚ} (positive : 0 < value) : 0 ≤ roundTo digits value := by
  have near := (abs_le.mp (roundHalfEven_near (value * 10 ^ digits))).1
  have scale : (0 : ℚ) < 10 ^ digits := by positivity
  have above : 0 < value * 10 ^ digits := mul_pos positive scale
  have whole : (-1 : ℚ) < roundHalfEven (value * 10 ^ digits) := by linarith
  have floor : 0 ≤ roundHalfEven (value * 10 ^ digits) := by
    have : -1 < roundHalfEven (value * 10 ^ digits) := by exact_mod_cast whole
    omega
  exact div_nonneg (by exact_mod_cast floor) scale.le

-- A target that is not short reduces the exposure where it is smaller than what is held, on either side of zero.
theorem exposureEffect_reduces {currentValue targetValue : ℚ} (long : 0 ≤ targetValue) :
    exposureEffect currentValue targetValue = .reduces ↔ targetValue + notionalTolerance < |currentValue| := by
  unfold exposureEffect
  rw [abs_of_nonneg long]
  constructor
  · intro same
    split at same
    · rename_i smaller
      linarith
    · split at same <;> cases same
  · intro smaller
    rw [if_pos (by linarith)]

section reconciled
variable {quote : String → Except PyExc PyVal} {intent : Intent} {portfolio : Portfolio} {proposals : List Proposal}

theorem proposals_symbols (ran : buildReconciledOrderProposals quote intent portfolio = .ok (proposals,[])) :
    proposals.map Proposal.symbol = (normalizedSymbols intent.strategySymbols).filter fun symbol =>
      notionalTolerance < |lastTarget intent symbol - heldValue portfolio symbol| := by
  have pairs := (build_clean ran).2
  clear ran
  generalize (normalizedSymbols intent.strategySymbols).filter (fun symbol =>
    notionalTolerance < |lastTarget intent symbol - heldValue portfolio symbol|) = symbols at pairs ⊢
  induction pairs with
  | nil => rfl
  | cons one _ ih =>
    obtain ⟨quantity,price,_,rfl⟩ := one
    rw [List.map_cons,ih]
    rfl

-- What a proposal of a run without a finding holds
theorem proposal_facts (ran : buildReconciledOrderProposals quote intent portfolio = .ok (proposals,[])) {made : Proposal} (member : made ∈ proposals) :
    made.symbol ∈ normalizedSymbols intent.strategySymbols ∧
    notionalTolerance < |lastTarget intent made.symbol - heldValue portfolio made.symbol| ∧
    made.targetNotionalDelta = roundTo 8 (lastTarget intent made.symbol - heldValue portfolio made.symbol) ∧
    (made.exposureEffect = .reduces ↔ lastTarget intent made.symbol + notionalTolerance < |heldValue portfolio made.symbol|) := by
  obtain ⟨long,pairs⟩ := build_clean ran
  obtain ⟨index,bound,rfl⟩ := List.getElem_of_mem member
  have paired := pairs.length_eq ▸ bound
  obtain ⟨quantity,price,_,same⟩ := (List.forall₂_iff_get.mp pairs).2 index paired bound
  simp only [List.get_eq_getElem] at same
  obtain ⟨inside,far⟩ := List.mem_filter.mp (List.getElem_mem paired)
  rw [same]
  exact ⟨inside,of_decide_eq_true far,rfl,exposureEffect_reduces (long _ inside)⟩

-- Proposals state what the intent asks for exactly where every symbol of the strategy is at rest or tradable.
theorem reconciled_iff (quote : String → Except PyExc PyVal) (intent : Intent) (portfolio : Portfolio) (proposals : List Proposal)
    (ran : buildReconciledOrderProposals quote intent portfolio = .ok (proposals,[])) :
    Reconciled intent portfolio proposals ↔
      ∀ symbol ∈ normalizedSymbols intent.strategySymbols, AtRest intent portfolio symbol ∨ Tradable intent portfolio symbol := by
  have symbols := proposals_symbols ran
  constructor
  · intro held symbol member
    by_cases far : notionalTolerance < |lastTarget intent symbol - heldValue portfolio symbol|
    · right
      have proposed : symbol ∈ proposals.map Proposal.symbol := by
        rw [symbols]
        exact List.mem_filter.mpr ⟨member,by simpa using far⟩
      have total := ((held.listed symbol).mp proposed).2
      obtain ⟨made,inside,rfl⟩ := List.mem_map.mp proposed
      obtain ⟨_,_,delta,reduces⟩ := proposal_facts ran inside
      refine ⟨far,total,?_,?_⟩
      · have balance := held.balanced made inside
        rw [delta] at balance
        linarith
      · intro smaller
        rcases held.reducing made inside (reduces.mpr smaller) with ⟨above,below⟩ | ⟨above,below⟩
        · exact ⟨fun _ => above,fun short => by linarith⟩
        · exact ⟨fun long => by linarith,fun _ => below⟩
    · left
      refine ⟨not_lt.mp far,not_lt.mp fun total => ?_⟩
      have proposed := (held.listed symbol).mpr ⟨member,total⟩
      rw [symbols] at proposed
      exact far (by simpa using (List.mem_filter.mp proposed).2)
  · intro fit
    have tradable : ∀ made ∈ proposals, Tradable intent portfolio made.symbol := by
      intro made inside
      obtain ⟨member,far,_⟩ := proposal_facts ran inside
      exact (fit made.symbol member).resolve_left fun rest => absurd far (not_lt.mpr rest.last)
    refine ⟨?_,?_,?_,?_⟩
    · rw [symbols]
      exact (sortedSet_sorted _).filter _
    · intro symbol
      rw [symbols,List.mem_filter,decide_eq_true_eq]
      refine and_congr_right fun member => ?_
      rcases fit symbol member with rest | trade
      · exact ⟨fun far => absurd far (not_lt.mpr rest.last),fun far => absurd far (not_lt.mpr rest.total)⟩
      · exact ⟨fun _ => trade.total,fun _ => trade.last⟩
    · intro made inside
      obtain ⟨_,_,delta,_⟩ := proposal_facts ran inside
      rw [delta,(tradable made inside).shown]
      ring
    · intro made inside effect
      obtain ⟨_,_,_,reduces⟩ := proposal_facts ran inside
      have smaller := reduces.mp effect
      have trade := tradable made inside
      have shown := trade.shown
      have tolerated : (0 : ℚ) < notionalTolerance := by norm_num [notionalTolerance]
      rcases le_or_gt 0 (heldValue portfolio made.symbol) with long | short
      · rw [abs_of_nonneg long] at smaller
        have down := @roundTo_neg 8 (lastTarget intent made.symbol - heldValue portfolio made.symbol) (by linarith)
        exact Or.inl ⟨(trade.side (reduces.mp effect)).1 long,by linarith⟩
      · have floor := (build_clean ran).1 made.symbol (proposal_facts ran inside).1
        have rise := @roundTo_nonneg 8 (lastTarget intent made.symbol - heldValue portfolio made.symbol) (by linarith)
        exact Or.inr ⟨by linarith,(trade.side (reduces.mp effect)).2 short⟩

-- One key for each symbol, eight decimals and no short position with a target above zero are enough.
theorem reconciled_of_plain (ran : buildReconciledOrderProposals quote intent portfolio = .ok (proposals,[]))
    (single : ∀ symbol ∈ normalizedSymbols intent.strategySymbols, (statedTargets (intent.targets.getD []) symbol).length ≤ 1)
    (decimals : ∀ symbol ∈ normalizedSymbols intent.strategySymbols,
      roundTo 8 (totalTarget intent symbol - heldValue portfolio symbol) = totalTarget intent symbol - heldValue portfolio symbol)
    (covered : ∀ symbol ∈ normalizedSymbols intent.strategySymbols, heldValue portfolio symbol < 0 → totalTarget intent symbol ≤ 0) :
    Reconciled intent portfolio proposals := by
  refine (reconciled_iff quote intent portfolio proposals ran).mpr fun symbol member => ?_
  have same : lastTarget intent symbol = totalTarget intent symbol := by
    have short := single symbol member
    rw [lastTarget,totalTarget]
    cases stated : statedTargets (intent.targets.getD []) symbol with
    | nil => rfl
    | cons first others =>
      rw [stated,List.length_cons] at short
      obtain rfl := List.length_eq_zero_iff.mp (by omega : others.length = 0)
      simp
  have floor := (build_clean ran).1 symbol member
  by_cases far : notionalTolerance < |totalTarget intent symbol - heldValue portfolio symbol|
  · refine Or.inr ⟨same ▸ far,far,?_,fun _ => ⟨fun _ => same ▸ floor,covered symbol member⟩⟩
    rw [same]
    exact decimals symbol member
  · exact Or.inl ⟨same ▸ not_lt.mp far,not_lt.mp far⟩

end reconciled

section samples

def sampleIntent (targets : List (PyVal × PyVal)) : Intent := ⟨.str intentSchemaVersion,.str "value",some targets,some [.str "AAPL"]⟩

def samplePortfolio (marketValue : ℤ) : Portfolio := ⟨[⟨.str "AAPL.US",.int marketValue,.int 4⟩],.none,.none⟩

def sampleQuote : String → Except PyExc PyVal := fun _ => .ok (.int 10)

def sampleProposal (currentValue targetValue quantity : ℚ) (effect : ExposureEffect) : Proposal :=
  ⟨"AAPL","buy",quantity,10,currentValue,targetValue,targetValue - currentValue,4,effect⟩

-- A holding in two positions that grows, and one that is reduced.
def pairIntent : Intent :=
  ⟨.str intentSchemaVersion,.str "value",some [(.str "AAPL.US",.int 100),(.str "MSFT",.int 50)],some [.str "AAPL",.str "MSFT"]⟩

def pairPortfolio : Portfolio :=
  ⟨[⟨.str "AAPL.US",.int 30,.int 3⟩,⟨.str "MSFT.US",.int 90,.int 9⟩,⟨.str "AAPL",.int 10,.int 1⟩],.none,.none⟩

def pairProposals : List Proposal := [sampleProposal 40 100 6 .increases,⟨"MSFT","sell",4,10,90,50,-40,9,.reduces⟩]

theorem sample_target_reconciled : Reconciled pairIntent pairPortfolio pairProposals := by
  have ran : buildReconciledOrderProposals sampleQuote pairIntent pairPortfolio = .ok (pairProposals,[]) := by decide +kernel
  have symbols : normalizedSymbols pairIntent.strategySymbols = ["AAPL","MSFT"] := by decide +kernel
  refine (reconciled_iff sampleQuote _ _ _ ran).mpr fun symbol member => Or.inr ?_
  rw [symbols] at member
  rcases List.mem_cons.mp member with rfl | member
  · exact ⟨by decide +kernel,by decide +kernel,by decide +kernel,by decide +kernel⟩
  · obtain rfl := List.mem_singleton.mp member
    exact ⟨by decide +kernel,by decide +kernel,by decide +kernel,by decide +kernel⟩

-- Two keys of one symbol state 150, and the proposal leads to 50; a short of 100 becomes a long of 60 and is said to reduce.
theorem targets_lost_and_shorts_flipped :
    (buildReconciledOrderProposals sampleQuote (sampleIntent [(.str "AAPL",.int 100),(.str "AAPL.US",.int 50)]) (samplePortfolio 40) =
        .ok ([sampleProposal 40 50 1 .increases],[]) ∧
      ¬ Reconciled (sampleIntent [(.str "AAPL",.int 100),(.str "AAPL.US",.int 50)]) (samplePortfolio 40) [sampleProposal 40 50 1 .increases]) ∧
    buildReconciledOrderProposals sampleQuote (sampleIntent [(.str "AAPL",.int 60)]) (samplePortfolio (-100)) =
        .ok ([sampleProposal (-100) 60 16 .reduces],[]) ∧
      ¬ Reconciled (sampleIntent [(.str "AAPL",.int 60)]) (samplePortfolio (-100)) [sampleProposal (-100) 60 16 .reduces] := by
  refine ⟨⟨by decide +kernel,fun held => ?_⟩,by decide +kernel,fun held => ?_⟩
  · have balance := held.balanced _ List.mem_cons_self
    exact absurd balance (by decide +kernel)
  · have between := held.reducing _ List.mem_cons_self rfl
    exact absurd between (by decide +kernel)

end samples

end LongBridge.Paper
