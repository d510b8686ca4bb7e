import LongBridge.Mapping.CashBlind

namespace LongBridge.Mapping
open Effects

-- What a mapping carries from the decision into the plan it returns.
theorem attachListed_lookup {names : List String} {diagnostics : Fields} {key : String}
    (apart : key ∉ names ∨ (diagnostics.get key).isBlank = true) (plan : RuntimePlan) :
    (attachListed names diagnostics plan).execution.fields.lookup key = plan.execution.fields.lookup key := by
  unfold attachListed
  simp only
  generalize plan.execution.fields = fields
  induction names generalizing fields with
  | nil => rfl
  | cons name rest ih =>
    rw [List.foldl_cons,ih (apart.imp_left fun missing member => missing (List.mem_cons_of_mem _ member))]
    split
    · rfl
    · rename_i filled
      refine Fields.lookup_set_other _ _ ?_
      rintro rfl
      rcases apart with missing | blank
      · exact missing (List.mem_cons_self ..)
      · exact filled blank

theorem attachProfileFields_lookup {kit : Kit} {profile : String} {names : List String} {metadata : Fields}
    {decision : StrategyDecision} {plan result : RuntimePlan}
    (attached : attachProfileFields kit profile names metadata decision plan = .ok result) {key : String} (apart : key ∉ names) :
    result.execution.fields.lookup key = plan.execution.fields.lookup key ∧
      result.execution.reservedCash = plan.execution.reservedCash := by
  obtain ⟨own,_,same⟩ := bind_ok.mp attached
  rw [return_ok] at same
  subst same
  split
  · exact ⟨attachListed_lookup (.inl apart) plan,rfl⟩
  · exact ⟨rfl,rfl⟩

theorem attachBlockFields_lookup {decision : StrategyDecision} {plan result : RuntimePlan}
    (attached : attachExecutionBlockFields decision plan = .ok result) {key : String} (apart : key ∉ blockFields) :
    result.execution.fields.lookup key = plan.execution.fields.lookup key ∧
      result.execution.reservedCash = plan.execution.reservedCash := by
  obtain ⟨flags,_,rest⟩ := bind_ok.mp attached
  obtain ⟨blocked,_,same⟩ := bind_ok.mp rest
  rw [return_ok] at same
  subst same
  have unlike : ∀ name ∈ blockFields, key ≠ name := by rintro name member rfl; exact apart member
  refine ⟨?_,rfl⟩
  rw [markBlocked_other _ _ (unlike _ (by decide)),copyMarker_other _ _ (unlike _ (by decide)),
    copyMarker_other _ _ (unlike _ (by decide)),markGate_other _ _ (unlike _ (by decide)),
    markFlags_other _ _ (unlike _ (by decide))]

theorem attachFields_lookup {kit : Kit} {request : Request} {normalized : StrategyDecision} {built plan : RuntimePlan}
    (attached : attachFields kit request normalized built = .ok plan) (key : String)
    (diagnosed : key ∉ snapshotDiagnosticFields ∨
      ((request.runtimeMetadata.merge normalized.diagnostics).get key).isBlank = true)
    (controlled : key ∉ marketRegimeControlExecutionFields ++ tqqqRiskControlExecutionFields ++
      soxlRiskControlExecutionFields ++ blockFields) :
    plan.execution.fields.lookup key = built.execution.fields.lookup key ∧
      plan.execution.reservedCash = built.execution.reservedCash := by
  simp only [List.mem_append,not_or] at controlled
  obtain ⟨balances,_,rest⟩ := bind_ok.mp attached
  obtain ⟨tqqq,first,rest⟩ := bind_ok.mp rest
  obtain ⟨soxl,second,last⟩ := bind_ok.mp rest
  obtain ⟨lastFields,lastReserve⟩ := attachBlockFields_lookup last controlled.2
  obtain ⟨soxlFields,soxlReserve⟩ := attachProfileFields_lookup second controlled.1.2
  obtain ⟨tqqqFields,tqqqReserve⟩ := attachProfileFields_lookup first controlled.1.1.2
  constructor
  · rw [lastFields,soxlFields,tqqqFields]
    refine (attachListed_lookup (.inl controlled.1.1.1) _).trans ?_
    exact attachListed_lookup diagnosed _
  · rw [lastReserve,soxlReserve,tqqqReserve]; rfl

-- A decision keeps its diagnostics through the mapping, or it is replaced by what is held now.
theorem normalized_diagnostics {kit : Kit} (plain : Plain kit) {decision normalized : StrategyDecision}
    {inputs : PortfolioInputs} {metadata : Fields} {cashOnly : Bool} {found : Option Annotations}
    (ran : normalizeToValueTargetDecision kit decision inputs metadata cashOnly = .ok (normalized,found)) :
    (normalized.diagnostics = [] ∧ decisionBlocksExecution decision = .ok false) ∨
      ∀ key, key ∉ ["execution_blocked_reason","cash_only_deleverage_mode"] →
        normalized.diagnostics.lookup key = decision.diagnostics.lookup key := by
  have marked : ∀ {name key : String} (value : PyVal) (fields : Fields), key ≠ name →
      (fields.merge [(name,value)]).lookup key = fields.lookup key := by
    intro name key value fields unlike
    have miss : (key == name) = false := by simpa using unlike
    rw [Fields.lookup_merge,List.lookup_cons,miss]; rfl
  obtain ⟨mode,resolved,rest⟩ := bind_ok.mp ran
  obtain ⟨blocked,tested,rest⟩ := bind_ok.mp rest
  cases blocked with
  | true =>
    unfold blockedDecision at rest
    simp only [if_true] at rest
    split at rest
    · obtain ⟨riskFlags,_,same⟩ := bind_ok.mp rest
      cases same
      exact .inr fun key _ => rfl
    · obtain ⟨held,built,rest⟩ := bind_ok.mp rest
      obtain ⟨annotations,_,same⟩ := bind_ok.mp rest
      cases same
      obtain ⟨riskFlags,_,same⟩ := bind_ok.mp built
      cases same
      exact .inr fun key _ => rfl
  | false =>
    simp only [Bool.false_eq_true,if_false] at rest
    cases mode with
    | none =>
      obtain ⟨held,built,rest⟩ := bind_ok.mp rest
      obtain ⟨annotations,_,same⟩ := bind_ok.mp rest
      cases same
      cases built
      exact .inl ⟨rfl,tested⟩
    | some mode =>
      cases mode with
      | value => cases rest; exact .inr fun key _ => rfl
      | weight =>
        obtain ⟨equity,_,rest⟩ := bind_ok.mp rest
        right
        intro key unlike
        simp only [List.mem_cons,List.not_mem_nil,or_false,not_or] at unlike
        split at rest
        · obtain ⟨emptied,built,rest⟩ := bind_ok.mp rest
          obtain ⟨annotations,_,same⟩ := bind_ok.mp rest
          cases same
          obtain ⟨riskFlags,_,same⟩ := bind_ok.mp built
          cases same
          exact marked _ _ unlike.1
        · obtain ⟨translated,values,rest⟩ := bind_ok.mp rest
          obtain ⟨annotations,_,same⟩ := bind_ok.mp rest
          cases same
          rw [(plain.translated values).2]
          split
          · exact marked _ _ unlike.2
          · rfl

-- A marker of the decision stands in the plan, unless the decision holds what it has without
-- being blocked; and then the marker was not one that blocks.
theorem marker_carried {kit : Kit} (plain : Plain kit) {decision normalized : StrategyDecision}
    {inputs : PortfolioInputs} {metadata : Fields} {cashOnly : Bool} {found : Option Annotations}
    (ran : normalizeToValueTargetDecision kit decision inputs metadata cashOnly = .ok (normalized,found))
    {texts : List String} (flags : decision.riskFlags = .tuple (texts.map .str)) :
    (decision.diagnostics.get "no_order" = .bool true → normalized.diagnostics.get "no_order" = .bool true) ∧
      (decision.diagnostics.get "execution_authorized" = .bool false →
        normalized.diagnostics.get "execution_authorized" = .bool false) := by
  rcases normalized_diagnostics plain ran with ⟨_,unblocked⟩ | same
  · rw [decisionBlocks_texts flags,Except.ok.injEq] at unblocked
    simp only [blocksBy,Bool.or_eq_false_iff] at unblocked
    constructor
    · intro ordered
      have clear := unblocked.1.1.2
      rw [ordered] at clear; cases clear
    · intro authorized
      have clear := unblocked.1.2
      rw [authorized] at clear; cases clear
  · constructor
    · intro ordered
      rw [Fields.get,same "no_order" (by decide)]; exact ordered
    · intro authorized
      rw [Fields.get,same "execution_authorized" (by decide)]; exact authorized

end LongBridge.Mapping
