import LongBridge.History.Projected
import LongBridge.History.Records

namespace LongBridge.History
open Effects

section record
variable {scope target id startedAt finishedAt date : String} {binding payload : Fields} {balances cash : List Fields}
  {financing positions : Option (List Fields)} {started finished : ℤ}

def wholeRecord (scope target : String) (binding : Fields) (startedAt finishedAt date : String) (balances cash : List Fields)
    (financing positions : Option (List Fields)) : Fields :=
  recordEntries scope target binding startedAt finishedAt date balances cash ++ (financingEntries financing ++ positionEntriesOf positions)

theorem wholeRecord_names : ((wholeRecord scope target binding startedAt finishedAt date balances cash financing positions).map Prod.fst).Nodup := by
  have keys : ∀ financed held : Bool, (expectedFields ++ ((if financed then ["financing"] else []) ++ if held then historyPositionFields else [])).Nodup := by
    decide
  have same : (wholeRecord scope target binding startedAt finishedAt date balances cash financing positions).map Prod.fst =
      expectedFields ++ ((if financing.isSome then ["financing"] else []) ++ if positions.isSome then historyPositionFields else []) := by
    cases financing <;> cases positions <;> rfl
  rw [same]
  exact keys _ _

-- What both writers put into a record: its times, and rows that need no change
structure Written (startedAt finishedAt : String) (started finished : ℤ) (balances cash : List Fields) (financing positions : Option (List Fields)) : Prop where
  begins : aware (.str startedAt) = .ok started
  ends : aware (.str finishedAt) = .ok finished
  ordered : started ≤ finished
  reported : ∃ refused value, moneyRows refused balanceFields value = .ok balances
  counted : ∃ refused value, moneyRows refused cashFields value = .ok cash
  financed : ∀ rows ∈ financing, NormalFinancing (balances.map currencyOf) rows
  held : ∀ rows ∈ positions, ∃ value, independentPositionRows value = .ok rows

-- A record as a store gives it back: its entries, and those of its rows, in some order
structure ReadsBack (scope target id startedAt finishedAt date : String) (balances cash : List Fields) (financing positions : Option (List Fields))
    (payload : Fields) : Prop where
  entries : ∃ binding balances' cash' financing' positions', binding.Perm (sourceBinding id) ∧ Copies balances balances' ∧ Copies cash cash' ∧
    Option.Rel Copies financing financing' ∧ Option.Rel Copies positions positions' ∧
      payload.Perm (wholeRecord scope target binding startedAt finishedAt date balances' cash' financing' positions')

theorem balanceFields_nodup : balanceFields.Nodup := by decide

theorem cashFields_nodup : cashFields.Nodup := by decide

theorem financing_tidy {allowed : List String} {rows : List Fields} (normal : NormalFinancing allowed rows) : ∀ row ∈ rows, PlainRow row := by
  have validated := normal_validates normal (copies_refl rows)
  obtain ⟨items,-,_,_,read⟩ := validateFinancing_ok.mp validated
  exact readRows_tidy (financingRow_rereads allowed) read

def Stores (entry copy : String × PyVal) : Prop := copy.1 = entry.1 ∧ entry.2.jsonSorted = .ok copy.2

def sortedRows (rows : Option (List Fields)) : Option (List Fields) := rows.map fun found => found.map sortedByKey

theorem parts_stored (scope target id date : String) (written : Written startedAt finishedAt started finished balances cash financing positions) :
    List.Forall₂ Stores (recordEntries scope target (sourceBinding id) startedAt finishedAt date balances cash)
      (recordEntries scope target (sortedByKey (sourceBinding id)) startedAt finishedAt date (balances.map sortedByKey) (cash.map sortedByKey)) ∧
    List.Forall₂ Stores (financingEntries financing) (financingEntries (sortedRows financing)) ∧
    List.Forall₂ Stores (positionEntriesOf positions) (positionEntriesOf (sortedRows positions)) := by
  obtain ⟨_,_,reported⟩ := written.reported
  obtain ⟨_,_,counted⟩ := written.counted
  have first := dictList_sorted (moneyRows_tidy balanceFields_nodup reported)
  have second := dictList_sorted (moneyRows_tidy cashFields_nodup counted)
  have bound : (PyVal.dict (sourceBinding id)).jsonSorted = .ok (.dict (sortedByKey (sourceBinding id))) := rfl
  refine ⟨?_,?_,?_⟩
  · exact .cons ⟨rfl,rfl⟩ (.cons ⟨rfl,rfl⟩ (.cons ⟨rfl,rfl⟩ (.cons ⟨rfl,rfl⟩ (.cons ⟨rfl,bound⟩ (.cons ⟨rfl,rfl⟩ (.cons ⟨rfl,rfl⟩ (.cons ⟨rfl,rfl⟩
      (.cons ⟨rfl,rfl⟩ (.cons ⟨rfl,first⟩ (.cons ⟨rfl,second⟩ .nil))))))))))
  · cases financing with
    | none => exact .nil
    | some rows => exact .cons ⟨rfl,dictList_sorted (financing_tidy (written.financed rows rfl))⟩ .nil
  · cases positions with
    | none => exact .nil
    | some rows =>
      obtain ⟨_,ran⟩ := written.held rows rfl
      exact .cons ⟨rfl,dictList_sorted (positions_tidy ran)⟩ (.cons ⟨rfl,rfl⟩ (.cons ⟨rfl,rfl⟩ .nil))

theorem sortedRows_copies (rows : Option (List Fields)) : Option.Rel Copies rows (sortedRows rows) := by
  cases rows with
  | none => exact .none
  | some found => exact .some (copies_sorted found)

-- The optional parts may stand in either order.
theorem written_stored (scope target id date : String) (written : Written startedAt finishedAt started finished balances cash financing positions)
    {record optional : Fields}
    (built : record = recordEntries scope target (sourceBinding id) startedAt finishedAt date balances cash ++ optional)
    (order : optional = financingEntries financing ++ positionEntriesOf positions ∨ optional = positionEntriesOf positions ++ financingEntries financing) :
    ∃ payload, (PyVal.dict record).jsonSorted = .ok (.dict payload) ∧
      ReadsBack scope target id startedAt finishedAt date balances cash financing positions payload := by
  obtain ⟨base,money,stock⟩ := parts_stored scope target id date written
  obtain ⟨copies,stored,same⟩ : ∃ copies, List.Forall₂ Stores optional copies ∧
      copies.Perm (financingEntries (sortedRows financing) ++ positionEntriesOf (sortedRows positions)) := by
    rcases order with rfl | rfl
    · exact ⟨_,List.rel_append money stock,List.Perm.refl _⟩
    · exact ⟨_,List.rel_append stock money,List.perm_append_comm⟩
  have sorted := sortedEntries_ok (List.rel_append base stored)
  subst built
  refine ⟨_,by rw [PyVal.jsonSorted,sorted]; rfl,⟨_,_,_,_,_,sortedByKey_perm _,copies_sorted balances,copies_sorted cash,sortedRows_copies financing,
    sortedRows_copies positions,(sortedByKey_perm _).trans (List.Perm.append_left _ same)⟩⟩

end record

section check
variable {scope target id startedAt finishedAt date : String} {payload : Fields} {balances cash : List Fields} {financing positions : Option (List Fields)}
  {started finished : ℤ} {config : Config} {name : String} {triggeredAt now : ℤ}

-- The object that a recorder looks for: of its target, scope and source, under the name of its times, and of this run
structure Sought (config : Config) (scope target id : String) (started finished : ℤ) (name : String) (triggeredAt now : ℤ) : Prop where
  account : config.expectedScope = scope
  targeted : config.targetId = target
  bound : config.sourceBindingId = id
  named : name = expectedName config started finished
  triggered : triggeredAt ≤ started
  past : finished ≤ now
  recent : now - observationWindow ≤ started

theorem isStr_str {text expected : String} : (PyVal.str text).isStr expected = true ↔ text = expected := beq_iff_eq

theorem bound_perm {binding : Fields} (perm : binding.Perm (sourceBinding id)) :
    boundTo config (.dict binding) = true ↔ id = config.sourceBindingId := by
  have names : ((sourceBinding id).map Prod.fst).Nodup := by simp [sourceBinding]
  have get := get_perm names perm
  unfold boundTo isBound
  dsimp only
  rw [get,get,get]
  exact isStr_str

theorem positionsValid_reads (held : ∀ rows ∈ positions, ∃ value, independentPositionRows value = .ok rows) {positions' : Option (List Fields)}
    (copied : Option.Rel Copies positions positions') (has : ∀ key ∈ historyPositionFields, payload.has key = positions'.isSome)
    (get : ∀ rows ∈ positions', payload.get "broker_reported_positions" = dictList rows ∧ payload.get "broker_reported_positions_scope" = .str "stocks_only" ∧
      payload.get "broker_reported_positions_complete" = .bool true) : historyPositionsValid payload = .ok true := by
  have first := has "broker_reported_positions" (by decide)
  have second := has "broker_reported_positions_scope" (by decide)
  have third := has "broker_reported_positions_complete" (by decide)
  unfold historyPositionsValid historyPositionFields
  simp only [List.any_cons,List.any_nil,List.all_cons,List.all_nil,first,second,third]
  cases copied with
  | none => rfl
  | @some rows copies same =>
    obtain ⟨listed,stocks,complete⟩ := get copies rfl
    obtain ⟨value,ran⟩ := held rows rfl
    rw [listed,stocks,complete,positions_again ran same]
    have equal : PyVal.same (dictList copies) (dictList rows) = true :=
      dictList_same (copies_tidy same (positions_tidy ran)) (copies_back same)
    simp only [equal]
    rfl

-- What a reader finds in the record
structure Found (scope target id startedAt finishedAt date : String) (balances cash : List Fields) (financing positions : Option (List Fields))
    (payload : Fields) : Prop where
  complete : hasHistoryFields payload = true
  positionsValid : historyPositionsValid payload = .ok true
  facts : ∀ config, hasHistoryFacts payload config = true ↔ config.expectedScope = scope ∧ config.targetId = target ∧ config.sourceBindingId = id
  begins : payload.get "observed_started_at" = .str startedAt
  ends : payload.get "observed_finished_at" = .str finishedAt
  dated : payload.get "observation_date" = .str date
  reported : moneyRows objectInvalid balanceFields (payload.get "broker_reported_balances") = .ok balances
  counted : moneyRows objectInvalid cashFields (payload.get "cash") = .ok cash
  financed : payload.has "financing" = true → ∃ rows, validateFinancingPayload (payload.get "financing") (balances.map currencyOf) = .ok rows

theorem written_found (written : Written startedAt finishedAt started finished balances cash financing positions)
    (reads : ReadsBack scope target id startedAt finishedAt date balances cash financing positions payload) :
    Found scope target id startedAt finishedAt date balances cash financing positions payload := by
  obtain ⟨binding,balances',cash',financing',positions',bound,reported,counted,financed,held,perm⟩ := reads.entries
  have names : ((wholeRecord scope target binding startedAt finishedAt date balances' cash' financing' positions').map Prod.fst).Nodup := wholeRecord_names
  have get := get_perm names perm
  have has : payload.has = Fields.has _ := funext fun key => congrArg Option.isSome (lookup_perm names perm key)
  obtain ⟨_,_,balanceRows⟩ := written.reported
  obtain ⟨_,_,cashRows⟩ := written.counted
  constructor
  · unfold hasHistoryFields
    rw [has,perm.all_eq]
    cases financing' <;> cases positions' <;> rfl
  · refine positionsValid_reads written.held held (fun key member => ?_) fun rows given => ?_
    · rw [has]
      simp only [historyPositionFields,List.mem_cons,List.not_mem_nil,or_false] at member
      rcases member with rfl | rfl | rfl <;> cases financing' <;> cases positions' <;> rfl
    · rw [get,get,get]
      cases given
      cases financing' <;> exact ⟨rfl,rfl,rfl⟩
  · intro config
    unfold hasHistoryFacts
    simp only [get]
    change ((true && true) && (PyVal.str scope).isStr config.expectedScope && (PyVal.str target).isStr config.targetId && true &&
      boundTo config (.dict binding)) = true ↔ _
    rw [Bool.and_eq_true,Bool.and_eq_true,Bool.and_eq_true,Bool.and_eq_true,isStr_str,isStr_str,bound_perm bound]
    constructor
    · rintro ⟨⟨⟨⟨_,one⟩,two⟩,_⟩,three⟩
      exact ⟨one.symm,two.symm,three.symm⟩
    · rintro ⟨one,two,three⟩
      exact ⟨⟨⟨⟨rfl,one.symm⟩,two.symm⟩,rfl⟩,three.symm⟩
  · exact get _
  · exact get _
  · exact get _
  · rw [get]
    exact moneyRows_again balanceFields_nodup balanceRows reported
  · rw [get]
    exact moneyRows_again cashFields_nodup cashRows counted
  · rw [has,get]
    cases financed with
    | none => cases positions' <;> exact fun given => nomatch given
    | @some rows copies same => exact fun _ => ⟨rows,normal_validates (written.financed rows rfl) same⟩

-- A record that is read back is taken by the recorders that look for it, and by no others.
theorem written_accepted (written : Written startedAt finishedAt started finished balances cash financing positions)
    (reads : ReadsBack scope target id startedAt finishedAt (dateText (utcOrdinal started)) balances cash financing positions payload) :
    validateHistoryObject payload config name triggeredAt now = .ok payload ↔ Sought config scope target id started finished name triggeredAt now := by
  have found := written_found written reads
  have begins : aware (payload.get "observed_started_at") = .ok started := found.begins ▸ written.begins
  have ends : aware (payload.get "observed_finished_at") = .ok finished := found.ends ▸ written.ends
  have fresh : isFresh payload now = true ↔ started ≤ now ∧ now - observationWindow ≤ started := by
    unfold isFresh
    rw [begins]
    exact decide_eq_true_iff
  unfold validateHistoryObject
  rw [bind_ok]
  constructor
  · rintro ⟨_,_,ran⟩
    obtain ⟨valid,_,ran⟩ := bind_ok.mp ran
    obtain ⟨_,facts,ran⟩ := bind_ok.mp ran
    obtain ⟨account,targeted,bound⟩ := (found.facts config).mp (require_ok.mp facts).2
    obtain ⟨first,same,ran⟩ := bind_ok.mp ran
    cases begins.symm.trans same
    obtain ⟨last,same,ran⟩ := bind_ok.mp ran
    cases ends.symm.trans same
    obtain ⟨_,times,_⟩ := bind_ok.mp ran
    obtain ⟨triggered,_,past,_,named,recent⟩ := require_ok.mp times
    exact ⟨account,targeted,bound,named,triggered,past,(fresh.mp recent).2⟩
  · intro sought
    refine ⟨(),require_ok.mpr found.complete,bind_ok.mpr ⟨true,found.positionsValid,bind_ok.mpr ⟨(),require_ok.mpr ⟨rfl,?_⟩,
      bind_ok.mpr ⟨started,begins,bind_ok.mpr ⟨finished,ends,bind_ok.mpr ⟨(),require_ok.mpr ⟨sought.triggered,written.ordered,sought.past,?_,sought.named,?_⟩,
        bind_ok.mpr ⟨balances,found.reported,bind_ok.mpr ⟨cash,found.counted,?_⟩⟩⟩⟩⟩⟩⟩⟩
    · exact (found.facts config).mpr ⟨sought.account,sought.targeted,sought.bound⟩
    · rw [found.dated]
      exact isStr_str.mpr rfl
    · exact fresh.mpr ⟨written.ordered.trans sought.past,sought.recent⟩
    · split
      · rename_i given
        obtain ⟨rows,read⟩ := found.financed given
        rw [read]
        rfl
      · rfl

end check

end LongBridge.History
