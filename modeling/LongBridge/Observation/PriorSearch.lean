import LongBridge.Observation.PriorReports

namespace LongBridge.Observation
open Effects

section json

end json

section reports

variable {kit : JournalKit} {execution : Execution} {payload summary : Fields} {raw : String}

-- The report that a text states
def Reads (kit : JournalKit) (raw : String) (payload : Fields) : Prop := ∃ text, kit.decode raw = .ok text ∧ strictJson text = .ok (.dict payload)

-- A report of the platform, the profile and the scope; case and outer space do not count.
structure WellFormed (execution : Execution) (payload : Fields) (dryRun : Bool) (summary : Fields) : Prop where
  named : ∀ entry ∈ execution.identity, ∃ text, payload.get entry.1 = .str text ∧ strip text ≠ "" ∧ lower (strip text) = lower entry.2
  status : ∃ text, payload.get "status" = .str text ∧ strip text ≠ ""
  flag : payload.get "dry_run" = .bool dryRun
  summarised : payload.get "summary" = .dict summary

-- A report of the lane asked for that is known to have done nothing unseen.
structure CompleteLane (kit : JournalKit) (execution : Execution) (payload summary : Fields) : Prop where
  status : payload.get "status" = .str "ok"
  action : ∃ done, summary.get "action_done" = .bool done
  counts : ∀ field ∈ countFields.take 3, ∃ number : ℕ, summary.get field = .int number
  pending : summary.has "orders_pending_count" = true → ∃ number : ℕ, summary.get "orders_pending_count" = .int number
  signal : execution.signalDate.truthy = true → kit.signalDateKeys payload summary ≠ []
  effective : execution.effectiveDate.truthy = true → kit.effectiveDateKeys payload summary ≠ []
  dates : ∀ value ∈ kit.signalDateKeys payload summary ++ kit.effectiveDateKeys payload summary, ∃ day, dateFromisoformat value = .ok day

theorem statesText_iff {value : PyVal} : statesText value = true ↔ ∃ text, value = .str text ∧ strip text ≠ "" := by
  cases value with
  | str text => simp [statesText]
  | _ => simp [statesText]

theorem isBool_iff {value : PyVal} : isBool value = true ↔ ∃ flag, value = .bool flag := by
  cases value with
  | bool flag => simp [isBool]
  | _ => simp [isBool]

theorem isCount_iff {value : PyVal} : isCount value = true ↔ ∃ number : ℕ, value = .int number := by
  cases value with
  | int number =>
    simp only [isCount,decide_eq_true_eq,PyVal.int.injEq]
    exact ⟨fun positive => ⟨number.toNat,(Int.toNat_of_nonneg positive).symm⟩,fun ⟨_,same⟩ => same ▸ Int.natCast_nonneg _⟩
  | _ => simp [isCount]

theorem isStr_iff {value : PyVal} {text : String} : value.isStr text = true ↔ value = .str text := by
  cases value with
  | str other => simp [PyVal.isStr]
  | _ => simp [PyVal.isStr]

theorem namesValue_iff {entry : String × String} : namesValue payload entry = true ↔
    ∃ text, payload.get entry.1 = .str text ∧ lower (strip text) = lower entry.2 := by
  unfold namesValue
  split
  · rename_i text stated
    rw [stated]
    simp
  · rename_i other
    constructor
    · intro impossible
      cases impossible
    · rintro ⟨text,stated,_⟩
      exact absurd stated (other text)

theorem forM_dates {values : List String} : (values.forM fun value => do let _ ← dateFromisoformat value) = .ok () ↔
    ∀ value ∈ values, ∃ day, dateFromisoformat value = .ok day := by
  induction values with
  | nil => exact ⟨fun _ _ member => (nomatch member),fun _ => rfl⟩
  | cons value rest ih =>
    have step : ((value :: rest).forM fun value => do let _ ← dateFromisoformat value) =
        ((do let _ ← dateFromisoformat value) >>= fun _ => rest.forM fun value => do let _ ← dateFromisoformat value) := rfl
    rw [List.forall_mem_cons,step,bind_ok,← ih]
    constructor
    · rintro ⟨_,one,later⟩
      obtain ⟨day,read,_⟩ := bind_ok.mp one
      exact ⟨⟨day,read⟩,later⟩
    · rintro ⟨⟨day,read⟩,later⟩
      exact ⟨(),bind_ok.mpr ⟨day,read,rfl⟩,later⟩

theorem has_of_get {field : String} {value : PyVal} (stated : summary.get field = value) (other : value ≠ .none) : summary.has field = true := by
  unfold Fields.get at stated
  unfold Fields.has
  cases found : summary.lookup field with
  | none =>
    rw [found] at stated
    exact absurd stated.symm other
  | some _ => rfl

theorem completeLane_iff : CompleteLane kit execution payload summary ↔
    checkLane kit execution payload summary = .ok () ∧ laneComplete payload summary = true := by
  unfold checkLane laneComplete
  constructor
  · rintro ⟨status,⟨done,action⟩,counts,pending,signal,effective,dates⟩
    constructor
    · refine bind_ok.mpr ⟨(),require_ok.mpr ?_,bind_ok.mpr ⟨(),require_ok.mpr ?_,bind_ok.mpr ⟨(),require_ok.mpr ?_,
        bind_ok.mpr ⟨(),require_ok.mpr ?_,forM_dates.mpr dates⟩⟩⟩⟩
      · rw [status]
        rfl
      · rw [action]
        simp [isBool]
      · rw [List.all_eq_true]
        intro field member
        rcases List.mem_append.mp (show field ∈ countFields.take 3 ++ ["orders_pending_count"] from member) with early | last
        · obtain ⟨number,stated⟩ := counts field early
          rw [Bool.or_eq_true]
          exact .inr (isCount_iff.mpr ⟨number,stated⟩)
        · rw [List.mem_singleton] at last
          subst last
          cases held : summary.has "orders_pending_count" with
          | false => rfl
          | true =>
            obtain ⟨number,stated⟩ := pending held
            rw [isCount_iff.mpr ⟨number,stated⟩]
            rfl
      · rw [Bool.not_eq_true',Bool.or_eq_false_iff,Bool.and_eq_false_imp,Bool.and_eq_false_imp]
        constructor
        · intro truthy
          rw [List.isEmpty_eq_false_iff]
          exact signal truthy
        · intro truthy
          rw [List.isEmpty_eq_false_iff]
          exact effective truthy
    · rw [Bool.and_eq_true,Bool.and_eq_true,List.all_eq_true]
      refine ⟨⟨isStr_iff.mpr status,isBool_iff.mpr ⟨done,action⟩⟩,?_⟩
      intro field member
      obtain ⟨number,stated⟩ := counts field member
      exact has_of_get stated (by simp)
  · rintro ⟨checked,complete⟩
    obtain ⟨_,_,checked⟩ := bind_ok.mp checked
    obtain ⟨_,_,checked⟩ := bind_ok.mp checked
    obtain ⟨_,counted,checked⟩ := bind_ok.mp checked
    obtain ⟨_,keyed,dated⟩ := bind_ok.mp checked
    have counted := List.all_eq_true.mp (require_ok.mp counted)
    have keyed := require_ok.mp keyed
    rw [Bool.not_eq_true',Bool.or_eq_false_iff,Bool.and_eq_false_imp,Bool.and_eq_false_imp] at keyed
    rw [Bool.and_eq_true,Bool.and_eq_true,List.all_eq_true] at complete
    obtain ⟨⟨status,action⟩,stated⟩ := complete
    refine ⟨isStr_iff.mp status,isBool_iff.mp action,?_,?_,?_,?_,forM_dates.mp dated⟩
    · intro field member
      have counted := counted field (List.mem_of_mem_take member)
      rw [stated field member] at counted
      exact isCount_iff.mp counted
    · intro held
      have counted := counted "orders_pending_count" (by decide)
      rw [held] at counted
      exact isCount_iff.mp counted
    · intro truthy
      exact List.isEmpty_eq_false_iff.mp (keyed.1 truthy)
    · intro truthy
      exact List.isEmpty_eq_false_iff.mp (keyed.2 truthy)

theorem wellFormed_iff {dryRun : Bool} : WellFormed execution payload dryRun summary ↔
    (execution.identity.all fun entry => statesText (payload.get entry.1)) = true ∧ statesText (payload.get "status") = true ∧
      payload.get "dry_run" = .bool dryRun ∧ payload.get "summary" = .dict summary ∧ execution.identity.all (namesValue payload) = true := by
  rw [List.all_eq_true,List.all_eq_true,statesText_iff]
  simp only [statesText_iff,namesValue_iff]
  constructor
  · rintro ⟨named,status,flag,summarised⟩
    refine ⟨?_,status,flag,summarised,?_⟩
    · intro entry member
      obtain ⟨text,stated,filled,_⟩ := named entry member
      exact ⟨text,stated,filled⟩
    · intro entry member
      obtain ⟨text,stated,_,same⟩ := named entry member
      exact ⟨text,stated,same⟩
  · rintro ⟨filled,status,flag,summarised,named⟩
    refine ⟨?_,status,flag,summarised⟩
    intro entry member
    obtain ⟨text,stated,nonempty⟩ := filled entry member
    obtain ⟨other,again,same⟩ := named entry member
    cases stated.symm.trans again
    exact ⟨text,stated,nonempty,same⟩

-- What a report that was read says, and what it passed for it.
theorem reportMatches_ok {found : Bool} : reportMatches kit execution raw = .ok found ↔
    ∃ payload dryRun summary, Reads kit raw payload ∧ WellFormed execution payload dryRun summary ∧
      (dryRun = execution.dryRunOnly → checkLane kit execution payload summary = .ok ()) ∧
      kit.reportMatchesExecution payload execution = found ∧
      (found = false → dryRun = execution.dryRunOnly → laneComplete payload summary = true) := by
  unfold reportMatches
  rw [bind_ok]
  constructor
  · rintro ⟨text,decoded,read⟩
    obtain ⟨value,strict,read⟩ := bind_ok.mp read
    split at read
    · rename_i payload
      obtain ⟨_,filled,read⟩ := bind_ok.mp read
      obtain ⟨_,status,read⟩ := bind_ok.mp read
      split at read
      · rename_i dryRun summary flag summarised
        obtain ⟨_,named,read⟩ := bind_ok.mp read
        obtain ⟨_,lane,read⟩ := bind_ok.mp read
        have formed : WellFormed execution payload dryRun summary :=
          wellFormed_iff.mpr ⟨require_ok.mp filled,require_ok.mp status,flag,summarised,require_ok.mp named⟩
        refine ⟨payload,dryRun,summary,⟨text,decoded,strict⟩,formed,?_,?_⟩
        · intro same
          rw [if_pos same] at lane
          exact lane
        · split at read
          · rename_i matched
            cases return_ok.mp read
            exact ⟨matched,fun impossible => nomatch impossible⟩
          · rename_i unmatched
            obtain ⟨_,complete,read⟩ := bind_ok.mp read
            cases return_ok.mp read
            refine ⟨Bool.not_eq_true _ ▸ unmatched,?_⟩
            intro _ same
            exact (require_ok.mp complete).resolve_left (absurd same)
      · cases read
    · cases read
  · rintro ⟨payload,dryRun,summary,⟨text,decoded,strict⟩,formed,lane,matched,complete⟩
    obtain ⟨filled,status,flag,summarised,named⟩ := wellFormed_iff.mp formed
    refine ⟨text,decoded,bind_ok.mpr ⟨.dict payload,strict,?_⟩⟩
    refine bind_ok.mpr ⟨(),require_ok.mpr filled,bind_ok.mpr ⟨(),require_ok.mpr status,?_⟩⟩
    rw [flag,summarised]
    refine bind_ok.mpr ⟨(),require_ok.mpr named,bind_ok.mpr ⟨(),?_,?_⟩⟩
    · split
      · rename_i same
        exact lane same
      · rfl
    · cases found with
      | true =>
        rw [if_pos matched]
        rfl
      | false =>
        rw [matched]
        refine bind_ok.mpr ⟨(),require_ok.mpr ?_,rfl⟩
        by_cases same : dryRun = execution.dryRunOnly
        · exact .inr (complete rfl same)
        · exact .inl same

-- A report that is sound, complete and of another execution
structure Unmatched (kit : JournalKit) (execution : Execution) (raw : String) : Prop where
  report : ∃ payload dryRun summary, Reads kit raw payload ∧ WellFormed execution payload dryRun summary ∧
    (dryRun = execution.dryRunOnly → CompleteLane kit execution payload summary) ∧ kit.reportMatchesExecution payload execution = false

theorem reportMatches_false : reportMatches kit execution raw = .ok false ↔ Unmatched kit execution raw := by
  rw [reportMatches_ok]
  constructor
  · rintro ⟨payload,dryRun,summary,reads,formed,lane,matched,complete⟩
    exact ⟨payload,dryRun,summary,reads,formed,fun same => completeLane_iff.mpr ⟨lane same,complete rfl same⟩,matched⟩
  · rintro ⟨payload,dryRun,summary,reads,formed,lane,matched⟩
    exact ⟨payload,dryRun,summary,reads,formed,fun same => (completeLane_iff.mp (lane same)).1,matched,
      fun _ same => (completeLane_iff.mp (lane same)).2⟩

end reports

section tree

variable {judge : String → Except PyExc Bool} {tally after : Tally}

-- A directory stands for itself, without what it holds.
def DirEntry.alone : DirEntry → DirEntry
  | .directory name _ => .directory name []
  | entry => entry

mutual

-- All entries that the walk meets, in its order.
def visited : DirEntry → List DirEntry
  | .directory name entries => .directory name [] :: visitedAll entries
  | entry => [entry]

def visitedAll : List DirEntry → List DirEntry
  | [] => []
  | entry :: rest => visited entry ++ visitedAll rest

end

def stepEntry (judge : String → Except PyExc Bool) (tally : Tally) (entry : DirEntry) : Except PyExc (Bool × Tally) :=
  scanEntry judge tally entry.alone

theorem search_one {α σ ε : Type} {step : σ → α → Except ε (Bool × σ)} {state : σ} {item : α} : search step state [item] = step state item := by
  rw [search]
  cases step state item with
  | error error => rfl
  | ok result =>
    obtain ⟨found,after⟩ := result
    cases found <;> rfl

mutual

theorem scanEntry_search (judge : String → Except PyExc Bool) : (entry : DirEntry) → (tally : Tally) →
    scanEntry judge tally entry = search (stepEntry judge) tally (visited entry)
  | .directory name entries,tally => by
    rw [visited,search]
    show (countEntry tally >>= fun tally => scanDirectory judge tally entries) =
      ((countEntry tally >>= fun tally => scanDirectory judge tally []) >>= _)
    cases countEntry tally with
    | error error => rfl
    | ok tally => exact scanDirectory_search judge entries tally
  | .file _ _,_ => search_one.symm
  | .link _,_ => search_one.symm
  | .special _,_ => search_one.symm
  | .failing _,_ => search_one.symm

theorem scanDirectory_search (judge : String → Except PyExc Bool) : (entries : List DirEntry) → (tally : Tally) →
    scanDirectory judge tally entries = search (stepEntry judge) tally (visitedAll entries)
  | [],_ => by
    rw [scanDirectory,visitedAll,search]
  | entry :: rest,tally => by
    rw [scanDirectory,visitedAll,search_append,scanEntry_search judge entry tally]
    cases search (stepEntry judge) tally (visited entry) with
    | error error => rfl
    | ok result =>
      obtain ⟨found,after⟩ := result
      cases found with
      | true => rfl
      | false => exact scanDirectory_search judge rest after

end

-- An entry behind which the walk goes on
def EntryClear (clear : String → Prop) : DirEntry → Prop
  | .file name text => isJson name = true → ∃ raw, text = .ok raw ∧ clear raw
  | .directory _ _ => True
  | _ => False

def isReport : DirEntry → Bool
  | .file name _ => isJson name
  | _ => false

theorem countEntry_ok : countEntry tally = .ok after ↔ tally.count + 1 ≤ strictReportScanLimit ∧ after = { tally with count := tally.count + 1 } :=
  Tally.next_ok

theorem stepEntry_passes (judge : String → Except PyExc Bool) :
    Passes (stepEntry judge) (EntryClear fun raw => judge raw = .ok false) isReport strictReportScanLimit := by
  intro tally entry after
  cases entry with
  | file name text =>
    show (countEntry tally >>= fun tally => if isJson name then (do
      let raw ← text
      let found ← judge raw
      return (found,countReport tally)) else return (false,tally)) = _ ↔ _
    rw [bind_ok]
    unfold EntryClear isReport
    by_cases json : isJson name = true
    · simp only [json,if_true,true_implies]
      constructor
      · rintro ⟨counted,next,read⟩
        obtain ⟨raw,stated,read⟩ := bind_ok.mp read
        obtain ⟨found,judged,read⟩ := bind_ok.mp read
        obtain ⟨room,rfl⟩ := countEntry_ok.mp next
        cases return_ok.mp read
        exact ⟨⟨raw,stated,judged⟩,room,rfl⟩
      · rintro ⟨⟨raw,stated,judged⟩,room,rfl⟩
        exact ⟨_,countEntry_ok.mpr ⟨room,rfl⟩,bind_ok.mpr ⟨raw,stated,bind_ok.mpr ⟨false,judged,rfl⟩⟩⟩
    · simp only [json,if_false,false_implies,true_and,Bool.false_eq_true]
      constructor
      · rintro ⟨counted,next,read⟩
        obtain ⟨room,rfl⟩ := countEntry_ok.mp next
        cases return_ok.mp read
        exact ⟨room,rfl⟩
      · rintro ⟨room,rfl⟩
        exact ⟨_,countEntry_ok.mpr ⟨room,rfl⟩,rfl⟩
  | directory name entries =>
    show (countEntry tally >>= fun tally => scanDirectory judge tally []) = _ ↔ _
    rw [bind_ok]
    constructor
    · rintro ⟨counted,next,read⟩
      obtain ⟨room,rfl⟩ := countEntry_ok.mp next
      rw [scanDirectory] at read
      cases read
      exact ⟨trivial,room,rfl⟩
    · rintro ⟨_,room,rfl⟩
      exact ⟨_,countEntry_ok.mpr ⟨room,rfl⟩,by rw [scanDirectory]; rfl⟩
  | link name =>
    constructor
    · intro read
      obtain ⟨_,_,impossible⟩ := bind_ok.mp (show (countEntry tally >>= fun _ => .error refused) = _ from read)
      cases impossible
    · rintro ⟨impossible,_⟩
      cases impossible
  | special name =>
    constructor
    · intro read
      obtain ⟨_,_,impossible⟩ := bind_ok.mp (show (countEntry tally >>= fun _ => .error refused) = _ from read)
      cases impossible
    · rintro ⟨impossible,_⟩
      cases impossible
  | failing error =>
    constructor
    · intro read
      obtain ⟨_,_,impossible⟩ := bind_ok.mp (show (countEntry tally >>= fun _ => .error error) = _ from read)
      cases impossible
    · rintro ⟨impossible,_⟩
      cases impossible

theorem stepEntry_found {entry : DirEntry} (found : stepEntry judge tally entry = .ok (true,after)) :
    ∃ name raw, entry = .file name (.ok raw) ∧ judge raw = .ok true := by
  cases entry with
  | file name text =>
    have read : (countEntry tally >>= fun tally => if isJson name then (do
      let raw ← text
      let found ← judge raw
      return (found,countReport tally)) else return (false,tally)) = .ok (true,after) := found
    obtain ⟨counted,_,read⟩ := bind_ok.mp read
    split at read
    · obtain ⟨raw,stated,read⟩ := bind_ok.mp read
      obtain ⟨hit,judged,read⟩ := bind_ok.mp read
      cases return_ok.mp read
      exact ⟨name,raw,by rw [stated],judged⟩
    · cases return_ok.mp read
  | directory name entries =>
    have read : (countEntry tally >>= fun tally => scanDirectory judge tally []) = .ok (true,after) := found
    obtain ⟨_,_,read⟩ := bind_ok.mp read
    rw [scanDirectory] at read
    cases read
  | link name =>
    obtain ⟨_,_,impossible⟩ := bind_ok.mp (show (countEntry tally >>= fun _ => .error refused) = _ from found)
    cases impossible
  | special name =>
    obtain ⟨_,_,impossible⟩ := bind_ok.mp (show (countEntry tally >>= fun _ => .error refused) = _ from found)
    cases impossible
  | failing error =>
    obtain ⟨_,_,impossible⟩ := bind_ok.mp (show (countEntry tally >>= fun _ => .error error) = _ from found)
    cases impossible

-- The same entries in another order, in every directory
inductive Reordered : List DirEntry → List DirEntry → Prop where
  | shuffled {one two : List DirEntry} : one.Perm two → Reordered one two
  | inside {name : String} {one two rest : List DirEntry} : Reordered one two →
      Reordered (.directory name one :: rest) (.directory name two :: rest)
  | trans {one two three : List DirEntry} : Reordered one two → Reordered two three → Reordered one three

theorem visitedAll_eq (entries : List DirEntry) : visitedAll entries = entries.flatMap visited := by
  induction entries with
  | nil => rfl
  | cons entry rest ih => rw [visitedAll,ih,List.flatMap_cons]

theorem Reordered.visited {one two : List DirEntry} (same : Reordered one two) : (visitedAll one).Perm (visitedAll two) := by
  induction same with
  | shuffled perm =>
    rw [visitedAll_eq,visitedAll_eq]
    exact perm.flatMap_right _
  | @inside name one two rest _ ih =>
    rw [visitedAll,visitedAll,Observation.visited,Observation.visited]
    exact (ih.cons _).append_right _
  | trans _ _ first second => exact first.trans second

end tree

section listing

variable {readText : String → Except PyExc String} {judge : String → Except PyExc Bool} {bucket lead : String} {tally after : Tally}

-- A blob behind which the listing goes on
def BlobClear (readText : String → Except PyExc String) (bucket lead : String) (clear : String → Prop) : Listed → Prop
  | .blob (.str name) => startsWith name lead = true ∧ (isJson name = true → ∃ raw, readText (blobUri bucket name) = .ok raw ∧ clear raw)
  | _ => False

def isListedReport : Listed → Bool
  | .blob (.str name) => isJson name
  | _ => false

-- One named blob, once it has been counted
theorem scanBlob_named {name : String} {result : Bool × Tally} : scanBlob readText judge bucket lead tally (.blob (.str name)) = .ok result ↔
    tally.count + 1 ≤ strictReportScanLimit ∧ startsWith name lead = true ∧
      if isJson name = true then ∃ raw found, readText (blobUri bucket name) = .ok raw ∧ judge raw = .ok found ∧
        result = (found,⟨tally.count + 1,tally.reports + 1⟩)
      else result = (false,⟨tally.count + 1,tally.reports⟩) := by
  have step : scanBlob readText judge bucket lead tally (.blob (.str name)) = (countEntry tally >>= fun tally =>
      if !startsWith name lead then .error refused
      else if isJson name then (do
        let raw ← readText (blobUri bucket name)
        let found ← judge raw
        return (found,countReport tally)) else return (false,tally)) := rfl
  rw [step,bind_ok]
  constructor
  · rintro ⟨counted,next,read⟩
    obtain ⟨room,rfl⟩ := countEntry_ok.mp next
    cases under : startsWith name lead with
    | false =>
      rw [under] at read
      cases read
    | true =>
      rw [under] at read
      refine ⟨room,rfl,?_⟩
      by_cases json : isJson name = true
      · rw [if_pos json]
        rw [json] at read
        obtain ⟨raw,stated,read⟩ := bind_ok.mp read
        obtain ⟨found,judged,read⟩ := bind_ok.mp read
        exact ⟨raw,found,stated,judged,(return_ok.mp read).symm⟩
      · rw [if_neg json]
        rw [Bool.not_eq_true] at json
        rw [json] at read
        exact (return_ok.mp read).symm
  · rintro ⟨room,under,read⟩
    refine ⟨_,countEntry_ok.mpr ⟨room,rfl⟩,?_⟩
    rw [under]
    by_cases json : isJson name = true
    · rw [if_pos json] at read
      obtain ⟨raw,found,stated,judged,rfl⟩ := read
      rw [json]
      exact bind_ok.mpr ⟨raw,stated,bind_ok.mpr ⟨found,judged,rfl⟩⟩
    · rw [if_neg json] at read
      subst read
      rw [Bool.not_eq_true] at json
      rw [json]
      rfl

theorem scanBlob_unnamed {name : PyVal} {result : Bool × Tally} (unnamed : ∀ text, name ≠ .str text) :
    scanBlob readText judge bucket lead tally (.blob name) ≠ .ok result := by
  intro read
  unfold scanBlob at read
  obtain ⟨_,_,read⟩ := bind_ok.mp read
  split at read
  · exact unnamed _ rfl
  · cases read

theorem scanBlob_passes : Passes (scanBlob readText judge bucket lead)
    (BlobClear readText bucket lead fun raw => judge raw = .ok false) isListedReport strictReportScanLimit := by
  intro tally item after
  cases item with
  | failure error =>
    constructor
    · intro impossible
      cases impossible
    · rintro ⟨impossible,_⟩
      cases impossible
  | blob name =>
    cases name with
    | str name =>
      rw [scanBlob_named]
      by_cases json : isJson name = true
      · rw [if_pos json,show (if isListedReport (.blob (.str name)) = true then 1 else 0) = 1 from if_pos json]
        constructor
        · rintro ⟨room,under,raw,found,stated,judged,same⟩
          obtain ⟨rfl,rfl⟩ := Prod.mk.inj same
          exact ⟨⟨under,fun _ => ⟨raw,stated,judged⟩⟩,room,rfl⟩
        · rintro ⟨⟨under,read⟩,room,rfl⟩
          obtain ⟨raw,stated,judged⟩ := read json
          exact ⟨room,under,raw,false,stated,judged,rfl⟩
      · rw [if_neg json,show (if isListedReport (.blob (.str name)) = true then 1 else 0) = 0 from if_neg json]
        constructor
        · rintro ⟨room,under,same⟩
          exact ⟨⟨under,fun held => absurd held json⟩,room,(Prod.mk.inj same).2⟩
        · rintro ⟨⟨under,_⟩,room,rfl⟩
          exact ⟨room,under,rfl⟩
    | _ =>
      constructor
      · intro read
        exact absurd read (scanBlob_unnamed fun _ impossible => nomatch impossible)
      · rintro ⟨impossible,_⟩
        cases impossible

theorem scanBlob_found {item : Listed} (found : scanBlob readText judge bucket lead tally item = .ok (true,after)) :
    ∃ name raw, item = .blob (.str name) ∧ readText (blobUri bucket name) = .ok raw ∧ judge raw = .ok true := by
  cases item with
  | failure error => cases found
  | blob name =>
    cases name with
    | str name =>
      obtain ⟨_,_,read⟩ := scanBlob_named.mp found
      split at read
      · obtain ⟨raw,hit,stated,judged,same⟩ := read
        obtain ⟨rfl,_⟩ := Prod.mk.inj same
        exact ⟨name,raw,rfl,stated,judged⟩
      · cases (Prod.mk.inj read).1
    | _ => exact absurd found (scanBlob_unnamed fun _ impossible => nomatch impossible)

-- A listing that is cut is refused: what fits in is the whole of it.
theorem cut_listing {listed : List Listed} {count : ℕ} (small : count ≤ strictReportScanLimit) :
    count + (listed.take (strictReportScanLimit - count + 1)).length ≤ strictReportScanLimit ↔ count + listed.length ≤ strictReportScanLimit := by
  rw [List.length_take]
  omega

end listing

section whole

variable {kit : JournalKit} {journal : Journal} {run : PriorRun} {execution : Execution}

-- All that is known of a journal without a prior report of the execution
structure NoPriorReport (kit : JournalKit) (execution : Execution) (entries : List DirEntry) (objects : ObjectStore) (bucket lead : String) :
    Prop where
  room : (visitedAll entries).length + (objects.listed bucket lead).length ≤ strictReportScanLimit
  tree : ∀ entry ∈ visitedAll entries, EntryClear (Unmatched kit execution) entry
  localReport : ∃ name text, .file name text ∈ visitedAll entries ∧ isJson name = true
  listing : ∀ item ∈ objects.listed bucket lead, BlobClear objects.readText bucket lead (Unmatched kit execution) item
  cloudReport : ∃ name, .blob (.str name) ∈ objects.listed bucket lead ∧ isJson name = true

-- Where the search of a run looks
structure Located (kit : JournalKit) (journal : Journal) (run : PriorRun) (execution : Execution) (entries : List DirEntry)
    (objects : ObjectStore) (url : Url) : Prop where
  asked : executionOf run = .ok execution
  places : ∃ places, placesOf kit journal.cloudPrefixUri execution run.reportBaseDir = .ok places ∧
    journal.opened places.parts = .ok entries ∧ urlsplit kit.netlocValid places.cloud = .ok url
  stored : journal.objectStore = .ok (some objects)

theorem reports_entry {entries : List DirEntry} : entries.countP isReport ≠ 0 ↔ ∃ name text, .file name text ∈ entries ∧ isJson name = true := by
  rw [← Nat.pos_iff_ne_zero,List.countP_pos_iff]
  constructor
  · rintro ⟨entry,member,json⟩
    cases entry with
    | file name text => exact ⟨name,text,member,json⟩
    | _ => cases json
  · rintro ⟨name,text,member,json⟩
    exact ⟨_,member,json⟩

theorem reports_listed {listed : List Listed} : listed.countP isListedReport ≠ 0 ↔ ∃ name, .blob (.str name) ∈ listed ∧ isJson name = true := by
  rw [← Nat.pos_iff_ne_zero,List.countP_pos_iff]
  constructor
  · rintro ⟨item,member,json⟩
    cases item with
    | failure error => cases json
    | blob name =>
      cases name with
      | str name => exact ⟨name,member,json⟩
      | _ => cases json
  · rintro ⟨name,member,json⟩
    exact ⟨_,member,json⟩

-- The local half finds nothing.
theorem scanLocal_false {parts : List String} {tally : Tally} : scanLocal journal (reportMatches kit execution) parts = .ok (false,tally) ↔
    ∃ entries, journal.opened parts = .ok entries ∧ (∀ entry ∈ visitedAll entries, EntryClear (Unmatched kit execution) entry) ∧
      (visitedAll entries).length ≤ strictReportScanLimit ∧
      tally = ⟨(visitedAll entries).length,(visitedAll entries).countP isReport⟩ := by
  unfold scanLocal
  rw [bind_ok]
  refine exists_congr fun entries => and_congr Iff.rfl ?_
  rw [scanDirectory_search,search_clear (stepEntry_passes _) (Nat.zero_le _)]
  simp only [reportMatches_false,Nat.zero_add]

theorem scanCloud_false {cloud : String} {count : ℕ} {tally : Tally} (small : count ≤ strictReportScanLimit) :
    scanCloud kit journal (reportMatches kit execution) cloud count = .ok (false,tally) ↔
    ∃ objects url, journal.objectStore = .ok (some objects) ∧ urlsplit kit.netlocValid cloud = .ok url ∧
      (∀ item ∈ objects.listed url.netloc (dropLeading '/' url.path),
        BlobClear objects.readText url.netloc (dropLeading '/' url.path) (Unmatched kit execution) item) ∧
      count + (objects.listed url.netloc (dropLeading '/' url.path)).length ≤ strictReportScanLimit ∧
      tally = ⟨count + (objects.listed url.netloc (dropLeading '/' url.path)).length,
        (objects.listed url.netloc (dropLeading '/' url.path)).countP isListedReport⟩ := by
  have walked : ∀ (objects : ObjectStore) (bucket lead : String),
      search (scanBlob objects.readText (reportMatches kit execution) bucket lead) ⟨count,0⟩
        (objects.listBlobs bucket lead (strictReportScanLimit - count + 1)) = .ok (false,tally) ↔
      (∀ item ∈ objects.listed bucket lead, BlobClear objects.readText bucket lead (Unmatched kit execution) item) ∧
        count + (objects.listed bucket lead).length ≤ strictReportScanLimit ∧
        tally = ⟨count + (objects.listed bucket lead).length,(objects.listed bucket lead).countP isListedReport⟩ := by
    intro objects bucket lead
    rw [search_clear scanBlob_passes small]
    unfold ObjectStore.listBlobs
    rw [cut_listing small]
    simp only [reportMatches_false,Nat.zero_add]
    constructor
    · rintro ⟨clear,room,same⟩
      have whole : (objects.listed bucket lead).take (strictReportScanLimit - count + 1) = objects.listed bucket lead := by
        apply List.take_of_length_le
        omega
      rw [whole] at clear same
      exact ⟨clear,room,same⟩
    · rintro ⟨clear,room,same⟩
      have whole : (objects.listed bucket lead).take (strictReportScanLimit - count + 1) = objects.listed bucket lead := by
        apply List.take_of_length_le
        omega
      rw [whole]
      exact ⟨clear,room,same⟩
  unfold scanCloud
  rw [bind_ok]
  constructor
  · rintro ⟨store,stored,ran⟩
    cases store with
    | none => cases ran
    | some objects =>
      obtain ⟨url,split,ran⟩ := bind_ok.mp ran
      exact ⟨objects,url,stored,split,(walked _ _ _).mp ran⟩
  · rintro ⟨objects,url,stored,split,ran⟩
    exact ⟨some objects,stored,bind_ok.mpr ⟨url,split,(walked _ _ _).mpr ran⟩⟩

theorem strictPriorReportExists_ok {found : Bool} : strictPriorReportExists kit journal run = .ok found ↔ searchReports kit journal run = .ok found := by
  unfold strictPriorReportExists
  cases searchReports kit journal run with
  | ok other => rfl
  | error error =>
    constructor
    · intro impossible
      dsimp only at impossible
      split at impossible
      · cases impossible
      · cases impossible
    · intro impossible
      cases impossible

-- False is returned exactly where the whole journal was seen and holds no prior report.
theorem searchReports_false : searchReports kit journal run = .ok false ↔ ∃ execution entries objects url,
    Located kit journal run execution entries objects url ∧
      NoPriorReport kit execution entries objects url.netloc (dropLeading '/' url.path) := by
  unfold searchReports
  rw [bind_ok]
  constructor
  · rintro ⟨execution,asked,ran⟩
    obtain ⟨places,located,ran⟩ := bind_ok.mp ran
    obtain ⟨⟨found,tally⟩,own,ran⟩ := bind_ok.mp ran
    cases found with
    | true => cases return_ok.mp ran
    | false =>
      obtain ⟨entries,opened,tree,small,rfl⟩ := scanLocal_false.mp own
      obtain ⟨_,reported,ran⟩ := bind_ok.mp ran
      obtain ⟨⟨found,tally⟩,cloud,ran⟩ := bind_ok.mp ran
      cases found with
      | true => cases return_ok.mp ran
      | false =>
        obtain ⟨objects,url,stored,split,listing,room,rfl⟩ := (scanCloud_false small).mp cloud
        obtain ⟨_,listed,_⟩ := bind_ok.mp ran
        exact ⟨execution,entries,objects,url,⟨asked,⟨places,located,opened,split⟩,stored⟩,
          ⟨room,tree,reports_entry.mp (require_ok.mp reported),listing,reports_listed.mp (require_ok.mp listed)⟩⟩
  · rintro ⟨execution,entries,objects,url,⟨asked,⟨places,located,opened,split⟩,stored⟩,⟨room,tree,localReport,listing,cloudReport⟩⟩
    have small : (visitedAll entries).length ≤ strictReportScanLimit := (Nat.le_add_right _ _).trans room
    refine ⟨execution,asked,bind_ok.mpr ⟨places,located,bind_ok.mpr ⟨_,scanLocal_false.mpr ⟨entries,opened,tree,small,rfl⟩,?_⟩⟩⟩
    refine bind_ok.mpr ⟨(),require_ok.mpr (reports_entry.mpr localReport),?_⟩
    refine bind_ok.mpr ⟨_,(scanCloud_false small).mpr ⟨objects,url,stored,split,listing,room,rfl⟩,?_⟩
    exact bind_ok.mpr ⟨(),require_ok.mpr (reports_listed.mpr cloudReport),rfl⟩

-- A text that the search reads at its places: of a local file, or of an object
def ReadAt (kit : JournalKit) (journal : Journal) (places : ReportPlaces) (raw : String) : Prop :=
  (∃ entries name, journal.opened places.parts = .ok entries ∧ .file name (.ok raw) ∈ visitedAll entries) ∨
    ∃ objects url name, journal.objectStore = .ok (some objects) ∧ urlsplit kit.netlocValid places.cloud = .ok url ∧
      .blob (.str name) ∈ objects.listed url.netloc (dropLeading '/' url.path) ∧ objects.readText (blobUri url.netloc name) = .ok raw

-- A report that was read and is of the execution
structure PriorReport (kit : JournalKit) (journal : Journal) (run : PriorRun) (execution : Execution) (raw : String) (payload : Fields) : Prop where
  asked : executionOf run = .ok execution
  read : ∃ places, placesOf kit journal.cloudPrefixUri execution run.reportBaseDir = .ok places ∧ ReadAt kit journal places raw
  report : Reads kit raw payload
  matched : kit.reportMatchesExecution payload execution = true

theorem searchReports_true (found : searchReports kit journal run = .ok true) : ∃ execution raw payload,
    PriorReport kit journal run execution raw payload := by
  unfold searchReports at found
  obtain ⟨execution,asked,ran⟩ := bind_ok.mp found
  obtain ⟨places,located,ran⟩ := bind_ok.mp ran
  obtain ⟨⟨hit,tally⟩,own,ran⟩ := bind_ok.mp ran
  have report : ∀ raw, reportMatches kit execution raw = .ok true → ∃ payload, Reads kit raw payload ∧
      kit.reportMatchesExecution payload execution = true := by
    intro raw judged
    obtain ⟨payload,_,_,reads,_,_,matched,_⟩ := reportMatches_ok.mp judged
    exact ⟨payload,reads,matched⟩
  cases hit with
  | true =>
    unfold scanLocal at own
    obtain ⟨entries,opened,walked⟩ := bind_ok.mp own
    rw [scanDirectory_search] at walked
    obtain ⟨entry,member,_,_,step⟩ := search_found walked
    obtain ⟨name,raw,rfl,judged⟩ := stepEntry_found step
    obtain ⟨payload,reads,matched⟩ := report raw judged
    exact ⟨execution,raw,payload,asked,⟨places,located,.inl ⟨entries,name,opened,member⟩⟩,reads,matched⟩
  | false =>
    obtain ⟨_,_,ran⟩ := bind_ok.mp ran
    obtain ⟨⟨hit,tally⟩,cloud,ran⟩ := bind_ok.mp ran
    cases hit with
    | false =>
      obtain ⟨_,_,ran⟩ := bind_ok.mp ran
      cases return_ok.mp ran
    | true =>
      unfold scanCloud at cloud
      obtain ⟨store,stored,walked⟩ := bind_ok.mp cloud
      cases store with
      | none => cases walked
      | some objects =>
        obtain ⟨url,split,walked⟩ := bind_ok.mp walked
        obtain ⟨item,member,_,_,step⟩ := search_found walked
        obtain ⟨name,raw,rfl,read,judged⟩ := scanBlob_found step
        obtain ⟨payload,reads,matched⟩ := report raw judged
        exact ⟨execution,raw,payload,asked,⟨places,located,.inr ⟨objects,url,name,stored,split,List.mem_of_mem_take member,read⟩⟩,reads,matched⟩

-- Two journals with the same entries, each in an order of its own
structure SameEntries (one two : Journal) : Prop where
  uri : two.cloudPrefixUri = one.cloudPrefixUri
  files : ∀ parts, (∀ entries, one.opened parts ≠ .ok entries) ∧ (∀ entries, two.opened parts ≠ .ok entries) ∨
    ∃ entries others, one.opened parts = .ok entries ∧ two.opened parts = .ok others ∧ Reordered entries others
  store : one.objectStore = two.objectStore ∨ ∃ objects others, one.objectStore = .ok (some objects) ∧ two.objectStore = .ok (some others) ∧
    others.readText = objects.readText ∧ ∀ bucket lead, (objects.listed bucket lead).Perm (others.listed bucket lead)

theorem NoPriorReport.reordered {entries others : List DirEntry} {objects stored : ObjectStore} {bucket lead : String}
    (none : NoPriorReport kit execution entries objects bucket lead) (tree : (visitedAll entries).Perm (visitedAll others))
    (listing : (objects.listed bucket lead).Perm (stored.listed bucket lead)) (text : stored.readText = objects.readText) :
    NoPriorReport kit execution others stored bucket lead := by
  obtain ⟨room,clear,⟨name,content,member,json⟩,listed,⟨blob,inside,kind⟩⟩ := none
  refine ⟨?_,?_,⟨name,content,tree.mem_iff.mp member,json⟩,?_,⟨blob,listing.mem_iff.mp inside,kind⟩⟩
  · rw [← tree.length_eq,← listing.length_eq]
    exact room
  · intro entry present
    exact clear entry (tree.mem_iff.mpr present)
  · intro item present
    rw [text]
    exact listed item (listing.mem_iff.mpr present)

theorem none_in_any_order {one two : Journal} (same : SameEntries one two) (none : searchReports kit one run = .ok false) :
    searchReports kit two run = .ok false := by
  obtain ⟨execution,entries,objects,url,⟨asked,⟨places,located,opened,split⟩,stored⟩,clean⟩ := searchReports_false.mp none
  obtain ⟨uri,files,store⟩ := same
  rcases files places.parts with ⟨closed,_⟩ | ⟨held,others,first,second,reordered⟩
  · exact absurd opened (closed entries)
  · cases opened.symm.trans first
    rw [← uri] at located
    rcases store with equal | ⟨kept,moved,here,there,text,listing⟩
    · exact searchReports_false.mpr ⟨execution,others,objects,url,⟨asked,⟨places,located,second,split⟩,equal ▸ stored⟩,
        clean.reordered reordered.visited (.refl _) rfl⟩
    · cases stored.symm.trans here
      exact searchReports_false.mpr ⟨execution,others,moved,url,⟨asked,⟨places,located,second,split⟩,there⟩,
        clean.reordered reordered.visited (listing _ _) text⟩

theorem Reordered.symm {one two : List DirEntry} (same : Reordered one two) : Reordered two one := by
  induction same with
  | shuffled perm => exact .shuffled perm.symm
  | inside _ ih => exact .inside ih
  | trans _ _ first second => exact .trans second first

theorem SameEntries.symm {one two : Journal} (same : SameEntries one two) : SameEntries two one := by
  obtain ⟨uri,files,store⟩ := same
  refine ⟨uri.symm,?_,?_⟩
  · intro parts
    rcases files parts with ⟨first,second⟩ | ⟨entries,others,first,second,reordered⟩
    · exact .inl ⟨second,first⟩
    · exact .inr ⟨others,entries,second,first,reordered.symm⟩
  · rcases store with equal | ⟨objects,others,first,second,text,listing⟩
    · exact .inl equal.symm
    · exact .inr ⟨others,objects,second,first,text.symm,fun bucket lead => (listing bucket lead).symm⟩

theorem strictPriorReportExists_error {error : PyExc} (raised : strictPriorReportExists kit journal run = .error error) :
    error = ⟨"RuntimeError","validation_journal_empty"⟩ ∨ error = ⟨"RuntimeError","validation_journal_read_failed"⟩ := by
  unfold strictPriorReportExists at raised
  split at raised
  · cases raised
  · split at raised
    · exact .inl (Except.error.inj raised).symm
    · exact .inr (Except.error.inj raised).symm

-- True comes from a report that was read, False from a journal that was seen whole, and anything
-- else is an error; the order of the entries never makes or unmakes a False.
theorem absence_needs_the_whole_journal :
    (strictPriorReportExists kit journal run = .ok true → ∃ execution raw payload, PriorReport kit journal run execution raw payload) ∧
    (strictPriorReportExists kit journal run = .ok false ↔ ∃ execution entries objects url,
      Located kit journal run execution entries objects url ∧
        NoPriorReport kit execution entries objects url.netloc (dropLeading '/' url.path)) ∧
    (∀ error, strictPriorReportExists kit journal run = .error error →
      error = ⟨"RuntimeError","validation_journal_empty"⟩ ∨ error = ⟨"RuntimeError","validation_journal_read_failed"⟩) ∧
    ∀ other, SameEntries journal other →
      (strictPriorReportExists kit other run = .ok false ↔ strictPriorReportExists kit journal run = .ok false) := by
  refine ⟨?_,?_,fun error => strictPriorReportExists_error,?_⟩
  · intro found
    exact searchReports_true (strictPriorReportExists_ok.mp found)
  · rw [strictPriorReportExists_ok]
    exact searchReports_false
  · intro other same
    rw [strictPriorReportExists_ok,strictPriorReportExists_ok]
    exact ⟨none_in_any_order same.symm,none_in_any_order same⟩

-- A journal of two copies of one report, whose scope is written in another case and with space around it
def looseReport : JsonText := .object
  [("platform",.value (.str "longbridge")),("strategy_profile",.value (.str "strategy")),("account_scope",.value (.str " paper ")),
    ("dry_run",.value (.bool true)),("status",.value (.str "ok")),
    ("summary",.object [("action_done",.value (.bool false)),("order_events_count",.value (.int 0)),
      ("orders_previewed_count",.value (.int 0)),("orders_skipped_count",.value (.int 0))])]

def looseKit : JournalKit where
  decode _ := .ok looseReport
  signalDateKeys _ _ := ["2025-01-01"]
  effectiveDateKeys _ _ := []
  reportMatchesExecution _ _ := false
  reportFolder _ := .ok "longbridge/strategy/PAPER"
  localParts _ _ := .ok ["/","reports","longbridge","strategy","PAPER"]
  netlocValid _ := true

def looseJournal : Journal where
  cloudPrefixUri := .str "gs://bucket/root"
  objectStore := .ok (some ⟨fun _ lead => [.blob (.str (lead ++ "2025-01/run.json"))],fun _ => .ok "report"⟩)
  opened _ := .ok [.directory "2025-01" [.file "run.json" (.ok "report")]]

def paperRun : PriorRun :=
  ⟨.str "longbridge",.str "strategy",.str "PAPER",.str "2026-01-31",.none,.bool true,.none⟩

theorem scope_in_another_case_is_accepted :
    ¬∀ (kit : JournalKit) (journal : Journal) (run : PriorRun), strictPriorReportExists kit journal run = .ok false →
      ∀ parts entries name raw payload execution, journal.opened parts = .ok entries → .file name (.ok raw) ∈ visitedAll entries →
        isJson name = true → Reads kit raw payload → executionOf run = .ok execution →
        (payload.get "account_scope").isStr execution.accountScope = true := by
  intro claimed
  have exact := claimed looseKit looseJournal paperRun (by decide +kernel) [] [.directory "2025-01" [.file "run.json" (.ok "report")]]
    "run.json" "report" _ ⟨"longbridge","strategy","PAPER",.str "2026-01-31",.none,true⟩ rfl (List.mem_cons_of_mem _ List.mem_cons_self)
    (by decide) ⟨looseReport,rfl,rfl⟩ rfl
  exact absurd exact (by decide)

end whole

end LongBridge.Observation
