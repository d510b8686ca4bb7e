import LongBridge.Reporting.Collector

namespace LongBridge.Reporting
open Effects CycleHealth

abbrev CollectorEvent := Event collectorPorts PyExc

section sets

variable {fields : Fields} {key : String} {value : PyVal}

theorem mem_fields_set {entry : String × PyVal} (member : entry ∈ fields.set key value) : entry ∈ fields ∨ entry = (key,value) := by
  induction fields with
  | nil => exact .inr (List.mem_singleton.mp member)
  | cons first rest ih =>
    obtain ⟨name,old⟩ := first
    unfold Fields.set at member
    split at member
    · rename_i same
      rw [beq_iff_eq] at same
      rcases List.mem_cons.mp member with rfl | later
      · subst same
        exact .inr rfl
      · exact .inl (List.mem_cons_of_mem _ later)
    · rcases List.mem_cons.mp member with rfl | later
      · exact .inl List.mem_cons_self
      · rcases ih later with old | new
        · exact .inl (List.mem_cons_of_mem _ old)
        · exact .inr new

theorem keys_fields_set {name : String} : name ∈ (fields.set key value).map Prod.fst ↔ name = key ∨ name ∈ fields.map Prod.fst := by
  induction fields with
  | nil => simp [Fields.set]
  | cons first rest ih =>
    obtain ⟨other,old⟩ := first
    unfold Fields.set
    split
    · rename_i same
      rw [beq_iff_eq] at same
      subst same
      simp
    · rw [List.map_cons,List.mem_cons,ih,List.map_cons,List.mem_cons]
      exact or_left_comm

theorem nodup_fields_set (nodup : (fields.map Prod.fst).Nodup) : ((fields.set key value).map Prod.fst).Nodup := by
  induction fields with
  | nil => exact List.nodup_singleton key
  | cons first rest ih =>
    obtain ⟨other,old⟩ := first
    rw [List.map_cons,List.nodup_cons] at nodup
    unfold Fields.set
    split
    · rw [List.map_cons,List.nodup_cons]
      exact nodup
    · rename_i unlike
      rw [beq_iff_eq] at unlike
      rw [List.map_cons,List.nodup_cons,keys_fields_set]
      exact ⟨fun held => held.elim unlike nodup.1,ih nodup.2⟩

end sets

section listing

variable {kit : CollectorKit} {request : CollectRequest} {started : ℚ} {held : Bool} {before after : Unit}
  {events past : List CollectorEvent} {lead name : String} {fields : Fields} {reads : PageReads} {done : List String}

-- A page that the listing of a prefix gave
def PageGiven (events : List CollectorEvent) (lead : String) (fields : Fields) : Prop :=
  ∃ held token range, .answered held (.listPage lead token range) (.ok (.dict fields)) ∈ events

-- A page with an item of that name under the prefix
def Names (lead : String) (fields : Fields) (name : String) : Prop :=
  ∃ items item, fields.get "items" = .list items ∧ item ∈ items ∧ itemName item = some name ∧ startsWith name lead = true

-- The page as it is kept, beside the token of its request
def PageKept (pages : Fields) (lead : String) (fields : Fields) : Prop :=
  ∃ raw token, pages.get lead = .list raw ∧ .dict (fields.set "request_token" token) ∈ raw

-- Each name that is found was named by a page that is kept.
structure Tracked (done : List String) (events : List CollectorEvent) (reads : PageReads) : Prop where
  found : ∀ name ∈ reads.found, ∃ lead ∈ done, ∃ fields, PageGiven events lead fields ∧ Names lead fields name ∧
    PageKept reads.pages lead fields
  nodup : reads.found.Nodup

theorem PageGiven.stays (given : PageGiven past lead fields) : PageGiven (past ++ events) lead fields := by
  obtain ⟨held,token,range,member⟩ := given
  exact ⟨held,token,range,List.mem_append_left _ member⟩

theorem PageGiven.behind (given : PageGiven events lead fields) : PageGiven (past ++ events) lead fields := by
  obtain ⟨held,token,range,member⟩ := given
  exact ⟨held,token,range,List.mem_append_right _ member⟩

theorem Tracked.stays (tracked : Tracked done past reads) : Tracked done (past ++ events) reads where
  found name member := by
    obtain ⟨lead,own,fields,given,rest⟩ := tracked.found name member
    exact ⟨lead,own,fields,given.stays,rest⟩
  nodup := tracked.nodup

theorem Tracked.more {others : List String} (tracked : Tracked done past reads) (more : ∀ lead ∈ done, lead ∈ others) :
    Tracked others past reads where
  found name member := by
    obtain ⟨lead,own,rest⟩ := tracked.found name member
    exact ⟨lead,more lead own,rest⟩
  nodup := tracked.nodup

theorem Tracked.abort (tracked : Tracked done past reads) : Tracked done past reads.abort := ⟨tracked.found,tracked.nodup⟩

theorem addPage_own {pages : Fields} {raw : List PyVal} (opened : pages.get lead = .list raw) :
    (addPage pages lead fields).get lead = .list (raw ++ [.dict fields]) := by
  unfold addPage
  rw [opened]
  exact Fields.get_set_same ..

theorem addPage_other {pages : Fields} {other : String} (unlike : other ≠ lead) : (addPage pages lead fields).get other = pages.get other := by
  unfold addPage
  split
  · exact Fields.get_set_other _ _ unlike
  · rfl

theorem PageKept.later {pages page : Fields} {other : String} {raw : List PyVal} (kept : PageKept pages other fields)
    (opened : pages.get lead = .list raw) : PageKept (addPage pages lead page) other fields := by
  obtain ⟨own,token,stored,member⟩ := kept
  by_cases same : other = lead
  · subst same
    rw [opened] at stored
    cases stored
    exact ⟨_,token,addPage_own opened,List.mem_append_left _ member⟩
  · exact ⟨own,token,(addPage_other same).trans stored,member⟩

theorem noteItem_facts {found : List String} {item : PyVal} : (found.Nodup → (noteItem lead found item).Nodup) ∧
    ∀ name ∈ noteItem lead found item, name ∈ found ∨ itemName item = some name ∧ startsWith name lead = true := by
  unfold noteItem
  split
  · rename_i name named
    split
    · rename_i under
      refine ⟨fun nodup => addName_nodup nodup name,?_⟩
      intro other member
      rcases mem_addName.mp member with old | rfl
      · exact .inl old
      · exact .inr ⟨named,under⟩
    · exact ⟨id,fun _ => .inl⟩
  · exact ⟨id,fun _ => .inl⟩

theorem noteItems_facts {items : List PyVal} {found : List String} : (found.Nodup → (items.foldl (noteItem lead) found).Nodup) ∧
    ∀ name ∈ items.foldl (noteItem lead) found, name ∈ found ∨ ∃ item ∈ items, itemName item = some name ∧ startsWith name lead = true := by
  induction items generalizing found with
  | nil => exact ⟨id,fun _ => .inl⟩
  | cons item rest ih =>
    obtain ⟨nodup,members⟩ := @ih (noteItem lead found item)
    obtain ⟨own,step⟩ := @noteItem_facts lead found item
    refine ⟨fun distinct => nodup (own distinct),?_⟩
    intro name member
    rcases members name member with early | ⟨other,later,named⟩
    · rcases step name early with old | named
      · exact .inl old
      · exact .inr ⟨item,List.mem_cons_self,named⟩
    · exact .inr ⟨other,List.mem_cons_of_mem _ later,named⟩

-- What a page turn leaves, whichever way it goes
def PageTurn.left : PageTurn → PageReads
  | .ended reads => reads
  | .next _ reads => reads

structure Open (lead : String) (pages : Fields) : Prop where
  listed : ∃ raw, pages.get lead = .list raw

theorem takePage_tracked {token : PyVal} {seen : List String} (tracked : Tracked done events reads) (own : lead ∈ done)
    (given : PageGiven events lead fields) (opened : Open lead reads.pages) :
    Tracked done events (takePage lead token seen fields reads).left ∧ Open lead (takePage lead token seen fields reads).left.pages := by
  obtain ⟨raw,stored⟩ := opened.listed
  have still : Open lead (addPage reads.pages lead (fields.set "request_token" token)) := ⟨_,addPage_own stored⟩
  have kept : Tracked done events { reads with pages := addPage reads.pages lead (fields.set "request_token" token) } :=
    { found := fun name member => by
        obtain ⟨other,listed,page,seen,named,held⟩ := tracked.found name member
        exact ⟨other,listed,page,seen,named,held.later stored⟩
      nodup := tracked.nodup }
  unfold takePage
  dsimp only
  split
  · rename_i items listed
    rw [Fields.get_set_other fields token (by decide : "items" ≠ "request_token")] at listed
    have counted : Tracked done events { reads with
        pages := addPage reads.pages lead (fields.set "request_token" token)
        found := items.foldl (noteItem lead) reads.found } :=
      { found := fun name member => by
          rcases noteItems_facts.2 name member with old | ⟨item,inside,named,under⟩
          · exact kept.found name old
          · exact ⟨lead,own,fields,given,⟨items,item,listed,inside,named,under⟩,_,token,addPage_own stored,
              List.mem_append_right _ List.mem_cons_self⟩
        nodup := noteItems_facts.1 tracked.nodup }
    split
    · exact ⟨kept.abort,still⟩
    · split
      · exact ⟨counted.abort,still⟩
      · split
        · exact ⟨counted,still⟩
        · split
          · exact ⟨counted.abort,still⟩
          · exact ⟨counted,still⟩
        · exact ⟨counted.abort,still⟩
  · exact ⟨kept.abort,still⟩

theorem readPageOf_given {token : PyVal} {page : Fields} {next : PageReads}
    (steps : (readPageOf kit request started lead token reads).Steps held before events (.ok (some (page,next))) after) :
    PageGiven events lead page ∧ next.pages = reads.pages ∧ next.found = reads.found := by
  unfold readPageOf at steps
  obtain ⟨answer,tail,rfl,asked⟩ := steps_attempt_invoke_bind.mp steps
  split at asked
  · rename_i fields
    split at asked
    · split at asked
      · cases (steps_pure_ok asked).2
      · obtain ⟨one,two,slow,_,_,_,last⟩ := steps_bind_ok asked
        split at last
        · cases (steps_pure_ok last).2
          exact ⟨⟨true,token,_,List.mem_cons_self⟩,rfl,rfl⟩
        · cases (steps_pure_ok last).2
    · cases (steps_pure_ok asked).2
  · cases (steps_pure_ok asked).2

theorem listPrefix_tracked {rounds : ℕ} {token : PyVal} {seen : List String} {result : PageReads}
    (steps : (listPrefix kit request started lead rounds token seen reads).Steps held before events (.ok result) after)
    (tracked : Tracked done past reads) (own : lead ∈ done) (opened : Open lead reads.pages) : Tracked done (past ++ events) result := by
  induction rounds generalizing token seen reads past events before after with
  | zero =>
    obtain ⟨rfl,rfl⟩ := steps_pure_ok steps
    exact tracked.abort.stays
  | succ rounds ih =>
    unfold listPrefix at steps
    obtain ⟨one,rest,slow,_,rfl,_,steps⟩ := steps_bind_ok steps
    split at steps
    · obtain ⟨_,rfl⟩ := steps_pure_ok steps
      exact tracked.abort.stays
    · obtain ⟨two,three,page,_,rfl,asked,steps⟩ := steps_bind_ok steps
      cases page with
      | none =>
        obtain ⟨_,rfl⟩ := steps_pure_ok steps
        exact tracked.abort.stays
      | some page =>
        obtain ⟨fields,next⟩ := page
        obtain ⟨given,pages,found⟩ := readPageOf_given asked
        have moved : Tracked done (past ++ (one ++ two)) next :=
          ⟨by rw [found,pages]; exact tracked.stays.found,by rw [found]; exact tracked.nodup⟩
        have taken : Tracked done (past ++ (one ++ two)) (takePage lead token seen fields next).left ∧
            Open lead (takePage lead token seen fields next).left.pages :=
          takePage_tracked moved own given.behind.behind (by rw [pages]; exact opened)
        dsimp only at steps
        rw [← List.append_assoc one two three,← List.append_assoc past (one ++ two) three]
        split at steps
        · rename_i ended turned
          obtain ⟨_,rfl⟩ := steps_pure_ok steps
          rw [turned] at taken
          exact taken.1.stays
        · rename_i following later turned
          rw [turned] at taken
          exact ih steps taken.1 taken.2

theorem listPrefixes_tracked {prefixes : List String} {result : PageReads}
    (steps : (listPrefixes kit request started prefixes reads).Steps held before events (.ok result) after)
    (tracked : Tracked done past reads) (nodup : prefixes.Nodup) (fresh : ∀ lead ∈ prefixes, lead ∉ done) :
    Tracked (done ++ prefixes) (past ++ events) result := by
  induction prefixes generalizing done reads past events before after with
  | nil =>
    obtain ⟨_,rfl⟩ := steps_pure_ok steps
    rw [List.append_nil]
    exact tracked.stays
  | cons lead rest ih =>
    rw [List.nodup_cons] at nodup
    obtain ⟨new,fresh⟩ := List.forall_mem_cons.mp fresh
    unfold listPrefixes at steps
    obtain ⟨one,two,next,_,rfl,listed,steps⟩ := steps_bind_ok steps
    have start : Tracked (done ++ [lead]) past { reads with pages := reads.pages.set lead (.list []) } :=
      { found := fun name member => by
          obtain ⟨other,own,page,given,named,raw,token,stored,inside⟩ := tracked.found name member
          have apart : other ≠ lead := fun same => new (same ▸ own)
          exact ⟨other,List.mem_append_left _ own,page,given,named,raw,token,
            (Fields.get_set_other reads.pages _ apart).trans stored,inside⟩
        nodup := tracked.nodup }
    have ended := listPrefix_tracked listed start (List.mem_append_right _ List.mem_cons_self) ⟨_,Fields.get_set_same ..⟩
    rw [← List.append_assoc]
    split at steps
    · obtain ⟨_,rfl⟩ := steps_pure_ok steps
      refine ended.stays.more ?_
      intro other member
      rcases List.mem_append.mp member with old | own
      · exact List.mem_append_left _ old
      · rw [List.mem_singleton.mp own]
        exact List.mem_append_right _ List.mem_cons_self
    · have later := ih steps ended nodup.2 ?_
      · rw [List.append_assoc,List.singleton_append] at later
        exact later
      · intro other member held
        rcases List.mem_append.mp held with old | own
        · exact fresh other member old
        · rw [List.mem_singleton.mp own] at member
          exact nodup.1 member

end listing

section reports

variable {kit : CollectorKit} {request : CollectRequest} {started : ℚ} {held : Bool} {before after : Unit} {events past : List CollectorEvent}

-- Each report was read under its name, and each name once.
structure ReportsRead (names : List String) (events : List CollectorEvent) (reports : Fields) : Prop where
  read : ∀ name report, (name,.dict report) ∈ reports → name ∈ names ∧ .answered true (.readReport name) (.ok (.dict report)) ∈ events
  nodup : (reports.map Prod.fst).Nodup

theorem keptReport_dict {answer : Except PyExc PyVal} {report : Fields} (kept : keptReport kit answer = .dict report) : answer = .ok (.dict report) := by
  unfold keptReport at kept
  split at kept
  · split at kept
    · split at kept
      · rw [kept]
      · cases kept
    · cases kept
  · cases kept

theorem readReports_read {names rest : List String} {reports result : Fields} {cut : Bool}
    (steps : (readReports kit request started rest reports).Steps held before events (.ok (.read result cut)) after)
    (read : ReportsRead names past reports) (inside : ∀ name ∈ rest, name ∈ names) : ReportsRead names (past ++ events) result := by
  have stays : ∀ {more : List CollectorEvent}, ReportsRead names (past ++ more) reports := fun {_} =>
    ⟨fun name report member => ⟨(read.read name report member).1,List.mem_append_left _ (read.read name report member).2⟩,read.nodup⟩
  induction rest generalizing reports past events before after with
  | nil =>
    obtain ⟨_,same⟩ := steps_pure_ok steps
    cases same
    exact stays
  | cons name rest ih =>
    unfold readReports at steps
    obtain ⟨one,two,slow,_,rfl,_,steps⟩ := steps_bind_ok steps
    split at steps
    · obtain ⟨_,same⟩ := steps_pure_ok steps
      cases same
      exact stays
    · obtain ⟨answer,tail,rfl,asked⟩ := steps_attempt_invoke_bind.mp steps
      obtain ⟨three,four,slow,_,rfl,_,later⟩ := steps_bind_ok asked
      split at later
      · cases (steps_pure_ok later).2
      · have next : ReportsRead names (past ++ (one ++ .answered true (.readReport name) answer :: three))
            (reports.set name (keptReport kit answer)) := by
          refine ⟨?_,nodup_fields_set read.nodup⟩
          intro other report member
          rcases mem_fields_set member with old | new
          · exact stays.read other report old
          · obtain ⟨rfl,same⟩ := Prod.mk.inj new
            rw [keptReport_dict same.symm]
            exact ⟨inside other List.mem_cons_self,by simp⟩
        have last := ih later next (fun other member => inside other (List.mem_cons_of_mem _ member)) ?_
        · rw [List.append_assoc,List.append_assoc,List.cons_append] at last
          exact last
        · intro more
          exact ⟨fun other report member => ⟨(next.read other report member).1,List.mem_append_left _ (next.read other report member).2⟩,next.nodup⟩

end reports

end LongBridge.Reporting
