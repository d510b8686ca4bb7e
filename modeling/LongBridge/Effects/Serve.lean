import LongBridge.Effects.Script

namespace Effects

variable {P Q : Ports} {ε σ τ υ α : Type}

-- One program runs with every one of its ports served by a function of another:
-- the served program's calls become runs of those functions, which share τ. Its
-- marks are its own and are not seen outside.
def serveTree (serve : (call : P.Call) → Script Q ε τ (P.Result call)) :
    Tree P ε α → τ → Tree Q ε (α × τ)
  | .done value,shared => .done (value,shared)
  | .ask held call next,shared =>
    ((serve call).run held shared).bind (fun (answer,after) => serveTree serve (next answer) after)
  | .fault held error next,shared => .fault held error (serveTree serve next shared)
  | .mark _ next,shared => serveTree serve next shared

-- How the events the served program sees expand to the events of its servers.
inductive Served (serve : (call : P.Call) → Script Q ε τ (P.Result call)) :
    τ → List (Event P ε) → List (Event Q ε) → τ → Prop where
  | nil : Served serve shared [] [] shared
  | call : (serve call).Steps held shared events answer middle → Served serve middle seen rest after →
      Served serve shared (.answered held call answer :: seen) (events ++ rest) after
  | fault : Served serve shared seen rest after →
      Served serve shared (.fault held error :: seen) (.fault held error :: rest) after
  | mark : Served serve shared seen rest after → Served serve shared (.marked label :: seen) rest after

theorem serveTree_runs {serve : (call : P.Call) → Script Q ε τ (P.Result call)} {tree : Tree P ε α} :
    Runs (serveTree serve tree shared) events (value,after) ↔
      ∃ seen, Runs tree seen value ∧ Served serve shared seen events after := by
  induction tree generalizing shared events with
  | done returned =>
    simp only [serveTree,runs_done]
    constructor
    · rintro ⟨rfl,same⟩; cases same; exact ⟨[],⟨rfl,rfl⟩,.nil⟩
    · rintro ⟨_,⟨rfl,rfl⟩,served⟩; cases served; exact ⟨rfl,rfl⟩
  | ask held call next ih =>
    simp only [serveTree,runs_ask,runs_bind]
    constructor
    · rintro ⟨first,second,⟨answer,middle⟩,rfl,one,two⟩
      obtain ⟨seen,run,served⟩ := (ih answer).mp two
      exact ⟨_,⟨answer,seen,rfl,run⟩,.call one served⟩
    · rintro ⟨_,⟨answer,seen,rfl,run⟩,served⟩
      cases served with
      | call one rest => exact ⟨_,_,(answer,_),rfl,one,(ih answer).mpr ⟨seen,run,rest⟩⟩
  | fault held error next ih =>
    simp only [serveTree,runs_fault]
    constructor
    · rintro ⟨tail,rfl,run⟩
      obtain ⟨seen,run,served⟩ := ih.mp run
      exact ⟨_,⟨seen,rfl,run⟩,.fault served⟩
    · rintro ⟨_,⟨seen,rfl,run⟩,served⟩
      cases served with
      | fault rest => exact ⟨_,rfl,ih.mpr ⟨seen,run,rest⟩⟩
  | mark label next ih =>
    simp only [serveTree,runs_mark]
    constructor
    · intro run
      obtain ⟨seen,ran,served⟩ := ih.mp run
      exact ⟨_,⟨seen,rfl,ran⟩,.mark served⟩
    · rintro ⟨_,⟨seen,rfl,run⟩,served⟩
      cases served with
      | mark rest => exact ih.mpr ⟨seen,run,rest⟩

variable {serve : (call : P.Call) → Script Q ε τ (P.Result call)}

theorem served_append (served : Served serve shared (first ++ second) events after) :
    ∃ one two middle, events = one ++ two ∧ Served serve shared first one middle ∧
      Served serve middle second two after := by
  induction first generalizing shared events with
  | nil => exact ⟨[],events,shared,rfl,.nil,served⟩
  | cons event first ih =>
    cases served with
    | call ran rest =>
      obtain ⟨one,two,middle,rfl,front,back⟩ := ih rest
      exact ⟨_,two,middle,(List.append_assoc ..).symm,.call ran front,back⟩
    | fault rest =>
      obtain ⟨one,two,middle,rfl,front,back⟩ := ih rest
      exact ⟨_,two,middle,rfl,.fault front,back⟩
    | mark rest =>
      obtain ⟨one,two,middle,rfl,front,back⟩ := ih rest
      exact ⟨one,two,middle,rfl,.mark front,back⟩

theorem served_quiet (served : Served serve shared seen events after)
    (quiet : ∀ event ∈ seen, event.escapes = none) : ∀ event ∈ events, event.escapes = none := by
  induction served with
  | nil => simp
  | @call call held _ inner answer _ seen rest _ ran _ ih =>
    have later := ih (fun event member => quiet event (List.mem_cons_of_mem _ member))
    have now := quiet _ (List.mem_cons_self ..)
    intro event member
    rcases List.mem_append.mp member with early | late
    · cases held with
      | true => exact Event.escapes_held ((serve call).inside ran event early)
      | false =>
        cases answer with
        | ok value => exact (serve call).accounts ran event early
        | error error => simp [Event.escapes] at now
    · exact later event late
  | fault _ ih =>
    have later := ih (fun event member => quiet event (List.mem_cons_of_mem _ member))
    have now := quiet _ (List.mem_cons_self ..)
    intro event member
    rcases List.mem_cons.mp member with rfl | late
    · rw [Event.escapes_fault] at now ⊢; exact now
    · exact later event late
  | mark _ ih => exact ih (fun event member => quiet event (List.mem_cons_of_mem _ member))

theorem served_raises (served : Served serve shared [last] events after)
    (raised : last.escapes = some error) : Accounted events (.error error : Except ε α) := by
  cases served with
  | @call call held _ inner answer _ _ rest _ ran ended =>
    cases ended
    cases held with
    | true => simp [Event.escapes] at raised
    | false =>
      cases answer with
      | ok value => simp [Event.escapes] at raised
      | error reply =>
        obtain rfl : reply = error := by simpa [Event.escapes] using raised
        rw [List.append_nil]; exact (serve call).accounts ran
  | fault ended =>
    cases ended
    rw [Event.escapes_fault] at raised
    exact ⟨[],_,rfl,by rw [Event.escapes_fault]; exact raised,by simp⟩
  | mark _ => simp [Event.escapes] at raised

theorem served_accounts (served : Served serve shared seen events after)
    {result : Except ε α} (owed : Accounted seen result) : Accounted events result := by
  cases result with
  | ok value => exact served_quiet served owed
  | error error =>
    obtain ⟨before,last,rfl,raised,clean⟩ := owed
    obtain ⟨one,two,middle,rfl,front,back⟩ := served_append served
    exact accounted_append (served_quiet front clean) (served_raises back raised)

theorem served_held (served : Served serve shared seen events after)
    (held : ∀ event ∈ seen, event.held = true) : ∀ event ∈ events, event.held = true := by
  induction served with
  | nil => simp
  | @call call flag _ inner answer _ seen rest _ ran _ ih =>
    have now : flag = true := held _ (List.mem_cons_self ..)
    subst now
    intro event member
    rcases List.mem_append.mp member with early | late
    · exact (serve call).inside ran event early
    · exact ih (fun event member => held event (List.mem_cons_of_mem _ member)) event late
  | fault _ ih =>
    intro event member
    rcases List.mem_cons.mp member with rfl | late
    · exact held _ (List.mem_cons_self ..)
    · exact ih (fun event member => held event (List.mem_cons_of_mem _ member)) event late
  | mark _ ih => exact ih (fun event member => held event (List.mem_cons_of_mem _ member))

-- The served call as a function of the serving program.
def Script.serving (script : Script P ε σ α) (locals : σ)
    (serve : (call : P.Call) → Script Q ε τ (P.Result call)) : Script Q ε τ α where
  run held shared := (serveTree serve (script.run held locals) shared).bind
    (fun ((result,_),after) => .done (result,after))
  accounts run := by
    obtain ⟨first,second,⟨⟨result,left⟩,middle⟩,rfl,one,two⟩ := runs_bind.mp run
    obtain ⟨rfl,same⟩ := runs_done.mp two
    cases same
    obtain ⟨seen,ran,served⟩ := serveTree_runs.mp one
    rw [List.append_nil]; exact served_accounts served (script.accounts ran)
  inside run := by
    obtain ⟨first,second,⟨⟨result,left⟩,middle⟩,rfl,one,two⟩ := runs_bind.mp run
    obtain ⟨rfl,_⟩ := runs_done.mp two
    obtain ⟨seen,ran,served⟩ := serveTree_runs.mp one
    rw [List.append_nil]; exact served_held served (script.inside ran)

-- Every answer in a run that is played is an answer of the world.
theorem play_answered {P : Ports} {ε α : Type} {world : World P ε} {past : List (Event P ε)} {tree : Tree P ε α} {held : Bool} {call : P.Call}
    {answer : Except ε (P.Result call)} (member : .answered held call answer ∈ (play world past tree).1) : ∃ earlier, answer = world earlier call := by
  induction tree generalizing past with
  | done value => cases member
  | ask flag other next ih =>
    rcases List.mem_cons.mp member with same | later
    · cases same
      exact ⟨_,rfl⟩
    · exact ih _ later
  | fault flag error next ih =>
    rcases List.mem_cons.mp member with same | later
    · cases same
    · exact ih later
  | mark label next ih =>
    rcases List.mem_cons.mp member with same | later
    · cases same
    · exact ih later

end Effects
