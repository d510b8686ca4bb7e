import LongBridge.Publishing.Addresses
import LongBridge.Publishing.Listings

namespace LongBridge.Publishing
open Effects Projection
open Notifications (setEntry lookup_setEntry)

variable {kit : PublishKit} {request : PublishRequest} {held : Bool} {before after : Unit} {events past : List StorageEvent}

-- A run in which only such events happen, as a relation that parts of a run keep
def Every (allowed : StorageEvent → Prop) (_ : Unit) (events : List StorageEvent) (_ : Unit) : Prop := ∀ event ∈ events, allowed event

theorem every_composes (allowed : StorageEvent → Prop) : Composes (Every allowed) where
  refl _ := fun _ impossible => nomatch impossible
  trans one two := fun event member => (List.mem_append.mp member).elim (one event) (two event)

theorem every_one {allowed : StorageEvent → Prop} {event : StorageEvent} (fit : allowed event) (one : Unit) : Every allowed one [event] one := by
  intro other member
  rw [List.mem_singleton.mp member]
  exact fit

-- A download that was read in whole: no bound of the reader cut it.
def ReadWhole (kit : PublishKit) (events : List StorageEvent) (uri : String) (payload : Fields) : Prop :=
  ∃ bucket name size bytes, gsObject kit.netlocValid uri = .ok (some (bucket,name)) ∧
    .answered true (.size bucket name) (.ok size) ∈ events ∧ .answered true (.download bucket name) (.ok (some bytes)) ∈ events ∧
    readTruncated size bytes = false ∧ kit.loads bytes = .ok (.dict payload)

theorem ReadWhole.stays (past more : List StorageEvent) {uri : String} {payload : Fields} (read : ReadWhole kit events uri payload) :
    ReadWhole kit (past ++ events ++ more) uri payload := by
  obtain ⟨bucket,name,size,bytes,located,sized,given,full,parsed⟩ := read
  exact ⟨bucket,name,size,bytes,located,List.mem_append_left _ (List.mem_append_right _ sized),
    List.mem_append_left _ (List.mem_append_right _ given),full,parsed⟩

section listing

theorem listBounded_all {objects : List (String × ℤ)} {errors : List String}
    (steps : (listBounded kit request).Steps held before events (.ok (objects,errors)) after) (blank : Blank errors) :
    ∃ flag start more scan, events = .answered flag .monotonic (.ok start) :: more ∧
      ListedAll kit request (start + listTimeoutSeconds) request.globs more Scan.start scan ∧
      (∀ uri, uri ∈ keys objects ↔ uri ∈ keys scan.found) ∧ scan.found.length ≤ request.limit := by
  unfold listBounded at steps
  obtain ⟨one,two,start,_,rfl,asked,walked⟩ := steps_bind_ok steps
  obtain ⟨rfl,_⟩ := steps_invoke.mp asked
  obtain ⟨three,four,⟨left,truncated,scan⟩,_,rfl,listed,made⟩ := steps_bind_ok walked
  obtain ⟨rfl,same⟩ := steps_pure_ok made
  cases same
  have sorted := (List.perm_insertionSort (fun one two : String × ℤ => two.2 ≤ one.2) scan.found)
  cases cut : truncated || decide (request.limit < (scan.found.insertionSort fun one two => two.2 ≤ one.2).length) with
  | true =>
    rw [cut] at blank
    exact absurd (blank "listing truncated" (List.mem_append_right _ List.mem_cons_self)) (by decide)
  | false =>
    rw [Bool.or_eq_false_iff,decide_eq_false_iff_not,not_lt] at cut
    obtain ⟨rfl,few⟩ := cut
    refine ⟨held,start,three,scan,by rw [List.append_nil]; rfl,?_,fun uri => ?_,by rwa [sorted.length_eq] at few⟩
    · exact listGlobs_all listed fun error member => blank error (List.mem_append_left _ member)
    · unfold keys
      rw [List.take_of_length_le few]
      exact (sorted.map Prod.fst).mem_iff

-- What a listing asks, whatever comes of it
inductive Listing.Asks (kit : PublishKit) (request : PublishRequest) : StorageEvent → Prop
  | clock {flag reply} : Listing.Asks kit request (.answered flag .monotonic reply)
  | listing {flag pattern bucket glob reply} (stated : pattern ∈ request.globs)
      (located : gsObject kit.netlocValid pattern = .ok (some (bucket,glob))) : Listing.Asks kit request (.answered flag (.listBlobs bucket glob) reply)
  | fault {flag error} : Listing.Asks kit request (.fault flag error)

theorem scanBlobs_asks {deadline : ℚ} {bucket : String} {failure : Option PyExc} (blobs : List Blob) (incomplete : Bool) (scan : Scan) :
    Keeps (Every (Listing.Asks kit request)) held (scanBlobs request deadline bucket failure blobs incomplete scan) := by
  have composes := every_composes (Listing.Asks kit request)
  induction blobs generalizing incomplete scan with
  | nil =>
    unfold scanBlobs
    cases failure <;> exact keeps_pure composes _
  | cons blob rest ih =>
    unfold scanBlobs
    refine keeps_bind composes (keeps_attempt (keeps_invoke fun _ _ => every_one .clock _)) fun answer => ?_
    cases answer with
    | error error => exact keeps_pure composes _
    | ok now =>
      refine keeps_ite (keeps_pure composes _) ?_
      cases scan.note request bucket blob with
      | error error => exact keeps_pure composes _
      | ok noted => exact ih _ _

theorem listGlobs_asks {deadline : ℚ} {patterns : List String} (stated : ∀ pattern ∈ patterns, pattern ∈ request.globs) (errors : List String) (scan : Scan) :
    Keeps (Every (Listing.Asks kit request)) held (listGlobs kit request deadline patterns errors scan) := by
  have composes := every_composes (Listing.Asks kit request)
  induction patterns generalizing errors scan with
  | nil =>
    unfold listGlobs
    exact keeps_pure composes _
  | cons pattern rest ih =>
    obtain ⟨own,others⟩ := List.forall_mem_cons.mp stated
    unfold listGlobs
    refine keeps_ite (keeps_pure composes _) (keeps_bind composes (keeps_invoke fun _ _ => every_one .clock _) fun now => ?_)
    refine keeps_ite (keeps_pure composes _) fun start => keepsFrom_bind composes ?_ ?_
    · exact keeps_fromExcept composes (fun _ _ => every_one .fault _) start
    · intro events located middle placed
      cases located with
      | none => exact ih others _ _ _
      | some place =>
        obtain ⟨bucket,glob⟩ := place
        have read := (steps_fromExcept.mp placed).1.symm
        refine keeps_bind composes (keeps_attempt (keeps_invoke fun _ _ => every_one (.listing own read) _)) (fun answer => ?_) middle
        cases answer with
        | error error => exact ih others _ _
        | ok listing =>
          refine keeps_bind composes (scanBlobs_asks _ _ _) fun turn => ?_
          obtain ⟨ended,scan⟩ := turn
          cases ended with
          | failed => exact ih others _ _
          | truncated incomplete => exact keeps_pure composes _
          | ended incomplete => exact ih others _ _

theorem listBounded_asks : Keeps (Every (Listing.Asks kit request)) held (listBounded kit request) := by
  have composes := every_composes (Listing.Asks kit request)
  unfold listBounded
  refine keeps_bind composes (keeps_invoke fun _ _ => every_one .clock _) fun start => ?_
  exact keeps_bind composes (listGlobs_asks (fun _ => id) _ _) fun _ => keeps_pure composes _

end listing

section reading

-- What a reading asks: the object that `_gs_object` makes of the URI.
inductive Reading.Asks (kit : PublishKit) : StorageEvent → Prop
  | opened {flag bucket name reply} : Reading.Asks kit (.answered flag (.openBlob bucket name) reply)
  | size {flag bucket name reply} : Reading.Asks kit (.answered flag (.size bucket name) reply)
  | download {flag uri bucket name reply} (located : gsObject kit.netlocValid uri = .ok (some (bucket,name))) :
      Reading.Asks kit (.answered flag (.download bucket name) reply)
  | fault {flag error} : Reading.Asks kit (.fault flag error)

theorem readBounded_asks (uri : String) : Keeps (Every (Reading.Asks kit)) held (readBounded kit uri) := by
  have composes := every_composes (Reading.Asks kit)
  unfold readBounded
  refine fun start => keepsFrom_bind composes (keeps_fromExcept composes (fun _ _ => every_one .fault _) start) ?_
  intro events located middle placed
  cases located with
  | none => exact keeps_pure composes _ _
  | some place =>
    obtain ⟨bucket,name⟩ := place
    have read := (steps_fromExcept.mp placed).1.symm
    refine keeps_bind composes (keeps_invoke fun _ _ => every_one .opened _) (fun _ => ?_) middle
    refine keeps_bind composes (keeps_attempt (keeps_invoke fun _ _ => every_one .size _)) fun answer => ?_
    cases answer with
    | error error => exact keeps_pure composes _
    | ok size =>
      refine keeps_ite (keeps_pure composes _) (keeps_bind composes (keeps_attempt (keeps_invoke fun _ _ => every_one (.download read) _)) fun given => ?_)
      cases given with
      | error error => exact keeps_pure composes _
      | ok bytes =>
        cases bytes with
        | none => exact keeps_pure composes _
        | some payload => exact keeps_ite (keeps_pure composes _) (keeps_fromExcept composes fun _ _ => every_one .fault _)

theorem readObjects_asks (objects : List (String × ℤ)) (reads : Reads) : Keeps (Every (Reading.Asks kit)) held (readObjects kit objects reads) := by
  have composes := every_composes (Reading.Asks kit)
  induction objects generalizing reads with
  | nil =>
    unfold readObjects
    exact keeps_pure composes _
  | cons entry rest ih =>
    unfold readObjects
    exact keeps_bind composes (readBounded_asks _) fun _ => ih _

-- What was read is a dict that a whole download parses to; any error names what went wrong.
theorem readBounded_read {uri : String} {result : Except String Fields}
    (steps : (readBounded kit uri).Steps held before events (.ok result) after) :
    match result with
    | .error error => strip error ≠ ""
    | .ok payload => ReadWhole kit events uri payload := by
  have failed : strip "read_failed" ≠ "" := by decide
  have truncated : strip "read_truncated" ≠ "" := by decide
  unfold readBounded at steps
  obtain ⟨one,two,located,_,rfl,read,placed⟩ := steps_bind_ok steps
  obtain ⟨place,_,_⟩ := steps_fromExcept.mp read
  split at placed
  · cases (steps_pure_ok placed).2
    exact failed
  · rename_i bucket name
    obtain ⟨three,four,_,_,rfl,_,opened⟩ := steps_bind_ok placed
    obtain ⟨answer,tail,rfl,sized⟩ := steps_attempt_invoke_bind.mp opened
    split at sized
    · cases (steps_pure_ok sized).2
      exact failed
    · rename_i size
      split at sized
      · cases (steps_pure_ok sized).2
        exact truncated
      · obtain ⟨given,rest,rfl,downloaded⟩ := steps_attempt_invoke_bind.mp sized
        split at downloaded
        · rename_i payload
          split at downloaded
          · cases (steps_pure_ok downloaded).2
            exact truncated
          · rename_i full
            obtain ⟨parsed,_,_⟩ := steps_fromExcept.mp downloaded
            unfold parsePayload at parsed
            split at parsed
            · split at parsed
              · cases parsed
                exact failed
              · cases parsed
            · rename_i fields read
              cases parsed
              exact ⟨bucket,name,size,payload,place.symm,by simp,by simp,Bool.eq_false_iff.mpr full,read⟩
            · cases parsed
              exact failed
        · cases (steps_pure_ok downloaded).2
          exact failed

structure Gathered (kit : PublishKit) (events : List StorageEvent) (reads : Reads) : Prop where
  cached : ∀ uri payload, reads.cached.lookup uri = some payload → ReadWhole kit events uri payload
  kept : ∀ entry ∈ reads.kept, ∃ payload, reads.cached.lookup entry.1 = some payload

theorem readObjects_grows {objects : List (String × ℤ)} {reads result : Reads}
    (steps : (readObjects kit objects reads).Steps held before events (.ok result) after) : ∀ error ∈ reads.errors, error ∈ result.errors := by
  induction objects generalizing reads events before after with
  | nil =>
    unfold readObjects at steps
    cases (steps_pure_ok steps).2
    exact fun _ => id
  | cons entry rest ih =>
    unfold readObjects at steps
    obtain ⟨_,_,read,_,_,_,later⟩ := steps_bind_ok steps
    intro error member
    refine ih later error ?_
    cases read with
    | error _ => exact List.mem_append_left _ member
    | ok _ => exact member

theorem Gathered.add {reads : Reads} {uri : String} (updatedAt : ℤ) {result : Except String Fields} {more : List StorageEvent}
    (gathered : Gathered kit past reads) (steps : (readBounded kit uri).Steps held before more (.ok result) after) :
    Gathered kit (past ++ more) (reads.add uri updatedAt result) := by
  have stays : ∀ other payload, reads.cached.lookup other = some payload → ReadWhole kit (past ++ more) other payload := by
    intro other payload known
    have read := (gathered.cached other payload known).stays [] more
    rwa [List.nil_append] at read
  have own := readBounded_read steps
  cases result with
  | error error => exact ⟨stays,gathered.kept⟩
  | ok payload =>
    constructor
    · intro other held known
      rw [Reads.add,lookup_setEntry] at known
      split at known
      · rename_i same
        cases known
        subst same
        have read := own.stays past []
        rwa [List.append_nil] at read
      · exact stays other held known
    · intro entry member
      rw [Reads.add,lookup_setEntry]
      split
      · exact ⟨_,rfl⟩
      · rename_i unlike
        rcases List.mem_append.mp member with old | new
        · exact gathered.kept entry old
        · rw [List.mem_singleton.mp new] at unlike
          exact absurd rfl unlike

theorem readObjects_gathered {objects : List (String × ℤ)} {reads result : Reads} (gathered : Gathered kit past reads)
    (steps : (readObjects kit objects reads).Steps held before events (.ok result) after) :
    Gathered kit (past ++ events) result ∧ (∀ entry ∈ reads.kept, entry ∈ result.kept) ∧
      (Blank result.errors → ∀ entry ∈ objects, entry ∈ result.kept) := by
  induction objects generalizing reads past events before after with
  | nil =>
    unfold readObjects at steps
    obtain ⟨rfl,same⟩ := steps_pure_ok steps
    cases same
    rw [List.append_nil]
    exact ⟨gathered,fun _ => id,fun _ _ impossible => nomatch impossible⟩
  | cons entry rest ih =>
    obtain ⟨uri,updatedAt⟩ := entry
    unfold readObjects at steps
    obtain ⟨one,two,read,_,rfl,own,later⟩ := steps_bind_ok steps
    obtain ⟨final,kept,all⟩ := ih (gathered.add updatedAt own) later
    rw [List.append_assoc] at final
    have told := readBounded_read own
    cases read with
    | error error =>
      refine ⟨final,kept,fun blank => ?_⟩
      exact absurd (blank error (readObjects_grows later error (List.mem_append_right _ List.mem_cons_self))) told
    | ok payload =>
      refine ⟨final,fun entry member => kept entry (List.mem_append_left _ member),fun blank => List.forall_mem_cons.mpr ⟨?_,all blank⟩⟩
      exact kept _ (List.mem_append_right _ List.mem_cons_self)

-- What the reports that are handed over say, and that none of those kept is missing
structure HandedOver (readPayload : String → Option Fields) (kept : List (String × ℤ)) (start handed : Handed) : Prop where
  errors : ∀ error ∈ start.readErrors, error ∈ handed.readErrors
  own : ∀ report ∈ handed.reports, report ∈ start.reports ∨ readPayload report.objectUri = some report.payload
  still : ∀ report ∈ start.reports, report ∈ handed.reports
  all : ∀ entry ∈ kept, ∀ payload, readPayload entry.1 = some payload → ∃ report ∈ handed.reports, report.objectUri = entry.1 ∧ report.payload = payload

theorem handOver_all (readPayload : String → Option Fields) (kept : List (String × ℤ)) (start : Handed) :
    HandedOver readPayload kept start (handOver readPayload kept start) := by
  induction kept generalizing start with
  | nil => exact ⟨fun _ => id,fun _ => .inl,fun _ => id,fun _ impossible => nomatch impossible⟩
  | cons entry rest ih =>
    obtain ⟨uri,updatedAt⟩ := entry
    unfold handOver
    split
    · rename_i missing
      have later := ih { start with readErrors := start.readErrors ++ [uri ++ ": unreadable"] }
      refine ⟨fun error member => later.errors error (List.mem_append_left _ member),later.own,later.still,List.forall_mem_cons.mpr ⟨?_,later.all⟩⟩
      intro payload read
      rw [missing] at read
      cases read
    · rename_i payload read
      have later := ih { start with reports := start.reports ++ [⟨payload,uri,updatedAt⟩] }
      refine ⟨later.errors,fun report member => ?_,fun report member => later.still report (List.mem_append_left _ member),
        List.forall_mem_cons.mpr ⟨?_,later.all⟩⟩
      · rcases later.own report member with old | stated
        · rcases List.mem_append.mp old with old | new
          · exact .inl old
          · rw [List.mem_singleton.mp new]
            exact .inr read
        · exact .inr stated
      · intro other stated
        cases read.symm.trans stated
        exact ⟨_,later.still _ (List.mem_append_right _ List.mem_cons_self),rfl,rfl⟩

end reading

section completeness

variable {handed : Handed}

-- An error makes the record incomplete, and the whole.
theorem projectHanded_failed (failed : nonBlank handed.readErrors ≠ []) :
    (projectHanded kit request handed).completeness = "incomplete" ∧
      ∀ record ∈ (projectHanded kit request handed).records, record.completeness = "incomplete" := by
  have told : (nonBlank handed.readErrors).isEmpty = false := by
    rw [List.isEmpty_eq_false_iff]
    exact failed
  constructor
  · unfold projectHanded
    dsimp only
    rw [told]
    rfl
  · intro record member
    obtain ⟨target,_,rfl⟩ := List.mem_map.mp member
    unfold nonBlank at told
    show (if (!_) = true then "incomplete" else _) = _
    rw [told]
    rfl

theorem blank_iff {errors : List String} : nonBlank errors = [] ↔ Blank errors := by
  unfold nonBlank Blank
  rw [List.filter_eq_nil_iff]
  simp

end completeness

end LongBridge.Publishing
