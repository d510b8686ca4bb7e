import LongBridge.Effects.Serve
import LongBridge.Publishing.Reads

namespace LongBridge.Publishing
open Effects Projection

variable {kit : PublishKit} {request : PublishRequest} {held : Bool} {before after : Unit} {events : List StorageEvent}

-- The listing was asked for every glob and came to its end within every bound, and what it found was read
-- and handed over. A run in which a listing or a read fails or is cut is not thorough.
structure Thorough (kit : PublishKit) (request : PublishRequest) (events : List StorageEvent) (handed : Handed) : Prop where
  timely : ∃ start later, events.filterMap clockReading = .ok start :: later ∧
    ∀ reading ∈ later, ∃ now, reading = .ok now ∧ now ≤ start + listTimeoutSeconds
  asked : ∀ pattern ∈ request.globs, ∃ bucket glob listing, gsObject kit.netlocValid pattern = .ok (some (bucket,glob)) ∧
    .answered true (.listBlobs bucket glob) (.ok listing) ∈ events
  whole : ∀ {flag bucket glob reply}, .answered flag (.listBlobs bucket glob) reply ∈ events →
    ∃ listing, reply = .ok listing ∧ listing.failure = none ∧ ∀ blob ∈ listing.blobs, Usable blob
  counted : (events.flatMap listedBlobs).length ≤ maxListScan
  sized : ((events.flatMap listedBlobs).dropLast.map Blob.listBytes).sum ≤ maxListBytes
  few : ∀ uris : List String, uris.Nodup → (∀ uri ∈ uris, ∃ bucket blob, Listed events bucket blob ∧ Recent request blob ∧ uri = blobUri bucket blob.name) →
    uris.length ≤ request.limit
  read : ∀ bucket blob, Listed events bucket blob → Recent request blob →
    ∃ report ∈ handed.reports, report.objectUri = blobUri bucket blob.name ∧ ReadWhole kit events report.objectUri report.payload

-- The objects of the store: what a glob matches in a bucket, and what each object holds
structure Store where
  matching : String → String → List Blob
  content : String → String → List UInt8

-- What the client is documented to do: a listing yields all that matches up to the number it is asked for,
-- a blob states its size or none, and a download is of the range it is asked for.
structure Honest (store : Store) (events : List StorageEvent) : Prop where
  lists : ∀ {bucket glob listing}, .answered true (.listBlobs bucket glob) (.ok listing) ∈ events → listing.failure = none →
    listing.blobs = (store.matching bucket glob).take (maxListScan + 1)
  sizes : ∀ {bucket name} {size : ℤ}, .answered true (.size bucket name) (.ok (some size)) ∈ events → size = (store.content bucket name).length
  downloads : ∀ {bucket name bytes}, .answered true (.download bucket name) (.ok (some bytes)) ∈ events →
    bytes = (store.content bucket name).take maxReportBytes

-- The objects under a glob as it is written
def Under (store : Store) (pattern bucket : String) (blob : Blob) : Prop :=
  ∃ glob, pattern = blobUri bucket glob ∧ '/' ∉ bucket.toList ∧ blob ∈ store.matching bucket glob

-- The objects that the projection is about
def Due (store : Store) (request : PublishRequest) (bucket : String) (blob : Blob) : Prop :=
  (∃ pattern ∈ request.globs, Under store pattern bucket blob) ∧ Recent request blob

-- Each of them was listed, downloaded in full, parsed and handed to the projection.
def AccountsForAll (kit : PublishKit) (request : PublishRequest) (store : Store) (events : List StorageEvent) (handed : Handed) : Prop :=
  ∀ bucket blob, Due store request bucket blob → Listed events bucket blob ∧
    .answered true (.download bucket blob.name) (.ok (some (store.content bucket blob.name))) ∈ events ∧
    ∃ report ∈ handed.reports, report.objectUri = blobUri bucket blob.name ∧
      kit.loads (store.content bucket blob.name) = .ok (.dict report.payload)

-- A glob and the URI of an object mean to `_gs_object` what they say.
def ReadsBack (kit : PublishKit) (request : PublishRequest) (store : Store) : Prop :=
  ∀ bucket blob, Due store request bucket blob →
    (∃ pattern ∈ request.globs, ∃ glob, gsObject kit.netlocValid pattern = .ok (some (bucket,glob)) ∧ blob ∈ store.matching bucket glob) ∧
    gsObject kit.netlocValid (blobUri bucket blob.name) = .ok (some (bucket,blob.name))

section whole

variable {store : Store}

theorem read_content (honest : Honest store events) {uri : String} {payload : Fields} (read : ReadWhole kit events uri payload) :
    ∃ bucket name, gsObject kit.netlocValid uri = .ok (some (bucket,name)) ∧
      .answered true (.download bucket name) (.ok (some (store.content bucket name))) ∈ events ∧
      kit.loads (store.content bucket name) = .ok (.dict payload) := by
  obtain ⟨bucket,name,size,bytes,located,sized,given,full,parsed⟩ := read
  have range := honest.downloads given
  have complete : bytes = store.content bucket name := by
    rcases Nat.lt_or_ge maxReportBytes (store.content bucket name).length with long | short
    · have exact : bytes.length = maxReportBytes := by rw [range,List.length_take,Nat.min_eq_left long.le]
      unfold readTruncated at full
      cases size with
      | none =>
        rw [exact] at full
        simp at full
      | some size =>
        rw [honest.sizes sized,exact] at full
        simp [statesMore,long] at full
    · rw [range,List.take_of_length_le short]
  rw [complete] at given parsed
  exact ⟨bucket,name,located,given,parsed⟩

-- A listing of at most as many blobs as the scan takes is all that matches.
theorem listing_matching (honest : Honest store events) {bucket glob : String} {listing : Listing}
    (answered : .answered true (.listBlobs bucket glob) (.ok listing) ∈ events) (unfailed : listing.failure = none)
    (counted : (events.flatMap listedBlobs).length ≤ maxListScan) : listing.blobs = store.matching bucket glob := by
  have some := honest.lists answered unfailed
  have inside : listing.blobs.length ≤ (events.flatMap listedBlobs).length := by
    have part : List.Sublist listing.blobs (events.flatMap listedBlobs) := by
      have own := List.sublist_flatten_of_mem (List.mem_map_of_mem (f := listedBlobs) answered)
      exact own
    exact part.length_le
  have short : (store.matching bucket glob).length ≤ maxListScan + 1 := by
    by_contra long
    rw [not_le] at long
    have taken : listing.blobs.length = maxListScan + 1 := by rw [some,List.length_take,Nat.min_eq_left long.le]
    omega
  rw [some,List.take_of_length_le short]

end whole

section sending

-- Of the calls that end a publication, the projection is sent as this text only.
def Sends (body : String) : StorageEvent → Prop
  | .answered _ (.upload _ _ text) _ => text = body
  | .answered _ (.post _ _ data) _ => data = body.toUTF8.toList
  | .answered _ (.openBlob _ _) _ => True
  | .answered _ (.handoff _ _ _) _ => True
  | .answered _ (.writeResult _ _ _ _) _ => True
  | .fault _ _ => True
  | _ => False

theorem sends_upload {flag : Bool} {bucket name body : String} {reply : Except PyExc Unit} :
    Sends body (.answered flag (.upload bucket name body) reply) := rfl

theorem sends_post {flag : Bool} {url token body : String} {reply : Except PyExc Response} :
    Sends body (.answered flag (.post url token body.toUTF8.toList) reply) := rfl

theorem sends_writeResult {flag : Bool} {uri businessDate targetKey completeness body : String} {reply : Except PyExc Unit} :
    Sends body (.answered flag (.writeResult uri businessDate targetKey completeness) reply) := trivial

theorem uploadProjection_sends {businessDate body : String} : Keeps (Every (Sends body)) held (uploadProjection request businessDate body) := by
  have composes := every_composes (Sends body)
  unfold uploadProjection
  refine keeps_bind composes (keeps_invoke fun _ _ => every_one trivial _) fun _ => ?_
  refine keeps_bind composes (keeps_attempt (keeps_invoke fun _ _ => every_one sends_upload _)) fun answer => ?_
  cases answer with
  | ok done => exact keeps_pure composes _
  | error error => exact keeps_ite (keeps_pure composes _) (keeps_raise fun _ => every_one trivial _)

theorem syncRuntimeDaily_sends {businessDate body targetKey : String} :
    Keeps (Every (Sends body)) held (syncRuntimeDaily kit request body businessDate targetKey) := by
  have composes := every_composes (Sends body)
  unfold syncRuntimeDaily
  refine keeps_ite (keeps_pure composes _) (keeps_ite (keeps_pure composes _) ?_)
  cases runtimeDailySyncUrl kit.netlocValid request.url with
  | none => exact keeps_pure composes _
  | some url =>
    refine keeps_ite (keeps_pure composes _) (keeps_ite (keeps_pure composes _) ?_)
    refine keeps_bind composes (keeps_attempt (keeps_invoke fun _ _ => every_one sends_post _)) fun answer => ?_
    cases answer with
    | error error => exact keeps_pure composes _
    | ok response => exact keeps_pure composes _

theorem publishHandoff_sends {businessDate uri body : String} : Keeps (Every (Sends body)) held (publishHandoff request businessDate uri) := by
  have composes := every_composes (Sends body)
  unfold publishHandoff
  refine keeps_ite ?_ (keeps_pure composes _)
  refine keeps_bind composes (keeps_attempt (keeps_invoke fun _ _ => every_one trivial _)) fun answer => ?_
  cases answer with
  | ok done => exact keeps_pure composes _
  | error error => exact keeps_ite (keeps_pure composes _) (keeps_raise fun _ => every_one trivial _)

theorem publishRecord_sends {keepsResult : Bool} {target : Fields} {record : Record} {handed : Handed} {projected : Projected} :
    Keeps (Every (Sends (kit.dumps request.targets handed.reports projected))) held (publishRecord kit request keepsResult target record handed projected) := by
  have composes := every_composes (Sends (kit.dumps request.targets handed.reports projected))
  have fault : ∀ {α : Type} {flag : Bool} {error : PyExc},
      Keeps (Every (Sends (kit.dumps request.targets handed.reports projected))) flag (Script.raise error : Storing α) :=
    keeps_raise fun _ => every_one trivial _
  unfold publishRecord
  cases (kit.projection.schedule target).businessDate with
  | none => exact fault
  | some date =>
    refine keeps_ite fault (keeps_bind composes uploadProjection_sends fun uploaded => ?_)
    cases uploaded with
    | none => exact keeps_pure composes _
    | some uri =>
      refine keeps_bind composes syncRuntimeDaily_sends fun sync => keeps_bind composes publishHandoff_sends fun _ => ?_
      split
      · exact keeps_bind composes (keeps_invoke fun _ _ => every_one sends_writeResult _) fun _ => keeps_pure composes _
      · exact keeps_bind composes (keeps_pure composes _) fun _ => keeps_pure composes _

end sending

-- The parts of a run that uploads
structure Uploads (kit : PublishKit) (request : PublishRequest) (events : List StorageEvent) (one two three : List StorageEvent)
    (objects : List (String × ℤ)) (errors : List String) (reads : Reads) (record : Record) : Prop where
  parts : events = one ++ (two ++ .marked reads.handed :: three)
  listed : ∃ flag, (listBounded kit request).Steps flag () one (.ok (objects,errors)) ()
  read : ∃ flag, (readObjects kit objects ⟨[],[],errors ++ request.schedulerError.toList⟩).Steps flag () two (.ok reads) ()
  shown : (projectHanded kit request reads.handed).records = [record]
  sends : Every (Sends (kit.dumps request.targets reads.handed.reports (projectHanded kit request reads.handed))) () three ()

theorem publishListed_uploads {keepsResult : Bool} {result : Except PyExc Published} (steps : (publishListed kit request keepsResult).Steps held before events result after)
    {flag : Bool} {bucket name body : String} {reply : Except PyExc Unit} (sent : .answered flag (.upload bucket name body) reply ∈ events) :
    ∃ one two three objects errors reads record, Uploads kit request events one two three objects errors reads record := by
  unfold publishListed at steps
  rcases steps_bind.mp steps with ⟨one,later,⟨objects,errors⟩,_,rfl,listed,steps⟩ | ⟨_,_,failed⟩
  · rcases List.mem_append.mp sent with early | sent
    · exact nomatch listBounded_asks _ _ _ _ listed _ early
    · rcases steps_bind.mp steps with ⟨two,three,reads,_,rfl,read,ended⟩ | ⟨_,_,failed⟩
      · rcases List.mem_append.mp sent with early | sent
        · exact nomatch readObjects_asks _ _ _ _ _ _ read _ early
        · obtain ⟨tail,rfl,published⟩ := steps_mark_bind.mp ended
          dsimp only at published
          split at published
          · rename_i target record stated shown
            exact ⟨one,two,tail,objects,errors,reads,record,rfl,⟨_,listed⟩,⟨_,read⟩,shown,publishRecord_sends _ _ _ _ published⟩
          · obtain ⟨rfl,_,_⟩ := steps_raise.mp published
            rcases List.mem_cons.mp sent with same | sent
            · cases same
            · cases List.mem_singleton.mp sent
      · exact nomatch readObjects_asks _ _ _ _ _ _ failed _ sent
  · exact nomatch listBounded_asks _ _ _ _ failed _ sent

section uploads

variable {kit : PublishKit} {request : PublishRequest} {events one two three : List StorageEvent} {objects : List (String × ℤ)}
  {errors : List String} {reads : Reads} {record : Record} {store : Store}

theorem Uploads.cases (uploads : Uploads kit request events one two three objects errors reads record) {event : StorageEvent} (member : event ∈ events) :
    (event ∈ one ∧ Listing.Asks kit request event) ∨ (event ∈ two ∧ Reading.Asks kit event) ∨ event = .marked reads.handed ∨
      Sends (kit.dumps request.targets reads.handed.reports (projectHanded kit request reads.handed)) event := by
  rw [uploads.parts] at member
  obtain ⟨_,listed⟩ := uploads.listed
  obtain ⟨_,read⟩ := uploads.read
  rcases List.mem_append.mp member with early | member
  · exact .inl ⟨early,listBounded_asks _ _ _ _ listed event early⟩
  · rcases List.mem_append.mp member with middle | member
    · exact .inr (.inl ⟨middle,readObjects_asks _ _ _ _ _ _ read event middle⟩)
    · rcases List.mem_cons.mp member with same | last
      · exact .inr (.inr (.inl same))
      · exact .inr (.inr (.inr (uploads.sends event last)))

theorem Uploads.asked (uploads : Uploads kit request events one two three objects errors reads record) {flag : Bool} {bucket glob : String}
    {reply : Except PyExc Listing} (member : .answered flag (.listBlobs bucket glob) reply ∈ events) :
    .answered flag (.listBlobs bucket glob) reply ∈ one ∧ ∃ pattern ∈ request.globs, gsObject kit.netlocValid pattern = .ok (some (bucket,glob)) := by
  rcases uploads.cases member with ⟨inside,asks⟩ | ⟨_,asks⟩ | same | sends
  · cases asks with
    | listing stated located => exact ⟨inside,_,stated,located⟩
  · cases asks
  · cases same
  · cases sends

theorem Uploads.downloaded (uploads : Uploads kit request events one two three objects errors reads record) {flag : Bool} {bucket name : String}
    {reply : Except PyExc (Option (List UInt8))} (member : .answered flag (.download bucket name) reply ∈ events) :
    ∃ uri, gsObject kit.netlocValid uri = .ok (some (bucket,name)) := by
  rcases uploads.cases member with ⟨_,asks⟩ | ⟨_,asks⟩ | same | sends
  · cases asks
  · cases asks with
    | download located => exact ⟨_,located⟩
  · cases same
  · cases sends

-- Nothing is listed and no clock is read once the listing is over.
theorem Uploads.after_listing (uploads : Uploads kit request events one two three objects errors reads record) :
    events.filterMap clockReading = one.filterMap clockReading ∧ events.flatMap listedBlobs = one.flatMap listedBlobs := by
  obtain ⟨_,read⟩ := uploads.read
  have quiet : ∀ event ∈ two ++ .marked reads.handed :: three, clockReading event = none ∧ listedBlobs event = [] := by
    intro event member
    rcases List.mem_append.mp member with middle | member
    · have asks := readObjects_asks _ _ _ _ _ _ read event middle
      cases asks <;> exact ⟨rfl,rfl⟩
    · rcases List.mem_cons.mp member with same | last
      · subst same
        exact ⟨rfl,rfl⟩
      · have sends := uploads.sends event last
        unfold Sends at sends
        split at sends <;> first | exact ⟨rfl,rfl⟩ | cases sends
  rw [uploads.parts,List.filterMap_append,List.flatMap_append,List.filterMap_eq_nil_iff.mpr fun event member => (quiet event member).1,
    List.flatMap_eq_nil_iff.mpr fun event member => (quiet event member).2,List.append_nil,List.append_nil]
  exact ⟨rfl,rfl⟩

theorem Uploads.gathered (uploads : Uploads kit request events one two three objects errors reads record) :
    Gathered kit two reads ∧ (Blank reads.errors → ∀ entry ∈ objects, entry ∈ reads.kept) := by
  obtain ⟨_,read⟩ := uploads.read
  have start : Gathered kit [] (⟨[],[],errors ++ request.schedulerError.toList⟩ : Reads) :=
    ⟨(fun _ _ impossible => nomatch impossible),fun _ impossible => nomatch impossible⟩
  obtain ⟨gathered,_,all⟩ := readObjects_gathered start read
  exact ⟨gathered,all⟩

theorem Uploads.stays (uploads : Uploads kit request events one two three objects errors reads record) {uri : String} {payload : Fields}
    (read : ReadWhole kit two uri payload) : ReadWhole kit events uri payload := by
  rw [uploads.parts,← List.append_assoc]
  exact read.stays _ _

-- Every report that is handed over was read in whole.
theorem Uploads.reports (uploads : Uploads kit request events one two three objects errors reads record) {report : Report}
    (member : report ∈ reads.handed.reports) : ReadWhole kit events report.objectUri report.payload := by
  rcases (handOver_all (reads.cached.lookup ·) reads.kept ⟨[],nonBlank reads.errors⟩).own report member with impossible | stated
  · cases impossible
  · exact uploads.stays (uploads.gathered.1.cached _ _ stated)

theorem Uploads.thorough (uploads : Uploads kit request events one two three objects errors reads record)
    (blank : Blank reads.handed.readErrors) : Thorough kit request events reads.handed := by
  have handing := handOver_all (reads.cached.lookup ·) reads.kept ⟨[],nonBlank reads.errors⟩
  have quiet : Blank reads.errors := by
    intro error member
    by_contra stated
    exact stated (blank error (handing.errors error (List.mem_filter.mpr ⟨member,decide_eq_true stated⟩)))
  obtain ⟨gathered,kept⟩ := uploads.gathered
  obtain ⟨readings,blobs⟩ := uploads.after_listing
  obtain ⟨_,listed⟩ := uploads.listed
  obtain ⟨_,read⟩ := uploads.read
  have clear : Blank errors := fun error member => quiet error (readObjects_grows read error (List.mem_append_left _ member))
  obtain ⟨flag,start,more,scan,split,all,found,few⟩ := listBounded_all listed clear
  have inside : ∀ event ∈ more, event ∈ events := by
    intro event member
    rw [uploads.parts,split]
    exact List.mem_append_left _ (List.mem_cons_of_mem _ member)
  have fetched : ∀ {bucket blob}, Listed events bucket blob → Recent request blob → blobUri bucket blob.name ∈ keys scan.found := by
    rintro bucket blob ⟨glob,listing,answered,member⟩ recent
    have own := (uploads.asked answered).1
    rw [split] at own
    rcases List.mem_cons.mp own with same | own
    · cases same
    · exact (all.found _).mpr (.inr ⟨bucket,blob,⟨glob,listing,own,member⟩,recent,rfl⟩)
  have shown : more.flatMap listedBlobs = events.flatMap listedBlobs := by
    rw [blobs,split,List.flatMap_cons]
    rfl
  refine ⟨⟨start,more.filterMap clockReading,?_,all.readings⟩,?_,?_,?_,?_,?_,?_⟩
  · rw [readings,split]
    rfl
  · intro pattern member
    obtain ⟨bucket,glob,listing,located,answered⟩ := all.asked pattern member
    exact ⟨bucket,glob,listing,located,inside _ answered⟩
  · intro flag bucket glob reply answered
    have own := (uploads.asked answered).1
    rw [split] at own
    rcases List.mem_cons.mp own with same | own
    · cases same
    · exact all.whole own
  · rw [← shown]
    by_cases empty : more.flatMap listedBlobs = []
    · rw [empty]
      exact Nat.zero_le _
    · have room := (all.room empty).1
      rw [all.counted] at room
      exact (Nat.le_add_left _ _).trans room
  · rw [← shown]
    by_cases empty : more.flatMap listedBlobs = []
    · rw [empty]
      exact Nat.zero_le _
    · exact (Nat.le_add_left _ _).trans (all.room empty).2
  · intro uris nodup stated
    have known : uris ⊆ keys scan.found := by
      intro uri member
      obtain ⟨bucket,blob,seen,recent,rfl⟩ := stated uri member
      exact fetched seen recent
    have fits := (List.subperm_of_subset nodup known).length_le
    unfold keys at fits
    rw [List.length_map] at fits
    exact fits.trans few
  · intro bucket blob seen recent
    obtain ⟨entry,member,same⟩ := List.mem_map.mp ((found _).mpr (fetched seen recent))
    have held := kept quiet entry member
    obtain ⟨payload,cached⟩ := gathered.kept entry held
    obtain ⟨report,handed,uri,own⟩ := handing.all entry held payload cached
    refine ⟨report,handed,uri.trans same,?_⟩
    rw [uri,own]
    exact uploads.stays (gathered.cached _ _ cached)

theorem Thorough.accounts_iff (thorough : Thorough kit request events reads.handed) (honest : Honest store events)
    (uploads : Uploads kit request events one two three objects errors reads record) :
    AccountsForAll kit request store events reads.handed ↔ ReadsBack kit request store := by
  have own : ∀ {bucket glob : String} {listing : Listing}, .answered true (.listBlobs bucket glob) (.ok listing) ∈ events →
      listing.blobs = store.matching bucket glob ∧ ∀ blob ∈ listing.blobs, Usable blob := by
    intro bucket glob listing answered
    obtain ⟨_,same,unfailed,usable⟩ := thorough.whole answered
    cases same
    exact ⟨listing_matching honest answered unfailed thorough.counted,usable⟩
  constructor
  · intro accounted bucket blob due
    obtain ⟨⟨glob,listing,answered,member⟩,given,_⟩ := accounted bucket blob due
    obtain ⟨all,usable⟩ := own answered
    obtain ⟨pattern,stated,located⟩ := (uploads.asked answered).2
    obtain ⟨uri,read⟩ := uploads.downloaded given
    exact ⟨⟨pattern,stated,glob,located,by rwa [← all]⟩,gsObject_again read (usable blob member).1⟩
  · intro back bucket blob due
    obtain ⟨⟨pattern,stated,glob,located,member⟩,again⟩ := back bucket blob due
    obtain ⟨_,_,listing,place,answered⟩ := thorough.asked pattern stated
    cases located.symm.trans place
    have seen : Listed events bucket blob := ⟨glob,listing,answered,by rwa [(own answered).1]⟩
    obtain ⟨report,handed,uri,read⟩ := thorough.read bucket blob seen due.2
    obtain ⟨_,_,found,given,parsed⟩ := read_content honest read
    rw [uri] at found
    cases again.symm.trans found
    exact ⟨seen,given,report,handed,uri,parsed⟩

end uploads

-- The two publishers that upload
inductive Publisher where
  | publish
  | publishVerified

def Publisher.script (publisher : Publisher) (kit : PublishKit) (request : PublishRequest) : Storing Published :=
  match publisher with
  | .publish => Publishing.publish kit request
  | .publishVerified => Publishing.publishVerified kit request

-- The record of an uploaded projection, and the reports that were handed over for it
structure UploadedProjection (kit : PublishKit) (request : PublishRequest) (events : List StorageEvent) (body : String) (handed : Handed)
    (record : Record) : Prop where
  marked : .marked handed ∈ events
  shown : (projectHanded kit request handed).records = [record]
  dumped : body = kit.dumps request.targets handed.reports (projectHanded kit request handed)

section published

variable {kit : PublishKit} {request : PublishRequest} {publisher : Publisher} {held flag : Bool} {before after : Unit} {events : List StorageEvent}
  {result : Except PyExc Published} {store : Store} {bucket name body : String} {reply : Except PyExc Unit}

theorem script_uploads (steps : (publisher.script kit request).Steps held before events result after)
    (sent : .answered flag (.upload bucket name body) reply ∈ events) :
    ∃ one two three objects errors reads record, Uploads kit request events one two three objects errors reads record := by
  cases publisher with
  | publish => exact publishListed_uploads steps sent
  | publishVerified =>
    change (publishVerified kit request).Steps _ _ _ _ _ at steps
    unfold publishVerified at steps
    split at steps
    · obtain ⟨rfl,_,_⟩ := steps_raise.mp steps
      cases List.mem_singleton.mp sent
    · exact publishListed_uploads steps sent

theorem uploaded_projection_accounts_for_every_object_iff (steps : (publisher.script kit request).Steps held before events result after)
    (honest : Honest store events) (sent : .answered flag (.upload bucket name body) reply ∈ events) :
    ∃ handed record, UploadedProjection kit request events body handed record ∧
      ((projectHanded kit request handed).completeness = "complete" ∨ record.completeness = "complete" →
        (AccountsForAll kit request store events handed ↔ ReadsBack kit request store)) ∧
      (∀ report ∈ handed.reports, ∃ bucket name, gsObject kit.netlocValid report.objectUri = .ok (some (bucket,name)) ∧
        .answered true (.download bucket name) (.ok (some (store.content bucket name))) ∈ events ∧
        kit.loads (store.content bucket name) = .ok (.dict report.payload)) ∧
      (¬Thorough kit request events handed →
        (projectHanded kit request handed).completeness = "incomplete" ∧ record.completeness = "incomplete") ∧
      ∀ flag url token data answer, .answered flag (.post url token data) answer ∈ events → data = body.toUTF8.toList := by
  obtain ⟨one,two,three,objects,errors,reads,record,uploads⟩ := script_uploads steps sent
  have own : record ∈ (projectHanded kit request reads.handed).records := by
    rw [uploads.shown]
    exact List.mem_singleton_self _
  have failing : ¬Thorough kit request events reads.handed →
      (projectHanded kit request reads.handed).completeness = "incomplete" ∧ record.completeness = "incomplete" := by
    intro cut
    have told : nonBlank reads.handed.readErrors ≠ [] := fun none => cut (uploads.thorough (blank_iff.mp none))
    have failed := @projectHanded_failed kit request _ told
    exact ⟨failed.1,failed.2 record own⟩
  have text : body = kit.dumps request.targets reads.handed.reports (projectHanded kit request reads.handed) := by
    rcases uploads.cases sent with ⟨_,asks⟩ | ⟨_,asks⟩ | same | sends
    · cases asks
    · cases asks
    · cases same
    · exact sends
  refine ⟨reads.handed,record,⟨?_,uploads.shown,text⟩,?_,?_,failing,?_⟩
  · rw [uploads.parts]
    exact List.mem_append_right _ (List.mem_append_right _ List.mem_cons_self)
  · intro complete
    have thorough : Thorough kit request events reads.handed := by
      by_contra cut
      have incomplete := failing cut
      rw [incomplete.1,incomplete.2] at complete
      exact absurd complete (by decide)
    exact thorough.accounts_iff honest uploads
  · intro report member
    exact read_content honest (uploads.reports member)
  · intro other url token data answer posted
    rcases uploads.cases posted with ⟨_,asks⟩ | ⟨_,asks⟩ | same | sends
    · cases asks
    · cases asks
    · cases same
    · rw [text]
      exact sends

end published

-- A store whose second object is named like the first up to a question mark, and is a list
def markedStore : Store where
  matching bucket glob := if bucket = "reports" ∧ glob = "*.json" then [⟨"run.json",.updated 10⟩,⟨"run.json?v.json",.updated 20⟩] else []
  content _ name := if name = "run.json" then [123,125] else [91,93]

def bracketLoads (bytes : List UInt8) : Except PyExc PyVal :=
  if bytes = [123,125] then .ok (.dict [])
  else if bytes = [91,93] then .ok (.list [])
  else .error ⟨"JSONDecodeError","Expecting value"⟩

def closedDay : PublishKit where
  netlocValid _ := true
  loads := bracketLoads
  projection := ⟨fun _ => none,fun _ _ => none,fun _ => ⟨"market_closed",some 739894,"America/New_York",none⟩⟩
  dumps _ _ projected := "\x7b\"completeness\":\"" ++ projected.completeness ++ "\"\x7d"

def paperRequest : PublishRequest where
  globs := ["gs://reports/*.json"]
  since := 0
  limit := 20
  observedAt := 100
  observationVersion := "20261005T000000000000Z"
  targets := [[("service",.str "longbridge-quant-paper-service"),("strategy_profile",.str "russell_top50_leader_rotation"),("account_scope",.str "paper")]]
  schedulerError := none
  storePrefix := "gs://paper-bucket/runtime_daily"
  syncEnabled := false
  url := ""
  token := ""
  handoffEnabled := false
  keepsResult := false

-- A client of the store that states no sizes and never fails
def storeClient (store : Store) : World storagePorts PyExc := fun _ call =>
  match call with
  | .monotonic => .ok (0 : ℚ)
  | .listBlobs bucket glob => .ok (⟨(store.matching bucket glob).take (maxListScan + 1),none⟩ : Listing)
  | .size _ _ => .ok (none : Option ℤ)
  | .download bucket name => .ok (some ((store.content bucket name).take maxReportBytes))
  | .post _ _ _ => .error ⟨"ConnectionError","offline"⟩
  | .openBlob _ _ => .ok ()
  | .upload _ _ _ => .ok ()
  | .handoff _ _ _ => .ok ()
  | .writeResult _ _ _ _ => .ok ()

theorem storeClient_honest {store : Store} {past : List StorageEvent} {tree : Tree storagePorts PyExc (Except PyExc Published × Unit)} :
    Honest store (play (storeClient store) past tree).1 where
  lists answered _ := by
    obtain ⟨_,same⟩ := play_answered answered
    cases same
    rfl
  sizes answered := by
    obtain ⟨_,same⟩ := play_answered answered
    cases same
  downloads answered := by
    obtain ⟨_,same⟩ := play_answered answered
    cases same
    rfl

def markedRun : List StorageEvent × Except PyExc Published × Unit :=
  play (storeClient markedStore) [] ((publish closedDay paperRequest).run false ())

theorem markedRun_steps : (Publisher.publish.script closedDay paperRequest).Steps false () markedRun.1 (.ok ⟨"recorded","2026-10-05","disabled"⟩) () :=
  play_steps markedRun ⟨"recorded","2026-10-05","disabled"⟩ rfl (by decide +kernel)

def uploadedText : StorageEvent → Option String
  | .answered _ (.upload _ _ body) _ => some body
  | _ => none

def shownCompleteness : StorageEvent → Option (List String)
  | .marked handed => some ((projectHanded closedDay paperRequest handed).completeness ::
      (projectHanded closedDay paperRequest handed).records.map Record.completeness)
  | _ => none

def completeText : String := "\x7b\"completeness\":\"complete\"\x7d"

theorem uploadedText_mem {events : List StorageEvent} {body : String} (uploaded : body ∈ events.filterMap uploadedText) :
    ∃ flag bucket name reply, .answered flag (.upload bucket name body) reply ∈ events := by
  obtain ⟨event,member,text⟩ := List.mem_filterMap.mp uploaded
  unfold uploadedText at text
  split at text
  · cases text
    exact ⟨_,_,_,_,member⟩
  · cases text

theorem markedRun_uploads : ∃ flag bucket name reply, .answered flag (.upload bucket name completeText) reply ∈ markedRun.1 := by
  have text : markedRun.1.filterMap uploadedText = [completeText] := by decide +kernel
  apply uploadedText_mem
  rw [text]
  exact List.mem_singleton_self _

theorem marked_upload_accounts_iff_read_back : ∃ handed record, UploadedProjection closedDay paperRequest markedRun.1 completeText handed record ∧
    ((projectHanded closedDay paperRequest handed).completeness = "complete" ∨ record.completeness = "complete" →
      (AccountsForAll closedDay paperRequest markedStore markedRun.1 handed ↔ ReadsBack closedDay paperRequest markedStore)) := by
  obtain ⟨flag,bucket,name,reply,sent⟩ := markedRun_uploads
  obtain ⟨handed,record,uploaded,accounts,_⟩ := uploaded_projection_accounts_for_every_object_iff markedRun_steps storeClient_honest sent
  exact ⟨handed,record,uploaded,accounts⟩

-- The name is cut at the question mark, so that the first object is read twice and the second never.
theorem marked_object_is_not_downloaded : ∃ events result handed record body flag bucket name reply,
    (Publisher.publish.script closedDay paperRequest).Steps false () events (.ok result) () ∧ Honest markedStore events ∧
    .answered flag (.upload bucket name body) reply ∈ events ∧ UploadedProjection closedDay paperRequest events body handed record ∧
    (projectHanded closedDay paperRequest handed).completeness = "complete" ∧ record.completeness = "complete" ∧
    ¬AccountsForAll closedDay paperRequest markedStore events handed := by
  obtain ⟨flag,bucket,name,reply,sent⟩ := markedRun_uploads
  obtain ⟨one,two,three,objects,errors,reads,record,uploads⟩ := script_uploads markedRun_steps sent
  have marked : .marked reads.handed ∈ markedRun.1 := by
    rw [uploads.parts]
    exact List.mem_append_right _ (List.mem_append_right _ List.mem_cons_self)
  have complete : shownCompleteness (.marked reads.handed) = some ["complete","complete"] := by
    have all : markedRun.1.filterMap shownCompleteness = [["complete","complete"]] := by decide +kernel
    cases shown : shownCompleteness (.marked reads.handed) with
    | none => cases shown
    | some stated =>
      have own : stated ∈ markedRun.1.filterMap shownCompleteness := List.mem_filterMap.mpr ⟨_,marked,shown⟩
      rw [all] at own
      rw [List.mem_singleton.mp own]
  have shown := Option.some.inj complete
  rw [uploads.shown] at shown
  obtain ⟨whole,rest⟩ := List.cons.inj shown
  have text : completeText = closedDay.dumps paperRequest.targets reads.handed.reports (projectHanded closedDay paperRequest reads.handed) := by
    show _ = "\x7b\"completeness\":\"" ++ (projectHanded closedDay paperRequest reads.handed).completeness ++ "\"\x7d"
    rw [whole]
    rfl
  refine ⟨markedRun.1,_,reads.handed,record,completeText,flag,bucket,name,reply,markedRun_steps,storeClient_honest,sent,
    ⟨marked,uploads.shown,text⟩,whole,(List.cons.inj rest).1,fun accounted => ?_⟩
  obtain ⟨_,given,_⟩ := accounted "reports" ⟨"run.json?v.json",.updated 20⟩
    ⟨⟨"gs://reports/*.json",List.mem_singleton_self _,"*.json",by decide,by decide,List.mem_cons_of_mem _ List.mem_cons_self⟩,20,rfl,by decide⟩
  obtain ⟨uri,read⟩ := uploads.downloaded given
  have again := gsObject_again read (by decide)
  have cut : gsObject closedDay.netlocValid (blobUri "reports" "run.json?v.json") = .ok (some ("reports","run.json")) := by rfl
  rw [cut] at again
  exact absurd (Except.ok.inj again) (by decide)

end LongBridge.Publishing
