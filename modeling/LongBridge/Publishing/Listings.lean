import LongBridge.Effects.Invariant
import LongBridge.Notifications.Recorded
import LongBridge.Publishing.Publish

namespace LongBridge.Publishing
open Effects
open Notifications (setEntry mem_keys_setEntry)

abbrev StorageEvent := Event storagePorts PyExc

variable {kit : PublishKit} {request : PublishRequest} {deadline : ℚ} {held : Bool} {before after : Unit} {events past : List StorageEvent}

-- The readings of the clock, and the blobs of the listings that were answered
def clockReading : StorageEvent → Option (Except PyExc ℚ)
  | .answered _ .monotonic reply => some reply
  | _ => none

def listedBlobs : StorageEvent → List Blob
  | .answered _ (.listBlobs _ _) (.ok listing) => listing.blobs
  | _ => []

def Usable (blob : Blob) : Prop := blob.name ≠ "" ∧ ∃ instant, blob.stamp = .updated instant

-- A blob that was updated at or after the start of the lookback
def Recent (request : PublishRequest) (blob : Blob) : Prop := ∃ instant, blob.stamp = .updated instant ∧ request.since ≤ instant

def Listed (events : List StorageEvent) (bucket : String) (blob : Blob) : Prop :=
  ∃ glob listing, .answered true (.listBlobs bucket glob) (.ok listing) ∈ events ∧ blob ∈ listing.blobs

def keys (found : List (String × ℤ)) : List String := found.map Prod.fst

section scanning

variable {bucket : String} {blobs : List Blob} {scan next : Scan}

-- What one blob leaves of a scan.
structure Noted (request : PublishRequest) (bucket : String) (blob : Blob) (scan next : Scan) : Prop where
  usable : Usable blob
  counted : next.scanned = scan.scanned + 1
  sized : next.scannedBytes = scan.scannedBytes + blob.listBytes
  found : ∀ uri, uri ∈ keys next.found ↔ uri ∈ keys scan.found ∨ (Recent request blob ∧ uri = blobUri bucket blob.name)

theorem note_noted {blob : Blob} (noted : scan.note request bucket blob = .ok (false,next)) : Noted request bucket blob scan next := by
  unfold Scan.note at noted
  split at noted
  · cases noted
  · split at noted
    · cases noted
    · rename_i named
      split at noted
      · cases noted
      · rename_i instant stamped
        split at noted
        · rename_i early
          cases noted
          refine ⟨⟨named,instant,stamped⟩,rfl,rfl,fun uri => ⟨.inl,?_⟩⟩
          rintro (known | ⟨⟨other,same,late⟩,_⟩)
          · exact known
          · rw [stamped] at same
            cases same
            exact absurd early (not_lt.mpr late)
        · rename_i late
          cases noted
          refine ⟨⟨named,instant,stamped⟩,rfl,rfl,fun uri => ?_⟩
          show uri ∈ (setEntry _ _ _).map Prod.fst ↔ _
          rw [mem_keys_setEntry]
          constructor
          · rintro (own | known)
            · exact .inr ⟨⟨instant,stamped,not_lt.mp late⟩,own⟩
            · exact .inl known
          · rintro (known | ⟨_,own⟩)
            · exact .inr known
            · exact .inl own
      · cases noted

-- A scan that came to the end of the listing, with every blob usable
structure Scanned (request : PublishRequest) (deadline : ℚ) (bucket : String) (blobs : List Blob) (events : List StorageEvent)
    (scan next : Scan) : Prop where
  readings : ∀ event ∈ events, ∃ now, event = .answered true .monotonic (.ok now) ∧ now ≤ deadline
  usable : ∀ blob ∈ blobs, Usable blob
  counted : next.scanned = scan.scanned + blobs.length
  sized : next.scannedBytes = scan.scannedBytes + (blobs.map Blob.listBytes).sum
  room : blobs ≠ [] → next.scanned ≤ maxListScan ∧ scan.scannedBytes + (blobs.dropLast.map Blob.listBytes).sum ≤ maxListBytes
  found : ∀ uri, uri ∈ keys next.found ↔ uri ∈ keys scan.found ∨ ∃ blob ∈ blobs, Recent request blob ∧ uri = blobUri bucket blob.name

theorem not_full (room : scan.full ≠ true) : scan.scanned < maxListScan ∧ scan.scannedBytes ≤ maxListBytes := by
  unfold Scan.full at room
  simp only [ne_eq,Bool.or_eq_true,decide_eq_true_eq,not_or] at room
  exact ⟨not_le.mp room.1,not_lt.mp room.2⟩

theorem scanBlobs_ended {failure : Option PyExc} {incomplete : Bool}
    (steps : (scanBlobs request deadline bucket failure blobs incomplete scan).Steps held before events (.ok (.ended false,next)) after) :
    incomplete = false ∧ failure = none ∧ Scanned request deadline bucket blobs events scan next := by
  induction blobs generalizing incomplete scan events before after with
  | nil =>
    unfold scanBlobs at steps
    split at steps
    · cases (steps_pure_ok steps).2
    · obtain ⟨rfl,same⟩ := steps_pure_ok steps
      cases same
      exact ⟨rfl,rfl,⟨(fun _ impossible => nomatch impossible),(fun _ impossible => nomatch impossible),rfl,rfl,
        fun empty => absurd rfl empty,fun uri => by simp⟩⟩
  | cons blob rest ih =>
    unfold scanBlobs at steps
    obtain ⟨answer,tail,rfl,later⟩ := steps_attempt_invoke_bind.mp steps
    split at later
    · cases (steps_pure_ok later).2
    · rename_i now
      split at later
      · cases (steps_pure_ok later).2
      · rename_i going
        rw [not_or,not_lt] at going
        have room := not_full going.2
        split at later
        · cases (steps_pure_ok later).2
        · rename_i unusable middle noted
          obtain ⟨clear,unfailed,scanned⟩ := ih later
          rw [Bool.or_eq_false_iff] at clear
          obtain ⟨rfl,rfl⟩ := clear
          have one := note_noted noted
          refine ⟨rfl,unfailed,?_,List.forall_mem_cons.mpr ⟨one.usable,scanned.usable⟩,?_,?_,fun _ => ⟨?_,?_⟩,fun uri => ?_⟩
          · exact List.forall_mem_cons.mpr ⟨⟨now,rfl,going.1⟩,scanned.readings⟩
          · rw [scanned.counted,one.counted,List.length_cons]
            omega
          · rw [scanned.sized,one.sized,List.map_cons,List.sum_cons]
            omega
          · cases rest with
            | nil =>
              rw [scanned.counted,one.counted]
              exact room.1
            | cons other others => exact (scanned.room (List.cons_ne_nil _ _)).1
          · cases rest with
            | nil => exact room.2
            | cons other others =>
              have bytes := (scanned.room (List.cons_ne_nil _ _)).2
              rw [one.sized] at bytes
              rw [List.dropLast_cons_of_ne_nil (List.cons_ne_nil _ _),List.map_cons,List.sum_cons]
              omega
          · rw [scanned.found,one.found,or_assoc,List.exists_mem_cons_iff]

end scanning

section globs

variable {patterns errors left : List String} {scan next : Scan} {cut : Bool}

theorem listGlobs_grows (steps : (listGlobs kit request deadline patterns errors scan).Steps held before events (.ok (left,cut,next)) after) :
    ∀ error ∈ errors, error ∈ left := by
  induction patterns generalizing errors scan events before after with
  | nil =>
    cases (steps_pure_ok steps).2
    exact fun _ => id
  | cons pattern rest ih =>
    have more : ∀ {added : List String}, (∀ error ∈ errors ++ added, error ∈ left) → ∀ error ∈ errors, error ∈ left :=
      fun inside error member => inside error (List.mem_append_left _ member)
    unfold listGlobs at steps
    split at steps
    · cases (steps_pure_ok steps).2
      exact fun _ => id
    · obtain ⟨_,_,now,_,_,_,steps⟩ := steps_bind_ok steps
      split at steps
      · cases (steps_pure_ok steps).2
        exact fun _ => id
      · obtain ⟨_,_,located,_,_,_,steps⟩ := steps_bind_ok steps
        split at steps
        · exact more (ih steps)
        · obtain ⟨answer,_,_,steps⟩ := steps_attempt_invoke_bind.mp steps
          split at steps
          · exact more (ih steps)
          · obtain ⟨_,_,⟨ended,middle⟩,_,_,_,steps⟩ := steps_bind_ok steps
            dsimp only at steps
            split at steps
            · exact more (ih steps)
            · cases (steps_pure_ok steps).2
              exact more fun _ => id
            · exact more (ih steps)

def Blank (errors : List String) : Prop := ∀ error ∈ errors, strip error = ""

-- The globs were all asked, and every listing came to its end in time and in number.
structure ListedAll (kit : PublishKit) (request : PublishRequest) (deadline : ℚ) (patterns : List String) (events : List StorageEvent)
    (scan next : Scan) : Prop where
  readings : ∀ reading ∈ events.filterMap clockReading, ∃ now, reading = .ok now ∧ now ≤ deadline
  asked : ∀ pattern ∈ patterns, ∃ bucket glob listing, gsObject kit.netlocValid pattern = .ok (some (bucket,glob)) ∧
    .answered true (.listBlobs bucket glob) (.ok listing) ∈ events
  whole : ∀ {flag bucket glob reply}, .answered flag (.listBlobs bucket glob) reply ∈ events →
    ∃ listing, reply = .ok listing ∧ listing.failure = none ∧ ∀ blob ∈ listing.blobs, Usable blob
  counted : next.scanned = scan.scanned + (events.flatMap listedBlobs).length
  sized : next.scannedBytes = scan.scannedBytes + ((events.flatMap listedBlobs).map Blob.listBytes).sum
  room : events.flatMap listedBlobs ≠ [] → next.scanned ≤ maxListScan ∧
    scan.scannedBytes + ((events.flatMap listedBlobs).dropLast.map Blob.listBytes).sum ≤ maxListBytes
  found : ∀ uri, uri ∈ keys next.found ↔ uri ∈ keys scan.found ∨
    ∃ bucket blob, Listed events bucket blob ∧ Recent request blob ∧ uri = blobUri bucket blob.name

theorem scanned_quiet {bucket : String} {blobs : List Blob} (scanned : Scanned request deadline bucket blobs events scan next) :
    events.flatMap listedBlobs = [] ∧ (∀ {flag bucket glob reply}, .answered flag (.listBlobs bucket glob) reply ∉ events) ∧
      ∀ reading ∈ events.filterMap clockReading, ∃ now, reading = .ok now ∧ now ≤ deadline := by
  refine ⟨List.flatMap_eq_nil_iff.mpr fun event member => ?_,fun member => ?_,fun reading member => ?_⟩
  · obtain ⟨now,rfl,_⟩ := scanned.readings event member
    rfl
  · obtain ⟨now,same,_⟩ := scanned.readings _ member
    cases same
  · obtain ⟨event,inside,read⟩ := List.mem_filterMap.mp member
    obtain ⟨now,rfl,early⟩ := scanned.readings event inside
    cases read
    exact ⟨now,rfl,early⟩

-- One glob, its listing to the end, and then the others
theorem ListedAll.cons {pattern bucket glob : String} {listing : Listing} {rest : List String} {middle : Scan} {now : ℚ} {flag : Bool} {two three : List StorageEvent}
    (located : gsObject kit.netlocValid pattern = .ok (some (bucket,glob))) (early : now ≤ deadline) (unfailed : listing.failure = none)
    (scanned : Scanned request deadline bucket listing.blobs two scan middle)
    (later : ListedAll kit request deadline rest three middle next) :
    ListedAll kit request deadline (pattern :: rest)
      (.answered flag .monotonic (.ok now) :: .answered true (.listBlobs bucket glob) (.ok listing) :: (two ++ three)) scan next := by
  obtain ⟨silent,unasked,timely⟩ := scanned_quiet scanned
  have blobs : (.answered flag .monotonic (.ok now) :: .answered true (.listBlobs bucket glob) (.ok listing) :: (two ++ three) : List StorageEvent).flatMap
      listedBlobs = listing.blobs ++ three.flatMap listedBlobs := by
    rw [List.flatMap_cons,List.flatMap_cons,List.flatMap_append,silent,List.nil_append]
    rfl
  refine ⟨?_,List.forall_mem_cons.mpr ⟨?_,?_⟩,?_,?_,?_,?_,fun uri => ?_⟩
  · intro reading member
    rw [List.filterMap_cons,List.filterMap_cons,List.filterMap_append] at member
    rcases List.mem_cons.mp member with rfl | member
    · exact ⟨now,rfl,early⟩
    · rcases List.mem_append.mp member with one | two
      · exact timely reading one
      · exact later.readings reading two
  · exact ⟨bucket,glob,listing,located,List.mem_cons_of_mem _ List.mem_cons_self⟩
  · intro other member
    obtain ⟨first,second,held,read,answered⟩ := later.asked other member
    exact ⟨first,second,held,read,List.mem_cons_of_mem _ (List.mem_cons_of_mem _ (List.mem_append_right _ answered))⟩
  · intro other first second reply member
    rcases List.mem_cons.mp member with same | member
    · cases same
    · rcases List.mem_cons.mp member with same | member
      · cases same
        exact ⟨listing,rfl,unfailed,scanned.usable⟩
      · rcases List.mem_append.mp member with one | two
        · exact absurd one unasked
        · exact later.whole two
  · rw [blobs,List.length_append,later.counted,scanned.counted]
    omega
  · rw [blobs,List.map_append,List.sum_append,later.sized,scanned.sized]
    omega
  · rw [blobs]
    intro some
    by_cases others : three.flatMap listedBlobs = []
    · have room := scanned.room (by rwa [others,List.append_nil] at some)
      have same := later.counted
      rw [others,List.length_nil,Nat.add_zero] at same
      rw [others,List.append_nil,same]
      exact room
    · have room := later.room others
      rw [List.dropLast_append_of_ne_nil others,List.map_append,List.sum_append]
      rw [scanned.sized] at room
      exact ⟨room.1,by omega⟩
  · have split : ∀ {other : String} {blob : Blob},
        Listed (.answered flag .monotonic (.ok now) :: .answered true (.listBlobs bucket glob) (.ok listing) :: (two ++ three)) other blob ↔
          (other = bucket ∧ blob ∈ listing.blobs) ∨ Listed three other blob := by
      intro other blob
      constructor
      · rintro ⟨second,shown,member,inside⟩
        rcases List.mem_cons.mp member with same | member
        · cases same
        · rcases List.mem_cons.mp member with same | member
          · cases same
            exact .inl ⟨rfl,inside⟩
          · rcases List.mem_append.mp member with one | two
            · exact absurd one unasked
            · exact .inr ⟨second,shown,two,inside⟩
      · rintro (⟨rfl,inside⟩ | ⟨second,shown,member,inside⟩)
        · exact ⟨glob,listing,List.mem_cons_of_mem _ List.mem_cons_self,inside⟩
        · exact ⟨second,shown,List.mem_cons_of_mem _ (List.mem_cons_of_mem _ (List.mem_append_right _ member)),inside⟩
    rw [later.found,scanned.found,or_assoc]
    constructor
    · rintro (known | ⟨blob,member,recent,same⟩ | ⟨other,blob,shown,recent,same⟩)
      · exact .inl known
      · exact .inr ⟨bucket,blob,split.mpr (.inl ⟨rfl,member⟩),recent,same⟩
      · exact .inr ⟨other,blob,split.mpr (.inr shown),recent,same⟩
    · rintro (known | ⟨other,blob,shown,recent,same⟩)
      · exact .inl known
      · rcases split.mp shown with ⟨rfl,member⟩ | shown
        · exact .inr (.inl ⟨blob,member,recent,same⟩)
        · exact .inr (.inr ⟨other,blob,shown,recent,same⟩)

theorem listGlobs_all (steps : (listGlobs kit request deadline patterns errors scan).Steps held before events (.ok (left,false,next)) after)
    (blank : Blank left) : ListedAll kit request deadline patterns events scan next := by
  induction patterns generalizing errors scan events before after with
  | nil =>
    obtain ⟨rfl,same⟩ := steps_pure_ok steps
    cases same
    exact ⟨(fun _ impossible => nomatch impossible),(fun _ impossible => nomatch impossible),(fun impossible => nomatch impossible),rfl,rfl,
      fun empty => absurd rfl empty,fun uri => ⟨.inl,fun known => known.elim id fun ⟨_,_,⟨_,_,impossible,_⟩,_⟩ => nomatch impossible⟩⟩
  | cons pattern rest ih =>
    -- An error of the listing would still be there at the end.
    have silent : ∀ {more : List StorageEvent} {middle : Scan}, ¬(listGlobs kit request deadline rest (errors ++ ["list_failed"]) middle).Steps held () more (.ok (left,false,next)) after := by
      intro more middle failed
      have said := blank _ (listGlobs_grows failed "list_failed" (List.mem_append_right _ List.mem_cons_self))
      exact absurd said (by decide)
    unfold listGlobs at steps
    split at steps
    · cases (steps_pure_ok steps).2
    · obtain ⟨one,two,now,_,rfl,asked,timed⟩ := steps_bind_ok steps
      obtain ⟨rfl,_⟩ := steps_invoke.mp asked
      split at timed
      · cases (steps_pure_ok timed).2
      · rename_i early
        obtain ⟨three,four,located,_,rfl,read,placed⟩ := steps_bind_ok timed
        obtain ⟨place,_,quiet⟩ := steps_fromExcept.mp read
        rw [← place] at quiet
        subst quiet
        split at placed
        · exact absurd placed silent
        · rename_i bucket glob
          obtain ⟨answer,tail,rfl,answered⟩ := steps_attempt_invoke_bind.mp placed
          split at answered
          · exact absurd answered silent
          · rename_i listing
            obtain ⟨five,six,⟨ended,middle⟩,_,rfl,walked,others⟩ := steps_bind_ok answered
            dsimp only at others
            split at others
            · exact absurd others silent
            · cases (steps_pure_ok others).2
            · rename_i incomplete
              cases incomplete with
              | true =>
                have said := blank _ (listGlobs_grows others "listing incomplete" (List.mem_append_right _ List.mem_cons_self))
                exact absurd said (by decide)
              | false =>
                obtain ⟨_,unfailed,scanned⟩ := scanBlobs_ended walked
                exact ListedAll.cons place.symm (not_lt.mp early) unfailed scanned (ih others)

end globs

end LongBridge.Publishing
