import Mathlib.Data.Finset.Card
import Mathlib.Data.List.Sort
import LongBridge.Python.Equality
import LongBridge.Reporting.Backfill

namespace LongBridge.Reporting
open Effects CycleHealth

-- What the listing has found so far, each name once.
structure Listing where
  found : List String
  terminal : Bool
  errors : Bool
  limitHit : Bool

namespace Listing

def broken (listing : Listing) : Listing := { listing with errors := true, terminal := false }

def unfinished (listing : Listing) : Listing := { listing with terminal := false }

def limited (listing : Listing) : Listing := { listing with limitHit := true, terminal := false }

end Listing

-- `found.add(name)`
def addName (found : List String) (name : String) : List String := if name ∈ found then found else found ++ [name]

def itemName : PyVal → Option String
  | .dict item => match Fields.get item "name" with
    | .str name => some name
    | _ => none
  | _ => none

-- The name of an item that may stand in the listing of a prefix.
def listedName (lead : String) (item : PyVal) : Option String :=
  (itemName item).filter fun name => startsWith name lead && decide (name.toList.length ≤ 1024)

def addItem (lead : String) (listing : Listing) (item : PyVal) : Listing :=
  match listedName lead item with
  | some name => { listing with found := addName listing.found name }
  | none => { listing with errors := true }

-- A next token that is neither null nor a new text
def badToken (token : PyVal) (seen : List PyVal) : Bool :=
  match token with
  | .none => false
  | .str text => text == "" || seen.any fun old => token.same old
  | _ => true

-- The loop over the pages of one prefix, at the token that the next request has.
def walkPages (lead : String) (listing : Listing) (token : PyVal) (seen : List PyVal) : List PyVal → Listing
  | [] => if isNone token then listing else listing.unfinished
  | page :: rest => match page with
    | .dict fields =>
      if !(Fields.get fields "request_token").same token then listing.broken
      else match Fields.get fields "items" with
        | .list items =>
          if maxCycles + 1 < items.length then { listing.broken with limitHit := true }
          else
            let listed := items.foldl (addItem lead) listing
            if maxCycles < listed.found.length then listed.limited
            else
              let next := Fields.get fields "nextPageToken"
              if badToken next seen || (isNone next && !rest.isEmpty) then listed.broken
              else walkPages lead listed next (next :: seen) rest
        | _ => listing.broken
    | _ => listing.broken

-- `isinstance(value, Sequence)`: a text is one as well.
def sequence : PyVal → Option (List PyVal)
  | .list items | .tuple items => some items
  | .str text => some (text.toList.map fun char => .str (String.ofList [char]))
  | _ => none

def walkPrefix (lead : String) (listing : Listing) (chain : PyVal) : Listing :=
  match sequence chain with
  | some pages =>
    if pages = [] then listing.broken
    else if maxCycles + 1 < pages.length then { listing.broken with limitHit := true }
    else walkPages lead listing .none [] pages
  | none => listing.broken

def walkPrefixes (pages : Fields) (listing : Listing) : List String → Listing
  | [] => listing
  | lead :: rest =>
    if listing.limitHit then listing.unfinished
    else walkPrefixes pages (walkPrefix lead listing ((pages.lookup lead).getD (.tuple []))) rest

def caughtReceipt (error : PyExc) : Bool := ["ValueError","TypeError","KeyError"].contains error.kind

-- Whether the receipt of a report passes; an exception nobody expects goes through.
def receiptPasses (kit : ReceiptKit) (clock : CycleHealth.Clock) (context : TargetContext) (through : ℤ) (report : PyVal) : Except PyExc Bool :=
  match report with
  | .dict fields => match reportReceipt kit clock context fields through with
    | .ok _ => .ok true
    | .error error => if caughtReceipt error then .ok false else .error error
  | _ => .ok false

-- `coverage`
structure PageCoverage where
  start : String
  through : String
  listedCount : ℕ
  readCount : ℕ
  terminalPageSeen : Bool
  limitHit : Bool
  errorsPresent : Bool

-- The keys of the page map and the required prefixes as sets
def samePrefixes (pages : Fields) (prefixes : List String) : Bool :=
  (pages.all fun entry => prefixes.contains entry.1) && prefixes.all fun lead => pages.has lead

def startListing (pages : Fields) (prefixes : List String) (aborted : Bool) : Listing := ⟨[],true,!samePrefixes pages prefixes,aborted⟩

-- `derive_coverage`
def deriveCoverage (kit : ReceiptKit) (clock : CycleHealth.Clock) (context : TargetContext) (prefixes : List String) (pages reads : Fields)
    (readFrom readThrough : PyVal) (aborted : Bool) : Except PyExc PageCoverage := do
  let start ← instantOf clock readFrom
  let through ← instantOf clock readThrough
  require (start ≤ through) (valueError "invalid read interval")
  require (prefixes ≠ [] ∧ prefixes.length ≤ 366 ∧ prefixes.Nodup) (valueError "invalid required prefixes")
  let listing := walkPrefixes pages (startListing pages prefixes aborted) prefixes
  let passed ← ((listing.found.insertionSort (· ≤ ·)).take maxCycles).mapM fun name =>
    receiptPasses kit clock context through (reads.get name)
  return {
    start := clock.iso start
    through := clock.iso through
    listedCount := listing.found.length
    readCount := passed.count true
    terminalPageSeen := listing.terminal
    limitHit := listing.limitHit || decide (maxCycles < listing.found.length) ||
      (decide (listing.found.length = maxCycles) && !listing.terminal)
    errorsPresent := listing.errors || passed.contains false }

-- `coverage_complete`, with no bounds asked for
def coverageComplete (clock : CycleHealth.Clock) (coverage : PageCoverage) : Except PyExc Bool := do
  let start ← clock.instant coverage.start
  let through ← clock.instant coverage.through
  require (start ≤ through) (valueError "invalid coverage interval")
  return coverage.terminalPageSeen && !coverage.limitHit && !coverage.errorsPresent && coverage.listedCount == coverage.readCount &&
    decide (coverage.readCount ≤ maxCycles)

section names

variable {found names : List String} {name : String}

def addNames (found names : List String) : List String := names.foldl addName found

theorem mem_addName {other : String} : other ∈ addName found name ↔ other ∈ found ∨ other = name := by
  unfold addName
  split
  · rename_i held
    constructor
    · exact .inl
    · rintro (old | rfl)
      · exact old
      · exact held
  · rw [List.mem_append,List.mem_singleton]

theorem mem_addNames {other : String} : other ∈ addNames found names ↔ other ∈ found ∨ other ∈ names := by
  induction names generalizing found with
  | nil => simp [addNames]
  | cons name rest ih =>
    show other ∈ addNames (addName found name) rest ↔ _
    rw [ih,mem_addName,List.mem_cons,or_assoc]

theorem addName_nodup (nodup : found.Nodup) (name : String) : (addName found name).Nodup := by
  unfold addName
  split
  · exact nodup
  · rename_i new
    rw [List.nodup_append]
    refine ⟨nodup,List.nodup_singleton _,?_⟩
    rintro old held _ single rfl
    rw [List.mem_singleton] at single
    subst single
    exact new held

theorem addNames_nodup (nodup : found.Nodup) : (addNames found names).Nodup := by
  induction names generalizing found with
  | nil => exact nodup
  | cons name rest ih => exact ih (addName_nodup nodup name)

theorem length_addName (found : List String) (name : String) : found.length ≤ (addName found name).length := by
  unfold addName
  split
  · exact le_rfl
  · rw [List.length_append]
    exact Nat.le_add_right _ _

theorem length_addNames (found names : List String) : found.length ≤ (addNames found names).length := by
  induction names generalizing found with
  | nil => exact le_rfl
  | cons name rest ih => exact (length_addName found name).trans (ih _)

theorem addNames_append (found one two : List String) : addNames found (one ++ two) = addNames (addNames found one) two := by
  unfold addNames
  rw [List.foldl_append]

end names

namespace Listing

structure Clean (listing : Listing) : Prop where
  terminal : listing.terminal = true
  errors : listing.errors = false
  limitHit : listing.limitHit = false
  few : listing.found.length ≤ maxCycles

theorem not_clean_broken (listing : Listing) : ¬listing.broken.Clean := fun clean => nomatch clean.terminal

theorem not_clean_unfinished (listing : Listing) : ¬listing.unfinished.Clean := fun clean => nomatch clean.terminal

theorem not_clean_limited (listing : Listing) : ¬listing.limited.Clean := fun clean => nomatch clean.terminal

end Listing

section walk

variable {lead : String} {listing : Listing} {items : List PyVal}

-- Every item is listed under the prefix.
def AllListed (lead : String) (items : List PyVal) : Prop := ∀ item ∈ items, (listedName lead item).isSome = true

theorem addItems_found (lead : String) (items : List PyVal) (listing : Listing) : (items.foldl (addItem lead) listing).found =
    addNames listing.found (items.filterMap (listedName lead)) := by
  induction items generalizing listing with
  | nil => rfl
  | cons item rest ih =>
    rw [List.foldl_cons,ih,List.filterMap_cons]
    unfold addItem
    cases listedName lead item <;> rfl

theorem addItems_clean (lead : String) (items : List PyVal) (listing : Listing) : (items.foldl (addItem lead) listing).Clean ↔
    listing.Clean ∧ AllListed lead items ∧ (addNames listing.found (items.filterMap (listedName lead))).length ≤ maxCycles := by
  induction items generalizing listing with
  | nil => exact ⟨fun clean => ⟨clean,(fun _ member => nomatch member),clean.few⟩,fun clean => clean.1⟩
  | cons item rest ih =>
    rw [List.foldl_cons,ih,List.filterMap_cons]
    unfold AllListed
    rw [List.forall_mem_cons]
    unfold addItem
    cases listedName lead item with
    | none =>
      constructor
      · rintro ⟨clean,_⟩
        cases clean.errors
      · rintro ⟨_,⟨impossible,_⟩,_⟩
        cases impossible
    | some name =>
      constructor
      · rintro ⟨⟨terminal,errors,limit,few⟩,listed,bound⟩
        exact ⟨⟨terminal,errors,limit,(length_addName _ _).trans few⟩,⟨rfl,listed⟩,bound⟩
      · rintro ⟨⟨terminal,errors,limit,_⟩,⟨_,listed⟩,bound⟩
        exact ⟨⟨terminal,errors,limit,(length_addNames _ _).trans bound⟩,listed,bound⟩

-- The pages of a prefix, each with the token of its request.
structure ListedPage where
  requestToken : PyVal
  items : List PyVal
  nextToken : PyVal

def readPage : PyVal → Option ListedPage
  | .dict fields => match Fields.get fields "items" with
    | .list items => some ⟨Fields.get fields "request_token",items,Fields.get fields "nextPageToken"⟩
    | _ => none
  | _ => none

structure FullPage (lead : String) (page : ListedPage) : Prop where
  few : page.items.length ≤ maxCycles + 1
  listed : AllListed lead page.items

def Linked : PyVal → List PyVal → List ListedPage → Prop
  | token,_,[] => token = .none
  | token,seen,page :: rest => page.requestToken.same token = true ∧ badToken page.nextToken seen = false ∧
      (page.nextToken = .none → rest = []) ∧ Linked page.nextToken (page.nextToken :: seen) rest

def pageNames (lead : String) (chain : List ListedPage) : List String := chain.flatMap fun page => page.items.filterMap (listedName lead)

def ReadsPages (raw : List PyVal) (chain : List ListedPage) : Prop := raw.map readPage = chain.map some

theorem isNone_iff {value : PyVal} : isNone value = true ↔ value = .none := by
  cases value with
  | none => exact ⟨fun _ => rfl,fun _ => rfl⟩
  | _ => exact ⟨fun impossible => (nomatch impossible),fun impossible => (nomatch impossible)⟩

theorem readsPages_cons {page : PyVal} {raw : List PyVal} {chain : List ListedPage} : ReadsPages (page :: raw) chain ↔
    ∃ read rest, readPage page = some read ∧ ReadsPages raw rest ∧ chain = read :: rest := by
  unfold ReadsPages
  constructor
  · intro reads
    cases chain with
    | nil => cases reads
    | cons read rest =>
      obtain ⟨first,later⟩ := List.cons.inj reads
      exact ⟨read,rest,first,later,rfl⟩
  · rintro ⟨read,rest,first,later,rfl⟩
    rw [List.map_cons,List.map_cons,first,later]

-- One page: the walk goes on clean only behind a full page with the right tokens.
theorem walkPages_page {token : PyVal} {seen rest : List PyVal} {page : PyVal} {read : ListedPage} (reads : readPage page = some read) :
    walkPages lead listing token seen (page :: rest) =
      if !read.requestToken.same token then listing.broken
      else if maxCycles + 1 < read.items.length then { listing.broken with limitHit := true }
      else if maxCycles < (read.items.foldl (addItem lead) listing).found.length then (read.items.foldl (addItem lead) listing).limited
      else if badToken read.nextToken seen || (isNone read.nextToken && !rest.isEmpty) then (read.items.foldl (addItem lead) listing).broken
      else walkPages lead (read.items.foldl (addItem lead) listing) read.nextToken (read.nextToken :: seen) rest := by
  unfold readPage at reads
  split at reads
  · rename_i fields
    split at reads
    · rename_i items stated
      cases reads
      rw [walkPages]
      simp only [stated]
    · cases reads
  · cases reads

theorem walkPages_unread {token : PyVal} {seen rest : List PyVal} {page : PyVal} (unread : readPage page = none) :
    walkPages lead listing token seen (page :: rest) = listing.broken := by
  cases page with
  | dict fields =>
    have unread : (match Fields.get fields "items" with
      | .list items => some (⟨Fields.get fields "request_token",items,Fields.get fields "nextPageToken"⟩ : ListedPage)
      | _ => none) = none := unread
    rw [walkPages]
    split
    · rfl
    · split
      · rename_i stated
        rw [stated] at unread
        cases unread
      · rfl
  | _ => rfl

structure Walked (lead : String) (listing : Listing) (token : PyVal) (seen raw : List PyVal) (chain : List ListedPage) : Prop where
  before : listing.Clean
  reads : ReadsPages raw chain
  linked : Linked token seen chain
  full : ∀ page ∈ chain, FullPage lead page
  few : (addNames listing.found (pageNames lead chain)).length ≤ maxCycles

theorem walkPages_next {token : PyVal} {seen rest : List PyVal} {page : PyVal} {read : ListedPage} (reads : readPage page = some read)
    (same : read.requestToken.same token = true) (short : read.items.length ≤ maxCycles + 1)
    (few : (addNames listing.found (read.items.filterMap (listedName lead))).length ≤ maxCycles)
    (good : badToken read.nextToken seen = false) (ended : read.nextToken = .none → rest = []) :
    walkPages lead listing token seen (page :: rest) =
      walkPages lead (read.items.foldl (addItem lead) listing) read.nextToken (read.nextToken :: seen) rest := by
  have continues : ¬(badToken read.nextToken seen || (isNone read.nextToken && !rest.isEmpty)) = true := by
    rw [good,Bool.false_or,Bool.and_eq_true,Bool.not_eq_true']
    rintro ⟨none,more⟩
    rw [ended (isNone_iff.mp none)] at more
    cases more
  rw [walkPages_page reads,same,Bool.not_true,if_neg Bool.false_ne_true,if_neg (Nat.not_lt.mpr short),addItems_found,if_neg (Nat.not_lt.mpr few),
    if_neg continues]

theorem readsPages_nil {chain : List ListedPage} (reads : ReadsPages [] chain) : chain = [] := by
  cases chain with
  | nil => rfl
  | cons page rest => cases reads

theorem readsPages_empty {raw : List PyVal} (reads : ReadsPages raw []) : raw = [] := by
  cases raw with
  | nil => rfl
  | cons page rest => cases reads

theorem walkPages_walked {token : PyVal} {seen raw : List PyVal} {chain : List ListedPage} (walked : Walked lead listing token seen raw chain) :
    (walkPages lead listing token seen raw).Clean ∧
      (walkPages lead listing token seen raw).found = addNames listing.found (pageNames lead chain) := by
  induction raw generalizing listing token seen chain with
  | nil =>
    obtain ⟨before,reads,linked,_,_⟩ := walked
    rw [readsPages_nil reads] at linked ⊢
    rw [walkPages,if_pos (isNone_iff.mpr linked)]
    exact ⟨before,rfl⟩
  | cons page rest ih =>
    obtain ⟨start,reads,linked,full,few⟩ := walked
    obtain ⟨own,chain,read,later,rfl⟩ := readsPages_cons.mp reads
    obtain ⟨same,good,ended,linked⟩ := linked
    obtain ⟨⟨short,listed⟩,full⟩ := List.forall_mem_cons.mp full
    have names : pageNames lead (own :: chain) = own.items.filterMap (listedName lead) ++ pageNames lead chain := rfl
    rw [names,addNames_append] at few ⊢
    have counted := (length_addNames _ _).trans few
    have last : own.nextToken = .none → rest = [] := by
      intro none
      rw [ended none] at later
      exact readsPages_empty later
    rw [walkPages_next read same short counted good last,← addItems_found] at *
    exact ih ⟨(addItems_clean lead own.items listing).mpr ⟨start,listed,by rwa [addItems_found] at counted⟩,later,linked,full,few⟩

theorem walkPages_clean {token : PyVal} {seen raw : List PyVal} (clean : (walkPages lead listing token seen raw).Clean) :
    ∃ chain, Walked lead listing token seen raw chain := by
  induction raw generalizing listing token seen with
  | nil =>
    rw [walkPages] at clean
    split at clean
    · rename_i ended
      exact ⟨[],clean,rfl,isNone_iff.mp ended,(fun _ member => nomatch member),clean.few⟩
    · exact absurd clean (Listing.not_clean_unfinished _)
  | cons page rest ih =>
    cases read : readPage page with
    | none =>
      rw [walkPages_unread read] at clean
      exact absurd clean (Listing.not_clean_broken _)
    | some own =>
      rw [walkPages_page read] at clean
      split at clean
      · exact absurd clean (Listing.not_clean_broken _)
      · rename_i same
        split at clean
        · cases clean.terminal
        · rename_i short
          split at clean
          · exact absurd clean (Listing.not_clean_limited _)
          · split at clean
            · exact absurd clean (Listing.not_clean_broken _)
            · rename_i good
              have same : own.requestToken.same token = true := by rwa [Bool.not_eq_true,Bool.not_eq_false'] at same
              rw [Bool.or_eq_true,not_or,Bool.not_eq_true,Bool.and_eq_true,not_and] at good
              obtain ⟨chain,before,reads,linked,full,few⟩ := ih clean
              obtain ⟨start,listed,_⟩ := (addItems_clean lead own.items listing).mp before
              refine ⟨own :: chain,start,readsPages_cons.mpr ⟨own,chain,read,reads,rfl⟩,⟨same,good.1,?_,linked⟩,?_,?_⟩
              · intro none
                have empty := good.2 (isNone_iff.mpr none)
                rw [Bool.not_eq_true',Bool.not_eq_false,List.isEmpty_iff] at empty
                rw [empty] at reads
                exact readsPages_nil reads
              · exact List.forall_mem_cons.mpr ⟨⟨Nat.le_of_not_lt short,listed⟩,full⟩
              · rw [addItems_found,← addNames_append] at few
                exact few

-- A page list that is complete for its prefix, as the walk sees it.
structure WalkedPrefix (lead : String) (value : PyVal) (raw : List PyVal) (chain : List ListedPage) : Prop where
  listed : sequence value = some raw
  reads : ReadsPages raw chain
  nonempty : chain ≠ []
  short : chain.length ≤ maxCycles + 1
  linked : Linked .none [] chain
  full : ∀ page ∈ chain, FullPage lead page

theorem readsPages_length {raw : List PyVal} {chain : List ListedPage} (reads : ReadsPages raw chain) : raw.length = chain.length := by
  have same := congrArg List.length reads
  rwa [List.length_map,List.length_map] at same

theorem walkPrefix_listed {value : PyVal} {raw : List PyVal} (listed : sequence value = some raw) (nonempty : raw ≠ [])
    (short : raw.length ≤ maxCycles + 1) : walkPrefix lead listing value = walkPages lead listing .none [] raw := by
  unfold walkPrefix
  rw [listed]
  show (if _ then _ else if _ then _ else _ : Listing) = _
  rw [if_neg nonempty,if_neg (Nat.not_lt.mpr short)]

theorem walkPrefix_walked {value : PyVal} {raw : List PyVal} {chain : List ListedPage} (walked : WalkedPrefix lead value raw chain)
    (before : listing.Clean) (few : (addNames listing.found (pageNames lead chain)).length ≤ maxCycles) :
    (walkPrefix lead listing value).Clean ∧ (walkPrefix lead listing value).found = addNames listing.found (pageNames lead chain) := by
  obtain ⟨listed,reads,nonempty,short,linked,full⟩ := walked
  have stated : raw ≠ [] := by
    rintro rfl
    exact nonempty (readsPages_nil reads)
  rw [walkPrefix_listed listed stated (by rwa [readsPages_length reads])]
  exact walkPages_walked ⟨before,reads,linked,full,few⟩

theorem walkPrefix_clean {value : PyVal} (clean : (walkPrefix lead listing value).Clean) :
    listing.Clean ∧ ∃ raw chain, WalkedPrefix lead value raw chain ∧ (addNames listing.found (pageNames lead chain)).length ≤ maxCycles := by
  cases listed : sequence value with
  | none =>
    unfold walkPrefix at clean
    rw [listed] at clean
    exact absurd clean (Listing.not_clean_broken _)
  | some raw =>
    by_cases empty : raw = []
    · unfold walkPrefix at clean
      rw [listed,empty] at clean
      exact absurd clean (Listing.not_clean_broken _)
    · by_cases short : raw.length ≤ maxCycles + 1
      · rw [walkPrefix_listed listed empty short] at clean
        obtain ⟨chain,start,reads,linked,full,few⟩ := walkPages_clean clean
        refine ⟨start,raw,chain,⟨listed,reads,?_,?_,linked,full⟩,few⟩
        · rintro rfl
          exact empty (readsPages_empty reads)
        · rw [← readsPages_length reads]
          exact short
      · have long : walkPrefix lead listing value = { listing.broken with limitHit := true } := by
          unfold walkPrefix
          rw [listed]
          show (if _ then _ else if _ then _ else _ : Listing) = _
          rw [if_neg empty,if_pos (Nat.lt_of_not_le short)]
        rw [long] at clean
        cases clean.terminal

def prefixPages (pages : Fields) (lead : String) : PyVal := (pages.lookup lead).getD (.tuple [])

-- The pages of each prefix, read.
structure WalkedAll (pages : Fields) (prefixes : List String) (chains : List (List ListedPage)) : Prop where
  walked : List.Forall₂ (fun lead chain => ∃ raw, WalkedPrefix lead (prefixPages pages lead) raw chain) prefixes chains

def allNames : List String → List (List ListedPage) → List String
  | lead :: prefixes,chain :: chains => pageNames lead chain ++ allNames prefixes chains
  | _,_ => []

theorem walkPrefixes_walked {pages : Fields} {prefixes : List String} {chains : List (List ListedPage)} (all : WalkedAll pages prefixes chains)
    (before : listing.Clean) (few : (addNames listing.found (allNames prefixes chains)).length ≤ maxCycles) :
    (walkPrefixes pages listing prefixes).Clean ∧
      (walkPrefixes pages listing prefixes).found = addNames listing.found (allNames prefixes chains) := by
  obtain ⟨walked⟩ := all
  induction walked generalizing listing with
  | nil => exact ⟨before,rfl⟩
  | @cons lead chain rest chains own walked ih =>
    obtain ⟨raw,own⟩ := own
    have names : allNames (lead :: rest) (chain :: chains) = pageNames lead chain ++ allNames rest chains := rfl
    rw [names,addNames_append] at few ⊢
    obtain ⟨clean,found⟩ := walkPrefix_walked own before ((length_addNames _ _).trans few)
    rw [walkPrefixes,before.limitHit,if_neg Bool.false_ne_true]
    show (walkPrefixes pages (walkPrefix lead listing (prefixPages pages lead)) rest).Clean ∧
      (walkPrefixes pages (walkPrefix lead listing (prefixPages pages lead)) rest).found = _
    rw [← found] at few ⊢
    exact ih clean few

theorem walkPrefixes_clean {pages : Fields} {prefixes : List String} (clean : (walkPrefixes pages listing prefixes).Clean) :
    listing.Clean ∧ ∃ chains, WalkedAll pages prefixes chains ∧ (addNames listing.found (allNames prefixes chains)).length ≤ maxCycles := by
  induction prefixes generalizing listing with
  | nil => exact ⟨clean,[],⟨.nil⟩,clean.few⟩
  | cons lead rest ih =>
    rw [walkPrefixes] at clean
    split at clean
    · exact absurd clean (Listing.not_clean_unfinished _)
    · have clean : (walkPrefixes pages (walkPrefix lead listing (prefixPages pages lead)) rest).Clean := clean
      obtain ⟨before,chains,⟨walked⟩,bound⟩ := ih clean
      obtain ⟨start,raw,chain,own,few⟩ := walkPrefix_clean before
      refine ⟨start,chain :: chains,⟨.cons ⟨raw,own⟩ walked⟩,?_⟩
      rw [(walkPrefix_walked own start few).2,← addNames_append] at bound
      exact bound

end walk

-- A chain of pages: the first request has no token, each next one has the token of the page before it,
-- no token comes twice, and the last page alone has none.
structure TokenChain (chain : List ListedPage) : Prop where
  first : chain.head?.map ListedPage.requestToken = some .none
  linked : chain.IsChain fun one two => two.requestToken = one.nextToken
  last : chain.getLast?.map ListedPage.nextToken = some .none
  fresh : ∃ tokens : List String, chain.dropLast.map ListedPage.nextToken = tokens.map PyVal.str ∧ tokens.Nodup ∧ "" ∉ tokens

theorem same_text {value : PyVal} {text : String} : value.same (.str text) = true ↔ value = .str text := by
  cases value with
  | str other =>
    show (other == text) = true ↔ _
    rw [beq_iff_eq,PyVal.str.injEq]
  | _ => exact ⟨fun impossible => (nomatch impossible),fun impossible => (nomatch impossible)⟩

theorem same_none {value : PyVal} : value.same .none = true ↔ value = .none := by
  cases value with
  | none => exact ⟨fun _ => rfl,fun _ => rfl⟩
  | _ => exact ⟨fun impossible => (nomatch impossible),fun impossible => (nomatch impossible)⟩

theorem badToken_text {token : PyVal} {seen : List String} : badToken token (seen.map PyVal.str) = false ↔
    token = .none ∨ ∃ text, token = .str text ∧ text ≠ "" ∧ text ∉ seen := by
  cases token with
  | none => exact ⟨fun _ => .inl rfl,fun _ => rfl⟩
  | str text =>
    show (text == "" || (seen.map PyVal.str).any fun old => (PyVal.str text).same old) = false ↔ _
    rw [Bool.or_eq_false_iff,beq_eq_false_iff_ne,List.any_eq_false]
    constructor
    · rintro ⟨stated,new⟩
      refine .inr ⟨text,rfl,stated,fun held => ?_⟩
      exact new (.str text) (List.mem_map.mpr ⟨text,held,rfl⟩) (same_text.mpr rfl)
    · rintro (none | ⟨_,same,stated,new⟩)
      · cases none
      · cases same
        refine ⟨stated,fun old member same => ?_⟩
        obtain ⟨other,held,rfl⟩ := List.mem_map.mp member
        cases same_text.mp same
        exact new held
  | _ =>
    constructor
    · intro impossible
      cases impossible
    · rintro (none | ⟨_,same,_⟩)
      · cases none
      · cases same

-- Tokens as the walk meets them: null, or a text.
def tokenValue : Option String → PyVal
  | some text => .str text
  | none => .none

theorem same_token {value : PyVal} {token : Option String} : value.same (tokenValue token) = true ↔ value = tokenValue token := by
  cases token with
  | none => exact same_none
  | some text => exact same_text

structure LinkedFrom (token : Option String) (seen : List String) (chain : List ListedPage) : Prop where
  first : chain.head?.map ListedPage.requestToken = some (tokenValue token)
  linked : chain.IsChain fun one two => two.requestToken = one.nextToken
  last : chain.getLast?.map ListedPage.nextToken = some .none
  fresh : ∃ tokens : List String, chain.dropLast.map ListedPage.nextToken = tokens.map PyVal.str ∧ tokens.Nodup ∧ "" ∉ tokens ∧
    ∀ text ∈ tokens, text ∉ seen

theorem linked_iff {token : Option String} {seen : List String} {page : ListedPage} {rest : List ListedPage} :
    Linked (tokenValue token) (seen.map PyVal.str) (page :: rest) ↔ LinkedFrom token seen (page :: rest) := by
  induction rest generalizing token seen page with
  | nil =>
    constructor
    · rintro ⟨same,_,_,last⟩
      refine ⟨congrArg some (same_token.mp same),.singleton _,congrArg some last,[],rfl,.nil,List.not_mem_nil,fun _ member => nomatch member⟩
    · rintro ⟨first,_,last,_⟩
      have last := Option.some.inj last
      exact ⟨same_token.mpr (Option.some.inj first),badToken_text.mpr (.inl last),fun _ => rfl,last⟩
  | cons second rest ih =>
    constructor
    · rintro ⟨same,good,ended,linked⟩
      rcases badToken_text.mp good with none | ⟨text,stated,nonempty,new⟩
      · cases ended none
      · have linked : Linked (tokenValue (some text)) ((text :: seen).map PyVal.str) (second :: rest) := by
          rw [stated] at linked
          exact linked
        obtain ⟨first,links,last,tokens,listed,nodup,filled,apart⟩ := ih.mp linked
        refine ⟨congrArg some (same_token.mp same),.cons_cons ?_ links,last,text :: tokens,?_,?_,?_,?_⟩
        · rw [stated]
          exact Option.some.inj first
        · rw [List.dropLast_cons_cons,List.map_cons,List.map_cons,listed,stated]
        · refine List.nodup_cons.mpr ⟨fun again => ?_,nodup⟩
          exact apart text again List.mem_cons_self
        · rw [List.mem_cons,not_or]
          exact ⟨Ne.symm nonempty,filled⟩
        · intro other member held
          rcases List.mem_cons.mp member with rfl | later
          · exact new held
          · exact apart other later (List.mem_cons_of_mem _ held)
    · rintro ⟨first,links,last,tokens,listed,nodup,filled,apart⟩
      cases tokens with
      | nil => cases listed
      | cons text tokens =>
        rw [List.dropLast_cons_cons,List.map_cons,List.map_cons] at listed
        obtain ⟨stated,listed⟩ := List.cons.inj listed
        obtain ⟨link,links⟩ := List.isChain_cons_cons.mp links
        rw [List.nodup_cons] at nodup
        rw [List.mem_cons,not_or] at filled
        have linked : Linked (tokenValue (some text)) ((text :: seen).map PyVal.str) (second :: rest) := by
          refine ih.mpr ⟨congrArg some (link.trans stated),links,last,tokens,listed,nodup.2,filled.2,?_⟩
          intro other member held
          rcases List.mem_cons.mp held with rfl | old
          · exact nodup.1 member
          · exact apart other (List.mem_cons_of_mem _ member) old
        refine ⟨same_token.mpr (Option.some.inj first),badToken_text.mpr (.inr ⟨text,stated,Ne.symm filled.1,apart text List.mem_cons_self⟩),?_,?_⟩
        · intro none
          rw [stated] at none
          cases none
        · rw [stated]
          exact linked

theorem linked_chain {chain : List ListedPage} : (chain ≠ [] ∧ Linked .none [] chain) ↔ TokenChain chain := by
  cases chain with
  | nil =>
    constructor
    · rintro ⟨impossible,_⟩
      exact absurd rfl impossible
    · intro impossible
      cases impossible.first
  | cons page rest =>
    have step : Linked .none [] (page :: rest) ↔ LinkedFrom none [] (page :: rest) := @linked_iff none [] page rest
    rw [step]
    constructor
    · rintro ⟨_,first,links,last,tokens,listed,nodup,filled,_⟩
      exact ⟨first,links,last,tokens,listed,nodup,filled⟩
    · rintro ⟨first,links,last,tokens,listed,nodup,filled⟩
      exact ⟨List.cons_ne_nil _ _,first,links,last,tokens,listed,nodup,filled,fun _ _ => List.not_mem_nil⟩

-- The page list of a prefix is complete.
structure CompletePages (lead : String) (value : PyVal) (raw : List PyVal) (chain : List ListedPage) : Prop where
  listed : sequence value = some raw
  reads : ReadsPages raw chain
  short : chain.length ≤ maxCycles + 1
  tokens : TokenChain chain
  full : ∀ page ∈ chain, FullPage lead page

theorem completePages_iff {lead : String} {value : PyVal} {raw : List PyVal} {chain : List ListedPage} :
    CompletePages lead value raw chain ↔ WalkedPrefix lead value raw chain := by
  constructor
  · rintro ⟨listed,reads,short,tokens,full⟩
    obtain ⟨nonempty,linked⟩ := linked_chain.mpr tokens
    exact ⟨listed,reads,nonempty,short,linked,full⟩
  · rintro ⟨listed,reads,nonempty,short,linked,full⟩
    exact ⟨listed,reads,short,linked_chain.mp ⟨nonempty,linked⟩,full⟩

-- The names that the pages of a prefix list, and those of all prefixes
def prefixNames (pages : Fields) (lead : String) : List String :=
  (((sequence (prefixPages pages lead)).getD []).filterMap readPage).flatMap fun page => page.items.filterMap (listedName lead)

def listedNames (pages : Fields) (prefixes : List String) : List String := prefixes.flatMap (prefixNames pages)

section complete

variable {kit : ReceiptKit} {clock : CycleHealth.Clock} {context : TargetContext} {prefixes : List String} {pages reads : Fields}
  {readFrom readThrough : PyVal} {aborted : Bool}

theorem readsPages_filterMap {raw : List PyVal} {chain : List ListedPage} (read : ReadsPages raw chain) : raw.filterMap readPage = chain := by
  induction raw generalizing chain with
  | nil => rw [readsPages_nil read,List.filterMap_nil]
  | cons page rest ih =>
    obtain ⟨own,later,first,others,rfl⟩ := readsPages_cons.mp read
    rw [List.filterMap_cons,first]
    exact congrArg (own :: ·) (ih others)

theorem allNames_listed {chains : List (List ListedPage)} (all : WalkedAll pages prefixes chains) :
    allNames prefixes chains = listedNames pages prefixes := by
  obtain ⟨walked⟩ := all
  induction walked with
  | nil => rfl
  | @cons lead chain rest chains own walked ih =>
    obtain ⟨raw,listed,read,_⟩ := own
    show pageNames lead chain ++ allNames rest chains = prefixNames pages lead ++ listedNames pages rest
    rw [ih]
    unfold prefixNames pageNames
    rw [listed,Option.getD_some,readsPages_filterMap read]

theorem walkedAll_iff : (∃ chains, WalkedAll pages prefixes chains) ↔
    ∀ lead ∈ prefixes, ∃ raw chain, CompletePages lead (prefixPages pages lead) raw chain := by
  constructor
  · rintro ⟨chains,⟨walked⟩⟩
    induction walked with
    | nil => exact fun _ member => nomatch member
    | cons own walked ih =>
      obtain ⟨raw,own⟩ := own
      exact List.forall_mem_cons.mpr ⟨⟨raw,_,completePages_iff.mpr own⟩,ih⟩
  · intro all
    induction prefixes with
    | nil => exact ⟨[],⟨.nil⟩⟩
    | cons lead rest ih =>
      obtain ⟨⟨raw,chain,own⟩,later⟩ := List.forall_mem_cons.mp all
      obtain ⟨chains,⟨walked⟩⟩ := ih later
      exact ⟨chain :: chains,⟨.cons ⟨raw,completePages_iff.mp own⟩ walked⟩⟩

theorem samePrefixes_iff : samePrefixes pages prefixes = true ↔ ∀ name, pages.has name = true ↔ name ∈ prefixes := by
  have keyed : ∀ name, pages.has name = true ↔ ∃ entry ∈ pages, entry.1 = name := by
    intro name
    unfold Fields.has
    rw [List.lookup_isSome_iff]
    simp only [beq_iff_eq]
    constructor
    · rintro ⟨entry,member,same⟩
      exact ⟨entry,member,same.symm⟩
    · rintro ⟨entry,member,same⟩
      exact ⟨entry,member,same.symm⟩
  unfold samePrefixes
  rw [Bool.and_eq_true,List.all_eq_true,List.all_eq_true]
  constructor
  · rintro ⟨inside,all⟩ name
    constructor
    · intro has
      obtain ⟨entry,member,rfl⟩ := (keyed name).mp has
      exact List.contains_iff_mem.mp (inside entry member)
    · intro member
      exact all name member
  · intro same
    constructor
    · intro entry member
      exact List.contains_iff_mem.mpr ((same entry.1).mp ((keyed entry.1).mpr ⟨entry,member,rfl⟩))
    · intro name member
      exact (same name).mpr member

theorem addNames_card (names : List String) : (addNames [] names).length = names.toFinset.card := by
  have nodup : (addNames [] names).Nodup := addNames_nodup .nil
  rw [← List.toFinset_card_of_nodup nodup]
  congr 1
  ext name
  rw [List.mem_toFinset,List.mem_toFinset,mem_addNames]
  simp

-- All that makes the coverage of a listing complete.
structure CompleteListing (kit : ReceiptKit) (clock : CycleHealth.Clock) (context : TargetContext) (prefixes : List String) (pages reads : Fields)
    (through : ℤ) (aborted : Bool) : Prop where
  running : aborted = false
  required : ∀ name, pages.has name = true ↔ name ∈ prefixes
  chains : ∀ lead ∈ prefixes, ∃ raw chain, CompletePages lead (prefixPages pages lead) raw chain
  few : (listedNames pages prefixes).toFinset.card ≤ maxCycles
  receipts : ∀ name ∈ listedNames pages prefixes, receiptPasses kit clock context through (reads.get name) = .ok true

theorem listing_clean : (walkPrefixes pages (startListing pages prefixes aborted) prefixes).Clean ↔
    aborted = false ∧ (∀ name, pages.has name = true ↔ name ∈ prefixes) ∧
      (∀ lead ∈ prefixes, ∃ raw chain, CompletePages lead (prefixPages pages lead) raw chain) ∧
      (listedNames pages prefixes).toFinset.card ≤ maxCycles := by
  rw [← walkedAll_iff,← samePrefixes_iff]
  constructor
  · intro clean
    obtain ⟨start,chains,all,few⟩ := walkPrefixes_clean clean
    refine ⟨start.limitHit,?_,⟨chains,all⟩,?_⟩
    · have same := start.errors
      rwa [startListing,Bool.not_eq_false'] at same
    · rw [allNames_listed all] at few
      rw [← addNames_card]
      exact few
  · rintro ⟨running,same,⟨chains,all⟩,few⟩
    refine (walkPrefixes_walked all ⟨rfl,?_,running,Nat.zero_le _⟩ ?_).1
    · rw [startListing,same]
      rfl
    · rw [allNames_listed all]
      show (addNames [] _).length ≤ _
      rw [addNames_card]
      exact few

theorem listing_found (clean : (walkPrefixes pages (startListing pages prefixes aborted) prefixes).Clean) (name : String) :
    name ∈ (walkPrefixes pages (startListing pages prefixes aborted) prefixes).found ↔ name ∈ listedNames pages prefixes := by
  obtain ⟨start,chains,all,few⟩ := walkPrefixes_clean clean
  rw [(walkPrefixes_walked all start few).2,allNames_listed all,mem_addNames]
  show name ∈ [] ∨ _ ↔ _
  simp

theorem instantOf_iso {value : PyVal} {instant : ℤ} (read : instantOf clock value = .ok instant) : clock.instant (clock.iso instant) = .ok instant := by
  cases value with
  | str text => exact clock.reads_back read
  | _ => cases read

-- The receipts of all names found, once no more are found than are read
theorem receipts_passed {found : List String} {through : ℤ} (few : found.length ≤ maxCycles)
    (passes : ∀ name ∈ found, receiptPasses kit clock context through (reads.get name) = .ok true) :
    (((found.insertionSort (· ≤ ·)).take maxCycles).mapM fun name => receiptPasses kit clock context through (reads.get name)) =
      .ok (List.replicate found.length true) := by
  have whole : (found.insertionSort (· ≤ ·)).take maxCycles = found.insertionSort (· ≤ ·) := by
    rw [List.take_of_length_le]
    rw [List.length_insertionSort]
    exact few
  rw [whole,mapM_ok,← List.length_insertionSort (· ≤ ·) found]
  have all : ∀ name ∈ found.insertionSort (· ≤ ·), receiptPasses kit clock context through (reads.get name) = .ok true :=
    fun name member => passes name ((List.perm_insertionSort _ _).mem_iff.mp member)
  generalize found.insertionSort (· ≤ ·) = names at all
  induction names with
  | nil => exact .nil
  | cons name rest ih =>
    obtain ⟨own,later⟩ := List.forall_mem_cons.mp all
    exact .cons own (ih later)

theorem passed_receipts {found : List String} {through : ℤ} {passed : List Bool} (few : found.length ≤ maxCycles)
    (read : (((found.insertionSort (· ≤ ·)).take maxCycles).mapM fun name => receiptPasses kit clock context through (reads.get name)) = .ok passed)
    (clean : passed.contains false = false) : ∀ name ∈ found, receiptPasses kit clock context through (reads.get name) = .ok true := by
  have whole : (found.insertionSort (· ≤ ·)).take maxCycles = found.insertionSort (· ≤ ·) := by
    rw [List.take_of_length_le]
    rw [List.length_insertionSort]
    exact few
  rw [whole] at read
  intro name member
  obtain ⟨result,listed,own⟩ := (mapM_mem read).1 name ((List.perm_insertionSort _ _).mem_iff.mpr member)
  cases result with
  | true => exact own
  | false =>
    rw [List.contains_iff_mem.mpr listed] at clean
    cases clean

theorem complete_listing {coverage : PageCoverage}
    (derived : deriveCoverage kit clock context prefixes pages reads readFrom readThrough aborted = .ok coverage)
    (complete : coverageComplete clock coverage = .ok true) :
    ∃ start through, instantOf clock readFrom = .ok start ∧ instantOf clock readThrough = .ok through ∧ start ≤ through ∧
      prefixes ≠ [] ∧ prefixes.length ≤ 366 ∧ prefixes.Nodup ∧
      CompleteListing kit clock context prefixes pages reads through aborted := by
  obtain ⟨start,readStart,derived⟩ := bind_ok.mp derived
  obtain ⟨through,readEnd,derived⟩ := bind_ok.mp derived
  obtain ⟨_,ordered,derived⟩ := bind_ok.mp derived
  obtain ⟨_,valid,derived⟩ := bind_ok.mp derived
  obtain ⟨passed,read,derived⟩ := bind_ok.mp derived
  cases derived
  obtain ⟨_,_,complete⟩ := bind_ok.mp complete
  obtain ⟨_,_,complete⟩ := bind_ok.mp complete
  obtain ⟨_,_,complete⟩ := bind_ok.mp complete
  have flags := return_ok.mp complete
  simp only [Bool.and_eq_true,Bool.not_eq_true',Bool.or_eq_false_iff,decide_eq_false_iff_not,Nat.not_lt] at flags
  obtain ⟨⟨⟨⟨terminal,⟨limit,few⟩,_⟩,errors,failures⟩,_⟩,_⟩ := flags
  have clean : (walkPrefixes pages (startListing pages prefixes aborted) prefixes).Clean := ⟨terminal,errors,limit,few⟩
  obtain ⟨running,required,chains,card⟩ := listing_clean.mp clean
  obtain ⟨nonempty,bounded,nodup⟩ := require_ok.mp valid
  refine ⟨start,through,readStart,readEnd,require_ok.mp ordered,nonempty,bounded,nodup,running,required,chains,card,?_⟩
  intro name member
  exact passed_receipts few read failures name ((listing_found clean name).mpr member)

theorem coverage_is_complete_iff :
    (deriveCoverage kit clock context prefixes pages reads readFrom readThrough aborted >>= coverageComplete clock) = .ok true ↔
      ∃ start through, instantOf clock readFrom = .ok start ∧ instantOf clock readThrough = .ok through ∧ start ≤ through ∧
        prefixes ≠ [] ∧ prefixes.length ≤ 366 ∧ prefixes.Nodup ∧
        CompleteListing kit clock context prefixes pages reads through aborted := by
  constructor
  · intro complete
    obtain ⟨coverage,derived,complete⟩ := bind_ok.mp complete
    exact complete_listing derived complete
  · rintro ⟨start,through,readStart,readEnd,ordered,nonempty,bounded,nodup,running,required,chains,card,receipts⟩
    have clean : (walkPrefixes pages (startListing pages prefixes aborted) prefixes).Clean := listing_clean.mpr ⟨running,required,chains,card⟩
    have read := receipts_passed clean.few fun name member => receipts name ((listing_found clean name).mp member)
    refine bind_ok.mpr ⟨_,bind_ok.mpr ⟨start,readStart,bind_ok.mpr ⟨through,readEnd,bind_ok.mpr ⟨(),require_ok.mpr ordered,
      bind_ok.mpr ⟨(),require_ok.mpr ⟨nonempty,bounded,nodup⟩,bind_ok.mpr ⟨_,read,rfl⟩⟩⟩⟩⟩,?_⟩
    refine bind_ok.mpr ⟨start,instantOf_iso readStart,bind_ok.mpr ⟨through,instantOf_iso readEnd,bind_ok.mpr ⟨(),require_ok.mpr ordered,?_⟩⟩⟩
    rw [return_ok]
    simp [clean.terminal,clean.errors,clean.limitHit,clean.few]

-- Two empty pages, chained by an empty text.
def blankLink : Fields :=
  [("runs/",.list [.dict [("request_token",.none),("items",.list []),("nextPageToken",.str "")],
    .dict [("request_token",.str ""),("items",.list []),("nextPageToken",.none)]])]

-- No prefix at all is refused, and a token that is an empty text breaks its chain.
theorem nothing_required_is_refused :
    (¬∀ (kit : ReceiptKit) (clock : CycleHealth.Clock) (context : TargetContext) (prefixes : List String) (pages reads : Fields)
      (readFrom readThrough : PyVal) (through : ℤ) (aborted : Bool), instantOf clock readThrough = .ok through →
      CompleteListing kit clock context prefixes pages reads through aborted →
        (deriveCoverage kit clock context prefixes pages reads readFrom readThrough aborted >>= coverageComplete clock) = .ok true) ∧
    (deriveCoverage sampleKit windowClock sampleContext ["runs/"] blankLink [] (.str "2026-10-05T14:59:00Z") (.str "2026-10-05T15:00:00Z")
      false >>= coverageComplete windowClock) = .ok false := by
  constructor
  · intro claimed
    have complete : CompleteListing sampleKit windowClock sampleContext [] [] [] 1791212400000000 false := by
      refine ⟨rfl,?_,?_,?_,?_⟩
      · intro name
        constructor
        · intro impossible
          cases impossible
        · intro impossible
          cases impossible
      · intro _ impossible
        cases impossible
      · decide
      · intro _ impossible
        cases impossible
    have held := claimed sampleKit windowClock sampleContext [] [] [] (.str "2026-10-05T14:59:00Z") (.str "2026-10-05T15:00:00Z")
      1791212400000000 false (by decide) complete
    have refused : (deriveCoverage sampleKit windowClock sampleContext [] [] [] (.str "2026-10-05T14:59:00Z") (.str "2026-10-05T15:00:00Z")
      false >>= coverageComplete windowClock) = .error (valueError "invalid required prefixes") := by decide +kernel
    rw [refused] at held
    cases held
  · decide +kernel

end complete

end LongBridge.Reporting
