import LongBridge.Effects.Fallible
import LongBridge.Python.Conversions
import LongBridge.Python.Urls
import LongBridge.Schedule.Cron

namespace LongBridge.Schedule
open Effects

-- What the policy takes from the shared kit: `_mapping`, the test of `urlsplit` on a
-- host, and the cron against the first moment of 2026 in the zone of a name.
structure PolicyKit where
  mapping : PyVal → Fields
  netlocValid : String → Bool
  cronMatches : String → String → Except PyExc Bool
  mapping_dict : ∀ entries, mapping (.dict entries) = entries
  mapping_other : ∀ value, value.asMapping = none → mapping value = []
  plainHost : ∀ netloc : String, (∀ char ∈ netloc.toList, char.isAlphanum = true ∨ char = '.' ∨ char = '-') → netlocValid netloc = true

def contextUnevaluable : PyExc := ⟨"ValueError","scheduler_context_unevaluable"⟩

def isHostChar (char : Char) : Bool := char.isDigit || char.isLower || char == '.' || char == '-'

def isHostEnd (char : Char) : Bool := char.isDigit || char.isLower

-- [a-z0-9]+(?:[a-z0-9.-]*[a-z0-9])?
def isHost (host : List Char) : Bool := host.all isHostChar && host.head?.any isHostEnd && host.getLast?.any isHostEnd

def hasDoubled (char : Char) (chars : List Char) : Bool := (chars.zip chars.tail).contains (char,char)

-- What the strict check accepts of a URL that was split.
def originAccepted (url : Url) (port : Option ℕ) (serviceUrl : Bool) : Bool :=
  url.scheme == "https" && !url.hasUser && [none,some 443].contains port && url.query == "" && url.fragment == "" &&
    isHost (url.hostname.getD "").toList && !hasDoubled '.' (url.hostname.getD "").toList &&
    !(serviceUrl && !(["","/"].contains url.path))

def pathOr (path : String) : String := if path = "" then "/" else path

-- `_canonical_https_origin`
def canonicalHttpsOrigin (netlocValid : String → Bool) (value : PyVal) (serviceUrl : Bool) : Except PyExc (String × String) :=
  match value with
  | .str text =>
    if text = "" ∨ text.toList.any (fun char => decide (char.toNat < 33)) = true then .error contextUnevaluable
    else do
      let parsed ← urlsplit netlocValid text
      let port ← parsed.port
      if originAccepted parsed port serviceUrl then return ("https://" ++ parsed.hostname.getD "",pathOr parsed.path)
      else .error contextUnevaluable
  | _ => .error contextUnevaluable

structure Binding where
  service : String
  origin : String
  path : String
  revision : String
  sourceCommit : String
  deriving DecidableEq

-- `mapping[key][key]...`; none is any exception.
def entryAt (value : PyVal) (keys : List String) : Option PyVal :=
  keys.foldlM (fun value key => match value with
    | .dict entries => entries.lookup key
    | _ => none) value

def textOf : PyVal → Option String
  | .str text => some text
  | _ => none

def isCommit (commit : String) : Bool :=
  commit.toList.length == 40 && commit.toList.all fun char => char.isDigit || (decide ('a' ≤ char) && decide (char ≤ 'f'))

def isPathChar (char : Char) : Bool := char.isAlphanum || ['_','.','/','~','-'].contains char

def isContractPath (path : String) : Bool :=
  decide (path.toList.length ≤ 128) && path.toList.head? == some '/' && path.toList.all isPathChar && !hasDoubled '/' path.toList &&
    !(splitMarks '/' path.toList).any fun part => part == ['.'] || part == ['.','.']

def servesAlone (traffic : PyVal) (revision : String) : Bool :=
  match traffic with
  | .list [.dict route] =>
    (Fields.get route "revisionName").isStr revision && match Fields.get route "percent" with
      | .int percent => percent == 100
      | _ => false
  | _ => false

def readyItems (items : List PyVal) : List Fields :=
  items.filterMap fun item => match item with
    | .dict fields => if (Fields.get fields "type").isStr "Ready" then some fields else none
    | _ => none

def isReady (conditions : PyVal) : Bool :=
  match conditions with
  | .list items | .tuple items =>
    match readyItems items with
    | [condition] => (condition.get "status").isStr "True"
    | _ => false
  | _ => false

-- The body of `canonical_serving_route`, whose every failure is one error.
def readServingRoute (kit : PolicyKit) (servingContext : PyVal) : Option Binding := do
  let context := kit.mapping servingContext
  let service := PyVal.dict (kit.mapping (context.get "service"))
  let revision := PyVal.dict (kit.mapping (context.get "revision"))
  let contract := kit.mapping (context.get "route_contract")
  let name ← (entryAt service ["metadata","name"]).bind textOf
  let revisionName ← (entryAt revision ["metadata","name"]).bind textOf
  let commit ← (entryAt revision ["metadata","labels","commit-sha"]).bind textOf
  let traffic ← entryAt service ["status","traffic"]
  let conditions ← entryAt revision ["status","conditions"]
  let path ← textOf (contract.get "path")
  let url ← entryAt service ["status","url"]
  let origin ← (canonicalHttpsOrigin kit.netlocValid url true).toOption
  if name ≠ "" ∧ revisionName ≠ "" ∧ isCommit commit = true ∧ servesAlone traffic revisionName = true ∧ isReady conditions = true ∧
      (contract.get "service").isStr name = true ∧ (contract.get "source_commit").isStr commit = true ∧
      (contract.get "http_method").isStr "POST" = true ∧ isContractPath path = true then
    some ⟨name,origin.1,path,revisionName,commit⟩
  else none

-- `canonical_serving_route`
def canonicalServingRoute (kit : PolicyKit) (servingContext : PyVal) : Except PyExc Binding :=
  match readServingRoute kit servingContext with
  | some binding => .ok binding
  | none => .error contextUnevaluable

inductive JobCheck where
  | ignored
  | conflict
  | matched
  deriving DecidableEq

-- The loose reading of a URI that failed the strict one.
def checkLoosely (kit : PolicyKit) (binding : Binding) (uri : PyVal) : Except PyExc JobCheck :=
  match uri with
  | .str text =>
    match urlsplit kit.netlocValid text with
    | .ok parsed => do
      let origin ← urlsplit kit.netlocValid binding.origin
      return if parsed.hostname = origin.hostname ∧ parsed.path = binding.path then .conflict else .ignored
    | .error _ => .ok .ignored
  | _ => .ok .ignored

-- One turn of the loop over the jobs.
def checkJob (kit : PolicyKit) (binding : Binding) (job : PyVal) : Except PyExc JobCheck :=
  match job with
  | .dict fields =>
    let http := kit.mapping (Fields.get fields "httpTarget")
    match canonicalHttpsOrigin kit.netlocValid (http.get "uri") false with
    | .error _ => checkLoosely kit binding (http.get "uri")
    | .ok (origin,path) =>
      if origin ≠ binding.origin ∨ path ≠ binding.path then .ok .ignored
      else if (http.get "httpMethod").isStr "POST" then .ok .matched else .ok .conflict
  | _ => .ok .ignored

-- The jobs that match, or none at the first conflict.
def matchedJobs (kit : PolicyKit) (binding : Binding) : List PyVal → Except PyExc (Option (List PyVal))
  | [] => .ok (some [])
  | job :: rest => do
    match ← checkJob kit binding job with
    | .conflict => return none
    | .ignored => matchedJobs kit binding rest
    | .matched =>
      let others ← matchedJobs kit binding rest
      return others.map fun others => job :: others

structure BoundScheduler where
  mainTime : String
  timezone : String
  jobName : String

-- Name, cron and zone of a job that is enabled.
def statedScheduler (fields : Fields) : Option BoundScheduler := do
  let cron ← textOf (fields.get "schedule")
  let name ← textOf (fields.get "name")
  let timezone ← textOf (fields.get "timeZone")
  if (fields.get "state").isStr "ENABLED" = true ∧ (words cron).length = 5 ∧ name ≠ "" ∧ name.toList.length ≤ 512 ∧ timezone ≠ "" then
    some ⟨cron,timezone,name⟩
  else none

def isScheduleError (error : PyExc) : Bool := ["ValueError","TypeError","KeyError"].contains error.kind

inductive Resolution where
  | bound (scheduler : BoundScheduler)
  | unknown (reason : String)

def readBound (kit : PolicyKit) (fields : Fields) : Except PyExc Resolution :=
  match statedScheduler fields with
  | some scheduler =>
    match kit.cronMatches scheduler.mainTime scheduler.timezone with
    | .ok _ => .ok (.bound scheduler)
    | .error error => if isScheduleError error then .ok (.unknown "scheduler_conflict") else .error error
  | none => .ok (.unknown "scheduler_conflict")

def boundOf (kit : PolicyKit) : Option (List PyVal) → Except PyExc Resolution
  | some [] => .ok (.unknown "scheduler_missing")
  | some [.dict fields] => if (Fields.get fields "state").isStr "PAUSED" then .ok (.unknown "scheduler_paused") else readBound kit fields
  | _ => .ok (.unknown "scheduler_conflict")

def Resolution.result (target : Fields) : Resolution → Fields × Option String
  | .bound scheduler =>
    (target.set "scheduler" (.dict [("main_time",.str scheduler.mainTime),("timezone",.str scheduler.timezone),("job_name",.str scheduler.jobName)]),none)
  | .unknown reason => (target.set "scheduler" (.dict []),some reason)

def resolution (kit : PolicyKit) (target : Fields) (jobs servingContext : PyVal) : Except PyExc Resolution :=
  match canonicalServingRoute kit servingContext,jobs with
  | .ok binding,.list jobs =>
    if (target.get "service").isStr binding.service then do
      let matched ← matchedJobs kit binding jobs
      boundOf kit matched
    else .ok (.unknown "scheduler_context_unevaluable")
  | _,_ => .ok (.unknown "scheduler_context_unevaluable")

-- `resolve_bound_scheduler`
def resolveBoundScheduler (kit : PolicyKit) (target : Fields) (jobs servingContext : PyVal) : Except PyExc (Fields × Option String) := do
  let resolved ← resolution kit target jobs servingContext
  return resolved.result target


-- What a job says, apart from the loop.
def jobHttp : PyVal → Fields
  | .dict fields => match Fields.get fields "httpTarget" with
    | .dict http => http
    | _ => []
  | _ => []

def jobUri (job : PyVal) : Option String := textOf ((jobHttp job).get "uri")

def jobUrl (kit : PolicyKit) (job : PyVal) : Option Url := (jobUri job).bind fun text => (urlsplit kit.netlocValid text).toOption

-- The URI names the serving host and, the empty path read as `/`, the contract path.
def onRoute (kit : PolicyKit) (binding : Binding) (job : PyVal) : Bool :=
  (jobUrl kit job).any fun url => (url.hostname.any fun host => "https://" ++ host == binding.origin) && pathOr url.path == binding.path

def isPlain (text : String) : Bool := !text.toList.any fun char => decide (char.toNat < 33)

def defaultPort (url : Url) : Bool :=
  match url.port with
  | .ok port => [none,some 443].contains port
  | .error _ => false

def plainHttps (kit : PolicyKit) (job : PyVal) : Bool :=
  (jobUri job).any isPlain && (jobUrl kit job).any fun url =>
    url.scheme == "https" && defaultPort url && !url.hasUser && url.query == "" && url.fragment == ""

def isPost (job : PyVal) : Bool := ((jobHttp job).get "httpMethod").isStr "POST"

def validScheduler (kit : PolicyKit) : PyVal → Option BoundScheduler
  | .dict fields => (statedScheduler fields).filter fun scheduler => (kit.cronMatches scheduler.mainTime scheduler.timezone).isOk
  | _ => none

-- A job on the route with an empty path, whose URI the strict check refuses
def overlooked (kit : PolicyKit) (binding : Binding) (job : PyVal) : Bool :=
  onRoute kit binding job && !plainHttps kit job && (jobUrl kit job).any fun url => url.path == ""

def jobCheck (kit : PolicyKit) (binding : Binding) (job : PyVal) : JobCheck :=
  if onRoute kit binding job = false ∨ overlooked kit binding job = true then .ignored
  else if plainHttps kit job = true ∧ isPost job = true then .matched
  else .conflict

theorem partitionAt_absent {mark : Char} {chars : List Char} (absent : mark ∉ chars) : partitionAt mark chars = (chars,false,[]) := by
  have all : ∀ char ∈ chars, (char != mark) = true := by
    intro char member
    rw [bne_iff_ne]
    rintro rfl
    exact absent member
  unfold partitionAt
  rw [List.span_eq_takeWhile_dropWhile,List.takeWhile_eq_self_iff.mpr all,List.dropWhile_eq_nil_iff.mpr all]

structure HostText (host : List Char) : Prop where
  chars : ∀ char ∈ host, isHostChar char = true
  nonempty : host ≠ []

theorem HostText.absent {host : List Char} (valid : HostText host) {mark : Char} (other : isHostChar mark = false) : mark ∉ host := by
  intro member
  rw [valid.chars mark member] at other
  cases other

theorem isHost_text {host : List Char} (valid : isHost host = true) : HostText host := by
  unfold isHost at valid
  rw [Bool.and_eq_true,Bool.and_eq_true,List.all_eq_true] at valid
  refine ⟨valid.1.1,?_⟩
  rintro rfl
  cases valid.1.2

theorem upperLetters_no_host : ∀ char ∈ upperLetters, isHostChar char = false := by
  intro char member
  have all : (List.all upperLetters fun char => isHostChar char == false) = true := by decide
  exact eq_of_beq (List.all_eq_true.mp all char member)

theorem hostChar_lower {char : Char} (valid : isHostChar char = true) : char.toLower = char := by
  rcases toLower_cases char with same | upper
  · exact same
  · rw [upperLetters_no_host char upper] at valid
    cases valid

theorem isHostChar_plain {char : Char} (valid : isHostChar char = true) : char.isAlphanum = true ∨ char = '.' ∨ char = '-' := by
  unfold isHostChar at valid
  rw [Bool.or_eq_true,Bool.or_eq_true,Bool.or_eq_true,beq_iff_eq,beq_iff_eq] at valid
  unfold Char.isAlphanum Char.isAlpha
  rcases valid with ((digit | lower) | dot) | dash
  · exact .inl (by rw [digit,Bool.or_true])
  · exact .inl (by rw [lower,Bool.or_true,Bool.true_or])
  · exact .inr (.inl dot)
  · exact .inr (.inr dash)

section origin

variable {kit : PolicyKit} {host : List Char}

theorem afterLast_absent {mark : Char} {chars : List Char} (absent : mark ∉ chars) : afterLast mark chars = chars := by
  have all : ∀ char ∈ chars.reverse, (char != mark) = true := by
    intro char member
    rw [bne_iff_ne]
    rintro rfl
    exact absent (List.mem_reverse.mp member)
  unfold afterLast
  rw [List.takeWhile_eq_self_iff.mpr all,List.reverse_reverse]

theorem span_absent {stops : Char → Bool} {chars : List Char} (absent : ∀ char ∈ chars, stops char = true) : chars.span stops = (chars,[]) := by
  rw [List.span_eq_takeWhile_dropWhile,List.takeWhile_eq_self_iff.mpr absent,List.dropWhile_eq_nil_iff.mpr absent]

theorem leadChars_safe : ∀ char ∈ ['h','t','t','p','s',':','/','/'], (!isUnsafeInUrl char) = true := by
  intro char member
  have all : (List.all ['h','t','t','p','s',':','/','/'] fun char => !isUnsafeInUrl char) = true := by decide
  exact List.all_eq_true.mp all char member

theorem netlocStops_no_host : ∀ char ∈ ['/','?','#'], isHostChar char = false := by
  intro char member
  have all : (List.all ['/','?','#'] fun char => isHostChar char == false) = true := by decide
  exact eq_of_beq (List.all_eq_true.mp all char member)

theorem urlsplit_origin (kit : PolicyKit) (valid : HostText host) :
    urlsplit kit.netlocValid ("https://" ++ String.ofList host) = .ok ⟨"https",String.ofList host,"","",""⟩ := by
  have chars : ("https://" ++ String.ofList host).toList = ['h','t','t','p','s',':','/','/'] ++ host := by
    rw [String.toList_append,@String.toList_ofList host]
    rfl
  have clean : ((['h','t','t','p','s',':','/','/'] ++ host).dropWhile isUrlPadding).filter (fun char => !isUnsafeInUrl char) =
      ['h','t','t','p','s',':','/','/'] ++ host := by
    have kept : (['h','t','t','p','s',':','/','/'] ++ host).dropWhile isUrlPadding = ['h','t','t','p','s',':','/','/'] ++ host := by
      rw [List.cons_append,List.dropWhile_cons_of_neg (by decide)]
    rw [kept,List.filter_eq_self]
    intro char member
    rcases List.mem_append.mp member with lead | inside
    · exact leadChars_safe char lead
    · unfold isUnsafeInUrl
      rw [beq_false_of_ne (ne_of_mem_of_not_mem inside (valid.absent (by decide : isHostChar '\t' = false))),
        beq_false_of_ne (ne_of_mem_of_not_mem inside (valid.absent (by decide : isHostChar '\r' = false))),
        beq_false_of_ne (ne_of_mem_of_not_mem inside (valid.absent (by decide : isHostChar '\n' = false)))]
      rfl
  have scheme : splitScheme (['h','t','t','p','s',':','/','/'] ++ host) = (['h','t','t','p','s'],'/' :: '/' :: host) := by
    have parts : partitionAt ':' (['h','t','t','p','s',':','/','/'] ++ host) = (['h','t','t','p','s'],true,'/' :: '/' :: host) := by
      rfl
    unfold splitScheme
    rw [parts]
    rfl
  have stopless : ∀ char ∈ host, (!(['/','?','#'].contains char)) = true := by
    intro char member
    rw [Bool.not_eq_true',List.contains_eq_mem,decide_eq_false_iff_not]
    intro stop
    exact valid.absent (netlocStops_no_host char stop) member
  have netloc : splitNetloc ('/' :: '/' :: host) = (host,[]) := by
    unfold splitNetloc
    exact span_absent stopless
  have admitted : kit.netlocValid (String.ofList host) = true := by
    apply kit.plainHost
    intro char member
    rw [String.toList_ofList] at member
    exact isHostChar_plain (valid.chars char member)
  have brackets : host.contains '[' = false ∧ host.contains ']' = false := by
    constructor <;> rw [List.contains_eq_mem,decide_eq_false_iff_not] <;> exact valid.absent (by decide)
  unfold urlsplit
  simp only [chars,clean,scheme,netloc,brackets,admitted]
  rfl

theorem hostname_origin (valid : HostText host) : (⟨"https",String.ofList host,"","",""⟩ : Url).hostname = some (String.ofList host) := by
  have info : (⟨"https",String.ofList host,"","",""⟩ : Url).hostinfo = (host,[]) := by
    unfold Url.hostinfo
    simp only [String.toList_ofList,afterLast_absent (valid.absent (by decide : isHostChar '@' = false)),
      partitionAt_absent (valid.absent (by decide : isHostChar '[' = false)),
      partitionAt_absent (valid.absent (by decide : isHostChar ':' = false))]
  have lowered : host.map Char.toLower = host := by
    rw [List.map_congr_left fun char member => hostChar_lower (valid.chars char member),List.map_id']
  unfold Url.hostname
  rw [info]
  cases host with
  | nil => exact absurd rfl valid.nonempty
  | cons first rest =>
    have zoneless := partitionAt_absent (valid.absent (by decide : isHostChar '%' = false))
    simp only [zoneless,lowered,Bool.false_eq_true,if_false,List.append_nil]

end origin

-- What an accepted serving context says of its binding.
structure Served (binding : Binding) : Prop where
  origin : ∃ host, binding.origin = "https://" ++ String.ofList host ∧ isHost host = true ∧ hasDoubled '.' host = false
  path : binding.path ≠ ""

variable {kit : PolicyKit} {binding : Binding} {servingContext : PyVal}

theorem canonicalHttpsOrigin_text {netlocValid : String → Bool} {text : String} {serviceUrl : Bool} {origin path : String} :
    canonicalHttpsOrigin netlocValid (.str text) serviceUrl = .ok (origin,path) ↔ text ≠ "" ∧ isPlain text = true ∧
      ∃ url, urlsplit netlocValid text = .ok url ∧ ∃ port, url.port = .ok port ∧ originAccepted url port serviceUrl = true ∧
        "https://" ++ url.hostname.getD "" = origin ∧ pathOr url.path = path := by
  have plain : isPlain text = true ↔ ¬(text.toList.any fun char => decide (char.toNat < 33)) = true := by
    unfold isPlain
    rw [Bool.not_eq_true',Bool.not_eq_true]
  rw [plain]
  unfold canonicalHttpsOrigin
  by_cases bad : text = "" ∨ (text.toList.any fun char => decide (char.toNat < 33)) = true
  · simp only [if_pos bad]
    constructor
    · intro impossible
      cases impossible
    · rintro ⟨stated,clean,_⟩
      rcases bad with empty | control
      · exact absurd empty stated
      · exact absurd control clean
  · simp only [if_neg bad,bind_ok]
    obtain ⟨stated,clean⟩ := not_or.mp bad
    constructor
    · rintro ⟨url,split,port,read,result⟩
      by_cases accepted : originAccepted url port serviceUrl = true
      · rw [if_pos accepted] at result
        cases result
        exact ⟨stated,clean,url,split,port,read,accepted,rfl,rfl⟩
      · rw [if_neg accepted] at result
        cases result
    · rintro ⟨_,_,url,split,port,read,accepted,rfl,rfl⟩
      refine ⟨url,split,port,read,?_⟩
      rw [if_pos accepted]
      rfl

theorem origin_served {url : Url} {port : Option ℕ} {serviceUrl : Bool} (accepted : originAccepted url port serviceUrl = true) :
    ∃ host, url.hostname = some host ∧ isHost host.toList = true ∧ hasDoubled '.' host.toList = false := by
  unfold originAccepted at accepted
  simp only [Bool.and_eq_true,Bool.not_eq_true'] at accepted
  obtain ⟨⟨⟨_,valid⟩,single⟩,_⟩ := accepted
  cases named : url.hostname with
  | none =>
    rw [named] at valid
    cases valid
  | some host =>
    rw [named] at valid single
    exact ⟨host,rfl,valid,single⟩

theorem served_of_accepted (accepted : canonicalServingRoute kit servingContext = .ok binding) : Served binding := by
  unfold canonicalServingRoute at accepted
  cases read : readServingRoute kit servingContext with
  | none =>
    rw [read] at accepted
    cases accepted
  | some found =>
    rw [read] at accepted
    cases accepted
    unfold readServingRoute at read
    obtain ⟨name,_,read⟩ := Option.bind_eq_some_iff.mp read
    obtain ⟨revisionName,_,read⟩ := Option.bind_eq_some_iff.mp read
    obtain ⟨commit,_,read⟩ := Option.bind_eq_some_iff.mp read
    obtain ⟨traffic,_,read⟩ := Option.bind_eq_some_iff.mp read
    obtain ⟨conditions,_,read⟩ := Option.bind_eq_some_iff.mp read
    obtain ⟨path,_,read⟩ := Option.bind_eq_some_iff.mp read
    obtain ⟨url,_,read⟩ := Option.bind_eq_some_iff.mp read
    obtain ⟨⟨origin,_⟩,split,checks⟩ := Option.bind_eq_some_iff.mp read
    split at checks
    · rename_i all
      cases checks
      obtain ⟨_,_,_,_,_,_,_,_,contract⟩ := all
      refine ⟨?_,?_⟩
      · cases url with
        | str text =>
          cases strict : canonicalHttpsOrigin kit.netlocValid (.str text) true with
          | error failure =>
            rw [strict] at split
            cases split
          | ok parts =>
            rw [strict] at split
            cases split
            obtain ⟨_,_,url,_,port,_,valid,rfl,_⟩ := canonicalHttpsOrigin_text.mp strict
            obtain ⟨host,named,valid,single⟩ := origin_served valid
            refine ⟨host.toList,?_,valid,single⟩
            rw [named,String.ofList_toList]
            rfl
        | _ => cases split
      · rintro rfl
        revert contract
        decide
    · cases checks

theorem urlsplit_empty {url : Url} (split : urlsplit kit.netlocValid "" = .ok url) : url.hostname = none := by
  have admitted : kit.netlocValid "" = true := kit.plainHost "" fun char member => nomatch member
  have parts : urlsplit kit.netlocValid "" = .ok ⟨"","","","",""⟩ := by
    unfold urlsplit
    have empty : String.ofList ([] : List Char) = "" := rfl
    simp only [show ("" : String).toList = [] from rfl,List.dropWhile_nil,List.filter_nil,show splitScheme [] = ([],[]) from rfl,
      show splitNetloc [] = ([],[]) from rfl,show partitionAt '#' [] = ([],false,[]) from rfl,
      show partitionAt '?' [] = ([],false,[]) from rfl,empty,admitted]
    rfl
  cases parts.symm.trans split
  rfl

theorem onRoute_iff {job : PyVal} : onRoute kit binding job = true ↔ ∃ text url host, jobUri job = some text ∧
    urlsplit kit.netlocValid text = .ok url ∧ url.hostname = some host ∧ "https://" ++ host = binding.origin ∧ pathOr url.path = binding.path := by
  unfold onRoute jobUrl
  rw [Option.any_eq_true]
  constructor
  · rintro ⟨url,found,right⟩
    obtain ⟨text,stated,split⟩ := Option.bind_eq_some_iff.mp found
    rw [Bool.and_eq_true,Option.any_eq_true,beq_iff_eq] at right
    obtain ⟨⟨host,named,same⟩,path⟩ := right
    cases parts : urlsplit kit.netlocValid text with
    | error failure =>
      rw [parts] at split
      cases split
    | ok url =>
      rw [parts] at split
      cases split
      exact ⟨text,url,host,stated,parts,named,beq_iff_eq.mp same,path⟩
  · rintro ⟨text,url,host,stated,split,named,same,path⟩
    refine ⟨url,?_,?_⟩
    · rw [stated,Option.bind_some,split]
      rfl
    · rw [Bool.and_eq_true,Option.any_eq_true,beq_iff_eq]
      exact ⟨⟨host,named,beq_iff_eq.mpr same⟩,path⟩

structure PlainUrl (text : String) (url : Url) : Prop where
  plain : isPlain text = true
  scheme : url.scheme = "https"
  port : ∃ port, url.port = .ok port ∧ [none,some 443].contains port = true
  user : url.hasUser = false
  query : url.query = ""
  fragment : url.fragment = ""

theorem plainHttps_iff {job : PyVal} {text : String} {url : Url} (stated : jobUri job = some text) (split : urlsplit kit.netlocValid text = .ok url) :
    plainHttps kit job = true ↔ PlainUrl text url := by
  have port : defaultPort url = true ↔ ∃ port, url.port = .ok port ∧ [none,some 443].contains port = true := by
    unfold defaultPort
    cases url.port with
    | ok port => exact ⟨fun default => ⟨port,rfl,default⟩,fun ⟨_,same,default⟩ => by cases same; exact default⟩
    | error failure => exact ⟨fun default => (nomatch default),fun ⟨_,same,_⟩ => (nomatch same)⟩
  unfold plainHttps jobUrl
  rw [stated,Option.bind_some,split]
  show (isPlain text && (url.scheme == "https" && defaultPort url && !url.hasUser && url.query == "" && url.fragment == "")) = true ↔ _
  simp only [Bool.and_eq_true,beq_iff_eq,Bool.not_eq_true',port]
  constructor
  · rintro ⟨plain,⟨⟨⟨scheme,port⟩,user⟩,query⟩,fragment⟩
    exact ⟨plain,scheme,port,user,query,fragment⟩
  · rintro ⟨plain,scheme,port,user,query,fragment⟩
    exact ⟨plain,⟨⟨⟨scheme,port⟩,user⟩,query⟩,fragment⟩

theorem jobUri_str {job : PyVal} {text : String} : jobUri job = some text ↔ (jobHttp job).get "uri" = .str text := by
  unfold jobUri textOf
  constructor
  · intro stated
    split at stated
    · rename_i found
      cases stated
      exact found
    · cases stated
  · intro stated
    rw [stated]

theorem accepted_plain {text : String} {url : Url} {port : Option ℕ} (plain : isPlain text = true) (read : url.port = .ok port)
    (accepted : originAccepted url port false = true) : PlainUrl text url := by
  unfold originAccepted at accepted
  simp only [Bool.and_eq_true,beq_iff_eq,Bool.not_eq_true'] at accepted
  obtain ⟨⟨⟨⟨⟨⟨⟨scheme,user⟩,default⟩,query⟩,fragment⟩,_⟩,_⟩,_⟩ := accepted
  exact ⟨plain,scheme,⟨port,read,default⟩,user,query,fragment⟩

-- The strict check passes on the serving origin and the contract path for the jobs on the route that are plain.
theorem strict_iff (served : Served binding) (job : PyVal) :
    canonicalHttpsOrigin kit.netlocValid ((jobHttp job).get "uri") false = .ok (binding.origin,binding.path) ↔
      onRoute kit binding job = true ∧ plainHttps kit job = true := by
  constructor
  · intro strict
    cases stated : (jobHttp job).get "uri" with
    | str text =>
      rw [stated] at strict
      obtain ⟨_,plain,url,split,port,read,accepted,origin,path⟩ := canonicalHttpsOrigin_text.mp strict
      obtain ⟨host,named,_,_⟩ := origin_served accepted
      rw [named] at origin
      exact ⟨onRoute_iff.mpr ⟨text,url,host,jobUri_str.mpr stated,split,named,origin,path⟩,
        (plainHttps_iff (jobUri_str.mpr stated) split).mpr (accepted_plain plain read accepted)⟩
    | _ =>
      rw [stated] at strict
      cases strict
  · rintro ⟨route,right⟩
    obtain ⟨text,url,host,stated,split,named,same,path⟩ := onRoute_iff.mp route
    obtain ⟨plain,scheme,⟨port,read,default⟩,user,query,fragment⟩ := (plainHttps_iff stated split).mp right
    obtain ⟨letters,origin,valid,single⟩ := served.origin
    have host_eq : host = String.ofList letters := by
      apply (String.append_right_inj "https://").mp
      rw [same,origin]
    rw [jobUri_str.mp stated,canonicalHttpsOrigin_text]
    refine ⟨?_,plain,url,split,port,read,?_,?_,path⟩
    · rintro rfl
      rw [urlsplit_empty split] at named
      cases named
    · unfold originAccepted
      rw [scheme,user,default,query,fragment,named,host_eq,Option.getD_some,String.toList_ofList,valid,single]
      rfl
    · rw [named]
      exact same

theorem pathOr_stated {path : String} (stated : path ≠ "") : pathOr path = path := if_neg stated

theorem mapping_http (kit : PolicyKit) (fields : Fields) : kit.mapping (Fields.get fields "httpTarget") = jobHttp (.dict fields) := by
  show kit.mapping (Fields.get fields "httpTarget") = match Fields.get fields "httpTarget" with
    | .dict http => http
    | _ => []
  generalize Fields.get fields "httpTarget" = value
  cases value with
  | dict http => exact kit.mapping_dict http
  | _ => exact kit.mapping_other _ rfl

theorem onRoute_split {job : PyVal} {text : String} {url : Url} (stated : (jobHttp job).get "uri" = .str text)
    (split : urlsplit kit.netlocValid text = .ok url) :
    onRoute kit binding job = true ↔ ∃ host, url.hostname = some host ∧ "https://" ++ host = binding.origin ∧ pathOr url.path = binding.path := by
  rw [onRoute_iff]
  constructor
  · rintro ⟨other,parts,host,uri,again,named,same,path⟩
    rw [jobUri_str.mpr stated] at uri
    cases uri
    cases split.symm.trans again
    exact ⟨host,named,same,path⟩
  · rintro ⟨host,named,same,path⟩
    exact ⟨text,url,host,jobUri_str.mpr stated,split,named,same,path⟩

theorem onRoute_stated {job : PyVal} (route : onRoute kit binding job = true) :
    ∃ text url, (jobHttp job).get "uri" = .str text ∧ urlsplit kit.netlocValid text = .ok url := by
  obtain ⟨text,url,_,stated,split,_⟩ := onRoute_iff.mp route
  exact ⟨text,url,jobUri_str.mp stated,split⟩

theorem jobUrl_split {job : PyVal} {text : String} {url : Url} (stated : (jobHttp job).get "uri" = .str text)
    (split : urlsplit kit.netlocValid text = .ok url) : jobUrl kit job = some url := by
  unfold jobUrl
  rw [jobUri_str.mpr stated,Option.bind_some,split]
  rfl

-- The strict check accepts only the serving route from a job on it.
theorem strict_off_route {job : PyVal} {origin path : String}
    (strict : canonicalHttpsOrigin kit.netlocValid ((jobHttp job).get "uri") false = .ok (origin,path))
    (other : origin ≠ binding.origin ∨ path ≠ binding.path) : onRoute kit binding job = false := by
  rw [Bool.eq_false_iff]
  intro route
  obtain ⟨text,url,stated,split⟩ := onRoute_stated route
  obtain ⟨host,named,same,right⟩ := (onRoute_split stated split).mp route
  rw [stated] at strict
  obtain ⟨_,_,url,again,_,_,_,rfl,rfl⟩ := canonicalHttpsOrigin_text.mp strict
  cases split.symm.trans again
  rw [named] at other
  rcases other with origin | path
  · exact origin same
  · exact path right

theorem checkLoosely_ok (served : Served binding) {job : PyVal} (refused : ¬(onRoute kit binding job = true ∧ plainHttps kit job = true)) :
    checkLoosely kit binding ((jobHttp job).get "uri") = .ok (jobCheck kit binding job) := by
  have offRoute : onRoute kit binding job = false → jobCheck kit binding job = .ignored := fun off => if_pos (.inl off)
  cases stated : (jobHttp job).get "uri" with
  | str text =>
    cases split : urlsplit kit.netlocValid text with
    | error failure =>
      have off : onRoute kit binding job = false := by
        rw [Bool.eq_false_iff]
        intro route
        obtain ⟨other,url,again,parts⟩ := onRoute_stated route
        rw [stated] at again
        cases again
        cases split.symm.trans parts
      unfold checkLoosely
      rw [offRoute off]
      simp only [split]
    | ok url =>
      obtain ⟨letters,origin,valid,_⟩ := served.origin
      have hostText := isHost_text valid
      have loosely : checkLoosely kit binding (.str text) =
          .ok (if url.hostname = some (String.ofList letters) ∧ url.path = binding.path then JobCheck.conflict else .ignored) := by
        unfold checkLoosely
        simp only [split]
        rw [origin,urlsplit_origin kit hostText]
        show Except.ok (if url.hostname = Url.hostname _ ∧ _ then _ else _) = _
        rw [hostname_origin hostText]
      rw [loosely]
      cases route : onRoute kit binding job with
      | false =>
        rw [offRoute route,if_neg]
        rintro ⟨named,path⟩
        rw [Bool.eq_false_iff] at route
        apply route
        refine (onRoute_split stated split).mpr ⟨_,named,origin.symm,?_⟩
        rw [path]
        exact pathOr_stated served.path
      | true =>
        have impure : plainHttps kit job = false := Bool.eq_false_iff.mpr fun plain => refused ⟨route,plain⟩
        obtain ⟨host,named,same,path⟩ := (onRoute_split stated split).mp route
        have host_eq : host = String.ofList letters := by
          apply (String.append_right_inj "https://").mp
          rw [same,origin]
        have skips : overlooked kit binding job = (url.path == "") := by
          unfold overlooked
          rw [route,impure,jobUrl_split stated split]
          rfl
        by_cases empty : url.path = ""
        · rw [if_neg fun held => served.path (held.2.symm.trans empty)]
          unfold jobCheck
          rw [if_pos (.inr (skips.trans (beq_iff_eq.mpr empty)))]
        · rw [if_pos ⟨named.trans (congrArg some host_eq),(pathOr_stated empty).symm.trans path⟩]
          unfold jobCheck
          rw [skips,beq_false_of_ne empty,route,impure]
          rfl
  | _ =>
    have off : onRoute kit binding job = false := by
      rw [Bool.eq_false_iff]
      intro route
      obtain ⟨text,_,again,_⟩ := onRoute_stated route
      rw [stated] at again
      cases again
    rw [offRoute off]
    rfl

theorem checkJob_ok (served : Served binding) (job : PyVal) : checkJob kit binding job = .ok (jobCheck kit binding job) := by
  have http : ∀ fields, job = .dict fields → checkJob kit binding job =
      match canonicalHttpsOrigin kit.netlocValid ((jobHttp job).get "uri") false with
      | .error _ => checkLoosely kit binding ((jobHttp job).get "uri")
      | .ok (origin,path) =>
        if origin ≠ binding.origin ∨ path ≠ binding.path then .ok .ignored
        else if isPost job then .ok .matched else .ok .conflict := by
    rintro fields rfl
    unfold checkJob isPost
    rw [← mapping_http kit fields]
  cases job with
  | dict fields =>
    rw [http fields rfl]
    generalize PyVal.dict fields = job
    cases strict : canonicalHttpsOrigin kit.netlocValid ((jobHttp job).get "uri") false with
    | error failure =>
      apply checkLoosely_ok served
      intro right
      cases strict.symm.trans ((strict_iff served job).mpr right)
    | ok parts =>
      obtain ⟨origin,path⟩ := parts
      by_cases other : origin ≠ binding.origin ∨ path ≠ binding.path
      · show (if _ then _ else _) = _
        rw [if_pos other]
        unfold jobCheck
        rw [if_pos (.inl (strict_off_route strict other))]
      · show (if _ then _ else _) = _
        rw [if_neg other]
        obtain ⟨rfl,rfl⟩ : origin = binding.origin ∧ path = binding.path := by
          rw [not_or,not_not,not_not] at other
          exact other
        obtain ⟨route,plain⟩ := (strict_iff served job).mp strict
        unfold jobCheck overlooked
        rw [route,plain]
        cases isPost job <;> rfl
  | _ => rfl

-- A job on the route that the loop does not pass over
def seenOnRoute (kit : PolicyKit) (binding : Binding) (job : PyVal) : Bool := onRoute kit binding job && !overlooked kit binding job

structure RightJob (kit : PolicyKit) (job : PyVal) (scheduler : BoundScheduler) : Prop where
  plain : plainHttps kit job = true
  post : isPost job = true
  valid : validScheduler kit job = some scheduler

theorem matchedJobs_ok (served : Served binding) (jobs : List PyVal) : matchedJobs kit binding jobs =
    .ok (if jobs.any fun job => jobCheck kit binding job == .conflict then none else some (jobs.filter fun job => jobCheck kit binding job == .matched)) := by
  induction jobs with
  | nil => rfl
  | cons job rest ih =>
    unfold matchedJobs
    rw [checkJob_ok served,ih]
    rw [List.any_cons,List.filter_cons]
    cases jobCheck kit binding job with
    | ignored => rfl
    | conflict => rfl
    | matched =>
      show Except.ok ((if _ then none else some _).map _) = _
      simp only [BEq.rfl,if_true,show (JobCheck.matched == JobCheck.conflict) = false from rfl,Bool.false_or]
      split <;> rfl

theorem jobCheck_seen {job : PyVal} (seen : seenOnRoute kit binding job = true) :
    jobCheck kit binding job = if plainHttps kit job = true ∧ isPost job = true then .matched else .conflict := by
  unfold seenOnRoute at seen
  rw [Bool.and_eq_true,Bool.not_eq_true'] at seen
  unfold jobCheck
  rw [if_neg]
  rw [seen.1,seen.2]
  decide

theorem jobCheck_unseen {job : PyVal} (unseen : seenOnRoute kit binding job = false) : jobCheck kit binding job = .ignored := by
  unfold seenOnRoute at unseen
  rw [Bool.and_eq_false_iff,Bool.not_eq_false'] at unseen
  exact if_pos unseen

-- One job is seen on the route and matches: no conflict, and one match.
theorem single_match {jobs : List PyVal} {job : PyVal} :
    ((jobs.any fun job => jobCheck kit binding job == .conflict) = false ∧ (jobs.filter fun job => jobCheck kit binding job == .matched) = [job]) ↔
      jobs.filter (seenOnRoute kit binding) = [job] ∧ plainHttps kit job = true ∧ isPost job = true := by
  have agree : (jobs.any fun job => jobCheck kit binding job == .conflict) = false →
      (jobs.filter fun job => jobCheck kit binding job == .matched) = jobs.filter (seenOnRoute kit binding) := by
    intro calm
    apply List.filter_congr
    intro item member
    rw [List.any_eq_false] at calm
    have apart := calm item member
    cases seen : seenOnRoute kit binding item with
    | false => rw [jobCheck_unseen seen]; rfl
    | true =>
      rw [jobCheck_seen seen] at apart ⊢
      split
      · rfl
      · rename_i wrong
        rw [if_neg wrong] at apart
        exact absurd rfl apart
  constructor
  · rintro ⟨calm,one⟩
    have seen := agree calm
    rw [one] at seen
    refine ⟨seen.symm,?_⟩
    have found : job ∈ jobs.filter fun job => jobCheck kit binding job == .matched := by
      rw [one]
      exact List.mem_singleton_self job
    have matched := beq_iff_eq.mp (List.mem_filter.mp found).2
    have listed : job ∈ jobs.filter (seenOnRoute kit binding) := by
      rw [← seen]
      exact List.mem_singleton_self job
    rw [jobCheck_seen (List.mem_filter.mp listed).2] at matched
    by_contra wrong
    rw [if_neg wrong] at matched
    cases matched
  · rintro ⟨one,right⟩
    have calm : (jobs.any fun job => jobCheck kit binding job == .conflict) = false := by
      rw [List.any_eq_false]
      intro item member
      cases seen : seenOnRoute kit binding item with
      | false => rw [jobCheck_unseen seen]; decide
      | true =>
        have listed : item ∈ jobs.filter (seenOnRoute kit binding) := List.mem_filter.mpr ⟨member,seen⟩
        rw [one,List.mem_singleton] at listed
        subst listed
        rw [jobCheck_seen seen,if_pos right]
        decide
    exact ⟨calm,(agree calm).trans one⟩

theorem readBound_iff {fields : Fields} {scheduler : BoundScheduler} :
    readBound kit fields = .ok (.bound scheduler) ↔ validScheduler kit (.dict fields) = some scheduler := by
  show _ ↔ (statedScheduler fields).filter _ = _
  unfold readBound
  cases statedScheduler fields with
  | none =>
    constructor
    · intro impossible
      cases impossible
    · intro impossible
      cases impossible
  | some stated =>
    rw [Option.filter_some]
    cases checked : kit.cronMatches stated.mainTime stated.timezone with
    | ok due =>
      simp only [checked]
      rw [if_pos (by rfl)]
      constructor <;> intro same <;> cases same <;> rfl
    | error failure =>
      simp only [checked]
      rw [@if_neg ((Except.error failure : Except PyExc Bool).isOk = true) _ Bool.false_ne_true]
      constructor
      · intro impossible
        split at impossible <;> cases impossible
      · intro impossible
        cases impossible

theorem valid_enabled {fields : Fields} {scheduler : BoundScheduler} (valid : validScheduler kit (.dict fields) = some scheduler) :
    (Fields.get fields "state").isStr "PAUSED" = false := by
  obtain ⟨stated,_⟩ := Option.filter_eq_some_iff.mp valid
  unfold statedScheduler at stated
  obtain ⟨cron,_,stated⟩ := Option.bind_eq_some_iff.mp stated
  obtain ⟨name,_,stated⟩ := Option.bind_eq_some_iff.mp stated
  obtain ⟨timezone,_,stated⟩ := Option.bind_eq_some_iff.mp stated
  split at stated
  · rename_i checks
    cases value : Fields.get fields "state" with
    | str text =>
      rw [value] at checks
      have enabled : text = "ENABLED" := beq_iff_eq.mp checks.1
      subst enabled
      rfl
    | _ => rfl
  · cases stated

theorem boundOf_iff {matched : Option (List PyVal)} {scheduler : BoundScheduler} :
    boundOf kit matched = .ok (.bound scheduler) ↔ ∃ job, matched = some [job] ∧ validScheduler kit job = some scheduler := by
  have single : ∀ job, boundOf kit (some [job]) = .ok (.bound scheduler) ↔ validScheduler kit job = some scheduler := by
    intro job
    cases job with
    | dict fields =>
      show (if _ then Except.ok (Resolution.unknown "scheduler_paused") else readBound kit fields) = _ ↔ _
      rw [← readBound_iff]
      constructor
      · intro bound
        split at bound
        · cases bound
        · exact bound
      · intro bound
        rw [valid_enabled (readBound_iff.mp bound),if_neg Bool.false_ne_true]
        exact bound
    | _ =>
      constructor
      · intro impossible
        cases impossible
      · intro impossible
        cases impossible
  constructor
  · intro bound
    match matched,bound with
    | some [job],bound => exact ⟨job,rfl,(single job).mp bound⟩
    | some (first :: _ :: _),bound => cases first <;> cases bound
  · rintro ⟨job,rfl,valid⟩
    exact (single job).mpr valid

theorem resolution_iff {target : Fields} {jobs : List PyVal} {scheduler : BoundScheduler}
    (accepted : canonicalServingRoute kit servingContext = .ok binding) :
    resolution kit target (.list jobs) servingContext = .ok (.bound scheduler) ↔ (target.get "service").isStr binding.service = true ∧
      ∃ job, jobs.filter (seenOnRoute kit binding) = [job] ∧ RightJob kit job scheduler := by
  unfold resolution
  rw [accepted]
  show (if _ then _ else _) = _ ↔ _
  rw [matchedJobs_ok (served_of_accepted accepted)]
  cases (target.get "service").isStr binding.service with
  | false =>
    rw [if_neg Bool.false_ne_true]
    constructor
    · intro impossible
      cases impossible
    · rintro ⟨impossible,_⟩
      cases impossible
  | true =>
    rw [if_pos rfl]
    show boundOf kit _ = _ ↔ _
    rw [boundOf_iff]
    constructor
    · rintro ⟨job,one,valid⟩
      refine ⟨rfl,job,?_⟩
      split at one
      · cases one
      · rename_i calm
        obtain ⟨seen,plain,post⟩ := single_match.mp ⟨Bool.eq_false_iff.mpr calm,Option.some.inj one⟩
        exact ⟨seen,plain,post,valid⟩
    · rintro ⟨_,job,seen,plain,post,valid⟩
      obtain ⟨calm,one⟩ := single_match.mpr ⟨seen,plain,post⟩
      refine ⟨job,?_,valid⟩
      rw [calm,if_neg Bool.false_ne_true,one]

-- The scheduler in the target that comes back
def BoundScheduler.fields (scheduler : BoundScheduler) : PyVal :=
  .dict [("main_time",.str scheduler.mainTime),("timezone",.str scheduler.timezone),("job_name",.str scheduler.jobName)]

theorem resolveBoundScheduler_iff {target resolved : Fields} {jobs : PyVal} :
    resolveBoundScheduler kit target jobs servingContext = .ok (resolved,none) ↔
      ∃ scheduler, resolution kit target jobs servingContext = .ok (.bound scheduler) ∧ resolved = target.set "scheduler" scheduler.fields := by
  unfold resolveBoundScheduler
  rw [bind_return_ok]
  constructor
  · rintro ⟨found,read,result⟩
    cases found with
    | bound scheduler =>
      cases result
      exact ⟨scheduler,read,rfl⟩
    | unknown reason => cases result
  · rintro ⟨scheduler,read,rfl⟩
    exact ⟨_,read,rfl⟩

def Returns (kit : PolicyKit) (target : Fields) (jobs : List PyVal) (servingContext : PyVal) : Prop :=
  ∃ resolved, resolveBoundScheduler kit target (.list jobs) servingContext = .ok (resolved,none)

variable {target : Fields} {jobs others : List PyVal}

theorem returns_iff (accepted : canonicalServingRoute kit servingContext = .ok binding) :
    Returns kit target jobs servingContext ↔ (target.get "service").isStr binding.service = true ∧
      ∃ job scheduler, jobs.filter (seenOnRoute kit binding) = [job] ∧ RightJob kit job scheduler := by
  unfold Returns
  simp only [resolveBoundScheduler_iff,resolution_iff accepted]
  constructor
  · rintro ⟨_,scheduler,⟨named,job,seen,right⟩,_⟩
    exact ⟨named,job,scheduler,seen,right⟩
  · rintro ⟨named,job,scheduler,seen,right⟩
    exact ⟨_,scheduler,⟨named,job,seen,right⟩,rfl⟩

theorem returns_perm (accepted : canonicalServingRoute kit servingContext = .ok binding) (perm : others.Perm jobs)
    (returned : Returns kit target jobs servingContext) : Returns kit target others servingContext := by
  obtain ⟨named,job,scheduler,seen,right⟩ := (returns_iff accepted).mp returned
  refine (returns_iff accepted).mpr ⟨named,job,scheduler,?_,right⟩
  have same := perm.filter (seenOnRoute kit binding)
  rw [seen] at same
  exact List.perm_singleton.mp same

theorem seen_of_none_overlooked (none : ∀ job ∈ jobs, overlooked kit binding job = false) :
    jobs.filter (seenOnRoute kit binding) = jobs.filter (onRoute kit binding) := by
  apply List.filter_congr
  intro job member
  unfold seenOnRoute
  rw [none job member,Bool.not_false,Bool.and_true]

theorem overlooked_facts {job : PyVal} (held : overlooked kit binding job = true) : onRoute kit binding job = true ∧ plainHttps kit job = false := by
  unfold overlooked at held
  rw [Bool.and_eq_true,Bool.and_eq_true,Bool.not_eq_true'] at held
  exact held.1

theorem none_overlooked {job : PyVal} (one : jobs.filter (onRoute kit binding) = [job]) (plain : plainHttps kit job = true) :
    ∀ item ∈ jobs, overlooked kit binding item = false := by
  intro item member
  rw [Bool.eq_false_iff]
  intro held
  obtain ⟨route,impure⟩ := overlooked_facts held
  have listed : item ∈ jobs.filter (onRoute kit binding) := List.mem_filter.mpr ⟨member,route⟩
  rw [one,List.mem_singleton] at listed
  subst listed
  rw [plain] at impure
  cases impure

theorem bound_scheduler_is_the_only_one_iff (accepted : canonicalServingRoute kit servingContext = .ok binding) :
    ((Returns kit target jobs servingContext ↔ (target.get "service").isStr binding.service = true ∧
        ∃ job scheduler, jobs.filter (onRoute kit binding) = [job] ∧ RightJob kit job scheduler) ∧
      (∀ resolved, resolveBoundScheduler kit target (.list jobs) servingContext = .ok (resolved,none) →
        ∃ job scheduler, jobs.filter (onRoute kit binding) = [job] ∧ RightJob kit job scheduler ∧
          resolved = target.set "scheduler" scheduler.fields) ∧
      ∀ others, others.Perm jobs → (Returns kit target others servingContext ↔ Returns kit target jobs servingContext)) ↔
    ((target.get "service").isStr binding.service = true → (∃ job ∈ jobs, overlooked kit binding job = true) →
      ¬∃ job scheduler, jobs.filter (fun job => onRoute kit binding job && !overlooked kit binding job) = [job] ∧ RightJob kit job scheduler) := by
  constructor
  · rintro ⟨exactly,_⟩ named ⟨lost,member,held⟩ ⟨job,scheduler,seen,right⟩
    obtain ⟨_,only,_,one,plain,_⟩ := exactly.mp ((returns_iff accepted).mpr ⟨named,job,scheduler,seen,right⟩)
    rw [none_overlooked one plain lost member] at held
    cases held
  · intro calm
    have same : (target.get "service").isStr binding.service = true → ∀ job scheduler, jobs.filter (seenOnRoute kit binding) = [job] →
        RightJob kit job scheduler → jobs.filter (onRoute kit binding) = [job] := by
      intro named job scheduler seen right
      rw [← seen,seen_of_none_overlooked]
      intro item member
      rw [Bool.eq_false_iff]
      intro held
      exact calm named ⟨item,member,held⟩ ⟨job,scheduler,seen,right⟩
    refine ⟨?_,?_,?_⟩
    · rw [returns_iff accepted]
      constructor
      · rintro ⟨named,job,scheduler,seen,right⟩
        exact ⟨named,job,scheduler,same named job scheduler seen right,right⟩
      · rintro ⟨named,job,scheduler,one,right⟩
        refine ⟨named,job,scheduler,?_,right⟩
        rw [seen_of_none_overlooked (none_overlooked one right.plain)]
        exact one
    · intro resolved returned
      obtain ⟨scheduler,read,rfl⟩ := resolveBoundScheduler_iff.mp returned
      obtain ⟨named,job,seen,right⟩ := (resolution_iff accepted).mp read
      exact ⟨job,scheduler,same named job scheduler seen right,right,rfl⟩
    · intro others perm
      exact ⟨returns_perm accepted perm.symm,returns_perm accepted perm⟩

def plainKit : PolicyKit where
  mapping value := match value with
    | .dict entries => entries
    | _ => []
  netlocValid _ := true
  cronMatches _ _ := .ok true
  mapping_dict _ := rfl
  mapping_other value other := by
    cases value with
    | dict entries => cases other
    | _ => rfl
  plainHost _ _ := rfl

def servedAt (path : String) : PyVal :=
  .dict [
    ("service",.dict [
      ("metadata",.dict [("name",.str "lb-paper")]),
      ("status",.dict [
        ("url",.str "https://lb-paper.example.run.app"),
        ("traffic",.list [.dict [("revisionName",.str "lb-paper-r1"),("percent",.int 100)]])])]),
    ("revision",.dict [
      ("metadata",.dict [("name",.str "lb-paper-r1"),("labels",.dict [("commit-sha",.str "aaaaaaaaaaaaaaaaaaaaaaaaaaaaaaaaaaaaaaaa")])]),
      ("status",.dict [("conditions",.list [.dict [("type",.str "Ready"),("status",.str "True")]])])]),
    ("route_contract",.dict [
      ("service",.str "lb-paper"),("source_commit",.str "aaaaaaaaaaaaaaaaaaaaaaaaaaaaaaaaaaaaaaaa"),
      ("path",.str path),("http_method",.str "POST")])]

def bindingAt (path : String) : Binding :=
  ⟨"lb-paper","https://lb-paper.example.run.app",path,"lb-paper-r1","aaaaaaaaaaaaaaaaaaaaaaaaaaaaaaaaaaaaaaaa"⟩

def jobAt (name uri : String) : PyVal :=
  .dict [("name",.str name),("state",.str "ENABLED"),("schedule",.str "45 15 * * 1"),("timeZone",.str "America/New_York"),
    ("httpTarget",.dict [("uri",.str uri),("httpMethod",.str "POST")])]

def paperTarget : Fields := [("service",.str "lb-paper")]

def strictJob : PyVal := jobAt "jobs/paper" "https://lb-paper.example.run.app/"

def looseJob : PyVal := jobAt "jobs/other" "http://lb-paper.example.run.app"

-- Both jobs are on the route of the contract path `/`, and the one without a path is not seen.
theorem pathless_job_is_overlooked : canonicalServingRoute plainKit (servedAt "/") = .ok (bindingAt "/") ∧
    (resolveBoundScheduler plainKit paperTarget (.list [strictJob,looseJob]) (servedAt "/")).toOption.map Prod.snd = some none ∧
    ([strictJob,looseJob].filter (onRoute plainKit (bindingAt "/"))).length = 2 := by
  refine ⟨?_,?_,?_⟩ <;> decide +kernel

def runJob : PyVal := jobAt "jobs/paper" "https://lb-paper.example.run.app/run"

-- A second job of the service, off the route of the contract path `/run`.
def healthJob : PyVal := jobAt "jobs/health" "https://lb-paper.example.run.app/health"

theorem run_job_is_bound : Returns plainKit paperTarget [healthJob,runJob] (servedAt "/run") := by
  have accepted : canonicalServingRoute plainKit (servedAt "/run") = .ok (bindingAt "/run") := by decide +kernel
  have route : onRoute plainKit (bindingAt "/run") runJob = true := by decide +kernel
  have aside : ¬onRoute plainKit (bindingAt "/run") healthJob = true := by decide +kernel
  have seen : [healthJob,runJob].all (fun job => !overlooked plainKit (bindingAt "/run") job) = true := by decide +kernel
  have right : RightJob plainKit runJob ⟨"45 15 * * 1","America/New_York","jobs/paper"⟩ := by
    refine ⟨by decide +kernel,by decide +kernel,?_⟩
    rfl
  refine ((bound_scheduler_is_the_only_one_iff accepted).mpr ?_).1.mpr ⟨by decide,runJob,_,?_,right⟩
  · rintro _ ⟨job,member,held⟩
    have known := List.all_eq_true.mp seen job member
    rw [held] at known
    cases known
  · rw [List.filter_cons_of_neg aside,List.filter_cons_of_pos route,List.filter_nil]

end LongBridge.Schedule
