import LongBridge.Secrets.Refresh

namespace LongBridge.Secrets
open Effects

variable {loads : List UInt8 → Except PyExc PyVal} {request : RefreshRequest} {outside : Outside}

theorem secretNames_token {names : SecretNames} (found : secretNames request.target = .ok names) :
    names.token = tokenSecret request := by
  unfold secretNames at found
  unfold tokenSecret
  cases listed : targetSecrets.lookup request.target with
  | none => rw [listed] at found; cases found
  | some token =>
    rw [listed] at found
    cases key : secretOf appKeySecrets request.target with
    | error error => simp [key,bind,Except.bind] at found
    | ok appKey =>
      cases secret : secretOf appSecretSecrets request.target with
      | error error => simp [key,secret,bind,Except.bind] at found
      | ok appSecret =>
        simp only [key,secret,bind,Except.bind,pure,Except.pure,Except.ok.injEq] at found
        rw [← found]
        rfl

-- The planner lets a token with a known expiry through only when it is forced to.
theorem planToken_passes {token : String} (planned : (planToken loads request token (outside.current request)).1 = true)
    (expired : KnownExpired loads token (outside.current request)) : request.force = true := by
  obtain ⟨expiry,decoded,due⟩ := expired
  unfold planToken planRefresh remainingDays at planned
  rw [decoded] at planned
  split at planned
  · assumption
  · rw [Option.map_some] at planned
    dsimp only at planned
    rw [daysUntilExpiry_atMost,if_pos due] at planned
    cases planned

theorem planToken_forced {token : String} {current : ℚ} (force : request.force = true) :
    (planToken loads request token current).1 = true := by
  unfold planToken planRefresh
  rw [if_pos force]

-- Both credentials are read and neither is empty.
structure Keyed (request : RefreshRequest) (outside : Outside) (names : SecretNames) (appKey appSecret : String) : Prop where
  key : outside.secret request.projectId names.appKey = .ok appKey
  secret : outside.secret request.projectId names.appSecret = .ok appSecret
  keyed : appKey ≠ ""
  signed : appSecret ≠ ""

-- The calls of a run that spends no token, and of one that does
def Unspent (events : List SecretEvent) : Prop := exchanges events = [] ∧ additions events = []

def Spent (request : RefreshRequest) (names : SecretNames) (token appKey appSecret : String) (events : List SecretEvent) : Prop :=
  ∃ answer, exchanges events = [⟨token,appKey,appSecret,answer⟩] ∧
    additions events = answer.toOption.toList.map fun token => (request.projectId,names.token,token)

theorem read_told {events : List SecretEvent} {project secret : String} {answer : Except PyExc String}
    (answers : ∀ event ∈ events, outside.answers event) (member : .answered false (.read project secret) answer ∈ events) :
    answer = outside.secret project secret := answers _ member

theorem exchangeToken_spends {names : SecretNames} {token : String} {result : RefreshResult} {reply : Except PyExc RefreshResult}
    {events : List SecretEvent} (steps : (exchangeToken request names token result).Steps false () events reply ())
    (answers : ∀ event ∈ events, outside.answers event) :
    (Unspent events ∧ ∀ appKey appSecret, ¬ Keyed request outside names appKey appSecret) ∨
      ∃ appKey appSecret, Keyed request outside names appKey appSecret ∧ Spent request names token appKey appSecret events := by
  unfold exchangeToken askSecret at steps
  rcases steps_invoke_bind.mp steps with ⟨appKey,afterKey,rfl,keyed⟩ | ⟨error,rfl,_,_⟩
  · have key : .ok appKey = outside.secret request.projectId names.appKey := read_told answers (by simp)
    rcases steps_invoke_bind.mp keyed with ⟨appSecret,afterSecret,rfl,signed⟩ | ⟨error,rfl,_,_⟩
    · have secret : .ok appSecret = outside.secret request.projectId names.appSecret := read_told answers (by simp)
      by_cases lacking : appKey = "" ∨ appSecret = ""
      · rw [if_pos lacking] at signed
        obtain ⟨rfl,_,_⟩ := steps_pure.mp signed
        refine .inl ⟨⟨rfl,rfl⟩,fun other another held => ?_⟩
        have sameKey := Except.ok.inj (key.trans held.key)
        have sameSecret := Except.ok.inj (secret.trans held.secret)
        rcases lacking with empty | empty
        · exact held.keyed (sameKey ▸ empty)
        · exact held.signed (sameSecret ▸ empty)
      · rw [if_neg lacking] at signed
        obtain ⟨hasKey,hasSecret⟩ := not_or.mp lacking
        refine .inr ⟨appKey,appSecret,⟨key.symm,secret.symm,hasKey,hasSecret⟩,?_⟩
        rcases steps_invoke_bind.mp signed with ⟨newToken,afterRefresh,rfl,refreshed⟩ | ⟨error,rfl,_,_⟩
        · rcases steps_invoke_bind.mp refreshed with ⟨version,afterWrite,rfl,ended⟩ | ⟨error,rfl,_,_⟩
          · obtain ⟨rfl,_,_⟩ := steps_pure.mp ended
            exact ⟨.ok newToken,rfl,rfl⟩
          · exact ⟨.ok newToken,rfl,rfl⟩
        · exact ⟨.error error,rfl,rfl⟩
    · have failed : .error error = outside.secret request.projectId names.appSecret := read_told answers (by simp)
      refine .inl ⟨⟨rfl,rfl⟩,fun other another held => ?_⟩
      cases failed.trans held.secret
  · have failed : .error error = outside.secret request.projectId names.appKey := read_told answers (by simp)
    refine .inl ⟨⟨rfl,rfl⟩,fun other another held => ?_⟩
    cases failed.trans held.key

-- The run reads the token of its target and goes on to the exchange with it.
structure Exchanging (loads : List UInt8 → Except PyExc PyVal) (request : RefreshRequest) (outside : Outside)
    (names : SecretNames) (token : String) : Prop where
  named : secretNames request.target = .ok names
  read : outside.secret request.projectId names.token = .ok token
  planned : (planToken loads request token (outside.current request)).1 = true
  live : request.dryRun = false

theorem readClock_reads {events : List SecretEvent} {reply : Except PyExc ℚ} (steps : (readClock request).Steps false () events reply ())
    (answers : ∀ event ∈ events, outside.answers event) : Unspent events ∧ reply = .ok (outside.current request) := by
  unfold readClock at steps
  cases given : request.now with
  | some now =>
    rw [given] at steps
    obtain ⟨rfl,same,_⟩ := steps_pure.mp steps
    exact ⟨⟨rfl,rfl⟩,by rw [same,Outside.current,given]; rfl⟩
  | none =>
    rw [given] at steps
    obtain ⟨rfl,_⟩ := steps_invoke.mp steps
    refine ⟨⟨rfl,rfl⟩,?_⟩
    have told : reply = .ok outside.clock := answers _ (List.mem_singleton_self _)
    rw [told,Outside.current,given]
    rfl

theorem exchanges_append (first second : List SecretEvent) : exchanges (first ++ second) = exchanges first ++ exchanges second :=
  List.filterMap_append ..

theorem additions_append (first second : List SecretEvent) : additions (first ++ second) = additions first ++ additions second :=
  List.filterMap_append ..

theorem spent_append {names : SecretNames} {token appKey appSecret : String} {quiet events : List SecretEvent} (first : Unspent quiet)
    (rest : Spent request names token appKey appSecret events) : Spent request names token appKey appSecret (quiet ++ events) := by
  obtain ⟨answer,one,written⟩ := rest
  exact ⟨answer,by rw [exchanges_append,first.1,one]; rfl,by rw [additions_append,first.2,written]; rfl⟩

theorem unspent_append {quiet events : List SecretEvent} (first : Unspent quiet) (rest : Unspent events) : Unspent (quiet ++ events) :=
  ⟨by rw [exchanges_append,first.1,rest.1]; rfl,by rw [additions_append,first.2,rest.2]; rfl⟩

theorem runRefresh_spends {reply : Except PyExc RefreshResult} {events : List SecretEvent}
    (steps : (runRefresh loads request).Steps false () events reply ()) (answers : ∀ event ∈ events, outside.answers event) :
    (Unspent events ∧ ∀ names token appKey appSecret,
        Exchanging loads request outside names token → ¬ Keyed request outside names appKey appSecret) ∨
      ∃ names token appKey appSecret, Exchanging loads request outside names token ∧ Keyed request outside names appKey appSecret ∧
        Spent request names token appKey appSecret events := by
  unfold runRefresh at steps
  rcases steps_fromExcept_bind.mp steps with ⟨names,named,run⟩ | ⟨error,unnamed,rfl,_,_⟩
  · rcases steps_bind.mp run with ⟨asked,run,current,_,rfl,clocked,read⟩ | ⟨error,_,clocked⟩
    · obtain ⟨quiet,told⟩ := readClock_reads clocked (fun event member => answers event (List.mem_append_left _ member))
      cases told
      rcases steps_invoke_bind.mp read with ⟨token,rest,rfl,planned⟩ | ⟨error,rfl,_,_⟩
      · have reads : .ok token = outside.secret request.projectId names.token := read_told answers (by simp)
        have sameToken : ∀ {others : SecretNames} {other : String}, Exchanging loads request outside others other → others = names ∧ other = token := by
          intro others other exchanging
          obtain rfl := Except.ok.inj (exchanging.named.symm.trans named)
          exact ⟨rfl,Except.ok.inj (exchanging.read.symm.trans reads.symm)⟩
        dsimp only at planned
        split at planned
        · rename_i held
          have ended : rest = [] := by
            split at planned
            · exact (steps_pure.mp planned).1
            · exact (steps_pure.mp planned).1
          subst ended
          refine .inl ⟨unspent_append quiet ⟨rfl,rfl⟩,fun others other _ _ exchanging _ => ?_⟩
          obtain ⟨rfl,rfl⟩ := sameToken exchanging
          cases held.symm.trans exchanging.planned
        · rename_i passes
          split at planned
          · rename_i dry
            obtain ⟨rfl,_,_⟩ := steps_pure.mp planned
            refine .inl ⟨unspent_append quiet ⟨rfl,rfl⟩,fun others other _ _ exchanging _ => ?_⟩
            cases dry.symm.trans exchanging.live
          · rename_i live
            have exchanging : Exchanging loads request outside names token :=
              ⟨named,reads.symm,by simpa [plannedResult] using passes,by simpa using live⟩
            have later : ∀ event ∈ rest, outside.answers event :=
              fun event member => answers event (List.mem_append_right _ (List.mem_cons_of_mem _ member))
            rcases exchangeToken_spends planned later with ⟨unspent,unkeyed⟩ | ⟨appKey,appSecret,keyed,spent⟩
            · refine .inl ⟨unspent_append quiet unspent,fun others other appKey appSecret held => ?_⟩
              obtain ⟨rfl,_⟩ := sameToken held
              exact unkeyed appKey appSecret
            · exact .inr ⟨names,token,appKey,appSecret,exchanging,keyed,spent_append quiet spent⟩
      · have failed : .error error = outside.secret request.projectId names.token := read_told answers (by simp)
        refine .inl ⟨unspent_append quiet ⟨rfl,rfl⟩,fun others other _ _ exchanging _ => ?_⟩
        obtain rfl := Except.ok.inj (exchanging.named.symm.trans named)
        cases failed.trans exchanging.read
    · obtain ⟨_,told⟩ := readClock_reads clocked answers
      cases told
  · refine .inl ⟨⟨rfl,rfl⟩,fun others other _ _ exchanging _ => ?_⟩
    cases unnamed.symm.trans exchanging.named

theorem unspent_safe {events : List SecretEvent} (unspent : Unspent events) : SpendsSafely loads request outside events := by
  obtain ⟨none,unwritten⟩ := unspent
  refine ⟨by simp [none],?_,by rw [none,unwritten]; rfl⟩
  intro exchange member
  rw [none] at member
  cases member

-- The run meets the contract of the tool exactly when no refresh is forced over a known expiry.
theorem runRefresh_spends_safely_iff (loads : List UInt8 → Except PyExc PyVal) (request : RefreshRequest) (outside : Outside)
    (events : List SecretEvent) (reply : Except PyExc RefreshResult) (steps : (runRefresh loads request).Steps false () events reply ())
    (answers : ∀ event ∈ events, outside.answers event) :
    SpendsSafely loads request outside events ↔ ¬ ForcedPastExpiry loads request outside := by
  rcases runRefresh_spends steps answers with ⟨unspent,barred⟩ | ⟨names,token,appKey,appSecret,exchanging,keyed,answer,one,written⟩
  · refine ⟨fun _ => ?_,fun _ => unspent_safe unspent⟩
    rintro ⟨force,live,names,token,appKey,appSecret,named,read,_,key,hasKey,secret,hasSecret⟩
    exact barred names token appKey appSecret ⟨named,read,planToken_forced force,live⟩ ⟨key,secret,hasKey,hasSecret⟩
  · constructor
    · rintro safe ⟨_,_,others,other,_,_,named,read,expired,_⟩
      obtain ⟨found,foundNamed,permitted⟩ := safe.permitted _ (by rw [one]; exact List.mem_singleton_self _)
      obtain rfl := Except.ok.inj (named.symm.trans exchanging.named)
      obtain rfl := Except.ok.inj (read.symm.trans exchanging.read)
      exact permitted.unexpired expired
    · intro unforced
      refine ⟨by simp [one],?_,?_⟩
      · intro exchange member
        rw [one] at member
        obtain rfl := List.mem_singleton.mp member
        refine ⟨names,exchanging.named,exchanging.live,exchanging.read,keyed.key,keyed.secret,keyed.keyed,keyed.signed,fun expired => unforced ?_⟩
        exact ⟨planToken_passes exchanging.planned expired,exchanging.live,names,token,appKey,appSecret,exchanging.named,exchanging.read,
          expired,keyed.key,keyed.keyed,keyed.secret,keyed.signed⟩
      · rw [one,written,← secretNames_token exchanging.named]
        cases answer <;> rfl

-- The bytes of one token are readable, the secrets are those of the paper target.
def loadsSample (payload : List UInt8) : Except PyExc PyVal :=
  if payload = "\x7b\"exp\":1\x7d".toUTF8.toList then .ok (.dict [("exp",.int 1)]) else .error ⟨"JSONDecodeError","Expecting value"⟩

def paperOutside (clock : ℚ) : Outside where
  secret _ name := .ok (if name = "longport_token_paper" then "h.eyJleHAiOjF9.s" else name)
  clock := clock

def paperWorld (clock : ℚ) : World secretPorts PyExc
  | _,.time => .ok clock
  | _,.read project name => (paperOutside clock).secret project name
  | _,.refresh _ _ _ _ => .ok "fresh"
  | _,.write _ _ _ => .ok "versions/2"

def paperRefresh (force : Bool) : RefreshRequest := ⟨"demo","paper",false,.finite 30,force,90,none⟩

def paperRun (clock : ℚ) (force : Bool) : List SecretEvent × Except PyExc RefreshResult × Unit :=
  play (paperWorld clock) [] ((runRefresh loadsSample (paperRefresh force)).run false ())

theorem paperRun_steps (clock : ℚ) (force : Bool) :
    (runRefresh loadsSample (paperRefresh force)).Steps false () (paperRun clock force).1 (paperRun clock force).2.1 () :=
  play_runs (paperWorld clock) [] ((runRefresh loadsSample (paperRefresh force)).run false ())

theorem paperRun_answers (clock : ℚ) (force : Bool) : ∀ event ∈ (paperRun clock force).1, (paperOutside clock).answers event := by
  intro event member
  cases event with
  | answered held call answer =>
    obtain ⟨earlier,told⟩ := play_answered member
    cases call <;> first | exact told | trivial
  | fault held error => trivial
  | marked label => trivial

theorem paper_refresh_spends_safely : SpendsSafely loadsSample (paperRefresh false) (paperOutside 0) (paperRun 0 false).1 := by
  apply (runRefresh_spends_safely_iff _ _ _ _ _ (paperRun_steps 0 false) (paperRun_answers 0 false)).mpr
  rintro ⟨forced,_⟩
  cases forced

theorem paper_token_expired : KnownExpired loadsSample "h.eyJleHAiOjF9.s" 2 :=
  ⟨.finite 1,by decide +kernel,by decide +kernel⟩

def exchangeKeys (event : SecretEvent) : Option (String × String × String) :=
  (exchangeOf event).map fun exchange => (exchange.accessToken,exchange.appKey,exchange.appSecret)

-- A forced refresh spends the token a second after its expiry.
theorem forced_refresh_spends_expired_token : ∃ loads request outside events reply,
    (runRefresh loads request).Steps false () events reply () ∧ (∀ event ∈ events, outside.answers event) ∧
      ¬ SpendsSafely loads request outside events := by
  refine ⟨loadsSample,paperRefresh true,paperOutside 2,_,_,paperRun_steps 2 true,paperRun_answers 2 true,fun safe => ?_⟩
  have spent : (paperRun 2 true).1.filterMap exchangeKeys =
      [("h.eyJleHAiOjF9.s","longport-app-key-paper","longport-app-secret-paper")] := by decide +kernel
  obtain ⟨event,member,keys⟩ := List.mem_filterMap.mp (spent ▸ List.mem_singleton_self _)
  obtain ⟨exchange,found,same⟩ := Option.map_eq_some_iff.mp keys
  obtain ⟨_,_,permitted⟩ := safe.permitted exchange (List.mem_filterMap.mpr ⟨event,member,found⟩)
  have token : exchange.accessToken = "h.eyJleHAiOjF9.s" := congrArg Prod.fst same
  exact permitted.unexpired (token ▸ paper_token_expired)

end LongBridge.Secrets
