import LongBridge.Deploy.SyncPlan
import LongBridge.Python.Symbols

namespace LongBridge.Deploy
open Effects

variable {kit : Kit} {target defaults : Fields} {one two : Texts}

-- The variables every service may read from the environment.
def sharedNames : List String :=
  [targetsEnv,"CLOUD_RUN_SERVICE",platformConfigEnv,"LONGPORT_SECRET_NAME"] ++ sharedTargetFallbackEnv ++
    schedulerTimes.map SchedulerTime.env

def Agree (one two : Texts) : Prop := ∀ name ∈ sharedNames, one.lookup name = two.lookup name

theorem Agree.symm (agree : Agree one two) : Agree two one := fun name shared => (agree name shared).symm

theorem Agree.stripped (agree : Agree one two) {name : String} (shared : name ∈ sharedNames) :
    one.stripped name = two.stripped name := by
  unfold Texts.stripped
  rw [agree name shared]

theorem fallback_shared {name : String} (allowed : sharedTargetFallbackEnv.contains name = true) : name ∈ sharedNames := by
  have known : name ∈ sharedTargetFallbackEnv := List.contains_iff_mem.mp allowed
  exact List.mem_append_left _ (List.mem_append_right _ known)

theorem time_shared {time : SchedulerTime} (known : time ∈ schedulerTimes) : time.env ∈ sharedNames :=
  List.mem_append_right _ (List.mem_map.mpr ⟨time,known,rfl⟩)

theorem targetEnvValue_agree (agree : Agree one two) {name : String} {allowed : Bool} (shared : allowed = true → name ∈ sharedNames) :
    targetEnvValue kit target defaults one name true allowed = targetEnvValue kit target defaults two name true allowed := by
  have same : ∀ raw, fallbackValue one name (!true || allowed) raw = fallbackValue two name (!true || allowed) raw := by
    intro raw
    cases allowed with
    | false => simp [fallbackValue]
    | true => simp [fallbackValue,agree.stripped (shared rfl)]
  unfold targetEnvValue
  simp only [same]

section scope
variable {scope : Scope}

-- A plan for a service other than the environment's own.
structure Apart (scope : Scope) : Prop where
  listed : scope.perServiceMode = true
  other : scope.serviceName ≠ scope.env.stripped "CLOUD_RUN_SERVICE"

theorem value_agree (apart : Apart scope) (agree : Agree scope.env two) {name : String} {allowed : Bool}
    (shared : allowed = true → name ∈ sharedNames) : scope.value name allowed = { scope with env := two }.value name allowed := by
  unfold Scope.value
  rw [apart.listed]
  exact targetEnvValue_agree agree shared

theorem addRequired_agree (apart : Apart scope) (agree : Agree scope.env two) :
    addRequired scope = addRequired { scope with env := two } := by
  funext state name
  unfold addRequired requiredValue
  rw [value_agree apart agree fallback_shared]
  rfl

theorem switchedValue_agree (apart : Apart scope) (agree : Agree scope.env two) (name : String) (value : Option String) :
    switchedValue scope name value = switchedValue { scope with env := two } name value := by
  have service : scope.env.stripped "CLOUD_RUN_SERVICE" = two.stripped "CLOUD_RUN_SERVICE" := agree.stripped (by simp [sharedNames])
  have other := apart.other
  unfold switchedValue
  rw [if_neg (fun own => other own.2),if_neg (fun own => other (service ▸ own.2))]

theorem accountValue_agree (apart : Apart scope) (agree : Agree scope.env two) (values : Texts) (name : String) :
    accountValue scope values name = accountValue { scope with env := two } values name := by
  have secret : "LONGPORT_SECRET_NAME" ∈ sharedNames := by simp [sharedNames]
  unfold accountValue
  rw [value_agree apart agree fun _ => secret,agree _ secret]

theorem optionalValue_agree (apart : Apart scope) (agree : Agree scope.env two) (values : Texts) (name : String) :
    optionalValue scope values name = optionalValue { scope with env := two } values name := by
  unfold optionalValue
  rw [value_agree apart agree fallback_shared]
  simp only [switchedValue_agree apart agree,accountValue_agree apart agree]
  rfl

theorem addOptional_agree (apart : Apart scope) (agree : Agree scope.env two) (paper : Bool) :
    addOptional scope paper = addOptional { scope with env := two } paper := by
  funext state name
  unfold addOptional
  rw [optionalValue_agree apart agree]

theorem buildSchedulerPlan_agree (apart : Apart scope) (agree : Agree scope.env two) (values : Texts) :
    buildSchedulerPlan scope values = buildSchedulerPlan { scope with env := two } values := by
  have times : schedulerTimes.mapM (schedulerTime scope) = schedulerTimes.mapM (schedulerTime { scope with env := two }) := by
    refine mapM_congr ?_
    intro time known
    unfold schedulerTime
    rw [value_agree apart agree fun _ => time_shared known]
  unfold buildSchedulerPlan
  rw [times]

theorem completePlan_agree (apart : Apart scope) (agree : Agree scope.env two) (status : Fields) (profile : String) :
    completePlan scope status profile = completePlan { scope with env := two } status profile := by
  have planned : planVariables scope status profile = planVariables { scope with env := two } status profile := by
    unfold planVariables
    rw [addRequired_agree apart agree]
    simp only [addOptional_agree apart agree]
  unfold completePlan
  rw [planned]
  simp only [buildSchedulerPlan_agree apart agree]

end scope

-- The service an inventory entry is for, by its own fields or by its own runtime target.
def statedService (kit : Kit) (target defaults : Fields) (configured : PyVal) : Except PyExc PyVal :=
  if isNone configured then do
    let own ← ownRuntimeTarget target defaults
    let runtimeTarget ← decodeTarget kit own
    return runtimeTarget.get "service_name"
  else .ok configured

def inventoryService (kit : Kit) (target defaults : Fields) : Except PyExc PyVal := do
  let configured ← configuredService target defaults
  statedService kit target defaults configured

-- An entry for another service than the one the environment names, if it names one.
def Sibling (kit : Kit) (env : Texts) (target defaults : Fields) : Prop :=
  env.stripped "CLOUD_RUN_SERVICE" ≠ "" → inventoryService kit target defaults ≠ .ok (.str (env.stripped "CLOUD_RUN_SERVICE"))

def namesService (target defaults : Fields) : Bool :=
  match configuredService target defaults with
  | .ok configured => !isNone configured
  | .error _ => false

-- No runtime target of the environment could stand in for this entry's own, or it is the same one in both.
def KeepsOwn (one two : Texts) (target defaults : Fields) : Prop :=
  one.stripped "CLOUD_RUN_SERVICE" ≠ "" ∨ namesService target defaults = true ∨
    one.stripped "RUNTIME_TARGET_JSON" = two.stripped "RUNTIME_TARGET_JSON"

theorem serviceChar_plain {char : Char} (allowed : (char.isLower || char.isDigit || char == '-') = true) : isSpace char = false := by
  have code : 45 ≤ char.toNat := by
    simp only [Bool.or_eq_true,beq_iff_eq] at allowed
    rcases allowed with (small | digit) | dash
    · have bounds : (decide (char.val ≥ 'a'.val) && decide (char.val ≤ 'z'.val)) = true := small
      simp only [Bool.and_eq_true,decide_eq_true_eq] at bounds
      have low : 97 ≤ char.toNat := bounds.1
      omega
    · have bounds : (decide (char.val ≥ '0'.val) && decide (char.val ≤ '9'.val)) = true := digit
      simp only [Bool.and_eq_true,decide_eq_true_eq] at bounds
      have low : 48 ≤ char.toNat := bounds.1
      omega
    · subst dash; decide
  cases space : isSpace char with
  | false => rfl
  | true =>
    simp only [isSpace,Bool.or_eq_true,Bool.and_eq_true,beq_iff_eq,decide_eq_true_eq] at space
    have below : char.toNat ≤ 32 := by
      rcases space with (blank | control) | separator
      · subst blank; decide
      · have high : char.toNat ≤ 13 := control.2
        omega
      · have high : char.toNat ≤ 31 := separator.2
        omega
    omega

theorem strip_plain {text : String} (plain : ∀ char ∈ text.toList, isSpace char = false) : strip text = text := by
  have front : text.toList.dropWhile isSpace = text.toList := by
    cases chars : text.toList with
    | nil => rfl
    | cons char rest =>
      rw [List.dropWhile_cons_of_neg]
      simp [plain char (by rw [chars]; simp)]
  have back : text.toList.reverse.dropWhile isSpace = text.toList.reverse := by
    cases chars : text.toList.reverse with
    | nil => rfl
    | cons char rest =>
      rw [List.dropWhile_cons_of_neg]
      have held : char ∈ text.toList := List.mem_reverse.mp (by rw [chars]; simp)
      simp [plain char held]
  unfold strip
  rw [front,back,List.reverse_reverse,String.ofList_toList]

theorem strip_serviceName {name : String} (exact : isServiceName name = true) : strip name = name := by
  simp only [isServiceName,Bool.and_eq_true] at exact
  exact strip_plain fun char held => serviceChar_plain (List.all_eq_true.mp exact.2 char held)

theorem exactServiceName_ok {service : PyVal} {name : String} (found : exactServiceName service = .ok name) :
    service = .str name ∧ name ≠ "" ∧ strip name = name := by
  unfold exactServiceName at found
  split at found
  · cases found
  · rename_i filled
    split at found
    · split at found
      · rename_i text exact
        cases found
        refine ⟨rfl,?_,strip_serviceName exact⟩
        intro empty
        rw [empty] at filled
        exact filled rfl
      · cases found
    · cases found

theorem takesEnvironment_other {env : Texts} {configured : PyVal}
    (other : strip configured.textOrEmpty ≠ env.stripped "CLOUD_RUN_SERVICE") : takesEnvironment env true configured = false := by
  unfold takesEnvironment
  simp [other]

theorem rawRuntimeTarget_own {env : Texts} {configured : PyVal} (read : configuredService target defaults = .ok configured)
    (kept : takesEnvironment env true configured = false) :
    rawRuntimeTarget target defaults env true = ownRuntimeTarget target defaults := by
  have listed : ∀ own, legacyTarget env true own = own := by
    intro own
    simp [legacyTarget]
  unfold rawRuntimeTarget
  rw [read]
  change (if takesEnvironment env true configured = true then _ else _) = _
  rw [kept,if_neg Bool.false_ne_true]
  simp only [listed]
  cases ownRuntimeTarget target defaults <;> rfl

-- The environment's target stands in for no entry that is planned for another service.
theorem keeps_own {platformConfig configured : PyVal} {env : Texts} {plan : TargetPlan}
    (read : configuredService target defaults = .ok configured)
    (built : buildTargetPlan kit target defaults env true platformConfig = .ok plan)
    (sibling : Sibling kit env target defaults) (kept : env.stripped "CLOUD_RUN_SERVICE" ≠ "" ∨ namesService target defaults = true) :
    takesEnvironment env true configured = false := by
  unfold buildTargetPlan at built
  obtain ⟨own,again,built⟩ := bind_ok.mp built
  cases read.symm.trans again
  obtain ⟨runtimeTarget,_,built⟩ := bind_ok.mp built
  obtain ⟨name,exact,_⟩ := bind_ok.mp built
  obtain ⟨stated,filled,plain⟩ := exactServiceName_ok exact
  cases named : isNone configured with
  | true =>
    -- The entry names no service of its own, so its text is blank.
    have blank : configured = .none := by
      revert named
      cases configured <;> intro named <;> first | rfl | cases named
    subst blank
    refine takesEnvironment_other ?_
    rcases kept with current | owned
    · exact fun same => current same.symm
    · simp [namesService,read,isNone] at owned
  | false =>
    rw [named,if_neg Bool.false_ne_true] at stated
    subst stated
    refine takesEnvironment_other ?_
    rw [PyVal.textOrEmpty_str,plain]
    intro same
    refine sibling (fun empty => filled (same.trans empty)) ?_
    refine bind_ok.mpr ⟨_,read,?_⟩
    rw [statedService,named,if_neg Bool.false_ne_true,same]

theorem planned_apart {configured : PyVal} {env : Texts} {runtimeTarget : Fields} {name : String}
    (read : configuredService target defaults = .ok configured)
    (resolved : (do let own ← ownRuntimeTarget target defaults; decodeTarget kit own) = .ok runtimeTarget)
    (exact : exactServiceName (if isNone configured then runtimeTarget.get "service_name" else configured) = .ok name)
    (sibling : Sibling kit env target defaults) : name ≠ env.stripped "CLOUD_RUN_SERVICE" := by
  obtain ⟨stated,filled,_⟩ := exactServiceName_ok exact
  intro same
  refine sibling (fun empty => filled (same.trans empty)) ?_
  refine bind_ok.mpr ⟨_,read,?_⟩
  obtain ⟨own,found,decoded⟩ := bind_ok.mp resolved
  rw [← same,← stated,statedService]
  split
  · exact bind_ok.mpr ⟨own,found,bind_ok.mpr ⟨runtimeTarget,decoded,rfl⟩⟩
  · rfl

theorem resolved_own {configured : PyVal} {env : Texts} (read : configuredService target defaults = .ok configured)
    (kept : takesEnvironment env true configured = false) :
    resolveRuntimeTarget kit target defaults env true = (do let own ← ownRuntimeTarget target defaults; decodeTarget kit own) := by
  unfold resolveRuntimeTarget
  rw [rawRuntimeTarget_own read kept]

theorem resolved_alike (service : one.stripped "CLOUD_RUN_SERVICE" = two.stripped "CLOUD_RUN_SERVICE")
    (same : one.stripped "RUNTIME_TARGET_JSON" = two.stripped "RUNTIME_TARGET_JSON") :
    resolveRuntimeTarget kit target defaults one true = resolveRuntimeTarget kit target defaults two true := by
  unfold resolveRuntimeTarget rawRuntimeTarget takesEnvironment legacyTarget
  rw [service,same]

-- One entry, planned in two environments.
theorem buildTargetPlan_agree {platformConfig : PyVal} {plan other : TargetPlan} (agree : Agree one two)
    (built : buildTargetPlan kit target defaults one true platformConfig = .ok plan)
    (again : buildTargetPlan kit target defaults two true platformConfig = .ok other)
    (sibling : Sibling kit one target defaults) (kept : KeepsOwn one two target defaults) : plan = other := by
  have service : one.stripped "CLOUD_RUN_SERVICE" = two.stripped "CLOUD_RUN_SERVICE" := agree.stripped (by simp [sharedNames])
  have twin : Sibling kit two target defaults := by
    unfold Sibling at sibling ⊢
    rwa [← service]
  cases read : configuredService target defaults with
  | error exc =>
    unfold buildTargetPlan at built
    rw [read] at built
    cases built
  | ok configured =>
    have resolves : resolveRuntimeTarget kit target defaults one true = resolveRuntimeTarget kit target defaults two true := by
      rcases kept with current | owned | alike
      · rw [resolved_own read (keeps_own read built sibling (.inl current)),
          resolved_own read (keeps_own read again twin (.inl (service ▸ current)))]
      · rw [resolved_own read (keeps_own read built sibling (.inr owned)),resolved_own read (keeps_own read again twin (.inr owned))]
      · exact resolved_alike service alike
    have named : one.stripped "CLOUD_RUN_SERVICE" ≠ "" → takesEnvironment one true configured = false :=
      fun current => keeps_own read built sibling (.inl current)
    unfold buildTargetPlan at built again
    rw [read] at built again
    rw [← resolves] at again
    obtain ⟨_,same,built⟩ := bind_ok.mp built
    cases same
    obtain ⟨_,same,again⟩ := bind_ok.mp again
    cases same
    obtain ⟨runtimeTarget,resolved,built⟩ := bind_ok.mp built
    obtain ⟨_,same,again⟩ := bind_ok.mp again
    cases resolved.symm.trans same
    obtain ⟨name,exact,built⟩ := bind_ok.mp built
    obtain ⟨_,same,again⟩ := bind_ok.mp again
    cases exact.symm.trans same
    have apart : name ≠ one.stripped "CLOUD_RUN_SERVICE" := by
      by_cases current : one.stripped "CLOUD_RUN_SERVICE" = ""
      · rw [current]
        exact (exactServiceName_ok exact).2.1
      · rw [resolved_own read (named current)] at resolved
        exact planned_apart read resolved exact sibling
    obtain ⟨_,_,built⟩ := bind_ok.mp built
    obtain ⟨_,_,again⟩ := bind_ok.mp again
    obtain ⟨_,_,built⟩ := bind_ok.mp built
    obtain ⟨_,_,again⟩ := bind_ok.mp again
    obtain ⟨profile,found,built⟩ := bind_ok.mp built
    obtain ⟨_,same,again⟩ := bind_ok.mp again
    cases found.symm.trans same
    obtain ⟨status,eligible,built⟩ := bind_ok.mp built
    obtain ⟨_,same,again⟩ := bind_ok.mp again
    cases eligible.symm.trans same
    obtain ⟨config,known,built⟩ := bind_ok.mp built
    obtain ⟨_,same,again⟩ := bind_ok.mp again
    cases known.symm.trans same
    obtain ⟨derived,copied,built⟩ := bind_ok.mp built
    obtain ⟨_,same,again⟩ := bind_ok.mp again
    cases copied.symm.trans same
    rw [completePlan_agree ⟨rfl,apart⟩ agree] at built
    exact Except.ok.inj (built.symm.trans again)

-- The listed inventory is the same in both environments.
theorem listed_again {inventory : Inventory} (agree : Agree one two) (listed : loadTargetEntries kit one = .ok inventory)
    (perService : inventory.perServiceMode = true) : loadTargetEntries kit two = .ok inventory := by
  have raw : one.stripped targetsEnv = two.stripped targetsEnv := agree.stripped (by simp [sharedNames])
  unfold loadTargetEntries at listed ⊢
  rw [← raw]
  by_cases empty : one.stripped targetsEnv = ""
  · rw [if_pos empty] at listed
    have same := return_ok.mp listed
    have off : (legacyInventory one).perServiceMode = false := rfl
    rw [← same,off] at perService
    cases perService
  · rw [if_neg empty] at listed ⊢
    exact listed

-- Two runs over one inventory: an entry for another service is planned alike, where the
-- environments have no two runtime targets that could be taken for its own.
theorem sibling_plans_agree {inventory : Inventory} {plan other : SyncPlan} (agree : Agree one two)
    (listed : loadTargetEntries kit one = .ok inventory) (perService : inventory.perServiceMode = true)
    (built : buildSyncPlan kit one = .ok plan) (again : buildSyncPlan kit two = .ok other)
    {index : ℕ} {target : Fields} (entry : inventory.entries[index]? = some target)
    (sibling : Sibling kit one target inventory.defaults) (kept : KeepsOwn one two target inventory.defaults) :
    plan.targets[index]? = other.targets[index]? := by
  have config : loadPlatformConfig kit one = loadPlatformConfig kit two := by
    unfold loadPlatformConfig
    rw [agree.stripped (by simp [sharedNames])]
  have entries := listed_again agree listed perService
  unfold buildSyncPlan at built again
  rw [← config,entries] at again
  rw [listed] at built
  obtain ⟨platformConfig,loaded,built⟩ := bind_ok.mp built
  obtain ⟨_,same,again⟩ := bind_ok.mp again
  cases loaded.symm.trans same
  obtain ⟨_,same,built⟩ := bind_ok.mp built
  cases same
  obtain ⟨_,same,again⟩ := bind_ok.mp again
  cases same
  obtain ⟨planned,all,built⟩ := bind_ok.mp built
  obtain ⟨plannedAgain,allAgain,again⟩ := bind_ok.mp again
  obtain ⟨_,_,built⟩ := bind_ok.mp built
  obtain ⟨_,_,again⟩ := bind_ok.mp again
  cases return_ok.mp built
  cases return_ok.mp again
  obtain ⟨first,here,made⟩ := mapM_at all entry
  obtain ⟨second,there,remade⟩ := mapM_at allAgain entry
  rw [perService] at made remade
  rw [here,there,buildTargetPlan_agree agree made remade sibling kept]

section sample

def sampleProfile : String := "hk_global_etf_tactical_rotation"

def sampleTarget (scope service : String) : PyVal :=
  .dict [("account_scope",.str scope),("service_name",.str service),("strategy_profile",.str sampleProfile)]

-- One entry that names its service in its runtime target only.
def sampleListed : PyVal := .dict [("targets",.list [.dict [("runtime_target",sampleTarget "SG" "sibling-service")]])]

def sampleKit : Kit where
  loads text := match [sampleListed,sampleTarget "HK" "own-service"].find? fun document => document.jsonText "," ":" == text with
    | some document => .ok document
    | none => .error ⟨"JSONDecodeError","Expecting value"⟩
  dumps := PyVal.jsonText "," ":"
  canonicalProfile profile := .ok profile
  statusRows := [(sampleProfile,[("eligible",.bool true),("enabled",.bool true)])]
  fileText _ := none
  defaultConfig := .ok (.dict [])

def sampleEnv (extra : Texts) : Texts :=
  [(targetsEnv,sampleListed.jsonText "," ":"),("GLOBAL_TELEGRAM_CHAT_ID","1"),("NOTIFY_LANG","en")] ++ extra

def switchEnv (enabled : String) : Texts := sampleEnv [("RUNTIME_TARGET_ENABLED",enabled)]

def ownTargetEnv : Texts := sampleEnv [("RUNTIME_TARGET_JSON",(sampleTarget "HK" "own-service").jsonText "," ":")]

def plannedServices (env : Texts) : Option (List String) :=
  (buildSyncPlan sampleKit env).toOption.map fun plan => plan.targets.map TargetPlan.serviceName

def listedMode (env : Texts) : Option (Bool × ℕ) :=
  (loadTargetEntries sampleKit env).toOption.map fun inventory => (inventory.perServiceMode,inventory.entries.length)

theorem planned_of {env : Texts} {services : List String} (planned : plannedServices env = some services) :
    ∃ plan, buildSyncPlan sampleKit env = .ok plan ∧ plan.targets.map TargetPlan.serviceName = services := by
  unfold plannedServices at planned
  cases built : buildSyncPlan sampleKit env with
  | error exc => rw [built] at planned; cases planned
  | ok plan => rw [built] at planned; exact ⟨plan,rfl,Option.some.inj planned⟩

theorem listed_of {env : Texts} (listed : listedMode env = some (true,1)) : ∃ inventory target,
    loadTargetEntries sampleKit env = .ok inventory ∧ inventory.perServiceMode = true ∧ inventory.entries[0]? = some target := by
  unfold listedMode at listed
  cases found : loadTargetEntries sampleKit env with
  | error exc => rw [found] at listed; cases listed
  | ok inventory =>
    rw [found] at listed
    have both := Prod.mk.inj (Option.some.inj listed)
    obtain ⟨target,only⟩ := List.length_eq_one_iff.mp both.2
    exact ⟨inventory,target,rfl,both.1,by rw [only]; rfl⟩

theorem plain_planned : ∃ plan, buildSyncPlan sampleKit (sampleEnv []) = .ok plan ∧
    plan.targets.map TargetPlan.serviceName = ["sibling-service"] := planned_of (by decide +kernel)

theorem plain_listed : ∃ inventory target, loadTargetEntries sampleKit (sampleEnv []) = .ok inventory ∧
    inventory.perServiceMode = true ∧ inventory.entries[0]? = some target := listed_of (by decide +kernel)

theorem plain_unnamed : (sampleEnv []).stripped "CLOUD_RUN_SERVICE" = "" := by decide +kernel

-- The environment's switch is for its own service.
theorem switch_leaves_sibling : ∃ plan other, buildSyncPlan sampleKit (sampleEnv []) = .ok plan ∧
    buildSyncPlan sampleKit (switchEnv "false") = .ok other ∧ plan.targets[0]? = other.targets[0]? := by
  obtain ⟨plan,built,_⟩ := plain_planned
  obtain ⟨other,again,_⟩ := planned_of (show plannedServices (switchEnv "false") = some ["sibling-service"] by decide +kernel)
  obtain ⟨inventory,target,listed,perService,entry⟩ := plain_listed
  have agree : Agree (sampleEnv []) (switchEnv "false") := by unfold Agree; decide +kernel
  refine ⟨plan,other,built,again,sibling_plans_agree agree listed perService built again entry ?_ (.inr (.inr ?_))⟩
  · intro current
    exact absurd plain_unnamed current
  · decide +kernel

-- With CLOUD_RUN_SERVICE unset, the environment's runtime target takes the place of a
-- sibling's that names its service nowhere else.
theorem environment_replaces_sibling : ¬∀ (kit : Kit) (one two : Texts) (inventory : Inventory) (plan other : SyncPlan) (index : ℕ)
    (target : Fields), Agree one two → loadTargetEntries kit one = .ok inventory → inventory.perServiceMode = true →
    buildSyncPlan kit one = .ok plan → buildSyncPlan kit two = .ok other → inventory.entries[index]? = some target →
    Sibling kit one target inventory.defaults → plan.targets[index]? = other.targets[index]? := by
  intro claimed
  obtain ⟨plan,built,services⟩ := plain_planned
  obtain ⟨other,again,replaced⟩ := planned_of (show plannedServices ownTargetEnv = some ["own-service"] by decide +kernel)
  obtain ⟨inventory,target,listed,perService,entry⟩ := plain_listed
  have agree : Agree (sampleEnv []) ownTargetEnv := by unfold Agree; decide +kernel
  have same := claimed sampleKit _ _ inventory plan other 0 target agree listed perService built again entry
    fun current => absurd plain_unnamed current
  have first : (plan.targets.map TargetPlan.serviceName)[0]? = some "sibling-service" := by rw [services]; rfl
  have second : (other.targets.map TargetPlan.serviceName)[0]? = some "own-service" := by rw [replaced]; rfl
  rw [List.getElem?_map] at first second
  rw [same,second] at first
  exact absurd (Option.some.inj first) (by decide)

end sample

end LongBridge.Deploy
