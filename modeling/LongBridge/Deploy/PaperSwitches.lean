import LongBridge.Deploy.Siblings
import LongBridge.Python.Symbols

namespace LongBridge.Deploy
open Effects

namespace Texts

theorem lookup_set_same (texts : Texts) (name value : String) : (texts.set name value).lookup name = some value := by
  induction texts with
  | nil => simp [set]
  | cons entry rest ih =>
    obtain ⟨key,old⟩ := entry
    by_cases same : key = name
    · subst same; simp [set]
    · have miss : (name == key) = false := by simpa using Ne.symm same
      simp [set,same,List.lookup_cons,miss,ih]

theorem lookup_set_other (texts : Texts) {name other : String} (value : String) (unlike : other ≠ name) :
    (texts.set name value).lookup other = texts.lookup other := by
  induction texts with
  | nil =>
    have miss : (other == name) = false := by simpa using unlike
    simp [set,List.lookup_cons,miss]
  | cons entry rest ih =>
    obtain ⟨key,old⟩ := entry
    by_cases same : key = name
    · subst same
      have miss : (other == key) = false := by simpa using unlike
      simp [set,List.lookup_cons,miss]
    · simp [set,same,List.lookup_cons,ih]

end Texts

-- What the layers state for a variable, before an account is made up.
def statedValue (scope : Scope) (name : String) : Except PyExc (Option String) := do
  let explicit ← scope.value name (sharedTargetFallbackEnv.contains name)
  return ((switchedValue scope name explicit).or (dryRunValue scope name)).or (scope.strategyDefaults.lookup name) |>.or
    ((overrideValue scope name).or (enabledDefault name))

-- What the runtime target says of itself.
def statedDryRun (scope : Scope) : Bool := isOn ((coerceEnvValue scope.kit (scope.runtimeTarget.get "dry_run_only")).getD "")

def executionMode (runtimeTarget : Fields) : String := lower (strip (runtimeTarget.get "execution_mode").textOrEmpty)

def deployedDryRun (values : Texts) : Bool := isOn ((values.lookup "LONGBRIDGE_DRY_RUN_ONLY").getD "")

-- The configuration that is deployed is a paper dry run.
def DeploysPaperDryRun (kit : Kit) (values : Texts) : Prop :=
  deployedDryRun values = true ∧ ∃ text fields, values.lookup "RUNTIME_TARGET_JSON" = some text ∧ kit.loads text = .ok (.dict fields) ∧
    executionMode fields = "paper"

-- `_resolve_paper_execution_command_..._enabled` over the deployed variables.
def resolvePaperSwitch (name role : String) (values : Texts) (dryRunOnly : Bool) : Except PyExc Bool :=
  let enabled := ["1","true","t","yes","y","on"].contains (lower (strip ((values.lookup name).getD "")))
  if enabled && !dryRunOnly then
    .error ⟨"RuntimeError","durable execution command " ++ role ++ " is paper-only and cannot be enabled live"⟩
  else .ok enabled

def resolvePaperExecutionCommandProducerEnabled : Texts → Bool → Except PyExc Bool :=
  resolvePaperSwitch "LONGBRIDGE_DURABLE_EXECUTION_COMMAND_PAPER_ENABLED" "producer"

def resolvePaperExecutionCommandConsumerEnabled : Texts → Bool → Except PyExc Bool :=
  resolvePaperSwitch "LONGBRIDGE_DURABLE_EXECUTION_COMMAND_PAPER_CONSUMER_ENABLED" "consumer"

section loop
variable {scope : Scope} {paper : Bool} {name : String} {state after : Texts × List String} {names : List String}

theorem optionalValue_stated (values : Texts) (plain : name ≠ "LONGBRIDGE_PHYSICAL_ACCOUNT_ID") :
    optionalValue scope values name = statedValue scope name := by
  unfold optionalValue statedValue accountValue
  rw [if_neg plain]
  cases scope.value name (sharedTargetFallbackEnv.contains name) with
  | error exc => rfl
  | ok explicit =>
    simp only [bind,Except.bind]
    split
    · rename_i text found
      rw [found]
    · rename_i missing
      rw [missing]

-- One variable leaves the others alone.
theorem addOptional_other {other : String} (added : addOptional scope paper state other = .ok after) (unlike : name ≠ other) :
    after.1.lookup name = state.1.lookup name ∧ (name ∈ after.2 ↔ name ∈ state.2) := by
  obtain ⟨value,_,added⟩ := bind_ok.mp added
  cases return_ok.mp added
  split
  · simp [unlike]
  · split
    · exact ⟨Texts.lookup_set_other _ _ unlike,Iff.rfl⟩
    · split
      · exact ⟨rfl,Iff.rfl⟩
      · simp [unlike]

theorem addOptionals_other (added : names.foldlM (addOptional scope paper) state = .ok after) (absent : name ∉ names) :
    after.1.lookup name = state.1.lookup name ∧ (name ∈ after.2 ↔ name ∈ state.2) := by
  induction names generalizing state with
  | nil =>
    cases added
    exact ⟨rfl,Iff.rfl⟩
  | cons other rest ih =>
    rw [List.mem_cons,not_or] at absent
    rw [List.foldlM_cons] at added
    obtain ⟨middle,first,added⟩ := bind_ok.mp added
    obtain ⟨same,removed⟩ := addOptional_other first absent.1
    obtain ⟨later,kept⟩ := ih added absent.2
    exact ⟨later.trans same,kept.trans removed⟩

-- What the loop makes of one of its variables.
theorem addOptionals_own (added : names.foldlM (addOptional scope paper) state = .ok after) (nodup : names.Nodup)
    (member : name ∈ names) (plain : name ≠ "LONGBRIDGE_PHYSICAL_ACCOUNT_ID") (unset : state.1.lookup name = none) :
    ∃ value, statedValue scope name = .ok value ∧
      after.1.lookup name = (if paperOnlyDurableCommandEnv.contains name && !paper then none else value) ∧
      (after.1.lookup name = none → name ∈ after.2) := by
  obtain ⟨front,rest,rfl⟩ := List.append_of_mem member
  rw [List.nodup_append,List.nodup_cons] at nodup
  obtain ⟨_,⟨notRest,_⟩,apart⟩ := nodup
  have notFront : name ∉ front := fun inside => apart name inside name (List.mem_cons_self ..) rfl
  rw [List.foldlM_append] at added
  obtain ⟨before,first,added⟩ := bind_ok.mp added
  rw [List.foldlM_cons] at added
  obtain ⟨middle,own,last⟩ := bind_ok.mp added
  have start := (addOptionals_other first notFront).1.trans unset
  obtain ⟨final,removed⟩ := addOptionals_other last notRest
  obtain ⟨value,stated,own⟩ := bind_ok.mp own
  rw [optionalValue_stated before.1 plain] at stated
  refine ⟨value,stated,?_⟩
  rw [final,removed]
  cases return_ok.mp own
  split
  · exact ⟨start,fun _ => by simp⟩
  · cases value with
    | some text => simp [Texts.lookup_set_same]
    | none =>
      dsimp only
      exact ⟨start,fun _ => by simp⟩

theorem addRequired_other {other : String} (added : addRequired scope state other = .ok after) (unlike : name ≠ other) :
    after.1.lookup name = state.1.lookup name := by
  obtain ⟨value,_,added⟩ := bind_ok.mp added
  cases return_ok.mp added
  split
  · exact Texts.lookup_set_other _ _ unlike
  · rfl

theorem addRequireds_other (added : names.foldlM (addRequired scope) state = .ok after) (absent : name ∉ names) :
    after.1.lookup name = state.1.lookup name := by
  induction names generalizing state with
  | nil =>
    cases added
    rfl
  | cons other rest ih =>
    rw [List.mem_cons,not_or] at absent
    rw [List.foldlM_cons] at added
    obtain ⟨middle,first,added⟩ := bind_ok.mp added
    exact (ih added absent.2).trans (addRequired_other first absent.1)

end loop

theorem optionalTargetEnv_nodup : optionalTargetEnv.Nodup := by decide +kernel

section plans
variable {scope : Scope} {status : Fields} {profile name : String} {values : Texts} {removed : List String} {plan : TargetPlan}

-- The switch for the paper-only variables looks at the runtime target alone: no variable
-- is resolved yet.
theorem paper_decided (scope : Scope) {named : Texts} (unset : named.lookup "LONGBRIDGE_DRY_RUN_ONLY" = none) :
    isExplicitPaperDryRunTarget scope.kit scope.runtimeTarget named = true ↔
      statedDryRun scope = true ∧ executionMode scope.runtimeTarget = "paper" := by
  unfold isExplicitPaperDryRunTarget statedDryRun executionMode
  rw [unset]
  simp

theorem planVariables_facts (planned : planVariables scope status profile = .ok (values,removed)) :
    values.lookup "RUNTIME_TARGET_JSON" = some (scope.kit.dumps (.dict scope.runtimeTarget)) ∧
      (∃ dryRun, statedValue scope "LONGBRIDGE_DRY_RUN_ONLY" = .ok dryRun ∧ values.lookup "LONGBRIDGE_DRY_RUN_ONLY" = dryRun) ∧
      ∀ name ∈ paperOnlyDurableCommandEnv, ∃ value, statedValue scope name = .ok value ∧
        (values.lookup name = none → name ∈ removed) ∧
        (statedDryRun scope = true ∧ executionMode scope.runtimeTarget = "paper" → values.lookup name = value) ∧
        (¬(statedDryRun scope = true ∧ executionMode scope.runtimeTarget = "paper") → values.lookup name = none) := by
  obtain ⟨⟨required,missing⟩,requireds,planned⟩ := bind_ok.mp planned
  obtain ⟨⟨final,dropped⟩,added,planned⟩ := bind_ok.mp planned
  obtain ⟨_,_,planned⟩ := bind_ok.mp planned
  obtain ⟨_,_,planned⟩ := bind_ok.mp planned
  cases return_ok.mp planned
  have unset : ∀ name, name ∉ requiredEnv → name ≠ "STRATEGY_PROFILE" → name ≠ "RUNTIME_TARGET_JSON" →
      ((required.set "STRATEGY_PROFILE" profile).set "RUNTIME_TARGET_JSON"
        (scope.kit.dumps (.dict scope.runtimeTarget))).lookup name = none := by
    intro name plain other json
    rw [Texts.lookup_set_other _ _ json,Texts.lookup_set_other _ _ other,addRequireds_other requireds plain]
    rfl
  refine ⟨?_,?_,?_⟩
  · rw [(addOptionals_other added (by decide +kernel)).1]
    exact Texts.lookup_set_same ..
  · obtain ⟨dryRun,stated,found,_⟩ := addOptionals_own added optionalTargetEnv_nodup (by decide +kernel) (by decide)
      (unset "LONGBRIDGE_DRY_RUN_ONLY" (by decide) (by decide) (by decide))
    have open_ : paperOnlyDurableCommandEnv.contains "LONGBRIDGE_DRY_RUN_ONLY" = false := by decide
    rw [open_,Bool.false_and,if_neg Bool.false_ne_true] at found
    exact ⟨dryRun,stated,found⟩
  · intro name switch
    have listed : name ∈ optionalTargetEnv ∧ name ≠ "LONGBRIDGE_PHYSICAL_ACCOUNT_ID" ∧ name ∉ requiredEnv ∧
        name ≠ "STRATEGY_PROFILE" ∧ name ≠ "RUNTIME_TARGET_JSON" := by
      simp only [paperOnlyDurableCommandEnv,List.mem_cons,List.not_mem_nil,or_false] at switch
      rcases switch with rfl | rfl <;> decide +kernel
    obtain ⟨member,plain,notRequired,other,json⟩ := listed
    obtain ⟨value,stated,found,gone⟩ := addOptionals_own added optionalTargetEnv_nodup member plain (unset name notRequired other json)
    have decided := paper_decided scope (unset "LONGBRIDGE_DRY_RUN_ONLY" (by decide) (by decide) (by decide))
    have own : paperOnlyDurableCommandEnv.contains name = true := List.contains_iff_mem.mpr switch
    refine ⟨value,stated,gone,?_,?_⟩
    · intro both
      rw [found,own,decided.mpr both]
      rfl
    · intro neither
      rw [found,own,Bool.eq_false_iff.mpr (mt decided.mp neither)]
      rfl

-- The execution mode survives the text that is deployed.
def ReadsBack (kit : Kit) (runtimeTarget : Fields) : Prop :=
  ∃ again, kit.loads (kit.dumps (.dict runtimeTarget)) = .ok (.dict again) ∧
    (executionMode again = "paper" ↔ executionMode runtimeTarget = "paper")

-- The dry-run flag that is deployed says what the runtime target says, or no paper target is at stake.
def DryRunAgrees (scope : Scope) : Prop :=
  executionMode scope.runtimeTarget = "paper" →
    ∀ dryRun, statedValue scope "LONGBRIDGE_DRY_RUN_ONLY" = .ok dryRun → isOn (dryRun.getD "") = statedDryRun scope

theorem deploys_iff (reads : ReadsBack scope.kit scope.runtimeTarget)
    (json : values.lookup "RUNTIME_TARGET_JSON" = some (scope.kit.dumps (.dict scope.runtimeTarget))) :
    DeploysPaperDryRun scope.kit values ↔ deployedDryRun values = true ∧ executionMode scope.runtimeTarget = "paper" := by
  obtain ⟨again,loaded,mode⟩ := reads
  unfold DeploysPaperDryRun
  apply and_congr_right
  intro _
  constructor
  · intro found
    obtain ⟨text,fields,stated,decoded,paper⟩ := found
    cases json.symm.trans stated
    cases loaded.symm.trans decoded
    exact mode.mp paper
  · intro paper
    exact ⟨_,again,json,loaded,mode.mpr paper⟩

-- Where a switch for a paper command is deployed, the runtime it is deployed to takes it.
theorem resolvePaperSwitch_ok {role : String} (fits : (values.lookup name).isSome = true → deployedDryRun values = true) :
    ∃ enabled, resolvePaperSwitch name role values (deployedDryRun values) = .ok enabled := by
  unfold resolvePaperSwitch
  cases found : values.lookup name with
  | none => exact ⟨false,rfl⟩
  | some text =>
    rw [found] at fits
    rw [fits rfl]
    simp only [Bool.not_true,Bool.and_false]
    exact ⟨_,rfl⟩

-- A switch goes out with exactly the paper dry runs, or is removed.
def SwitchFits (kit : Kit) (plan : TargetPlan) (name : String) : Prop :=
  ((plan.env.lookup name).isSome = true ↔ DeploysPaperDryRun kit plan.env) ∧
    (¬DeploysPaperDryRun kit plan.env → name ∈ plan.removeEnvVars) ∧
    ∀ role, ∃ enabled, resolvePaperSwitch name role plan.env (deployedDryRun plan.env) = .ok enabled

theorem completePlan_switch (completed : completePlan scope status profile = .ok plan) (reads : ReadsBack scope.kit scope.runtimeTarget)
    (switch : name ∈ paperOnlyDurableCommandEnv) (configured : ∃ text, statedValue scope name = .ok (some text)) :
    SwitchFits scope.kit plan name ↔ DryRunAgrees scope := by
  obtain ⟨⟨values,removed⟩,planned,completed⟩ := bind_ok.mp completed
  obtain ⟨scheduler,_,completed⟩ := bind_ok.mp completed
  cases return_ok.mp completed
  obtain ⟨json,⟨dryRun,stated,deployed⟩,switches⟩ := planVariables_facts planned
  obtain ⟨value,known,gone,kept,dropped⟩ := switches name switch
  obtain ⟨text,configured⟩ := configured
  cases known.symm.trans configured
  have target := deploys_iff reads json
  have flag : deployedDryRun values = isOn (dryRun.getD "") := by
    unfold deployedDryRun
    rw [deployed]
  constructor
  · intro fits paper again same
    cases stated.symm.trans same
    have goesOut := fits.1
    dsimp only at goesOut
    rw [target,flag] at goesOut
    by_cases allowed : statedDryRun scope = true
    · have present := kept ⟨allowed,paper⟩
      rw [allowed]
      exact (goesOut.mp (by rw [present]; rfl)).1
    · have absent := dropped fun both => allowed both.1
      rw [Bool.not_eq_true] at allowed
      rw [allowed,← Bool.not_eq_true]
      intro on
      have present := goesOut.mpr ⟨on,paper⟩
      rw [absent] at present
      cases present
  · intro agrees
    have decided : (values.lookup name).isSome = true ↔ DeploysPaperDryRun scope.kit values := by
      rw [target,flag]
      by_cases paper : executionMode scope.runtimeTarget = "paper"
      · rw [agrees paper dryRun stated]
        by_cases allowed : statedDryRun scope = true
        · rw [kept ⟨allowed,paper⟩]
          simp [allowed,paper]
        · rw [dropped fun both => allowed both.1]
          simp [allowed]
      · rw [dropped fun both => paper both.2]
        simp [paper]
    refine ⟨decided,?_,?_⟩
    · intro other
      have absent : values.lookup name = none := by
        rw [← Option.not_isSome_iff_eq_none]
        exact mt decided.mp other
      simp only [List.mem_insertionSort,List.mem_filter,absent,Option.isNone_none,and_true,mem_distinct]
      exact gone absent
    · intro role
      exact resolvePaperSwitch_ok fun present => (decided.mp present).1

-- What `_build_target_plan` knows of a target when it turns to the variables.
def targetScope (kit : Kit) (target defaults : Fields) (env : Texts) (perServiceMode : Bool) (platformConfig : PyVal) :
    Except PyExc Scope := do
  let configured ← configuredService target defaults
  let runtimeTarget ← resolveRuntimeTarget kit target defaults env perServiceMode
  let name ← exactServiceName (if isNone configured then runtimeTarget.get "service_name" else configured)
  let profile ← kit.canonicalProfile (strip (runtimeTarget.get "strategy_profile").textOrEmpty)
  let config ← strategyConfig platformConfig profile
  let derived ← deriveStrategyEnvDefaults config
  let completed := (runtimeTarget.set "service_name" (.str name)).set "strategy_profile" (.str profile)
  return ⟨kit,target,defaults,env,perServiceMode,name,completed,withOverrides kit derived (overridesOf completed)⟩

theorem buildTargetPlan_scope {kit : Kit} {target defaults : Fields} {env : Texts} {perServiceMode : Bool} {platformConfig : PyVal}
    (built : buildTargetPlan kit target defaults env perServiceMode platformConfig = .ok plan) :
    ∃ scope status profile, targetScope kit target defaults env perServiceMode platformConfig = .ok scope ∧ scope.kit = kit ∧
      completePlan scope status profile = .ok plan := by
  obtain ⟨configured,read,built⟩ := bind_ok.mp built
  obtain ⟨runtimeTarget,resolved,built⟩ := bind_ok.mp built
  obtain ⟨name,exact,built⟩ := bind_ok.mp built
  obtain ⟨_,_,built⟩ := bind_ok.mp built
  obtain ⟨_,_,built⟩ := bind_ok.mp built
  obtain ⟨profile,canonical,built⟩ := bind_ok.mp built
  obtain ⟨status,_,built⟩ := bind_ok.mp built
  obtain ⟨config,known,built⟩ := bind_ok.mp built
  obtain ⟨derived,copied,built⟩ := bind_ok.mp built
  refine ⟨_,status,profile,?_,?_,built⟩
  · exact bind_ok.mpr ⟨configured,read,bind_ok.mpr ⟨runtimeTarget,resolved,bind_ok.mpr ⟨name,exact,bind_ok.mpr ⟨profile,canonical,
      bind_ok.mpr ⟨config,known,bind_ok.mpr ⟨derived,copied,rfl⟩⟩⟩⟩⟩⟩
  · rfl

-- A configured switch goes out with exactly the paper dry runs if and only if the flag that is
-- deployed with a paper target says what that target says of itself.
theorem paper_switches_fit_iff {kit : Kit} {env : Texts} {platformConfig : PyVal} {inventory : Inventory} {sync : SyncPlan}
    {target : Fields} {index : ℕ} (config : loadPlatformConfig kit env = .ok platformConfig)
    (listed : loadTargetEntries kit env = .ok inventory) (built : buildSyncPlan kit env = .ok sync)
    (entry : inventory.entries[index]? = some target) (planned : sync.targets[index]? = some plan)
    (resolved : targetScope kit target inventory.defaults env inventory.perServiceMode platformConfig = .ok scope)
    (reads : ReadsBack kit scope.runtimeTarget) (switch : name ∈ paperOnlyDurableCommandEnv)
    (configured : ∃ text, statedValue scope name = .ok (some text)) : SwitchFits kit plan name ↔ DryRunAgrees scope := by
  obtain ⟨_,same,built⟩ := bind_ok.mp built
  cases config.symm.trans same
  obtain ⟨_,same,built⟩ := bind_ok.mp built
  cases listed.symm.trans same
  obtain ⟨plans,all,built⟩ := bind_ok.mp built
  obtain ⟨_,_,built⟩ := bind_ok.mp built
  cases return_ok.mp built
  obtain ⟨found,here,made⟩ := mapM_at all entry
  cases planned.symm.trans here
  obtain ⟨own,status,profile,known,own_kit,completed⟩ := buildTargetPlan_scope made
  cases resolved.symm.trans known
  subst own_kit
  exact completePlan_switch completed reads switch configured

end plans

section sample

-- One service of the old kind, whose target says dry run while the flag beside it says no.
def paperTarget : Fields := [("dry_run_only",.bool true),("execution_mode",.str "paper"),("strategy_profile",.str "ibit_smart_dca")]

def paperTargetText : String := "\x7b\"dry_run_only\":true,\"execution_mode\":\"paper\",\"strategy_profile\":\"ibit_smart_dca\"\x7d"

def deployedTarget : Fields := (paperTarget.set "service_name" (.str "paper")).set "strategy_profile" (.str "ibit_smart_dca")

def producerSwitch : String := "LONGBRIDGE_DURABLE_EXECUTION_COMMAND_PAPER_ENABLED"

def paperKit : Kit where
  loads text :=
    if text = paperTargetText then .ok (.dict paperTarget)
    else if text = (PyVal.dict deployedTarget).jsonText "," ":" then .ok (.dict deployedTarget)
    else .error ⟨"JSONDecodeError","Expecting value"⟩
  dumps := PyVal.jsonText "," ":"
  canonicalProfile profile := .ok profile
  statusRows := [("ibit_smart_dca",[("eligible",.bool true),("enabled",.bool true)])]
  fileText _ := none
  defaultConfig := .ok (.dict [])

def paperEnv : Texts :=
  [("CLOUD_RUN_SERVICE","paper"),("RUNTIME_TARGET_JSON",paperTargetText),("GLOBAL_TELEGRAM_CHAT_ID","1"),("NOTIFY_LANG","en"),
    ("ACCOUNT_PREFIX","PAPER"),("LONGBRIDGE_DRY_RUN_ONLY","false"),(producerSwitch,"true")]

structure PaperFacts where
  sync : SyncPlan
  target : Fields
  plan : TargetPlan
  scope : Scope
  platformConfig : PyVal
  inventory : Inventory
  again : Fields
  dryRun : Option String
  switch : Option String

def paperFacts : Option PaperFacts := do
  let platformConfig ← (loadPlatformConfig paperKit paperEnv).toOption
  let inventory ← (loadTargetEntries paperKit paperEnv).toOption
  let sync ← (buildSyncPlan paperKit paperEnv).toOption
  let target ← inventory.entries[0]?
  let plan ← sync.targets[0]?
  let scope ← (targetScope paperKit target inventory.defaults paperEnv inventory.perServiceMode platformConfig).toOption
  let again ← (paperKit.loads (paperKit.dumps (.dict scope.runtimeTarget))).toOption.bind PyVal.asMapping
  let dryRun ← (statedValue scope "LONGBRIDGE_DRY_RUN_ONLY").toOption
  let switch ← (statedValue scope producerSwitch).toOption
  return ⟨sync,target,plan,scope,platformConfig,inventory,again,dryRun,switch⟩

def PaperFacts.view (facts : PaperFacts) : List (Option String) :=
  [facts.plan.env.lookup producerSwitch,facts.plan.env.lookup "LONGBRIDGE_DRY_RUN_ONLY",facts.switch,facts.dryRun,
    some (executionMode facts.again),some (executionMode facts.scope.runtimeTarget),some (toString (statedDryRun facts.scope))]

theorem paperFacts_view : paperFacts.map PaperFacts.view =
    some [some "true",some "false",some "true",some "false",some "paper",some "paper",some "true"] := by decide +kernel

theorem toOption_ok {α : Type} {value : Except PyExc α} {result : α} (found : value.toOption = some result) : value = .ok result := by
  cases value with
  | ok known => cases found; rfl
  | error exc => cases found

structure PaperFacts.Hold (facts : PaperFacts) : Prop where
  config : loadPlatformConfig paperKit paperEnv = .ok facts.platformConfig
  listed : loadTargetEntries paperKit paperEnv = .ok facts.inventory
  built : buildSyncPlan paperKit paperEnv = .ok facts.sync
  entry : facts.inventory.entries[0]? = some facts.target
  planned : facts.sync.targets[0]? = some facts.plan
  resolved : targetScope paperKit facts.target facts.inventory.defaults paperEnv facts.inventory.perServiceMode facts.platformConfig =
    .ok facts.scope
  again : paperKit.loads (paperKit.dumps (.dict facts.scope.runtimeTarget)) = .ok (.dict facts.again)
  dryRun : statedValue facts.scope "LONGBRIDGE_DRY_RUN_ONLY" = .ok facts.dryRun
  switch : statedValue facts.scope producerSwitch = .ok facts.switch

theorem paperFacts_hold : ∃ facts : PaperFacts, facts.Hold ∧ facts.view =
    [some "true",some "false",some "true",some "false",some "paper",some "paper",some "true"] := by
  obtain ⟨facts,found,view⟩ := Option.map_eq_some_iff.mp paperFacts_view
  refine ⟨facts,?_,view⟩
  unfold paperFacts at found
  simp only [Option.bind_eq_bind,Option.bind_eq_some_iff,Option.pure_def,Option.some.injEq] at found
  obtain ⟨_,config,_,listed,_,built,_,entry,_,planned,_,resolved,_,⟨value,loaded,mapping⟩,_,dryRun,_,switch,rfl⟩ := found
  cases value with
  | dict fields =>
    cases mapping
    exact ⟨toOption_ok config,toOption_ok listed,toOption_ok built,entry,planned,toOption_ok resolved,toOption_ok loaded,
      toOption_ok dryRun,toOption_ok switch⟩
  | _ => cases mapping

theorem contradicted_switch_does_not_fit : ∃ sync plan, buildSyncPlan paperKit paperEnv = .ok sync ∧ sync.targets[0]? = some plan ∧
    ¬SwitchFits paperKit plan producerSwitch := by
  obtain ⟨facts,hold,view⟩ := paperFacts_hold
  simp only [PaperFacts.view,List.cons.injEq,Option.some.injEq,and_true] at view
  obtain ⟨_,_,configured,dryRun,mode,paper,own⟩ := view
  refine ⟨facts.sync,facts.plan,hold.built,hold.planned,?_⟩
  rw [paper_switches_fit_iff hold.config hold.listed hold.built hold.entry hold.planned hold.resolved
    ⟨facts.again,hold.again,by rw [mode,paper]⟩ (by decide) ⟨"true",by rw [hold.switch,configured]⟩]
  intro agrees
  have same := agrees paper facts.dryRun hold.dryRun
  have stated : statedDryRun facts.scope = true := by
    cases flag : statedDryRun facts.scope with
    | true => rfl
    | false => rw [flag] at own; exact absurd own (by decide)
  rw [dryRun,stated] at same
  exact absurd same (by decide)

-- The plan deploys the switch with a dry-run flag that says no, and the runtime refuses to start.
theorem live_flag_deploys_switch : ∃ sync plan, buildSyncPlan paperKit paperEnv = .ok sync ∧ sync.targets[0]? = some plan ∧
    plan.env.lookup producerSwitch = some "true" ∧ ¬DeploysPaperDryRun paperKit plan.env ∧
    resolvePaperExecutionCommandProducerEnabled plan.env (deployedDryRun plan.env) =
      .error ⟨"RuntimeError","durable execution command producer is paper-only and cannot be enabled live"⟩ := by
  obtain ⟨facts,hold,view⟩ := paperFacts_hold
  simp only [PaperFacts.view,List.cons.injEq,Option.some.injEq,and_true] at view
  obtain ⟨deployed,flag,_⟩ := view
  have off : deployedDryRun facts.plan.env = false := by
    unfold deployedDryRun
    rw [flag]
    decide
  refine ⟨facts.sync,facts.plan,hold.built,hold.planned,deployed,?_,?_⟩
  · intro both
    have on := both.1
    rw [off] at on
    cases on
  · unfold resolvePaperExecutionCommandProducerEnabled resolvePaperSwitch
    rw [off]
    unfold producerSwitch at deployed
    rw [deployed]
    decide

end sample

end LongBridge.Deploy
