import LongBridge.Risk.NewRiskGate
import LongBridge.Cycle.Orders

namespace LongBridge.OrderAdapter
open Effects NewRiskGate

structure AdapterOrder where
  symbol : String
  orderKind : OrderType
  side : Side
  quantity : ℚ
  submittedPrice : Option ℚ
  allowFractionalShares : Bool
  quantityStep : ℚ

inductive AdapterCall where
  | qpkSubmitOrder (order : AdapterOrder)

abbrev adapterPorts : Ports := ⟨AdapterCall,fun _ => ExecutionReport,Empty⟩

def rejectedReport : ExecutionReport := ⟨"rejected",none,none,none⟩

-- The broker adapter: a buy is evaluated once more, against the snapshot the
-- cycle set, before the shared kit's submit_order is called.
def submitOrder (library : Library) (environment : Environment) (cycleSnapshot : Option Snapshot)
    (order : AdapterOrder) : Script adapterPorts PyExc Unit ExecutionReport :=
  if isAccountNewRiskGateEnabled environment ∧ order.side = .buy then do
    let admission ← Script.fromExcept (evaluateCycleNewRiskAdmission library environment cycleSnapshot)
    if newRiskBuyProhibited admission then pure rejectedReport
    else Script.invoke (P := adapterPorts) (.qpkSubmitOrder order)
  else Script.invoke (P := adapterPorts) (.qpkSubmitOrder order)

-- The daily-loss axis as the gate's tests state it: no limit, no axis; a limit
-- without a loss fact fails closed; a loss at the limit trips it.
def dailyLossTrips (dailyLossUsd limit : Option ℚ) : Bool :=
  match limit,dailyLossUsd with
  | none,_ => false
  | some _,none => true
  | some limit,some loss => limit ≤ loss

-- What the kit's evaluation does with limits: it validates the snapshot first
-- and lets the limits decide nothing but the daily-loss axis.
def LimitsOnlyAddDailyLoss (library : Library) : Prop :=
  ∀ snapshot limit,
    match library.evaluateNewRiskAdmission snapshot none with
    | .error exc => library.evaluateNewRiskAdmission snapshot (runtimeRiskLimitsForDailyLossAxis limit) = .error exc
    | .ok plain => ∃ admission,
      library.evaluateNewRiskAdmission snapshot (runtimeRiskLimitsForDailyLossAxis limit) = .ok admission ∧
      admission.disposition =
        if dailyLossTrips snapshot.dailyLossUsd limit then .newRiskProhibited else plain.disposition

-- The disposition the snapshot gets from every axis but the daily loss.
def otherAxes (library : Library) (snapshot : Snapshot) : Except PyExc Disposition :=
  (failClosed (library.evaluateNewRiskAdmission snapshot none)).map Admission.disposition

theorem failClosed_disposition {library : Library} (documented : LimitsOnlyAddDailyLoss library)
    {snapshot : Snapshot} {limit : Option ℚ} {admission : Admission}
    (evaluated : failClosed (library.evaluateNewRiskAdmission snapshot
      (runtimeRiskLimitsForDailyLossAxis limit)) = .ok admission) :
    ∃ plain, otherAxes library snapshot = .ok plain ∧
      admission.disposition =
        if plain = .newRiskProhibited ∨ dailyLossTrips snapshot.dailyLossUsd limit
        then .newRiskProhibited else plain := by
  have known := documented snapshot limit
  unfold otherAxes
  cases plain : library.evaluateNewRiskAdmission snapshot none with
  | error exc =>
    rw [plain] at known
    rw [known] at evaluated
    refine ⟨_,by rw [evaluated]; rfl,?_⟩
    have gate : exc.kind = gateError := by
      by_contra other
      simp [failClosed,other] at evaluated
    simp only [failClosed,gate,if_true,Except.ok.injEq] at evaluated
    subst evaluated; rfl
  | ok base =>
    rw [plain] at known
    obtain ⟨found,same,disposition⟩ := known
    rw [same] at evaluated
    cases Except.ok.inj evaluated
    refine ⟨base.disposition,rfl,?_⟩
    rw [disposition]
    split <;> split <;> simp_all

theorem submitOrder_buy {library : Library} {environment : Environment} {snapshot : Option Snapshot}
    {order : AdapterOrder} {admission : Admission} (enabled : isAccountNewRiskGateEnabled environment = true)
    (buy : order.side = .buy)
    (evaluated : evaluateCycleNewRiskAdmission library environment snapshot = .ok admission) :
    (submitOrder library environment snapshot order).Steps held () events result after ↔
      if newRiskBuyProhibited admission then events = [] ∧ result = .ok rejectedReport
      else events = [.answered held (.qpkSubmitOrder order) result] := by
  unfold submitOrder
  rw [if_pos ⟨enabled,buy⟩,evaluated,steps_bind]
  simp only [steps_fromExcept]
  constructor
  · rintro (⟨first,second,value,middle,rfl,⟨same,_,rfl⟩,rest⟩ | ⟨error,_,same,_⟩)
    · cases same
      split at rest
      · rename_i stopped
        obtain ⟨rfl,rfl,_⟩ := steps_pure.mp rest
        simp [stopped]
      · rename_i open_
        obtain ⟨rfl,_⟩ := steps_invoke.mp rest
        simp [open_]
    · cases same
  · intro outcome
    refine .inl ⟨[],events,admission,(),rfl,by simp,?_⟩
    split at outcome
    · rename_i stopped
      obtain ⟨rfl,rfl⟩ := outcome
      rw [if_pos stopped]; exact steps_pure.mpr ⟨rfl,rfl,rfl⟩
    · rename_i open_
      rw [if_neg open_]; exact steps_invoke.mpr ⟨outcome,rfl⟩

-- The cycle's admission and the adapter's say the same, and an adapter call
-- answers a buy by a rejection of its own exactly when the cycle's gate prohibits it.
def AdapterAgrees (library : Library) (environment : Environment) (snapshot : Snapshot)
    (cycle adapter : Admission) : Prop :=
  cycle.disposition = adapter.disposition ∧
  ∀ order : AdapterOrder, order.side = .buy → ∀ held events result after,
    (submitOrder library environment (some snapshot) order).Steps held () events result after →
      ((events = [] ∧ result = .ok rejectedReport) ↔ newRiskBuyProhibited cycle = true)

theorem buy_rejection_exact {library : Library} {environment : Environment} {snapshot : Snapshot}
    {cycle adapter : Admission} (enabled : isAccountNewRiskGateEnabled environment = true)
    (evaluated : evaluateCycleNewRiskAdmission library environment (some snapshot) = .ok adapter)
    (same : cycle.disposition = adapter.disposition) : AdapterAgrees library environment snapshot cycle adapter := by
  refine ⟨same,?_⟩
  intro order buy held events result after steps
  have outcome := (submitOrder_buy enabled buy evaluated).mp steps
  have verdict : newRiskBuyProhibited cycle = newRiskBuyProhibited adapter := by
    unfold newRiskBuyProhibited; rw [same]
  rw [verdict]
  split at outcome
  · rename_i stopped; simp [outcome,stopped]
  · rename_i passed; simp [outcome,passed]

-- Both sides resolve every fact from the same snapshot but the loss limit: the
-- adapter asks for it without the portfolio.
theorem adapter_agrees_exactly {library : Library} {environment : Environment} (portfolio : Fields)
    (execution : Option Fields) {snapshot : Snapshot} {cycle adapter : Admission}
    (documented : LimitsOnlyAddDailyLoss library)
    (enabled : isAccountNewRiskGateEnabled environment = true)
    (built : buildSnapshotFromPortfolio library environment portfolio execution = .ok snapshot)
    (gate : evaluatePortfolioNewRiskAdmission library environment portfolio execution = .ok cycle)
    (again : evaluateCycleNewRiskAdmission library environment (some snapshot) = .ok adapter) :
    AdapterAgrees library environment snapshot cycle adapter ↔
      otherAxes library snapshot = .ok .newRiskProhibited ∨
      dailyLossTrips snapshot.dailyLossUsd (resolveMaxDailyLossUsd library environment (some portfolio)) =
        dailyLossTrips snapshot.dailyLossUsd (resolveMaxDailyLossUsd library environment none) := by
  have fromPortfolio : failClosed (library.evaluateNewRiskAdmission snapshot (runtimeRiskLimitsForDailyLossAxis
      (resolveMaxDailyLossUsd library environment (some portfolio)))) = .ok cycle := by
    rw [evaluatePortfolioNewRiskAdmission,built] at gate; exact gate
  obtain ⟨plain,axes,first⟩ := failClosed_disposition documented fromPortfolio
  obtain ⟨_,again_axes,second⟩ := failClosed_disposition documented again
  rw [axes] at again_axes ⊢
  cases Except.ok.inj again_axes
  have agreement : cycle.disposition = adapter.disposition ↔ plain = .newRiskProhibited ∨
      dailyLossTrips snapshot.dailyLossUsd (resolveMaxDailyLossUsd library environment (some portfolio)) =
        dailyLossTrips snapshot.dailyLossUsd (resolveMaxDailyLossUsd library environment none) := by
    rw [first,second]
    by_cases stopped : plain = .newRiskProhibited
    · simp [stopped]
    · simp only [stopped,false_or]
      cases dailyLossTrips snapshot.dailyLossUsd (resolveMaxDailyLossUsd library environment (some portfolio)) <;>
        cases dailyLossTrips snapshot.dailyLossUsd (resolveMaxDailyLossUsd library environment none) <;>
        simp [stopped,eq_comm]
  constructor
  · intro agrees
    exact (agreement.mp agrees.1).imp_left (fun stopped => by rw [stopped])
  · intro condition
    refine buy_rejection_exact enabled again (agreement.mpr (condition.imp_left ?_))
    intro stopped; exact Except.ok.inj stopped

def fillMissing (fields : Fields) (key value : String) : Fields :=
  if fields.has key then fields else fields.set key (.str value)

-- The kit as far as the gate's tests pin it down; no drift store, no policy file.
def testedLibrary : Library where
  applyCycleNewRiskHealthAxes projection evidence :=
    let verified := evidence.observationOk && !evidence.unknownPending &&
      (!evidence.digestsConfigured || evidence.digestsVerified)
    fillMissing (fillMissing (fillMissing projection
      "observation_status" (if evidence.observationOk then "COMPLETE" else "UNAVAILABLE"))
      "reconciliation_status" (if verified then "VERIFIED" else "UNVERIFIED"))
      "circuit_breaker_state" (if evidence.unknownPending || evidence.durableBreakerOpen then "OPEN" else "CLOSED")
  resolveProductionDriftStatusFromStore _ _ := none
  validateSnapshot _ := .ok ()
  evaluateNewRiskAdmission snapshot limits :=
    let reasons :=
      (if snapshot.equityUsd.isNone then ["EQUITY_UNKNOWN_FAIL_CLOSED"] else []) ++
      (if snapshot.reconciliationStatus = "VERIFIED" then [] else ["RECONCILIATION_NOT_VERIFIED"]) ++
      (if snapshot.circuitBreakerState = "CLOSED" then [] else ["CIRCUIT_BREAKER_OPEN"]) ++
      (match limits,snapshot.dailyLossUsd with
        | none,_ => []
        | some _,none => ["DAILY_LOSS_UNKNOWN_FAIL_CLOSED"]
        | some limits,some loss => if limits.maxDailyLossUsd ≤ loss then ["DAILY_LOSS_LIMIT_EXCEEDED"] else [])
    .ok ⟨if reasons.isEmpty then .allowNewRisk else .newRiskProhibited,reasons,none,false⟩
  jsonLoads _ := none
  floatText value := toString value.num

theorem testedLibrary_limits : LimitsOnlyAddDailyLoss testedLibrary := by
  intro snapshot limit
  refine ⟨_,rfl,?_⟩
  cases limit with
  | none => simp [runtimeRiskLimitsForDailyLossAxis,dailyLossTrips]
  | some limit =>
    cases snapshot.dailyLossUsd with
    | none => simp [runtimeRiskLimitsForDailyLossAxis,dailyLossTrips]
    | some loss =>
      by_cases beyond : limit ≤ loss
      · simp [runtimeRiskLimitsForDailyLossAxis,dailyLossTrips,beyond]
      · simp [runtimeRiskLimitsForDailyLossAxis,dailyLossTrips,beyond]

def lossAtLimit : Fields :=
  [("total_strategy_equity",.float (.finite 50000) "50000.0"),
   ("account_new_risk_snapshot",.dict [("daily_loss_usd",.float (.finite 100) "100.0"),
     ("max_daily_loss_usd",.float (.finite 100) "100.0")])]

def healthySnapshot (dailyLossUsd : Option ℚ) : Snapshot :=
  ⟨"COMPLETE","VERIFIED","CLOSED",some 50000,none,none,none,none,dailyLossUsd⟩

def allowed : Admission := ⟨.allowNewRisk,[],none,false⟩

def lossExceeded : Admission := ⟨.newRiskProhibited,["DAILY_LOSS_LIMIT_EXCEEDED"],none,false⟩

-- A portfolio that states its loss but no limit, under one the environment states.
def lossOnly : Fields :=
  [("total_strategy_equity",.float (.finite 50000) "50000.0"),("daily_loss_usd",.float (.finite 100) "100.0")]

def limitSet : Environment := fun key => if key = "MAX_DAILY_LOSS_USD" then some "80" else none

theorem agrees_on_silent_portfolio :
    AdapterAgrees testedLibrary limitSet (healthySnapshot (some 100)) lossExceeded lossExceeded ∧
      newRiskBuyProhibited lossExceeded = true :=
  ⟨(adapter_agrees_exactly lossOnly none testedLibrary_limits (by decide +kernel) (by decide +kernel) (by decide +kernel)
    (by decide +kernel)).mpr (.inr (by decide +kernel)),rfl⟩

-- The tests' portfolio with its loss at its own limit: the cycle's gate stops
-- every buy, the adapter finds no limit in the environment and lets it through.
theorem stated_limit_splits_the_gates :
    ∃ snapshot cycle adapter,
      buildSnapshotFromPortfolio testedLibrary (fun _ => none) lossAtLimit none = .ok snapshot ∧
      evaluatePortfolioNewRiskAdmission testedLibrary (fun _ => none) lossAtLimit none = .ok cycle ∧
      evaluateCycleNewRiskAdmission testedLibrary (fun _ => none) (some snapshot) = .ok adapter ∧
      newRiskBuyProhibited cycle = true ∧ newRiskBuyProhibited adapter = false ∧
      ¬AdapterAgrees testedLibrary (fun _ => none) snapshot cycle adapter := by
  refine ⟨healthySnapshot (some 100),lossExceeded,allowed,
    by decide +kernel,by decide +kernel,by decide +kernel,rfl,rfl,?_⟩
  intro agrees
  exact absurd agrees.1 (by decide)

end LongBridge.OrderAdapter
