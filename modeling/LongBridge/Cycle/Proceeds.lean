import LongBridge.Cycle.Observations

namespace LongBridge.Cycle
open Effects

-- The cash policy of the platform: a floor, and a share of the equity.
structure ExecutionPolicy where
  reservedCashFloorUsd : ℚ
  reservedCashRatio : ℚ

def resolvePlatformReservedCash (totalEquity : ℚ) (policy : Option ExecutionPolicy) : ℚ :=
  match policy with
  | none => 0
  | some policy =>
    max (max 0 policy.reservedCashFloorUsd) (max 0 totalEquity * max 0 (min 1 policy.reservedCashRatio))

-- The two cash fields of the annotations a plan is made from.
structure Annotations where
  reservedCash : ℚ
  investableCash : Option ℚ

def baseInvestableCash (annotations : Annotations) (liquidCash : ℚ) : ℚ :=
  match annotations.investableCash with
  | some amount => amount
  | none => max 0 (liquidCash - annotations.reservedCash)

def applyReservedCashPolicy (annotations : Annotations) (totalEquity liquidCash : ℚ) (policy : Option ExecutionPolicy) :
    Annotations :=
  let reservedCash := max annotations.reservedCash (resolvePlatformReservedCash totalEquity policy)
  { reservedCash
    investableCash := some (min (max 0 (baseInvestableCash annotations liquidCash)) (max 0 (liquidCash - reservedCash))) }

-- The opening plan has its cash fields from the policy.
def Planned (opening : Observation) : Prop := ∃ annotations totalEquity policy,
  applyReservedCashPolicy annotations totalEquity opening.portfolio.liquidCash policy =
    ⟨opening.execution.reservedCash,some opening.execution.investableCash⟩

theorem planned_investableCash {opening : Observation} (planned : Planned opening) : ∃ base,
    opening.execution.investableCash =
      min (max 0 base) (max 0 (opening.portfolio.liquidCash - opening.execution.reservedCash)) := by
  obtain ⟨annotations,totalEquity,policy,made⟩ := planned
  simp only [applyReservedCashPolicy,Annotations.mk.injEq,Option.some.injEq] at made
  obtain ⟨reserved,investable⟩ := made
  exact ⟨baseInvestableCash annotations opening.portfolio.liquidCash,by rw [← investable,reserved]⟩

-- What the sells of a cycle are known to have brought: in a dry run what it
-- simulates, otherwise the most that the order statuses reported as filled.
def saleProceeds (settings : Settings) (book : OrderBook) (events : List Happening) : ℚ :=
  if settings.dryRunOnly ∧ 0 < book.dryRunSaleProceeds then book.dryRunSaleProceeds else (releases events).foldl max 0

-- The investable cash is covered by a refreshed plan, or by the opening cash
-- with the proceeds above the reserve.
def Covered (opening : Observation) (events : List Happening) (proceeds investableCash : ℚ) : Prop :=
  investableCash ≤ max 0 (opening.portfolio.liquidCash + proceeds - opening.execution.reservedCash) ∨
  ∃ observation ∈ observed events, investableCash ≤ observation.execution.investableCash

-- The cash the sells are added to was not clamped at zero, nothing is added, or
-- a refreshed plan has at least the proceeds.
def ReserveCovered (opening : Observation) (events : List Happening) (proceeds : ℚ) : Prop :=
  opening.execution.reservedCash ≤ opening.portfolio.liquidCash ∨ proceeds ≤ 0 ∨
  ∃ observation ∈ observed events, proceeds ≤ observation.execution.investableCash

theorem foldl_max_le {amounts : List ℚ} {start bound : ℚ} :
    amounts.foldl max start ≤ bound ↔ start ≤ bound ∧ ∀ amount ∈ amounts, amount ≤ bound := by
  induction amounts generalizing start with
  | nil => simp
  | cons amount rest ih => simp [ih,and_assoc]

theorem foldl_max_mem (amounts : List ℚ) (start : ℚ) :
    amounts.foldl max start = start ∨ amounts.foldl max start ∈ amounts := by
  induction amounts generalizing start with
  | nil => exact .inl rfl
  | cons amount rest ih =>
    rw [List.foldl_cons]
    rcases ih (max start amount) with same | member
    · rw [same]
      rcases max_choice start amount with first | second
      · exact .inl first
      · right; rw [second]; simp
    · exact .inr (List.mem_cons_of_mem _ member)

theorem planned_bounds {base liquid reserved known : ℚ} (planned : known = min (max 0 base) (max 0 (liquid - reserved))) :
    0 ≤ known ∧ known ≤ max 0 (liquid - reserved) ∧ (liquid < reserved → known = 0) := by
  have low : 0 ≤ known := by rw [planned]; exact le_min (le_max_left _ _) (le_max_left _ _)
  have high : known ≤ max 0 (liquid - reserved) := by rw [planned]; exact min_le_right _ _
  refine ⟨low,high,fun short => le_antisymm ?_ low⟩
  rwa [max_eq_left (by linarith)] at high

-- The cash the buys start with: the best forecast, or the planned cash with the
-- proceeds. It stays within what is covered unless the clamp at zero lost a
-- shortfall that the proceeds should have filled first.
theorem funded_covered {base liquid reserved known gain : ℚ} (amounts : List ℚ) (gained : 0 ≤ gain)
    (planned : known = min (max 0 base) (max 0 (liquid - reserved))) :
    (max (amounts.foldl max known) (known + gain) ≤ max 0 (liquid + gain - reserved) ∨
      ∃ amount ∈ amounts, max (amounts.foldl max known) (known + gain) ≤ amount) ↔
    reserved ≤ liquid ∨ gain ≤ 0 ∨ ∃ amount ∈ amounts, gain ≤ amount := by
  obtain ⟨low,high,clamped⟩ := planned_bounds planned
  have above : known ≤ amounts.foldl max known := (foldl_max_le.mp le_rfl).1
  constructor
  · intro covered
    by_cases enough : reserved ≤ liquid
    · exact .inl enough
    right
    have zero : known = 0 := clamped (by linarith)
    have spent : gain ≤ max (amounts.foldl max known) (known + gain) := le_max_of_le_right (by linarith)
    rcases covered with within | ⟨amount,member,within⟩
    · left
      rcases le_max_iff.mp (le_trans spent within) with small | large
      · exact small
      · linarith
    · exact .inr ⟨amount,member,le_trans spent within⟩
  · -- the best forecast is one of the amounts, or it is the planned cash itself
    intro condition
    by_cases best : amounts.foldl max known ∈ amounts ∧ known + gain ≤ amounts.foldl max known
    · exact .inr ⟨_,best.1,max_le le_rfl best.2⟩
    left
    by_cases enough : reserved ≤ liquid
    · have room : known ≤ liquid - reserved := by rwa [max_eq_right (by linarith)] at high
      refine le_max_of_le_right (max_le ?_ (by linarith))
      rcases foldl_max_mem amounts known with same | member
      · rw [same]; linarith
      · have less : amounts.foldl max known < known + gain := lt_of_not_ge (fun more => best ⟨member,more⟩)
        linarith
    · have zero : known = 0 := clamped (by linarith)
      have bound : gain ≤ amounts.foldl max known := by
        rcases condition with covered | none | ⟨amount,member,least⟩
        · exact absurd covered enough
        · linarith
        · exact le_trans least ((foldl_max_le.mp le_rfl).2 amount member)
      have same : amounts.foldl max known = known := by
        rcases foldl_max_mem amounts known with same | member
        · exact same
        · exact absurd ⟨member,by linarith⟩ best
      refine le_max_of_le_left (max_le ?_ ?_) <;> linarith

variable {frame : Frame} {opened middle funded : Locals} {first events : List Happening}

theorem foldl_max_nonneg (amounts : List ℚ) : 0 ≤ amounts.foldl max 0 := (foldl_max_le.mp le_rfl).1

theorem saleProceeds_nonneg (settings : Settings) (book : OrderBook) (events : List Happening) :
    0 ≤ saleProceeds settings book events := by
  unfold saleProceeds
  split
  · rename_i simulated; exact le_of_lt simulated.2
  · exact foldl_max_nonneg _

def refreshedCash (events : List Happening) : List ℚ := (observed events).map fun observation => observation.execution.investableCash

-- However the cycle was funded, this is the cash its buys start with.
theorem funding_investableCash (simulating : frame.settings.dryRunOnly = true → middle.book.submissionHalted = false)
    (sold : funded.book.sellSubmitted = true) (planned : 0 ≤ middle.view.investableCash)
    (funding : Funding frame middle events funded) :
    funded.view.investableCash = max ((refreshedCash events).foldl max middle.view.investableCash)
      (middle.view.investableCash + saleProceeds frame.settings funded.book events) := by
  cases funding with
  | untouched unsold =>
    have halted : middle.book.submissionHalted = true := by
      rcases unsold with none | halted
      · rw [none] at sold; cases sold
      · exact halted
    have live : frame.settings.dryRunOnly = false := by
      by_contra dryRun
      rw [simulating (by simpa using dryRun)] at halted; cases halted
    simp [refreshedCash,observed,saleProceeds,live,releases]
  | simulated dryRun proceeds quiet book gate view =>
    have gained : saleProceeds frame.settings funded.book events = middle.book.dryRunSaleProceeds := by
      rw [saleProceeds,if_pos ⟨dryRun,by rw [book]; exact proceeds⟩,book]
    have nothing : refreshedCash events = [] := by
      rw [refreshedCash,observed_other (fun event member => quiet_other (quiet event member))]; rfl
    rw [gained,nothing,view,List.foldl_nil]
    show max 0 (middle.view.investableCash + middle.book.dryRunSaleProceeds) = _
    rw [max_eq_right (by linarith),max_eq_right (by linarith)]
  | @refreshed refreshes tail held after refresh targets live found other scaled adopted =>
    have sales : funded.book.dryRunSaleProceeds = middle.book.dryRunSaleProceeds := by rw [adopted.book]; exact found.sales
    have notSimulated : ¬(frame.settings.dryRunOnly = true ∧ 0 < funded.book.dryRunSaleProceeds) := by
      rintro ⟨dryRun,gain⟩
      rcases live with off | none
      · rw [off] at dryRun; cases dryRun
      · rw [sales] at gain; exact absurd gain (not_lt.mpr none)
    have shown : observed (refreshes ++ .marked (.adjusting targets) :: tail) = observed refreshes := by
      rw [observed_append,observed_cons,observed_other other]; simp [observation?]
    have amounts : releases (refreshes ++ .marked (.adjusting targets) :: tail) = releases refreshes := by
      have after_ : releases (.marked (.adjusting targets) :: tail) = [] := by
        show releases tail = []
        rw [← List.append_nil tail,releases_other other]; rfl
      rw [releases_append _ rfl,after_,List.append_nil]
    have gained : saleProceeds frame.settings funded.book (refreshes ++ .marked (.adjusting targets) :: tail) =
        refresh.projectedSellReleaseValue := by
      rw [saleProceeds,if_neg notSimulated,amounts,found.projected]
    have last : refresh.observation.execution.investableCash ≤ refresh.bestInvestableCash := by
      obtain ⟨earlier,latest,split,execution,_⟩ := found.last
      rw [found.bestInvestableCash,execution]
      exact (foldl_max_le.mp le_rfl).2 _ (by rw [split]; simp)
    rw [gained,adopted.investableCash,fundedCash,max_eq_right last,found.bestInvestableCash,refreshedCash,shown]

theorem releases_start {targets : Amounts} (other : ∀ event ∈ first, isOther event = true) (rest : List Happening) :
    releases (.marked (.adjusting targets) :: first ++ rest) = releases rest := releases_other other rest

theorem refreshedCash_start (targets : Amounts) (other : ∀ event ∈ first, isOther event = true) (rest : List Happening) :
    refreshedCash (.marked (.adjusting targets) :: first ++ rest) = refreshedCash rest := by
  rw [refreshedCash,observed_append,observed_cons,observed_other other]; rfl

-- The cash of a cycle with sells is covered exactly when the reserve is.
theorem sells_fund_within_the_reserve (planned : Planned frame.opening)
    (opening : (openCycle frame).Steps false (openingLocals frame.opening) first (.ok false) opened)
    (selling : (sellAndFund frame).Steps false opened events (.ok ()) funded) (sold : funded.book.sellSubmitted = true) :
    Covered frame.opening events (saleProceeds frame.settings funded.book events) funded.view.investableCash ↔
      ReserveCovered frame.opening events (saleProceeds frame.settings funded.book events) := by
  obtain ⟨base,made⟩ := planned_investableCash planned
  obtain ⟨gate,_⟩ := openCycle_run opening
  have book := (opened_openCycle _ _ _ _ opening).book
  obtain ⟨sells,other,⟨_,wrong⟩ | ⟨middle,rest,rfl,soldOut,funding⟩⟩ := sellAndFund_parts selling
  · exact absurd rfl wrong
  have known : middle.view.investableCash = frame.opening.execution.investableCash :=
    soldOut.investableCash.trans gate.investableCash
  have proceeds : saleProceeds frame.settings funded.book (.marked (.adjusting opened.view.allocation.targets) :: sells ++ rest) =
      saleProceeds frame.settings funded.book rest := by rw [saleProceeds,saleProceeds,releases_start other]
  have simulating : frame.settings.dryRunOnly = true → middle.book.submissionHalted = false := by
    intro dryRun
    rw [soldOut.simulating dryRun,book]; rfl
  have cash := funding_investableCash simulating sold (by rw [known]; exact (planned_bounds made).1) (fundFromSells_run funding)
  have covered := funded_covered (refreshedCash rest) (saleProceeds_nonneg frame.settings funded.book rest) made
  rw [known] at cash
  rw [← cash,← refreshedCash_start opened.view.allocation.targets other] at covered
  rw [proceeds]
  simpa [Covered,ReserveCovered,refreshedCash] using covered

-- A broker that fills every order at once, and reports ten shares at 100.
def fillingWorld (refreshed : Observation) : World ports PyExc := fun past request =>
  match request with
  | .fetchOrderStatus _ => .ok (some ⟨"Filled",some 10,some 100⟩)
  | request => calmWorld refreshed past request

def oneHolding (liquidCash investableCash : ℚ) : Observation :=
  observe (hold [("SPY",1000)] [("SPY",10)] liquidCash "") (approved investableCash 500) (allocate ["SPY"] [] [("SPY",0)])

def soldHolding : Observation :=
  observe (hold [("SPY",0)] [("SPY",0)] 1000 "") (approved 500 500) (allocate ["SPY"] [] [("SPY",0)])

def oneHoldingFrame (liquidCash investableCash : ℚ) : Frame :=
  ⟨wholeShareSettings false,testedKit,gateOff,oneHolding liquidCash investableCash⟩

-- 500 is reserved and nothing is there: 1000 of proceeds are spent in full.
theorem reserve_is_spent : ∃ (frame : Frame) (first events : List Happening) (opened funded : Locals),
    Planned frame.opening ∧ (openCycle frame).Steps false (openingLocals frame.opening) first (.ok false) opened ∧
    (sellAndFund frame).Steps false opened events (.ok ()) funded ∧ funded.book.sellSubmitted = true ∧
    ¬Covered frame.opening events (saleProceeds frame.settings funded.book events) funded.view.investableCash := by
  have opens := play_steps (openedRun (fillingWorld soldHolding) (oneHoldingFrame 0 0)) false rfl (by decide +kernel)
  have funds := play_steps (fundedRun (fillingWorld soldHolding) (oneHoldingFrame 0 0)) () rfl (by decide +kernel)
  refine ⟨oneHoldingFrame 0 0,_,_,_,_,⟨⟨500,none⟩,0,none,?_⟩,opens,funds,by decide +kernel,?_⟩
  · simp [applyReservedCashPolicy,resolvePlatformReservedCash,baseInvestableCash,oneHoldingFrame,oneHolding,observe,hold,approved]
  · unfold Covered; decide +kernel

theorem covered_reserve_is_kept : Covered (oneHolding 600 100) (fundedRun (fillingWorld soldHolding) (oneHoldingFrame 600 100)).1
    (saleProceeds (wholeShareSettings false) (fundedRun (fillingWorld soldHolding) (oneHoldingFrame 600 100)).2.2.book (fundedRun (fillingWorld soldHolding) (oneHoldingFrame 600 100)).1)
    (fundedRun (fillingWorld soldHolding) (oneHoldingFrame 600 100)).2.2.view.investableCash := by
  have opens := play_steps (openedRun (fillingWorld soldHolding) (oneHoldingFrame 600 100)) false rfl (by decide +kernel)
  have funds := play_steps (fundedRun (fillingWorld soldHolding) (oneHoldingFrame 600 100)) () rfl (by decide +kernel)
  refine (sells_fund_within_the_reserve ⟨⟨500,none⟩,0,none,?_⟩ opens funds (by decide +kernel)).mpr (.inl ?_)
  · simp [applyReservedCashPolicy,resolvePlatformReservedCash,baseInvestableCash,oneHoldingFrame,oneHolding,observe,hold,approved]
    norm_num
  · simp [oneHoldingFrame,oneHolding,observe,hold,approved]
    norm_num

end LongBridge.Cycle
