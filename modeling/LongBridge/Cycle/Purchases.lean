import LongBridge.Cycle.Dealings

namespace LongBridge.Cycle
open Effects

-- What one symbol of the buy phase comes to: the order it places, if it places
-- one, is of this size and has this limit, or is worth what the market quoted.
structure Purchase where
  symbol : String
  limit : Option ℚ
  quote : ℚ
  quantity : ℚ
  events : List Happening

def Purchase.unit (purchase : Purchase) : ℚ := purchase.limit.getD purchase.quote

def Purchase.bought (purchase : Purchase) : ℚ := dealt .buy purchase.events

def Purchase.cost (purchase : Purchase) : ℚ := purchase.bought * purchase.unit

-- Half a cent for each share bought at the market.
def Purchase.rounding (purchase : Purchase) : ℚ := if purchase.limit.isSome then 0 else purchase.bought / 200

-- By how much the record of a dry run shows more than was sized.
def shownExcess (settings : Settings) (quantity : ℚ) : ℚ := if settings.dryRunOnly then max 0 (shownQuantity quantity - quantity) else 0

def Purchase.slack (settings : Settings) (purchase : Purchase) : ℚ :=
  purchase.rounding + shownExcess settings purchase.quantity * purchase.unit

def totalCost (purchases : List Purchase) : ℚ := (purchases.map Purchase.cost).sum

def totalSlack (settings : Settings) (purchases : List Purchase) : ℚ := (purchases.map fun purchase => purchase.slack settings).sum

def orderLimit : Happening → Option ℚ
  | .answered _ (.submitOrder intent) _ => intent.limitPrice
  | .marked (.dryRun order) => order.limitPrice
  | _ => none

variable {frame : Frame} {before middle after : Locals} {events first : List Happening}

theorem normalizeBuyQuantity_nonneg (quantity step : ℚ) : 0 ≤ normalizeBuyQuantity quantity step := by
  unfold normalizeBuyQuantity
  dsimp only
  split
  · exact le_rfl
  · exact floorToQuantityStep_nonneg _ _

theorem normalizeBuyQuantity_le (quantity step : ℚ) : normalizeBuyQuantity quantity step ≤ max 0 quantity := by
  unfold normalizeBuyQuantity
  dsimp only
  split
  · exact le_max_left 0 quantity
  · exact floorToQuantityStep_le _ (le_max_left 0 quantity)

theorem buyStepFor_whole {settings : Settings} (symbol : String) (whole : settings.fractionalBuyExecution = false) :
    ∃ unit : ℤ, 0 < unit ∧ buyStepFor settings symbol = unit := by
  unfold buyStepFor
  rw [whole,if_neg (by simp)]
  split
  · rename_i lot
    exact ⟨lotFor settings symbol,lt_trans one_pos lot,rfl⟩
  · exact ⟨1,one_pos,by norm_num⟩

theorem normalizeBuyQuantity_whole {settings : Settings} (symbol : String) (quantity : ℚ) (whole : settings.fractionalBuyExecution = false) :
    ∃ count : ℤ, normalizeBuyQuantity quantity (buyStepFor settings symbol) = count := by
  obtain ⟨unit,positive,step⟩ := buyStepFor_whole symbol whole
  unfold normalizeBuyQuantity
  dsimp only
  split
  · exact ⟨0,by norm_num⟩
  · rw [step]
    exact floorToQuantityStep_whole _ positive

theorem submittedBuy_within {settings : Settings} {symbol : String} {quantity : ℚ} (nonneg : 0 ≤ quantity) :
    0 ≤ submittedQuantity settings symbol .buy quantity ∧ submittedQuantity settings symbol .buy quantity ≤ quantity := by
  unfold submittedQuantity
  split
  · have most := normalizeBuyQuantity_le quantity (buyStepFor settings symbol)
    rw [max_eq_right nonneg] at most
    exact ⟨normalizeBuyQuantity_nonneg _ _,most⟩
  split
  · exact ⟨floorToQuantityStep_nonneg _ _,floorToQuantityStep_le _ nonneg⟩
  · exact ⟨floorToQuantityStep_nonneg _ _,floorToQuantityStep_le _ nonneg⟩

theorem roundTo_near (price : ℚ) : |roundTo 2 price - price| ≤ 1 / 200 := by
  have near := roundHalfEven_near (price * 10 ^ 2)
  unfold roundTo
  rw [abs_le] at near ⊢
  constructor
  · linarith [near.1]
  · linarith [near.2]

theorem roundHalfEven_nonneg {value : ℚ} (nonneg : 0 ≤ value) : 0 ≤ roundHalfEven value := by
  have floored : 0 ≤ ⌊value⌋ := Int.floor_nonneg.mpr nonneg
  unfold roundHalfEven
  dsimp only
  split
  · exact floored
  split
  · omega
  split
  · exact floored
  · omega

theorem shownQuantity_nonneg {quantity : ℚ} (nonneg : 0 ≤ quantity) : 0 ≤ shownQuantity quantity := by
  unfold shownQuantity
  split
  · exact nonneg
  · have scale : (0 : ℚ) < 10 ^ (Int.log 10 |quantity| - 5) := zpow_pos (by norm_num) _
    have digits := roundHalfEven_nonneg (div_nonneg nonneg scale.le)
    exact mul_nonneg (by exact_mod_cast digits) scale.le

theorem shownExcess_nonneg (settings : Settings) (quantity : ℚ) : 0 ≤ shownExcess settings quantity := by
  unfold shownExcess
  split
  · exact le_max_left _ _
  · exact le_rfl

theorem shownExcess_live {settings : Settings} (quantity : ℚ) (live : settings.dryRunOnly = false) : shownExcess settings quantity = 0 := by
  unfold shownExcess
  rw [live,if_neg (by simp)]

theorem shownExcess_whole (settings : Settings) (count : ℤ) : shownExcess settings count = 0 := by
  unfold shownExcess
  rw [shownQuantity_whole,sub_self,max_self,ite_self]

-- Rounded to cents and above zero: the price itself is above zero.
theorem roundTo_pos {price : ℚ} (positive : 0 < roundTo 2 price) : 0 < price := by
  have near := (abs_le.mp (roundHalfEven_near (price * 10 ^ 2))).2
  unfold roundTo at positive
  generalize roundHalfEven (price * 10 ^ 2) = cents at near positive
  have scaled : (0 : ℚ) < cents := by
    by_contra small
    exact absurd positive (not_lt.mpr (div_nonpos_of_nonpos_of_nonneg (not_lt.mp small) (by norm_num)))
  have least : (1 : ℚ) ≤ cents := by exact_mod_cast scaled
  linarith

section placing
variable {settings : Settings} {symbol : String} {kind : OrderType} {quantity price : ℚ}

-- A quantity that was placed for a buy, and what of it counts.
theorem bought_within (places : PlacesAt settings symbol .buy kind quantity price events) (nonneg : 0 ≤ quantity) :
    0 ≤ dealt .buy events ∧ dealt .buy events ≤ quantity + shownExcess settings quantity := by
  have more := shownExcess_nonneg settings quantity
  rcases @dealt_once _ _ _ _ _ _ _ .buy places with none | ⟨shown,dry⟩ | submitted
  · rw [none]
    exact ⟨le_rfl,add_nonneg nonneg more⟩
  · have excess : shownExcess settings quantity = max 0 (shownQuantity quantity - quantity) := by
      unfold shownExcess
      rw [dry,if_pos rfl]
    rw [shown,excess]
    exact ⟨shownQuantity_nonneg nonneg,by linarith [le_max_right 0 (shownQuantity quantity - quantity)]⟩
  · obtain ⟨least,most⟩ := @submittedBuy_within settings (marketSymbol settings symbol) quantity nonneg
    rw [submitted]
    exact ⟨least,by linarith⟩

-- The one order has the limit it was placed with; a limit in cents is recorded as it is.
theorem placed_limit (places : PlacesAt settings symbol .buy kind quantity price events) (cents : kind = .limit → ∃ value, price = roundTo 2 value) :
    ∀ event ∈ events, isOrder event = true → orderLimit event = if kind = .limit then some price else none := by
  intro event member ordered
  rcases places with none | ⟨front,order,back,rfl,quiet,placing⟩
  · rw [none event member] at ordered
    cases ordered
  · have others : event ∈ front ++ back → False := by
      intro other
      rw [quiet event other] at ordered
      cases ordered
    rcases List.mem_append.mp member with early | late
    · exact (others (List.mem_append_left _ early)).elim
    rcases List.mem_cons.mp late with rfl | later
    · rcases placing with ⟨_,rfl⟩ | ⟨answer,rfl,_⟩
      · show (if kind = .limit then some (roundTo 4 price) else none) = _
        by_cases limit : kind = .limit
        · obtain ⟨value,rounded⟩ := cents limit
          rw [if_pos limit,if_pos limit,rounded,roundTo_cents]
        · rw [if_neg limit,if_neg limit]
      · rfl
    · exact (others (List.mem_append_right _ later)).elim

end placing

-- A purchase whose order was placed, within its size and near the price that size was reckoned at.
structure Sized (settings : Settings) (reference : ℚ) (purchase : Purchase) : Prop where
  size : 0 ≤ purchase.quantity
  nonneg : 0 ≤ purchase.bought
  within : purchase.bought ≤ purchase.quantity + shownExcess settings purchase.quantity
  positive : 0 < purchase.unit
  near : purchase.unit ≤ reference + if purchase.limit.isSome then 0 else 1 / 200

theorem rounding_eq (purchase : Purchase) : purchase.rounding = purchase.bought * if purchase.limit.isSome then 0 else 1 / 200 := by
  unfold Purchase.rounding
  split
  · rw [mul_zero]
  · ring

theorem Sized.rounding_nonneg {settings : Settings} {reference : ℚ} {purchase : Purchase} (sized : Sized settings reference purchase) :
    0 ≤ purchase.rounding := by
  unfold Purchase.rounding
  split
  · exact le_rfl
  · linarith [sized.nonneg]

theorem Sized.slack_nonneg {settings : Settings} {reference : ℚ} {purchase : Purchase} (sized : Sized settings reference purchase) :
    0 ≤ purchase.slack settings :=
  add_nonneg sized.rounding_nonneg (mul_nonneg (shownExcess_nonneg _ _) sized.positive.le)

-- What was sized to cost an amount costs it, but for its slack.
theorem Sized.cost_le {settings : Settings} {reference amount : ℚ} {purchase : Purchase} (sized : Sized settings reference purchase)
    (priced : 0 < reference) (fits : purchase.quantity * reference ≤ amount) : purchase.cost ≤ amount + purchase.slack settings := by
  have excess := shownExcess_nonneg settings purchase.quantity
  have offset : (0 : ℚ) ≤ if purchase.limit.isSome then 0 else 1 / 200 := by split <;> norm_num
  -- What counts without what only the record shows.
  have both : 0 ≤ min purchase.bought purchase.quantity := le_min sized.nonneg sized.size
  have split : purchase.bought ≤ min purchase.bought purchase.quantity + shownExcess settings purchase.quantity := by
    rw [← min_add_add_right]
    exact le_min (by linarith) sized.within
  calc purchase.cost
      ≤ (min purchase.bought purchase.quantity + shownExcess settings purchase.quantity) * purchase.unit :=
        mul_le_mul_of_nonneg_right split sized.positive.le
    _ = min purchase.bought purchase.quantity * purchase.unit + shownExcess settings purchase.quantity * purchase.unit := by ring
    _ ≤ min purchase.bought purchase.quantity * (reference + if purchase.limit.isSome then 0 else 1 / 200) +
          shownExcess settings purchase.quantity * purchase.unit :=
        add_le_add_left (mul_le_mul_of_nonneg_left sized.near both) _
    _ = min purchase.bought purchase.quantity * reference + min purchase.bought purchase.quantity *
          (if purchase.limit.isSome then 0 else 1 / 200) + shownExcess settings purchase.quantity * purchase.unit := by ring
    _ ≤ purchase.quantity * reference + purchase.bought * (if purchase.limit.isSome then 0 else 1 / 200) +
          shownExcess settings purchase.quantity * purchase.unit := by
        have first := mul_le_mul_of_nonneg_right (min_le_right purchase.bought purchase.quantity) priced.le
        have second := mul_le_mul_of_nonneg_right (min_le_left purchase.bought purchase.quantity) offset
        linarith
    _ ≤ amount + purchase.slack settings := by
        unfold Purchase.slack
        rw [rounding_eq]
        linarith

-- What the cash keeps of a payment, and what was paid for, do not exceed it, but for the slack.
theorem Sized.paid_le {settings : Settings} {reference cash : ℚ} {purchase : Purchase} (sized : Sized settings reference purchase)
    (priced : 0 < reference) (fits : purchase.quantity * reference ≤ max 0 cash) :
    purchase.cost + max 0 (max 0 (cash - purchase.quantity * purchase.unit)) ≤ max 0 cash + purchase.slack settings := by
  have costs := sized.cost_le priced fits
  rcases le_total (cash - purchase.quantity * purchase.unit) 0 with spent | left
  · rw [max_eq_left spent,max_self,add_zero]
    exact costs
  · rw [max_eq_right left,max_eq_right left]
    have counted : purchase.cost ≤ (purchase.quantity + shownExcess settings purchase.quantity) * purchase.unit :=
      mul_le_mul_of_nonneg_right sized.within sized.positive.le
    have rounding : 0 ≤ purchase.rounding := sized.rounding_nonneg
    unfold Purchase.slack
    linarith [le_max_right 0 cash]

-- A planned quantity fits its budget, or it is the one share of a top-up that the cash still covers.
theorem planned_cases {target value quantity budget available reference step : ℚ} {allowTopUp : Bool}
    (planned : 0 < plannedWholeShareBuyQuantity target value quantity budget available reference step allowTopUp) :
    0 < budget ∧ plannedWholeShareBuyQuantity target value quantity budget available reference step allowTopUp * reference ≤ budget ∨
    plannedWholeShareBuyQuantity target value quantity budget available reference step allowTopUp ≤ 1 ∧ reference ≤ max 0 available ∧
      shouldTopUpExistingWholeShareBuy target value quantity reference step = true := by
  have positive := planned_price planned
  unfold plannedWholeShareBuyQuantity at planned ⊢
  rw [max_eq_right positive.le] at planned ⊢
  dsimp only at planned ⊢
  rw [if_neg (not_le.mpr positive)] at planned ⊢
  split
  · rename_i fits
    left
    have most := normalizeBuyQuantity_le (max 0 budget / reference) step
    rw [max_eq_right (div_nonneg (le_max_left 0 budget) positive.le)] at most
    have cash : 0 < budget := by
      by_contra small
      have none : max 0 budget / reference = 0 := by rw [max_eq_left (not_lt.mp small),zero_div]
      rw [none] at most fits
      exact absurd fits (not_lt.mpr most)
    rw [max_eq_right cash.le] at most ⊢
    exact ⟨cash,(le_div_iff₀ positive).mp most⟩
  · rename_i fits
    rw [if_neg fits] at planned
    split
    · rename_i denied
      rw [if_pos denied] at planned
      exact absurd planned (lt_irrefl 0)
    · rename_i granted
      rw [if_neg granted] at planned
      split
      · rename_i short
        rw [if_pos short] at planned
        exact absurd planned (lt_irrefl 0)
      · rename_i covered
        rw [if_neg covered] at planned
        split
        · rename_i lifted
          right
          have most := normalizeBuyQuantity_le 1 step
          rw [max_eq_right zero_le_one] at most
          exact ⟨most,not_lt.mp covered,lifted⟩
        · rename_i refused
          rw [if_neg refused] at planned
          exact absurd planned (lt_irrefl 0)

-- A top-up is for less than the price of one share.
theorem topUp_gap {target value quantity reference step : ℚ} (lifted : shouldTopUpExistingWholeShareBuy target value quantity reference step = true)
    (priced : 0 < reference) : target - value ≤ reference := by
  unfold shouldTopUpExistingWholeShareBuy at lifted
  dsimp only at lifted
  rw [max_eq_right priced.le] at lifted
  split at lifted
  · cases lifted
  split at lifted
  · cases lifted
  split at lifted
  · cases lifted
  · rename_i short
    exact (le_max_right 0 (target - value)).trans (not_le.mp (not_or.mp short).2).le

-- From a sized quantity back to the ratio it was sized by, one floor at a time.
theorem sized_within {ratio step limit : ℚ}
    (sized : 0 < normalizeBuyQuantity (normalizeBuyQuantity (min (floorToQuantityStep ratio step) limit) step) step) :
    0 < ratio ∧ normalizeBuyQuantity (normalizeBuyQuantity (min (floorToQuantityStep ratio step) limit) step) step ≤ ratio := by
  have outer := normalizeBuyQuantity_le (normalizeBuyQuantity (min (floorToQuantityStep ratio step) limit) step) step
  rw [max_eq_right (normalizeBuyQuantity_nonneg _ _)] at outer
  have inner := normalizeBuyQuantity_le (min (floorToQuantityStep ratio step) limit) step
  have budget : max 0 (min (floorToQuantityStep ratio step) limit) ≤ floorToQuantityStep ratio step :=
    max_le (floorToQuantityStep_nonneg _ _) (min_le_left _ _)
  have most := outer.trans (inner.trans budget)
  have positive : 0 < ratio := by
    by_contra small
    have none : floorToQuantityStep ratio step = 0 := by
      unfold floorToQuantityStep
      rw [if_pos (not_lt.mp small)]
    exact absurd (lt_of_lt_of_le sized most) (by rw [none]; exact lt_irrefl 0)
  exact ⟨positive,most.trans (floorToQuantityStep_le _ positive.le)⟩

-- The estimated quantity costs no more at its reference than the value it is for.
theorem estimateBuyQuantityCandidate_within {symbol : String} {kind : OrderType} {reference value : ℚ} {candidate : Candidate}
    (steps : (estimateBuyQuantityCandidate frame symbol kind reference value).Steps false before events (.ok (some candidate)) after)
    (buys : 0 < candidate.quantity) (funds : 0 ≤ value) : 0 < reference ∧ candidate.quantity * reference ≤ value ∧
      (frame.settings.fractionalBuyExecution = false → ∃ count : ℤ, candidate.quantity = count) := by
  unfold estimateBuyQuantityCandidate at steps
  dsimp only at steps
  rcases steps_fromExcept_bind.mp steps with ⟨ratio,divided,rest⟩ | ⟨_,_,_,wrong,_⟩
  · obtain ⟨_,_,limit,_,_,_,ended⟩ := steps_bind_ok rest
    obtain ⟨_,same,_⟩ := steps_pure.mp ended
    cases limit with
    | none => cases same
    | some limit =>
      have found : candidate.quantity = normalizeBuyQuantity (normalizeBuyQuantity (min (floorToQuantityStep ratio
          (buyStepFor frame.settings symbol)) limit) (buyStepFor frame.settings symbol)) (buyStepFor frame.settings symbol) :=
        congrArg Candidate.quantity (Option.some.inj (Except.ok.inj same))
      rw [found] at buys ⊢
      obtain ⟨ratioed,most⟩ := sized_within buys
      obtain ⟨positive,same⟩ : 0 < reference ∧ ratio = value / reference := by
        unfold divide at divided
        split at divided
        · cases divided
        · have quotient : value / reference = ratio := Except.ok.inj divided
          refine ⟨?_,quotient.symm⟩
          by_contra small
          rw [← quotient] at ratioed
          exact absurd ratioed (not_lt.mpr (div_nonpos_of_nonneg_of_nonpos funds (not_lt.mp small)))
      exact ⟨positive,(le_div_iff₀ positive).mp (most.trans same.le),fun whole => normalizeBuyQuantity_whole symbol _ whole⟩
  · cases wrong

-- The cash after a placing: paid at once when it was placed, untouched when nothing counts or everything is halted.
theorem placeBuy_cash {symbol : String} {kind : OrderType} {quantity reference price : ℚ}
    (steps : (placeBuy frame symbol kind quantity reference price).Steps false before events (.ok ()) after) :
    after.view.investableCash = max 0 (before.view.investableCash - quantity * (if kind = .limit then reference else price)) ∨
    after.view.investableCash = before.view.investableCash ∧ (dealt .buy events = 0 ∨ after.book.submissionHalted = true) := by
  unfold placeBuy at steps
  obtain ⟨one,two,submitted,middle,rfl,placing,spending⟩ := steps_bind_ok steps
  have view := (placed_placeOrder _ _ _ _ placing).view
  unfold whenever at spending
  cases submitted with
  | true =>
    left
    rw [if_pos rfl] at spending
    obtain ⟨_,_,_,paid_,_,paying,noting⟩ := steps_bind_ok spending
    obtain ⟨_,_,rfl⟩ := steps_modify.mp paying
    obtain ⟨_,_,rfl⟩ := steps_modify.mp noting
    rw [← view]
  | false =>
    right
    rw [if_neg (by simp)] at spending
    obtain ⟨rfl,_,rfl⟩ := steps_pure.mp spending
    refine ⟨by rw [view],?_⟩
    rw [List.append_nil]
    by_cases nothing : dealt .buy one = 0
    · exact .inl nothing
    · rcases placeOrder_noted placing nothing with wrong | halted
      · cases wrong
      · exact .inr halted

theorem placeBuy_places {symbol : String} {kind : OrderType} {quantity reference price : ℚ} {result : Except PyExc Unit}
    (steps : (placeBuy frame symbol kind quantity reference price).Steps false before events result after) :
    PlacesAt frame.settings symbol .buy kind quantity (if kind = .limit then reference else roundTo 2 price) events := by
  rcases steps_bind.mp steps with ⟨one,two,submitted,middle,rfl,placing,spending⟩ | ⟨_,_,placing⟩
  · refine placesAt_before ?_ (placeOrder_once placing)
    have idle : Keeps Idle false (whenever submitted (spend (quantity * (if kind = .limit then reference else price)))) := by
      apply keeps_ite
      · refine keeps_bind idle_composes (keeps_modify fun _ _ member => by cases member) fun _ => ?_
        exact keeps_modify fun _ _ member => by cases member
      · exact keeps_weaken idle_events (quiet_pure ())
    exact idle _ _ _ _ spending
  · exact placeOrder_once placing


-- The order of one share at most, for a holding that is short of its target by less than one share costs.
def TopsUp (frame : Frame) (view : View) (purchase : Purchase) : Prop :=
  purchase.bought ≤ 1 ∧ ∃ holding, buyHolding view purchase.symbol = .ok holding ∧
    shouldTopUpExistingWholeShareBuy holding.target holding.marketValue holding.held (buyReference frame view purchase.symbol purchase.quote)
      (buyStepFor frame.settings (marketSymbol frame.settings purchase.symbol)) = true

def WithinGap (frame : Frame) (view : View) (purchase : Purchase) : Prop :=
  ∃ gap, targetGap view purchase.symbol = .ok gap ∧ purchase.cost ≤ gap + purchase.slack frame.settings

-- One order at most, of the purchase's size and with its limit.
structure Ordered (settings : Settings) (purchase : Purchase) : Prop where
  placed : ∃ kind price, PlacesAt settings purchase.symbol .buy kind purchase.quantity price purchase.events
  limited : ∀ event ∈ purchase.events, isOrder event = true → orderLimit event = purchase.limit
  whole : settings.fractionalBuyExecution = false → ∃ count : ℤ, purchase.quantity = count

-- What one purchase asks of the cash, and what it leaves.
structure Spends (frame : Frame) (before after : Locals) (result : Except PyExc Unit) (purchase : Purchase) : Prop where
  ordered : Ordered frame.settings purchase
  aimed : purchase.bought ≠ 0 → WithinGap frame before.view purchase ∨ TopsUp frame before.view purchase
  costs : purchase.cost ≤ max 0 before.view.investableCash + purchase.slack frame.settings
  leaves : result = .ok () → after.book.submissionHalted = true ∨
    purchase.cost + max 0 after.view.investableCash ≤ max 0 before.view.investableCash + purchase.slack frame.settings

theorem idle_slack {settings : Settings} {symbol : String} {quote : ℚ} (idle : ∀ event ∈ events, isOrder event = false) :
    (⟨symbol,none,quote,0,events⟩ : Purchase).bought = 0 ∧ (⟨symbol,none,quote,0,events⟩ : Purchase).slack settings = 0 := by
  have none : dealt .buy events = 0 := dealt_idle idle
  have excess : shownExcess settings 0 = 0 := by simpa using shownExcess_whole settings 0
  refine ⟨none,?_⟩
  show dealt .buy events / 200 + shownExcess settings 0 * quote = 0
  rw [none,excess]
  norm_num

theorem idle_ordered {settings : Settings} {symbol : String} {quote : ℚ} (idle : ∀ event ∈ events, isOrder event = false) :
    Ordered settings ⟨symbol,none,quote,0,events⟩ := by
  refine ⟨⟨.market,0,.inl idle⟩,?_,fun _ => ⟨0,by norm_num⟩⟩
  intro event member ordered
  rw [idle event member] at ordered
  cases ordered

theorem spends_idle {symbol : String} {quote : ℚ} {result : Except PyExc Unit} (idle : ∀ event ∈ events, isOrder event = false)
    (view : after.view = before.view) : Spends frame before after result ⟨symbol,none,quote,0,events⟩ := by
  obtain ⟨bought,slack⟩ := @idle_slack events frame.settings symbol quote idle
  have free : (⟨symbol,none,quote,0,events⟩ : Purchase).cost = 0 := by
    unfold Purchase.cost
    rw [bought,zero_mul]
  refine ⟨idle_ordered idle,fun buys => absurd bought buys,?_,fun _ => .inr ?_⟩
  · rw [free,slack,add_zero]
    exact le_max_left _ _
  · rw [free,slack,view,zero_add,add_zero]

def reachOf (canBuyValue planned reference : ℚ) : ℚ := if 0 < planned then max canBuyValue (planned * reference) else canBuyValue

-- The value an order is sized for: within the cash, and within the gap or the price of one share of a top-up.
theorem reach_within {locals : Locals} {symbol : String} {holding : BuyHolding} {reference planned : ℚ}
    (plans : planned = if frame.settings.fractionalBuyExecution then 0 else plannedQuantity frame locals symbol holding reference)
    (affordable : (if frame.settings.fractionalBuyExecution then decide (minFractionalBuyNotionalUsd ≤ min holding.gap locals.view.investableCash)
      else decide (0 < planned)) = true) :
    0 ≤ reachOf (min holding.gap locals.view.investableCash) planned reference ∧
    reachOf (min holding.gap locals.view.investableCash) planned reference ≤ max 0 locals.view.investableCash ∧
    (reachOf (min holding.gap locals.view.investableCash) planned reference ≤ holding.gap ∨
      frame.settings.fractionalBuyExecution = false ∧ reachOf (min holding.gap locals.view.investableCash) planned reference ≤ reference ∧
      shouldTopUpExistingWholeShareBuy holding.target holding.marketValue holding.held reference
        (buyStepFor frame.settings (marketSymbol frame.settings symbol)) = true) := by
  have cash : min holding.gap locals.view.investableCash ≤ max 0 locals.view.investableCash :=
    (min_le_right _ _).trans (le_max_right _ _)
  unfold reachOf
  cases fractional : frame.settings.fractionalBuyExecution with
  | true =>
    rw [fractional,if_pos rfl] at plans affordable
    have least : minFractionalBuyNotionalUsd ≤ min holding.gap locals.view.investableCash := of_decide_eq_true affordable
    rw [plans,if_neg (lt_irrefl 0)]
    have positive : (0 : ℚ) ≤ minFractionalBuyNotionalUsd := by
      unfold minFractionalBuyNotionalUsd
      norm_num
    exact ⟨positive.trans least,cash,.inl (min_le_left _ _)⟩
  | false =>
    rw [fractional,if_neg Bool.false_ne_true] at plans affordable
    have buys : 0 < planned := of_decide_eq_true affordable
    rw [if_pos buys]
    rw [plans] at buys ⊢
    unfold plannedQuantity at buys ⊢
    have priced := planned_price buys
    refine ⟨le_max_of_le_right (mul_pos buys priced).le,?_⟩
    rcases planned_cases buys with ⟨_,fits⟩ | ⟨single,covered,lifted⟩
    · rw [max_eq_left fits]
      exact ⟨cash,.inl (min_le_left _ _)⟩
    · have most : plannedWholeShareBuyQuantity holding.target holding.marketValue holding.held
          (min holding.gap locals.view.investableCash) locals.view.investableCash reference
          (buyStepFor frame.settings (marketSymbol frame.settings symbol)) locals.book.sellSubmitted * reference ≤ reference := by
        calc _ ≤ 1 * reference := mul_le_mul_of_nonneg_right single priced.le
          _ = reference := one_mul reference
      refine ⟨max_le cash (most.trans covered),.inr ⟨rfl,max_le ?_ most,lifted⟩⟩
      exact (min_le_left _ _).trans (topUp_gap lifted priced)

theorem placed_sized {settings : Settings} {symbol : String} (kind : OrderType) {quantity reference : ℚ} (price : ℚ)
    (places : PlacesAt settings symbol .buy kind quantity (if kind = .limit then reference else roundTo 2 price) events)
    (size : 0 < quantity) (priced : 0 < reference) (market : kind ≠ .limit → reference = roundTo 2 price) :
    Sized settings reference ⟨symbol,if kind = .limit then some reference else none,price,quantity,events⟩ := by
  obtain ⟨least,most⟩ := bought_within places size.le
  cases kind with
  | limit => exact ⟨size.le,least,most,priced,by simp [Purchase.unit]⟩
  | market =>
    have rounded := market (by simp)
    rw [rounded] at priced
    refine ⟨size.le,least,most,roundTo_pos priced,?_⟩
    have near := (abs_le.mp (roundTo_near price)).1
    show price ≤ reference + 1 / 200
    rw [rounded]
    linarith

theorem placed_limited {settings : Settings} {symbol : String} (kind : OrderType) {quantity reference : ℚ} (price : ℚ)
    (places : PlacesAt settings symbol .buy kind quantity (if kind = .limit then reference else roundTo 2 price) events)
    (cents : kind = .limit → ∃ value, reference = roundTo 2 value) :
    ∀ event ∈ events, isOrder event = true → orderLimit event = if kind = .limit then some reference else none := by
  intro event member ordered
  rw [placed_limit places (fun limit => by rw [if_pos limit]; exact cents limit) event member ordered]
  by_cases limit : kind = .limit
  · rw [if_pos limit,if_pos limit,if_pos limit]
  · rw [if_neg limit,if_neg limit]

-- The placing of one purchase, after whatever led to it.
theorem placeBuy_spends {symbol : String} {kind : OrderType} {quantity reference price : ℚ} {result : Except PyExc Unit}
    (steps : (placeBuy frame symbol kind quantity reference price).Steps false middle events result after)
    (idle : ∀ event ∈ first, isOrder event = false) (size : 0 < quantity) (priced : 0 < reference)
    (whole : frame.settings.fractionalBuyExecution = false → ∃ count : ℤ, quantity = count)
    (cents : kind = .limit → ∃ value, reference = roundTo 2 value) (market : kind ≠ .limit → reference = roundTo 2 price)
    (fits : quantity * reference ≤ max 0 middle.view.investableCash)
    (aimed : ∀ purchase, purchase.symbol = symbol → purchase.quote = price → purchase.quantity = quantity → Sized frame.settings reference purchase →
      WithinGap frame middle.view purchase ∨ TopsUp frame middle.view purchase) :
    Spends frame middle after result ⟨symbol,if kind = .limit then some reference else none,price,quantity,first ++ events⟩ := by
  have places := placesAt_behind idle (placeBuy_places steps)
  have sized := placed_sized kind price places size priced market
  have worth : (⟨symbol,if kind = .limit then some reference else none,price,quantity,first ++ events⟩ : Purchase).unit =
      if kind = .limit then reference else price := by
    unfold Purchase.unit
    by_cases limit : kind = .limit
    · rw [if_pos limit,if_pos limit,Option.getD_some]
    · rw [if_neg limit,if_neg limit,Option.getD_none]
  refine ⟨⟨⟨_,_,places⟩,placed_limited kind price places cents,whole⟩,fun _ => aimed _ rfl rfl rfl sized,sized.cost_le priced fits,?_⟩
  rintro rfl
  rcases placeBuy_cash steps with spent | ⟨same,nothing | halted⟩
  · right
    have paid_ := sized.paid_le priced fits
    rw [worth] at paid_
    rw [spent]
    exact paid_
  · right
    have none : (⟨symbol,if kind = .limit then some reference else none,price,quantity,first ++ events⟩ : Purchase).cost = 0 := by
      show dealt .buy (first ++ events) * _ = 0
      rw [dealt_append,dealt_idle idle,nothing,zero_add,zero_mul]
    rw [none,same]
    linarith [sized.slack_nonneg]
  · exact .inl halted

theorem targetGap_holding {view : View} {symbol : String} {gap : ℚ} {holding : BuyHolding} (aims : targetGap view symbol = .ok gap)
    (found : buyHolding view symbol = .ok holding) : gap = holding.gap := by
  unfold targetGap at aims
  unfold buyHolding at found
  obtain ⟨target,aimed,aims⟩ := bind_ok.mp aims
  obtain ⟨value,valued,aims⟩ := bind_ok.mp aims
  rw [aimed] at found
  obtain ⟨target,same,found⟩ := bind_ok.mp found
  cases same
  rw [valued] at found
  obtain ⟨value,same,found⟩ := bind_ok.mp found
  cases same
  obtain rfl := return_ok.mp aims
  obtain rfl := return_ok.mp found
  rfl

theorem buyReference_cents {view : View} {symbol : String} {price : ℚ} (limit : buyOrderType frame view symbol = .limit) :
    ∃ value, buyReference frame view symbol price = roundTo 2 value := by
  unfold buyReference
  rw [if_pos limit]
  exact limitBuyPrice_cents _ _ _

theorem buyReference_market {view : View} {symbol : String} {price : ℚ} (market : buyOrderType frame view symbol ≠ .limit) :
    buyReference frame view symbol price = roundTo 2 price := by
  unfold buyReference
  rw [if_neg market]

-- Within its reach a purchase is within its gap, or a top-up.
theorem Sized.aims {view : View} {gap value : ℚ} {holding : BuyHolding} {purchase : Purchase}
    (sized : Sized frame.settings (buyReference frame view purchase.symbol purchase.quote) purchase)
    (priced : 0 < buyReference frame view purchase.symbol purchase.quote)
    (fits : purchase.quantity * buyReference frame view purchase.symbol purchase.quote ≤ value)
    (whole : frame.settings.fractionalBuyExecution = false → ∃ count : ℤ, purchase.quantity = count)
    (aims : targetGap view purchase.symbol = .ok gap) (found : buyHolding view purchase.symbol = .ok holding)
    (reached : value ≤ gap ∨ frame.settings.fractionalBuyExecution = false ∧ value ≤ buyReference frame view purchase.symbol purchase.quote ∧
      shouldTopUpExistingWholeShareBuy holding.target holding.marketValue holding.held (buyReference frame view purchase.symbol purchase.quote)
        (buyStepFor frame.settings (marketSymbol frame.settings purchase.symbol)) = true) :
    WithinGap frame view purchase ∨ TopsUp frame view purchase := by
  rcases reached with near | ⟨shares,single,lifted⟩
  · exact .inl ⟨gap,aims,sized.cost_le priced (fits.trans near)⟩
  · right
    obtain ⟨count,same⟩ := whole shares
    have most := sized.within
    rw [same,shownExcess_whole,add_zero,← same] at most
    refine ⟨most.trans ?_,holding,found,lifted⟩
    have one : purchase.quantity * buyReference frame view purchase.symbol purchase.quote ≤
        1 * buyReference frame view purchase.symbol purchase.quote := by
      rw [one_mul]
      exact fits.trans single
    exact le_of_mul_le_mul_right one priced

theorem Spends.of_view {result : Except PyExc Unit} {purchase : Purchase} (spends : Spends frame middle after result purchase)
    (view : middle.view = before.view) : Spends frame before after result purchase := by
  obtain ⟨ordered,aimed,costs,leaves⟩ := spends
  rw [view] at aimed costs leaves
  exact ⟨ordered,aimed,costs,leaves⟩

theorem steps_ite {condition : Prop} [Decidable condition] {yes no : Step α} {result : Except PyExc α}
    (steps : (if condition then yes else no).Steps false before events result after) :
    condition ∧ yes.Steps false before events result after ∨ ¬condition ∧ no.Steps false before events result after := by
  split at steps
  · exact .inl ⟨‹_›,steps⟩
  · exact .inr ⟨‹_›,steps⟩

-- One symbol of the loop, from its quote on.
theorem buyQuoted_spends {symbol : String} {gap price : ℚ} {result : Except PyExc Unit} (aims : targetGap before.view symbol = .ok gap)
    (steps : (buyQuoted frame symbol gap price).Steps false before events result after) :
    ∃ limit quantity, Spends frame before after result ⟨symbol,limit,price,quantity,events⟩ := by
  unfold buyQuoted at steps
  rw [steps_get_bind] at steps
  rcases steps_fromExcept_bind.mp steps with ⟨holding,found,rest⟩ | ⟨error,_,rfl,_,rfl⟩
  · dsimp only at rest
    rw [targetGap_holding aims found] at rest
    rcases steps_ite rest with ⟨affordable,rest⟩ | ⟨_,rest⟩
    · rcases steps_bind.mp rest with ⟨one,two,candidate,middle,rfl,estimating,placing⟩ | ⟨_,_,estimating⟩
      · have quiet := quiet_estimateBuyQuantityCandidate frame _ _ _ _ _ _ _ _ estimating
        have still : ∀ {later : List Happening}, Quiet middle later after → Spends frame before after result ⟨symbol,none,price,0,one ++ later⟩ := by
          intro later ended
          apply spends_idle _ (ended.view.trans quiet.view)
          intro event member
          exact (List.mem_append.mp member).elim (idle_events quiet event) (idle_events ended event)
        cases candidate with
        | none => exact ⟨none,0,still (quiet_pure _ _ _ _ _ placing)⟩
        | some candidate =>
          rcases steps_ite placing with ⟨_,placing⟩ | ⟨sizable,placing⟩
          · exact ⟨none,0,still (quiet_recordNoteLog _ _ _ _ _ _ placing)⟩
          · have size : 0 < candidate.quantity := not_le.mp sizable
            obtain ⟨funds,cash,reached⟩ := reach_within rfl affordable
            obtain ⟨priced,fits,whole⟩ := estimateBuyQuantityCandidate_within estimating size funds
            have spends := placeBuy_spends placing (idle_events quiet) size priced whole buyReference_cents buyReference_market
              (by rw [quiet.view]; exact fits.trans cash) (by
                rintro purchase rfl rfl same sized
                rw [quiet.view]
                rw [← same] at fits whole
                exact sized.aims priced fits whole (targetGap_holding aims found ▸ aims) found reached)
            exact ⟨_,_,spends.of_view quiet.view⟩
      · have quiet := quiet_estimateBuyQuantityCandidate frame _ _ _ _ _ _ _ _ estimating
        exact ⟨none,0,spends_idle (idle_events quiet) quiet.view⟩
    · have quiet := quiet_noteUnaffordable _ _ _ _ _ _ _ _ _ rest
      exact ⟨none,0,spends_idle (idle_events quiet) quiet.view⟩
  · exact ⟨none,0,spends_idle (by simp [isOrder]) rfl⟩

theorem Ordered.behind {settings : Settings} {symbol : String} {limit : Option ℚ} {quote quantity : ℚ}
    (ordered : Ordered settings ⟨symbol,limit,quote,quantity,events⟩) (idle : ∀ event ∈ first, isOrder event = false) :
    Ordered settings ⟨symbol,limit,quote,quantity,first ++ events⟩ := by
  obtain ⟨⟨kind,price,places⟩,limited,whole⟩ := ordered
  refine ⟨⟨kind,price,placesAt_behind idle places⟩,?_,whole⟩
  intro event member orders
  rcases List.mem_append.mp member with early | late
  · rw [idle event early] at orders
    cases orders
  · exact limited event late orders

theorem dealt_behind (idle : ∀ event ∈ first, isOrder event = false) : dealt .buy (first ++ events) = dealt .buy events := by
  rw [dealt_append,dealt_idle idle,zero_add]

-- Idle steps before a purchase change nothing of it.
theorem Spends.behind {result : Except PyExc Unit} {symbol : String} {limit : Option ℚ} {quote quantity : ℚ}
    (spends : Spends frame before after result ⟨symbol,limit,quote,quantity,events⟩) (idle : ∀ event ∈ first, isOrder event = false) :
    Spends frame before after result ⟨symbol,limit,quote,quantity,first ++ events⟩ := by
  obtain ⟨ordered,aimed,costs,leaves⟩ := spends
  refine ⟨ordered.behind idle,?_,?_,?_⟩
  all_goals simp only [Purchase.bought,Purchase.cost,Purchase.slack,Purchase.rounding,Purchase.unit,WithinGap,TopsUp,
    dealt_behind idle] at aimed costs leaves ⊢
  · exact aimed
  · exact costs
  · exact leaves

-- What a quoted purchase rests on: the quote is among its own events.
def Quoted (settings : Settings) (purchase : Purchase) : Prop :=
  purchase.bought ≠ 0 → (marketSymbol settings purchase.symbol,purchase.quote) ∈ purchase.events.filterMap quoteOf

theorem quoted_behind {settings : Settings} {symbol : String} {limit : Option ℚ} {quote quantity : ℚ} {later : List Happening} {result : Except PyExc (Option ℚ)}
    (steps : (safeQuoteLastPrice (marketSymbol settings symbol)).Steps false before first result after) (found : result = .ok (some quote)) :
    Quoted settings ⟨symbol,limit,quote,quantity,first ++ later⟩ := by
  intro _
  obtain ⟨answer,tail,rfl,_,⟨snapshot,price,rfl,known,rfl,same⟩ | ⟨_,lost⟩⟩ := safeQuoteLastPrice_run steps
  · rw [found] at same
    cases same
    show _ ∈ List.filterMap quoteOf (_ :: later)
    rw [List.filterMap_cons_some (by simp [quoteOf,known] : _ = some (marketSymbol settings symbol,quote))]
    exact List.mem_cons_self
  · cases lost _ found

theorem buySymbol_spends {symbol : String} {result : Except PyExc Unit} (steps : (buySymbol frame symbol).Steps false before events result after) :
    ∃ limit quote quantity, Spends frame before after result ⟨symbol,limit,quote,quantity,events⟩ ∧
      Quoted frame.settings ⟨symbol,limit,quote,quantity,events⟩ := by
  have unquoted : ∀ {quote : ℚ}, (∀ event ∈ events, isOrder event = false) → Quoted frame.settings ⟨symbol,none,quote,0,events⟩ :=
    fun idle buys => absurd (dealt_idle idle) buys
  unfold buySymbol at steps
  rw [steps_get_bind] at steps
  rcases steps_fromExcept_bind.mp steps with ⟨gap,aims,rest⟩ | ⟨error,_,rfl,_,rfl⟩
  · rcases steps_bind.mp rest with ⟨one,two,price,middle,rfl,quoting,buying⟩ | ⟨_,_,quoting⟩
    · have quiet := quiet_safeQuoteLastPrice _ _ _ _ _ quoting
      cases price with
      | none =>
        have ended := quiet_pure _ _ _ _ _ buying
        have idle : ∀ event ∈ one ++ two, isOrder event = false := fun event member =>
          (List.mem_append.mp member).elim (idle_events quiet event) (idle_events ended event)
        exact ⟨none,0,0,spends_idle idle (ended.view.trans quiet.view),unquoted idle⟩
      | some price =>
        obtain ⟨limit,quantity,spends⟩ := buyQuoted_spends (by rw [quiet.view]; exact aims) buying
        exact ⟨limit,price,quantity,(spends.of_view quiet.view).behind (idle_events quiet),quoted_behind quoting rfl⟩
    · have quiet := quiet_safeQuoteLastPrice _ _ _ _ _ quoting
      exact ⟨none,0,0,spends_idle (idle_events quiet) quiet.view,unquoted (idle_events quiet)⟩
  · have idle : ∀ event ∈ [(.fault false error : Happening)], isOrder event = false := by simp [isOrder]
    exact ⟨none,0,0,spends_idle idle rfl,unquoted idle⟩

end LongBridge.Cycle
