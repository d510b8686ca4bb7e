import LongBridge.Cycle.Purchases
import LongBridge.Cycle.SweepBuyback

namespace LongBridge.Cycle
open Effects

variable {frame : Frame} {before middle after : Locals} {events first : List Happening}

-- The targets and the holdings stay where they are.
def SamePlan (before : Locals) (_ : List Happening) (after : Locals) : Prop :=
  after.view.allocation = before.view.allocation ∧ after.view.portfolio = before.view.portfolio

theorem samePlan_composes : Composes SamePlan where
  refl _ := ⟨rfl,rfl⟩
  trans one two := ⟨two.1.trans one.1,two.2.trans one.2⟩

theorem samePlan_view (view : after.view = before.view) : SamePlan before events after :=
  ⟨congrArg View.allocation view,congrArg View.portfolio view⟩

theorem samePlan_walks (settings : Settings) : Walks settings .buy SamePlan where
  composes := samePlan_composes
  quiet quiet := samePlan_view quiet.view
  book _ _ := ⟨rfl,rfl⟩
  place _ := fun _ _ _ steps => samePlan_view (placed_placeOrder _ _ _ _ steps).view

theorem aimed_samePlan {purchase : Purchase} (same : SamePlan before events middle)
    (aimed : WithinGap frame middle.view purchase ∨ TopsUp frame middle.view purchase) :
    WithinGap frame before.view purchase ∨ TopsUp frame before.view purchase := by
  obtain ⟨allocation,portfolio⟩ := same
  unfold WithinGap TopsUp targetGap buyHolding buyReference buyOrderType isLimitOrderSymbol at aimed ⊢
  rw [allocation,portfolio] at aimed
  exact aimed

theorem totalCost_append (one two : List Purchase) : totalCost (one ++ two) = totalCost one + totalCost two := by
  unfold totalCost
  rw [List.map_append,List.sum_append]

theorem totalSlack_append (settings : Settings) (one two : List Purchase) :
    totalSlack settings (one ++ two) = totalSlack settings one + totalSlack settings two := by
  unfold totalSlack
  rw [List.map_append,List.sum_append]

-- What the loop spends and what it leaves.
structure Spent (frame : Frame) (before after : Locals) (result : Except PyExc Unit) (purchases : List Purchase) : Prop where
  ordered : ∀ purchase ∈ purchases, Ordered frame.settings purchase ∧ Quoted frame.settings purchase
  aimed : ∀ purchase ∈ purchases, purchase.bought ≠ 0 → WithinGap frame before.view purchase ∨ TopsUp frame before.view purchase
  costs : totalCost purchases ≤ max 0 before.view.investableCash + totalSlack frame.settings purchases
  leaves : result = .ok () → after.book.submissionHalted = true ∨
    totalCost purchases + max 0 after.view.investableCash ≤ max 0 before.view.investableCash + totalSlack frame.settings purchases

theorem spent_nil {result : Except PyExc Unit} : Spent frame before before result [] := by
  refine ⟨by simp,by simp,?_,fun _ => .inr ?_⟩
  · simp [totalCost,totalSlack]
  · simp [totalCost,totalSlack]

theorem totalCost_cons (purchase : Purchase) (rest : List Purchase) : totalCost (purchase :: rest) = purchase.cost + totalCost rest := by
  unfold totalCost
  rw [List.map_cons,List.sum_cons]

theorem totalSlack_cons (settings : Settings) (purchase : Purchase) (rest : List Purchase) :
    totalSlack settings (purchase :: rest) = purchase.slack settings + totalSlack settings rest := by
  unfold totalSlack
  rw [List.map_cons,List.sum_cons]

theorem Spends.last {result : Except PyExc Unit} {purchase : Purchase} (spends : Spends frame before after result purchase)
    (quoted : Quoted frame.settings purchase) : Spent frame before after result [purchase] := by
  have cost : totalCost [purchase] = purchase.cost := by simp [totalCost]
  have slack : totalSlack frame.settings [purchase] = purchase.slack frame.settings := by simp [totalSlack]
  refine ⟨?_,?_,?_,?_⟩
  · intro other member
    rw [List.mem_singleton.mp member]
    exact ⟨spends.ordered,quoted⟩
  · intro other member
    rw [List.mem_singleton.mp member]
    exact spends.aimed
  · rw [cost,slack]
    exact spends.costs
  · rw [cost,slack]
    exact spends.leaves

-- A purchase that ends without a halt, and the rest of the loop from the cash it leaves.
theorem Spends.cons {result : Except PyExc Unit} {purchase : Purchase} {rest : List Purchase} (spends : Spends frame before middle (.ok ()) purchase)
    (quoted : Quoted frame.settings purchase) (going : middle.book.submissionHalted = false) (same : SamePlan before events middle)
    (spent : Spent frame middle after result rest) : Spent frame before after result (purchase :: rest) := by
  have left : purchase.cost + max 0 middle.view.investableCash ≤ max 0 before.view.investableCash + purchase.slack frame.settings := by
    rcases spends.leaves rfl with halted | left
    · rw [going] at halted
      cases halted
    · exact left
  refine ⟨?_,?_,?_,?_⟩
  · intro other member
    rcases List.mem_cons.mp member with rfl | later
    · exact ⟨spends.ordered,quoted⟩
    · exact spent.ordered other later
  · intro other member buys
    rcases List.mem_cons.mp member with rfl | later
    · exact spends.aimed buys
    · exact aimed_samePlan same (spent.aimed other later buys)
  · rw [totalCost_cons,totalSlack_cons]
    linarith [spent.costs]
  · intro ended
    rw [totalCost_cons,totalSlack_cons]
    rcases spent.leaves ended with halted | rest
    · exact .inl halted
    · right
      linarith

theorem buyLoop_halted {candidates : List String} {result : Except PyExc Unit} (halted : before.book.submissionHalted = true)
    (steps : (buyLoop frame candidates).Steps false before events result after) : events = [] ∧ result = .ok () ∧ after = before := by
  cases candidates with
  | nil => exact steps_pure.mp steps
  | cons symbol rest =>
    unfold buyLoop at steps
    rw [steps_get_bind,if_pos halted] at steps
    exact steps_pure.mp steps

theorem buyLoop_spends {candidates : List String} {result : Except PyExc Unit} (steps : (buyLoop frame candidates).Steps false before events result after) :
    ∃ purchases, (purchases.map Purchase.symbol).Sublist candidates ∧ events = purchases.flatMap Purchase.events ∧
      Spent frame before after result purchases := by
  induction candidates generalizing before events with
  | nil =>
    obtain ⟨rfl,_,rfl⟩ := steps_pure.mp steps
    exact ⟨[],List.Sublist.refl _,rfl,spent_nil⟩
  | cons symbol rest ih =>
    unfold buyLoop at steps
    rw [steps_get_bind] at steps
    rcases steps_ite steps with ⟨_,steps⟩ | ⟨going,steps⟩
    · obtain ⟨rfl,_,rfl⟩ := steps_pure.mp steps
      exact ⟨[],List.nil_sublist _,rfl,spent_nil⟩
    have walks := samePlan_walks frame.settings
    rcases steps_bind.mp steps with ⟨one,two,_,middle,rfl,buying,looping⟩ | ⟨error,rfl,buying⟩
    · obtain ⟨limit,quote,quantity,spends,quoted⟩ := buySymbol_spends buying
      have same := walk_buySymbol walks (fun _ _ => ⟨rfl,rfl⟩) (by simpa using going) _ _ _ buying
      by_cases halted : middle.book.submissionHalted = true
      · obtain ⟨rfl,rfl,rfl⟩ := buyLoop_halted halted looping
        refine ⟨[⟨symbol,limit,quote,quantity,one⟩],?_,?_,spends.last quoted⟩
        · exact List.Sublist.cons_cons symbol (List.nil_sublist rest)
        · simp
      · obtain ⟨purchases,names,rfl,spent⟩ := ih looping
        exact ⟨⟨symbol,limit,quote,quantity,one⟩ :: purchases,names.cons_cons symbol,rfl,
          spends.cons quoted (by simpa using halted) same spent⟩
    · obtain ⟨limit,quote,quantity,spends,quoted⟩ := buySymbol_spends buying
      refine ⟨[⟨symbol,limit,quote,quantity,events⟩],?_,?_,spends.last quoted⟩
      · exact List.Sublist.cons_cons symbol (List.nil_sublist rest)
      · simp

theorem rebuyQuantity_within {investable reference : ℚ} {limit : Option ℚ} (funds : 0 < investable)
    (buys : 0 < rebuyQuantity frame (floorToQuantityStep (investable / reference) 1) limit) :
    0 < reference ∧ rebuyQuantity frame (floorToQuantityStep (investable / reference) 1) limit * reference ≤ investable ∧
      ∃ count : ℤ, rebuyQuantity frame (floorToQuantityStep (investable / reference) 1) limit = count := by
  have priced := rebuy_price funds rfl buys
  cases limit with
  | none => exact absurd buys (lt_irrefl 0)
  | some limit =>
    unfold rebuyQuantity at buys ⊢
    dsimp only at buys ⊢
    have most := normalizeTradeQuantity_le (min (floorToQuantityStep (investable / reference) 1) limit) (lotFor frame.settings frame.cashSweepSymbol)
    have budget : max 0 (min (floorToQuantityStep (investable / reference) 1) limit) ≤ investable / reference := by
      apply max_le (div_nonneg funds.le priced.le)
      exact (min_le_left _ _).trans (floorToQuantityStep_le _ (div_nonneg funds.le priced.le))
    exact ⟨priced,(le_div_iff₀ priced).mp (most.trans budget),normalizeTradeQuantity_whole _ _⟩

theorem placeRebuy_places {quantity reference : ℚ} {result : Except PyExc Unit}
    (steps : (placeRebuy frame quantity reference).Steps false before events result after) :
    PlacesAt frame.settings frame.cashSweepSymbol .buy .limit quantity reference events := by
  rcases steps_bind.mp steps with ⟨one,two,submitted,middle,rfl,placing,noting⟩ | ⟨_,_,placing⟩
  · refine placesAt_before ?_ (placeOrder_once placing)
    have noted : ∀ {key : String} {args : List (String × Arg)} (change : OrderBook → OrderBook), Keeps Quiet false (translate key args) →
        Keeps Idle false (translate key args >>= fun message => noteLog message >>= fun _ => changeBook change) := by
      intro key args change quiet
      refine keeps_bind idle_composes (keeps_weaken idle_events quiet) fun message => ?_
      refine keeps_bind idle_composes (keeps_weaken idle_events (quiet_noteLog message)) fun _ => ?_
      exact keeps_modify fun _ _ member => by cases member
    have idle := keeps_ite (noted _ (quiet_translate (by simp))) (keeps_weaken idle_events (quiet_pure ())) _ _ _ _ noting
    exact idle
  · exact placeOrder_once placing

-- The purchase of the rebuy: one order at most, for no more than the cash.
structure Rebuys (frame : Frame) (before : Locals) (purchase : Purchase) : Prop where
  symbol : purchase.symbol = frame.cashSweepSymbol
  ordered : Ordered frame.settings purchase
  costs : purchase.cost ≤ max 0 before.view.investableCash + purchase.slack frame.settings

theorem rebuys_idle {quote : ℚ} (idle : ∀ event ∈ events, isOrder event = false) : Rebuys frame before ⟨frame.cashSweepSymbol,none,quote,0,events⟩ :=
  ⟨rfl,idle_ordered idle,(spends_idle idle rfl : Spends frame before before (.ok ()) _).costs⟩

theorem rebuySized_spends {price : ℚ} {result : Except PyExc Unit} (funds : 0 < before.view.investableCash)
    (steps : (rebuySized frame before.view.investableCash price).Steps false middle events result after) :
    ∃ limit quantity, Rebuys frame before ⟨frame.cashSweepSymbol,limit,price,quantity,events⟩ := by
  unfold rebuySized at steps
  dsimp only at steps
  rcases steps_fromExcept_bind.mp steps with ⟨ratio,divided,rest⟩ | ⟨error,_,rfl,_,rfl⟩
  · have sized : ratio = before.view.investableCash / rebuyReference frame price := by
      unfold divide at divided
      split at divided
      · cases divided
      · exact (Except.ok.inj divided).symm
    rw [sized] at rest
    rcases steps_bind.mp rest with ⟨one,two,bound,reached,rfl,estimating,placing⟩ | ⟨_,_,estimating⟩
    · have quiet := idle_events (quiet_estimateCashBuyQuantitySafe _ _ _ _ _ _ _ _ estimating)
      rcases steps_ite placing with ⟨buys,placing⟩ | ⟨_,placing⟩
      · obtain ⟨priced,fits,whole⟩ := rebuyQuantity_within funds buys
        have places := placesAt_behind quiet (placeRebuy_places placing)
        have order := placed_sized .limit price places buys priced (fun wrong => absurd rfl wrong)
        refine ⟨_,_,rfl,⟨⟨_,_,places⟩,placed_limited .limit price places fun _ => limitBuyPrice_cents _ _ _,fun _ => whole⟩,?_⟩
        exact order.cost_le priced (fits.trans (le_max_right 0 _))
      · refine ⟨none,0,rebuys_idle fun event member => ?_⟩
        exact (List.mem_append.mp member).elim (quiet event) (idle_events (quiet_recordNoteLog _ _ _ _ _ _ placing) event)
    · exact ⟨none,0,rebuys_idle (idle_events (quiet_estimateCashBuyQuantitySafe _ _ _ _ _ _ _ _ estimating))⟩
  · exact ⟨none,0,rebuys_idle (by simp [isOrder])⟩

theorem rebuyCashSweep_spends {result : Except PyExc Unit} (steps : (rebuyCashSweep frame).Steps false before events result after) :
    ∃ limit quote quantity, Rebuys frame before ⟨frame.cashSweepSymbol,limit,quote,quantity,events⟩ ∧
      Quoted frame.settings ⟨frame.cashSweepSymbol,limit,quote,quantity,events⟩ := by
  have none_ : (∀ event ∈ events, isOrder event = false) → ∃ limit quote quantity,
      Rebuys frame before ⟨frame.cashSweepSymbol,limit,quote,quantity,events⟩ ∧
        Quoted frame.settings ⟨frame.cashSweepSymbol,limit,quote,quantity,events⟩ :=
    fun idle => ⟨none,0,0,rebuys_idle idle,fun buys => absurd (dealt_idle idle) buys⟩
  unfold rebuyCashSweep at steps
  rw [steps_get_bind] at steps
  rcases steps_ite steps with ⟨_,steps⟩ | ⟨_,steps⟩
  · rcases steps_bind.mp steps with ⟨one,two,price,middle,rfl,quoting,buying⟩ | ⟨_,_,quoting⟩
    · have quiet := idle_events (quiet_safeQuoteLastPrice _ _ _ _ _ quoting)
      cases price with
      | none =>
        apply none_
        intro event member
        exact (List.mem_append.mp member).elim (quiet event) (idle_events (quiet_pure _ _ _ _ _ buying) event)
      | some price =>
        dsimp only at buying
        rcases steps_ite buying with ⟨rebuys,buying⟩ | ⟨_,buying⟩
        · have funds : 0 < before.view.investableCash := by linarith [rebuys.1,rebuys.2.1]
          obtain ⟨limit,quantity,symbol,ordered,costs⟩ := rebuySized_spends funds buying
          refine ⟨limit,price,quantity,⟨rfl,ordered.behind quiet,?_⟩,quoted_behind quoting rfl⟩
          simp only [Purchase.bought,Purchase.cost,Purchase.slack,Purchase.rounding,Purchase.unit,dealt_behind quiet] at costs ⊢
          exact costs
        · apply none_
          intro event member
          exact (List.mem_append.mp member).elim (quiet event) (idle_events (quiet_pure _ _ _ _ _ buying) event)
    · exact none_ (idle_events (quiet_safeQuoteLastPrice _ _ _ _ _ quoting))
  · exact none_ (idle_events (quiet_pure _ _ _ _ _ steps))

def totalRounding (purchases : List Purchase) : ℚ := (purchases.map Purchase.rounding).sum

-- Only the record of a fractional dry run shows anything else than what was sized.
theorem Ordered.slack_eq {settings : Settings} {purchase : Purchase} (ordered : Ordered settings purchase)
    (exact_ : settings.dryRunOnly = true → settings.fractionalBuyExecution = false) : purchase.slack settings = purchase.rounding := by
  have excess : shownExcess settings purchase.quantity = 0 := by
    cases dry : settings.dryRunOnly with
    | false => exact shownExcess_live _ dry
    | true =>
      obtain ⟨count,same⟩ := ordered.whole (exact_ dry)
      rw [same]
      exact shownExcess_whole _ _
  unfold Purchase.slack
  rw [excess,zero_mul,add_zero]

theorem totalSlack_eq {settings : Settings} {purchases : List Purchase} (ordered : ∀ purchase ∈ purchases, Ordered settings purchase)
    (exact_ : settings.dryRunOnly = true → settings.fractionalBuyExecution = false) : totalSlack settings purchases = totalRounding purchases := by
  unfold totalSlack totalRounding
  congr 1
  apply List.map_congr_left
  intro purchase member
  exact (ordered purchase member).slack_eq exact_

-- The purchases of a buy phase, the last of them the rebuy of the sweep.
structure Shopping (frame : Frame) (start : Locals) (candidates : List String) (purchases : List Purchase) (sweep : Purchase) : Prop where
  names : (purchases.map Purchase.symbol).Sublist candidates
  symbol : sweep.symbol = frame.cashSweepSymbol
  ordered : ∀ purchase ∈ purchases ++ [sweep], Ordered frame.settings purchase ∧ Quoted frame.settings purchase
  aimed : ∀ purchase ∈ purchases, purchase.bought ≠ 0 → WithinGap frame start.view purchase ∨ TopsUp frame start.view purchase
  total : totalCost (purchases ++ [sweep]) ≤ max 0 start.view.investableCash + totalSlack frame.settings (purchases ++ [sweep])
  slack : (frame.settings.dryRunOnly = true → frame.settings.fractionalBuyExecution = false) →
    totalSlack frame.settings (purchases ++ [sweep]) = totalRounding (purchases ++ [sweep])

theorem Spent.shopping {result : Except PyExc Unit} {candidates : List String} {purchases : List Purchase} {sweep : Purchase}
    (spent : Spent frame before after result purchases) (names : (purchases.map Purchase.symbol).Sublist candidates)
    (symbol : sweep.symbol = frame.cashSweepSymbol) (ordered : Ordered frame.settings sweep) (quoted : Quoted frame.settings sweep)
    (costs : totalCost purchases + sweep.cost ≤ max 0 before.view.investableCash + (totalSlack frame.settings purchases + sweep.slack frame.settings)) :
    Shopping frame before candidates purchases sweep := by
  have all : ∀ purchase ∈ purchases ++ [sweep], Ordered frame.settings purchase ∧ Quoted frame.settings purchase := by
    intro purchase member
    rcases List.mem_append.mp member with early | late
    · exact spent.ordered purchase early
    · rw [List.mem_singleton.mp late]
      exact ⟨ordered,quoted⟩
  refine ⟨names,symbol,all,spent.aimed,?_,totalSlack_eq fun purchase member => (all purchase member).1⟩
  rw [totalCost_append,totalSlack_append]
  simpa [totalCost,totalSlack] using costs

-- A rebuy that does nothing.
theorem Spent.unswept {result : Except PyExc Unit} {candidates : List String} {purchases : List Purchase}
    (spent : Spent frame before after result purchases) (names : (purchases.map Purchase.symbol).Sublist candidates) :
    Shopping frame before candidates purchases ⟨frame.cashSweepSymbol,none,0,0,[]⟩ := by
  have idle : ∀ event ∈ ([] : List Happening), isOrder event = false := by simp
  obtain ⟨bought,slack⟩ := @idle_slack [] frame.settings frame.cashSweepSymbol 0 idle
  have free : (⟨frame.cashSweepSymbol,none,0,0,[]⟩ : Purchase).cost = 0 := by
    unfold Purchase.cost
    rw [bought,zero_mul]
  refine spent.shopping names rfl (idle_ordered idle) (fun buys => absurd bought buys) ?_
  rw [free,slack,add_zero,add_zero]
  exact spent.costs

theorem buyPhase_shopping {candidates : List String} {result : Except PyExc CycleResult}
    (steps : (buyPhase frame candidates).Steps false before events result after) :
    ∃ purchases sweep rest, events = purchases.flatMap Purchase.events ++ (sweep.events ++ rest) ∧
      (∀ event ∈ rest, isOrder event = false) ∧ Shopping frame before candidates purchases sweep := by
  rcases steps_bind.mp steps with ⟨loop,later,_,middle,rfl,looping,rest⟩ | ⟨error,_,looping⟩
  · obtain ⟨purchases,names,rfl,spent⟩ := buyLoop_spends looping
    -- The rebuy, and what the phase ends with.
    have cut : ∃ swept ended outcome last, later = swept ++ ended ∧ (∀ event ∈ ended, isOrder event = false) ∧
        (rebuyCashSweep frame).Steps false middle swept outcome last := by
      rcases steps_bind.mp rest with ⟨swept,ended,_,last,rfl,sweeping,finishing⟩ | ⟨error,_,sweeping⟩
      · exact ⟨swept,ended,_,last,rfl,idle_events (quiet_finishCycle frame _ _ _ _ finishing),sweeping⟩
      · exact ⟨later,[],_,after,by rw [List.append_nil],by simp,sweeping⟩
    obtain ⟨swept,ended,outcome,last,rfl,idle,sweeping⟩ := cut
    rcases spent.leaves rfl with halted | left
    · have refused : rebuyAllowed frame middle = false := by
        by_contra allowed
        rw [rebuyAllowed_placing (by simpa using allowed)] at halted
        cases halted
      unfold rebuyCashSweep at sweeping
      rw [steps_get_bind,if_neg (by rw [refused]; simp)] at sweeping
      obtain ⟨rfl,_,_⟩ := steps_pure.mp sweeping
      exact ⟨purchases,_,ended,rfl,idle,spent.unswept names⟩
    · obtain ⟨limit,quote,quantity,rebuys,quoted⟩ := rebuyCashSweep_spends sweeping
      refine ⟨purchases,⟨frame.cashSweepSymbol,limit,quote,quantity,swept⟩,ended,rfl,idle,spent.shopping names rfl rebuys.ordered quoted ?_⟩
      linarith [rebuys.costs]
  · obtain ⟨purchases,names,rfl,spent⟩ := buyLoop_spends looping
    exact ⟨purchases,_,[],by simp,by simp,spent.unswept names⟩

theorem undealt_steady {side : Side} (steady : Steady before events after) : Undealt side before events after :=
  fun event member => dealtBy_idle (steady.idle event member)

theorem unbuying_sellAndFund : Keeps (Undealt .buy) false (sellAndFund frame) := by
  have walks : Walks frame.settings .sell (Undealt .buy) := undealt_walks frame.settings (by simp)
  refine keeps_bind (undealt_composes .buy) (keeps_weaken undealt_steady (steady_adjustTargets true)) fun _ => ?_
  apply keeps_get_bind
  intro locals
  refine keeps_bind (undealt_composes .buy) (walk_sellLoop walks _) (fun _ => ?_) locals
  refine keeps_bind (undealt_composes .buy) (walk_fundFromSweep walks) fun _ => ?_
  exact keeps_weaken undealt_steady steady_fundFromSells

-- Nothing is bought in a cycle, or all its purchases are those of its buy
-- phase: together within the cash that phase starts with, and each of the loop
-- within its gap unless it tops a holding up by one share.
theorem purchases_stay_within_the_cash {result : Except PyExc CycleResult}
    (run : (executeRebalanceCycle frame).Steps false (openingLocals frame.opening) events result after) :
    (∀ event ∈ events, dealtBy .buy event = 0) ∨ ∃ first gated candidates purchases sweep rest,
      events = first ++ (purchases.flatMap Purchase.events ++ (sweep.events ++ rest)) ∧
      (buyPhase frame candidates).Steps false gated (purchases.flatMap Purchase.events ++ (sweep.events ++ rest)) result after ∧
      (∀ event ∈ first ++ rest, dealtBy .buy event = 0) ∧ Shopping frame gated candidates purchases sweep := by
  have silent : ∀ {before after : Locals} {events : List Happening} {result : Except PyExc Bool},
      (openCycle frame).Steps false before events result after → ∀ event ∈ events, dealtBy .buy event = 0 :=
    fun steps event member => dealtBy_idle (idle_of_quiet ((opened_openCycle _ _ _ _ steps).events event member))
  rcases steps_bind.mp run with ⟨one,two,blocked,opened,rfl,opening,trading⟩ | ⟨_,_,opening⟩
  · have early := silent opening
    rcases steps_ite trading with ⟨_,trading⟩ | ⟨_,trading⟩
    · left
      rw [steps_get_bind] at trading
      obtain ⟨rfl,_,_⟩ := steps_pure.mp trading
      rw [List.append_nil]
      exact early
    · rcases steps_bind.mp trading with ⟨sells,buying,_,funded,rfl,selling,rest⟩ | ⟨_,_,selling⟩
      · have sold := unbuying_sellAndFund _ _ _ _ selling
        rcases steps_bind.mp rest with ⟨gating,buys,candidates,gated,rfl,gates,shopping⟩ | ⟨_,_,gates⟩
        · have quiet := idle_events (quiet_gateBuys frame _ _ _ _ gates)
          obtain ⟨purchases,sweep,ended,rfl,idle,shop⟩ := buyPhase_shopping shopping
          right
          refine ⟨one ++ (sells ++ gating),gated,candidates,purchases,sweep,ended,?_,shopping,?_,shop⟩
          · simp only [List.append_assoc]
          · intro event member
            rcases List.mem_append.mp member with front | back
            · rcases List.mem_append.mp front with front | later
              · exact early event front
              · exact (List.mem_append.mp later).elim (sold event) fun gate => dealtBy_idle (quiet event gate)
            · exact dealtBy_idle (idle event back)
        · left
          intro event member
          rcases List.mem_append.mp member with front | later
          · exact early event front
          · exact (List.mem_append.mp later).elim (sold event) fun gate =>
              dealtBy_idle (idle_events (quiet_gateBuys frame _ _ _ _ gates) event gate)
      · left
        intro event member
        exact (List.mem_append.mp member).elim (early event) (unbuying_sellAndFund _ _ _ _ selling event)
  · exact .inl (silent opening)

theorem cycle_of_phases {opened funded gated : Locals} {candidates : List String} {one two three four : List Happening} {result : Except PyExc CycleResult}
    (opens : (openCycle frame).Steps false (openingLocals frame.opening) one (.ok false) opened)
    (funds : (sellAndFund frame).Steps false opened two (.ok ()) funded)
    (gates : (gateBuys frame).Steps false funded three (.ok candidates) gated)
    (buys : (buyPhase frame candidates).Steps false gated four result after) :
    (executeRebalanceCycle frame).Steps false (openingLocals frame.opening) (one ++ (two ++ (three ++ four))) result after := by
  refine steps_bind.mpr (.inl ⟨one,_,false,opened,rfl,opens,?_⟩)
  rw [if_neg Bool.false_ne_true]
  refine steps_bind.mpr (.inl ⟨two,_,(),funded,rfl,funds,?_⟩)
  exact steps_bind.mpr (.inl ⟨three,four,candidates,gated,rfl,gates,buys⟩)

-- A phase played from a state; where it returns, it has run so.
def playFrom (world : World ports PyExc) (script : Step α) (before : Locals) : List Happening × Except PyExc α × Locals :=
  play world [] (script.run false before)

theorem playFrom_runs (world : World ports PyExc) (script : Step α) (before : Locals) :
    script.Steps false before (playFrom world script before).1 (playFrom world script before).2.1 (playFrom world script before).2.2 :=
  play_runs world [] _

theorem playFrom_returns {world : World ports PyExc} {script : Step α} {value : α}
    (returns : (playFrom world script before).2.1.toOption = some value) :
    script.Steps false before (playFrom world script before).1 (.ok value) (playFrom world script before).2.2 := by
  have ran := playFrom_runs world script before
  generalize playFrom world script before = played at returns ran ⊢
  obtain ⟨events,exc | known,after⟩ := played
  · cases returns
  · cases returns
    exact ran

def playedOpening (world : World ports PyExc) (frame : Frame) : List Happening × Except PyExc Bool × Locals :=
  playFrom world (openCycle frame) (openingLocals frame.opening)

def playedFunding (world : World ports PyExc) (frame : Frame) : List Happening × Except PyExc Unit × Locals :=
  playFrom world (sellAndFund frame) (playedOpening world frame).2.2

def playedGate (world : World ports PyExc) (frame : Frame) : List Happening × Except PyExc (List String) × Locals :=
  playFrom world (gateBuys frame) (playedFunding world frame).2.2

def playedBuys (world : World ports PyExc) (frame : Frame) (candidates : List String) : List Happening × Except PyExc CycleResult × Locals :=
  playFrom world (buyPhase frame candidates) (playedGate world frame).2.2

theorem played_cycle (world : World ports PyExc) (frame : Frame) (candidates : List String)
    (opens : (playedOpening world frame).2.1.toOption = some false) (funds : (playedFunding world frame).2.1.toOption = some ())
    (gates : (playedGate world frame).2.1.toOption = some candidates) :
    ∃ first, (executeRebalanceCycle frame).Steps false (openingLocals frame.opening) (first ++ (playedBuys world frame candidates).1)
        (playedBuys world frame candidates).2.1 (playedBuys world frame candidates).2.2 ∧
      (buyPhase frame candidates).Steps false (playedGate world frame).2.2 (playedBuys world frame candidates).1
        (playedBuys world frame candidates).2.1 (playedBuys world frame candidates).2.2 := by
  have opening : (openCycle frame).Steps false (openingLocals frame.opening) (playedOpening world frame).1 (.ok false)
      (playedOpening world frame).2.2 := by
    unfold playedOpening at opens ⊢
    exact playFrom_returns opens
  have funding : (sellAndFund frame).Steps false (playedOpening world frame).2.2 (playedFunding world frame).1 (.ok ())
      (playedFunding world frame).2.2 := by
    unfold playedFunding at funds ⊢
    exact playFrom_returns funds
  have gating : (gateBuys frame).Steps false (playedFunding world frame).2.2 (playedGate world frame).1 (.ok candidates)
      (playedGate world frame).2.2 := by
    unfold playedGate at gates ⊢
    exact playFrom_returns gates
  have buying : (buyPhase frame candidates).Steps false (playedGate world frame).2.2 (playedBuys world frame candidates).1
      (playedBuys world frame candidates).2.1 (playedBuys world frame candidates).2.2 := by
    unfold playedBuys
    exact playFrom_runs _ _ _
  have whole := cycle_of_phases opening funding gating buying
  rw [← List.append_assoc,← List.append_assoc] at whole
  exact ⟨_,whole,buying⟩

-- A market where one share costs 5000.
def dearWorld (refreshed : Observation) : World ports PyExc := fun past request =>
  match request with
  | .getQuote symbol => .ok ⟨symbol,"",some 5000,none,none,"USD"⟩
  | request => calmWorld refreshed past request

-- One symbol to buy, with this cash and for this gap.
def dearBuy (cash gap : ℚ) : Observation :=
  observe (hold [("SPY",0)] [("SPY",0)] cash "") (approved cash 0) (allocate ["SPY"] ["SPY"] [("SPY",gap)])

def shownFrame (cash : ℚ) : Frame := ⟨{ wholeShareSettings true with fractionalBuyExecution := true },testedKit,gateOff,dearBuy cash 500003⟩

-- The 100.0006 shares that 500003 pays for are recorded as 100.001; and a cash
-- below zero is less than the nothing that is bought.
theorem shown_quantity_exceeds_the_cash : (∃ (frame : Frame) (first buys : List Happening) (result : Except PyExc CycleResult)
    (candidates : List String) (gated after : Locals),
    (executeRebalanceCycle frame).Steps false (openingLocals frame.opening) (first ++ buys) result after ∧
    (buyPhase frame candidates).Steps false gated buys result after ∧
    (∀ quote ∈ buys.filterMap quoteOf, quote.2 = 5000) ∧ (∀ event ∈ buys, orderLimit event = none) ∧
    gated.view.investableCash + dealt .buy buys / 200 < dealt .buy buys * 5000) ∧
  ∃ (frame : Frame) (first buys : List Happening) (result : Except PyExc CycleResult) (candidates : List String) (gated after : Locals),
    (executeRebalanceCycle frame).Steps false (openingLocals frame.opening) (first ++ buys) result after ∧
    (buyPhase frame candidates).Steps false gated buys result after ∧
    (∀ event ∈ buys, isOrder event = false) ∧ gated.view.investableCash < 0 := by
  constructor
  · obtain ⟨first,run,buying⟩ := played_cycle (dearWorld (dearBuy 500003 500003)) (shownFrame 500003) ["SPY"]
      (by decide +kernel) (by decide +kernel) (by decide +kernel)
    refine ⟨shownFrame 500003,_,_,_,["SPY"],_,_,run,buying,?_,?_,?_⟩
    · decide +kernel
    · decide +kernel
    · decide +kernel
  · obtain ⟨first,run,buying⟩ := played_cycle (dearWorld (dearBuy (-50) 500003)) (shownFrame (-50)) []
      (by decide +kernel) (by decide +kernel) (by decide +kernel)
    refine ⟨shownFrame (-50),_,_,_,[],_,_,run,buying,?_,?_⟩
    · decide +kernel
    · decide +kernel

def paidFrame : Frame := ⟨wholeShareSettings false,testedKit,gateOff,oneBuy⟩

def paidRun : List Happening × Except PyExc CycleResult × Locals := playFrom (calmWorld oneBuy) (executeRebalanceCycle paidFrame) (openingLocals oneBuy)

theorem bought_shares_are_paid_for : ∃ first gated candidates purchases sweep rest,
    paidRun.1 = first ++ (purchases.flatMap Purchase.events ++ (sweep.events ++ rest)) ∧
    (∀ event ∈ first ++ rest, dealtBy .buy event = 0) ∧ Shopping paidFrame gated candidates purchases sweep := by
  have run : (executeRebalanceCycle paidFrame).Steps false (openingLocals paidFrame.opening) paidRun.1 paidRun.2.1 paidRun.2.2 := by
    unfold paidRun
    exact playFrom_runs _ _ _
  rcases purchases_stay_within_the_cash run with nothing | ⟨first,gated,candidates,purchases,sweep,rest,split,_,quiet,shop⟩
  · have buys : (paidRun.1.all fun event => decide (dealtBy .buy event = 0)) = false := by decide +kernel
    have none : (paidRun.1.all fun event => decide (dealtBy .buy event = 0)) = true :=
      List.all_eq_true.mpr fun event member => decide_eq_true (nothing event member)
    rw [buys] at none
    cases none
  · exact ⟨first,gated,candidates,purchases,sweep,rest,split,quiet,shop⟩

end LongBridge.Cycle
