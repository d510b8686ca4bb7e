import Mathlib.Data.List.Basic
import Mathlib.Data.List.Forall2
import Mathlib.Algebra.BigOperators.Group.List.Basic

namespace Effects

variable {ε α β γ σ : Type}

-- Functions that return or raise, without any call: what a returned value says.
def require (condition : Prop) [Decidable condition] (error : ε) : Except ε Unit :=
  if condition then .ok () else .error error

theorem require_ok {condition : Prop} [Decidable condition] {error : ε} {done : Unit} :
    require condition error = .ok done ↔ condition := by
  unfold require
  split <;> simp_all

theorem bind_ok {value : Except ε α} {rest : α → Except ε β} {result : β} :
    (value >>= rest) = .ok result ↔ ∃ middle, value = .ok middle ∧ rest middle = .ok result := by
  cases value <;> simp [bind,Except.bind]

theorem return_ok {value result : α} : (pure value : Except ε α) = .ok result ↔ value = result := by
  simp [pure,Except.pure]

theorem bind_return_ok {value : Except ε α} {rest : α → β} {result : β} :
    (value >>= fun middle => pure (rest middle)) = .ok result ↔ ∃ middle, value = .ok middle ∧ result = rest middle := by
  rw [bind_ok]
  simp only [return_ok,@eq_comm β result]

-- any(...) over a test that may raise; the first that holds ends it.
def anyOk (test : α → Except ε Bool) : List α → Except ε Bool
  | [] => .ok false
  | item :: rest => do
    let found ← test item
    if found then return true else anyOk test rest

-- [item for item in items if test(item)] with such a test.
def selectOk (test : α → Except ε Bool) : List α → Except ε (List α)
  | [] => .ok []
  | item :: rest => do
    let chosen ← test item
    let others ← selectOk test rest
    return if chosen then item :: others else others

theorem mapM_ok {f : α → Except ε β} {items : List α} {results : List β} :
    items.mapM f = .ok results ↔ List.Forall₂ (fun item result => f item = .ok result) items results := by
  induction items generalizing results with
  | nil => rw [List.mapM_nil,return_ok,List.forall₂_nil_left_iff]; exact eq_comm
  | cons item rest ih =>
    rw [List.mapM_cons,bind_ok,List.forall₂_cons_left_iff]
    constructor
    · rintro ⟨result,one,others⟩
      obtain ⟨tail,more,same⟩ := bind_ok.mp others
      exact ⟨result,tail,one,ih.mp more,(return_ok.mp same).symm⟩
    · rintro ⟨result,tail,one,more,rfl⟩
      exact ⟨result,one,bind_ok.mpr ⟨tail,ih.mpr more,rfl⟩⟩

theorem mapM_mem {f : α → Except ε β} {items : List α} {results : List β} (all : items.mapM f = .ok results) :
    (∀ item ∈ items, ∃ result ∈ results, f item = .ok result) ∧
      ∀ result ∈ results, ∃ item ∈ items, f item = .ok result := by
  have pairs := mapM_ok.mp all
  clear all
  induction pairs with
  | nil => simp
  | cons one _ ih =>
    refine ⟨?_,?_⟩
    · intro item member
      rcases List.mem_cons.mp member with rfl | later
      · exact ⟨_,List.mem_cons_self ..,one⟩
      · obtain ⟨result,present,read⟩ := ih.1 item later
        exact ⟨result,List.mem_cons_of_mem _ present,read⟩
    · intro result member
      rcases List.mem_cons.mp member with rfl | later
      · exact ⟨_,List.mem_cons_self ..,one⟩
      · obtain ⟨item,present,read⟩ := ih.2 result later
        exact ⟨item,List.mem_cons_of_mem _ present,read⟩

theorem mapM_congr {f g : α → Except ε β} {items : List α} (same : ∀ item ∈ items, f item = g item) : items.mapM f = items.mapM g := by
  induction items with
  | nil => simp
  | cons item rest ih =>
    rw [List.mapM_cons,List.mapM_cons,same item (by simp),ih fun later member => same later (List.mem_cons_of_mem _ member)]

theorem mapM_at {f : α → Except ε β} {items : List α} {results : List β} (all : items.mapM f = .ok results) {index : ℕ} {item : α}
    (found : items[index]? = some item) : ∃ result, results[index]? = some result ∧ f item = .ok result := by
  have pairs := mapM_ok.mp all
  clear all
  induction pairs generalizing index with
  | nil => simp at found
  | cons one _ ih =>
    cases index with
    | zero =>
      rw [List.getElem?_cons_zero,Option.some.injEq] at found
      subst found
      exact ⟨_,List.getElem?_cons_zero,one⟩
    | succ index =>
      rw [List.getElem?_cons_succ] at found ⊢
      exact ih found

theorem mapM_keeps {f : α → Except ε β} {g : α → γ} {h : β → γ} {items : List α} {results : List β}
    (same : ∀ item ∈ items, ∀ result, f item = .ok result → h result = g item)
    (all : items.mapM f = .ok results) : results.map h = items.map g := by
  have pairs := mapM_ok.mp all
  clear all
  induction pairs with
  | nil => rfl
  | cons one _ ih =>
    rw [List.map_cons,List.map_cons,same _ (List.mem_cons_self ..) _ one]
    rw [ih (fun item member => same item (List.mem_cons_of_mem _ member))]

-- A loop that may raise keeps what every round keeps.
theorem foldlM_keeps {f : σ → α → Except ε σ} {R : σ → σ → Prop} (refl : ∀ state, R state state)
    (trans : ∀ {one two three}, R one two → R two three → R one three)
    {items : List α} (step : ∀ state item next, item ∈ items → f state item = .ok next → R state next)
    {before after : σ} (ran : items.foldlM f before = .ok after) : R before after := by
  induction items generalizing before with
  | nil =>
    rw [List.foldlM_nil,return_ok] at ran
    subst ran; exact refl _
  | cons item rest ih =>
    rw [List.foldlM_cons,bind_ok] at ran
    obtain ⟨middle,one,others⟩ := ran
    refine trans (step _ _ _ (List.mem_cons_self ..) one) (ih ?_ others)
    intro state next result member
    exact step state next result (List.mem_cons_of_mem _ member)

-- A loop that adds something in every round has added the sum.
theorem foldlM_sum {μ : Type} [AddMonoid μ] {f : σ → α → Except ε σ} (keep : σ → Prop) (size : σ → μ) (amount : α → μ)
    {items : List α} (step : ∀ state item next, item ∈ items → keep state → f state item = .ok next →
      keep next ∧ size next = size state + amount item)
    {before after : σ} (kept : keep before) (ran : items.foldlM f before = .ok after) :
    keep after ∧ size after = size before + (items.map amount).sum := by
  induction items generalizing before with
  | nil =>
    rw [List.foldlM_nil,return_ok] at ran
    subst ran
    exact ⟨kept,by simp⟩
  | cons item rest ih =>
    rw [List.foldlM_cons,bind_ok] at ran
    obtain ⟨middle,one,others⟩ := ran
    obtain ⟨still,added⟩ := step _ _ _ (List.mem_cons_self ..) kept one
    obtain ⟨last,total⟩ := ih (fun state other next member => step state other next (List.mem_cons_of_mem _ member))
      still others
    exact ⟨last,by rw [total,added,List.map_cons,List.sum_cons,add_assoc]⟩

-- Where every round settles its item for good, the whole loop run again changes nothing.
theorem foldlM_settles {f : σ → α → Except ε σ} {keep : σ → Prop} {R : σ → σ → Prop} (refl : ∀ state, R state state)
    (trans : ∀ {one two three}, R one two → R two three → R one three)
    (step : ∀ {state item next}, keep state → f state item = .ok next →
      keep next ∧ R state next ∧ ∀ later, R next later → f later item = .ok later)
    {items : List α} {before after : σ} (kept : keep before) (ran : items.foldlM f before = .ok after) :
    keep after ∧ R before after ∧ ∀ later, R after later → items.foldlM f later = .ok later := by
  induction items generalizing before with
  | nil =>
    rw [List.foldlM_nil,return_ok] at ran
    subst ran
    exact ⟨kept,refl _,fun later _ => return_ok.mpr rfl⟩
  | cons item rest ih =>
    rw [List.foldlM_cons,bind_ok] at ran
    obtain ⟨middle,one,others⟩ := ran
    obtain ⟨still,first,settled⟩ := step kept one
    obtain ⟨last,next,again⟩ := ih still others
    refine ⟨last,trans first next,?_⟩
    intro later after
    rw [List.foldlM_cons,bind_ok]
    exact ⟨later,settled later (trans next after),again later after⟩

theorem foldlM_respects {f : σ → α → Except ε σ} {E : σ → σ → Prop}
    (respects : ∀ {one two item next}, E one two → f one item = .ok next → ∃ other, f two item = .ok other ∧ E next other)
    {items : List α} {one two after : σ} (same : E one two) (ran : items.foldlM f one = .ok after) :
    ∃ last, items.foldlM f two = .ok last ∧ E after last := by
  induction items generalizing one two with
  | nil =>
    rw [List.foldlM_nil,return_ok] at ran
    subst ran
    exact ⟨two,return_ok.mpr rfl,same⟩
  | cons item items ih =>
    rw [List.foldlM_cons,bind_ok] at ran
    obtain ⟨middle,head,ran⟩ := ran
    obtain ⟨other,step,alike⟩ := respects same head
    obtain ⟨last,run,close⟩ := ih alike ran
    exact ⟨last,by rw [List.foldlM_cons,bind_ok]; exact ⟨other,step,run⟩,close⟩

-- A loop whose neighbouring rounds may be exchanged: any order of the items does.
theorem foldlM_perm {f : σ → α → Except ε σ} {E : σ → σ → Prop} (symm : ∀ {one two}, E one two → E two one)
    (trans : ∀ {one two three}, E one two → E two three → E one three)
    (respects : ∀ {one two item next}, E one two → f one item = .ok next → ∃ other, f two item = .ok other ∧ E next other)
    (swap : ∀ {state one two middle last}, E state state → f state one = .ok middle → f middle two = .ok last →
      ∃ other final, f state two = .ok other ∧ f other one = .ok final ∧ E last final)
    {items others : List α} (perm : items.Perm others) {before start after : σ} (same : E before start)
    (ran : items.foldlM f before = .ok after) : ∃ last, others.foldlM f start = .ok last ∧ E after last := by
  induction perm generalizing before start after with
  | nil =>
    rw [List.foldlM_nil,return_ok] at ran
    subst ran
    exact ⟨start,return_ok.mpr rfl,same⟩
  | cons item _ ih =>
    rw [List.foldlM_cons,bind_ok] at ran
    obtain ⟨middle,one,rest⟩ := ran
    obtain ⟨other,step,alike⟩ := respects same one
    obtain ⟨last,run,end_⟩ := ih alike rest
    exact ⟨last,by rw [List.foldlM_cons,bind_ok]; exact ⟨other,step,run⟩,end_⟩
  | swap one two items =>
    rw [List.foldlM_cons,bind_ok] at ran
    obtain ⟨first,step,rest⟩ := ran
    rw [List.foldlM_cons,bind_ok] at rest
    obtain ⟨second,next,rest⟩ := rest
    obtain ⟨other,final,front,back,alike⟩ := swap (trans same (symm same)) step next
    obtain ⟨front',taken,near⟩ := respects same front
    obtain ⟨final',done,close⟩ := respects near back
    obtain ⟨last,run,end_⟩ := foldlM_respects respects (trans alike close) rest
    refine ⟨last,?_,end_⟩
    rw [List.foldlM_cons,bind_ok]
    refine ⟨front',taken,?_⟩
    rw [List.foldlM_cons,bind_ok]
    exact ⟨final',done,run⟩
  | trans _ _ one two =>
    obtain ⟨middle,run,alike⟩ := one (trans same (symm same)) ran
    obtain ⟨last,run,close⟩ := two same run
    exact ⟨last,run,trans alike close⟩

end Effects
