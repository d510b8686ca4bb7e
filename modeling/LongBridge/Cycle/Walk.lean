import LongBridge.Cycle.Quiet

namespace LongBridge.Cycle
open Effects

-- What the loops write into the book themselves; the lists and the halt belong to the placing.
def KeepsLists (change : OrderBook → OrderBook) : Prop := ∀ book,
  (change book).submittedOrders = book.submittedOrders ∧ (change book).dryRunOrders = book.dryRunOrders ∧
  (change book).pendingOrders = book.pendingOrders ∧ (change book).submittedSellOrders = book.submittedSellOrders ∧
  (change book).submissionHalted = book.submissionHalted

-- A buy is paid for at once, and never below zero.
def paid (locals : Locals) (cost : ℚ) : Locals :=
  { locals with view := { locals.view with investableCash := max 0 (locals.view.investableCash - cost) } }

-- A relation that survives one loop over symbols: it holds of everything quiet,
-- of the loop's own book-keeping, and of each placing from a state that is not halted.
structure Walks (settings : Settings) (side : Side) (R : Locals → List Happening → Locals → Prop) : Prop where
  composes : Composes R
  quiet : ∀ {before events after}, Quiet before events after → R before events after
  book : ∀ {change : OrderBook → OrderBook}, KeepsLists change →
    ∀ before : Locals, R before [] { before with book := change before.book }
  place : ∀ {symbol orderType quantity price} {before : Locals}, before.book.submissionHalted = false →
    KeepsFrom R false before (placeOrder settings symbol side orderType quantity price)

section
variable {settings : Settings} {side : Side} {R : Locals → List Happening → Locals → Prop} {before : Locals}

theorem walk_quiet {script : Step α} (walks : Walks settings side R) (quiet : Keeps Quiet false script) : Keeps R false script :=
  keeps_weaken walks.quiet quiet

theorem walk_bind {script : Step α} {rest : α → Step β} (walks : Walks settings side R) (first : Keeps R false script)
    (second : ∀ value, Keeps R false (rest value)) : Keeps R false (script >>= rest) :=
  keeps_bind walks.composes first second

theorem walk_changeBook {change : OrderBook → OrderBook} (walks : Walks settings side R) (keeps : KeepsLists change) :
    Keeps R false (changeBook change) := keeps_modify (walks.book keeps)

theorem walk_whenever {condition : Bool} {script : Step Unit} (walks : Walks settings side R) (keeps : Keeps R false script) :
    Keeps R false (whenever condition script) := keeps_ite keeps (walk_quiet walks (quiet_pure ()))

-- A quiet step first: what follows starts with the same book and view.
theorem walk_after_quiet {script : Step α} {rest : α → Step β} (walks : Walks settings side R) (quiet : Keeps Quiet false script)
    (second : ∀ value middle, middle.book = before.book → middle.view = before.view →
      KeepsFrom R false middle (rest value)) : KeepsFrom R false before (script >>= rest) := by
  refine keepsFrom_bind walks.composes (walk_quiet walks quiet before) ?_
  intro events value middle ran
  have same := quiet before events _ middle ran
  exact second value middle same.book same.view

end

section selling
variable {R : Locals → List Happening → Locals → Prop} {frame : Frame} {before : Locals} (walks : Walks frame.settings .sell R)
include walks

theorem walk_settleSell (symbol : String) (holding : Holding) (held : ℚ) (submitted : Bool) :
    Keeps R false (settleSell frame symbol holding held submitted) := by
  refine keeps_ite (walk_changeBook walks (by simp [KeepsLists])) (keeps_ite ?_ (keeps_ite ?_ ?_))
  · exact walk_quiet walks (quiet_bind (quiet_translate (by simp)) (fun _ => quiet_recordSkipLog _ _))
  · refine walk_bind walks (walk_changeBook walks (by simp [KeepsLists])) (fun _ => ?_)
    exact walk_quiet walks (quiet_bind (quiet_translate (by simp)) (fun _ => quiet_recordSkipLog _ _))
  · exact walk_quiet walks (quiet_pure ())

theorem walk_placeSell {symbol : String} {isLimit : Bool} {quantity price : ℚ}
    (placing : before.book.submissionHalted = false) :
    KeepsFrom R false before (placeSell frame symbol isLimit quantity price) := by
  refine keepsFrom_ite (fun _ => walks.place placing) (fun _ => ?_)
  refine keepsFrom_bind walks.composes (walks.place placing) (fun _ submitted middle _ => ?_)
  exact walk_bind walks (walk_whenever walks (walk_changeBook walks (by simp [KeepsLists]))) (fun _ => walk_quiet walks (quiet_pure _)) middle

theorem walk_sellQuoted {symbol : String} {holding : Holding} {price : ℚ}
    (placing : before.book.submissionHalted = false) :
    KeepsFrom R false before (sellQuoted frame symbol holding price) := by
  refine keepsFrom_get_bind (walk_after_quiet walks (quiet_fromExcept _) (fun sellable middle book _ => ?_))
  refine keepsFrom_ite (fun _ => walk_quiet walks (quiet_pure _) middle) (fun _ => ?_)
  refine keepsFrom_bind walks.composes (walk_placeSell walks (by rw [book]; exact placing)) (fun _ submitted last _ => ?_)
  refine keepsFrom_get_bind (keepsFrom_ite (fun _ => walk_quiet walks (quiet_pure _) last) (fun _ => ?_))
  refine walk_bind walks (walk_quiet walks (quiet_fromExcept _)) (fun held => ?_) last
  exact walk_bind walks (walk_settleSell walks _ _ _ _) (fun _ => walk_quiet walks (quiet_pure _))

theorem walk_sellSymbol {symbol : String} (placing : before.book.submissionHalted = false) :
    KeepsFrom R false before (sellSymbol frame symbol) := by
  refine keepsFrom_get_bind (walk_after_quiet walks (quiet_fromExcept _) (fun holding middle book _ => ?_))
  refine keepsFrom_ite (fun _ => ?_) (fun _ => walk_quiet walks (quiet_pure _) middle)
  refine walk_after_quiet walks (quiet_safeQuoteLastPrice _) (fun price last again _ => ?_)
  cases price with
  | none => exact walk_quiet walks (quiet_pure _) last
  | some price => exact walk_sellQuoted walks (by rw [again,book]; exact placing)

theorem walk_sellLoop (symbols : List String) : Keeps R false (sellLoop frame symbols) := by
  induction symbols with
  | nil => exact walk_quiet walks (quiet_pure ())
  | cons symbol rest ih =>
    refine keeps_get_bind (fun locals => keepsFrom_ite (fun _ => walk_quiet walks (quiet_pure ()) locals) (fun placing => ?_))
    refine keepsFrom_bind walks.composes (walk_sellSymbol walks (by simpa using placing)) (fun _ stops middle _ => ?_)
    exact keepsFrom_ite (fun _ => walk_quiet walks (quiet_pure ()) middle) (fun _ => ih middle)

theorem walk_sellSweep {candidates : List String} {price : ℚ} (placing : before.book.submissionHalted = false) :
    KeepsFrom R false before (sellSweep frame candidates price) := by
  refine keepsFrom_get_bind (walk_after_quiet walks (quiet_fundingNeeds frame _ _) (fun needs middle book _ => ?_))
  refine keepsFrom_ite (fun _ => ?_) (fun _ => walk_quiet walks (quiet_pure ()) middle)
  refine keepsFrom_bind walks.composes (walk_placeSell walks (by rw [book]; exact placing)) (fun _ submitted last _ => ?_)
  exact walk_whenever walks (walk_changeBook walks (by simp [KeepsLists])) last

theorem walk_fundFromSweep : Keeps R false (fundFromSweep frame) := by
  refine keeps_get_bind (fun locals => walk_after_quiet walks (quiet_fromExcept _) (fun candidates middle book _ => ?_))
  refine keepsFrom_ite (fun guard => ?_) (fun _ => walk_quiet walks (quiet_pure ()) middle)
  have placing : locals.book.submissionHalted = false := by
    simp only [Bool.and_eq_true,Bool.not_eq_true'] at guard
    exact guard.1.1.1.1
  refine walk_after_quiet walks (quiet_safeQuoteLastPrice _) (fun price last again _ => ?_)
  cases price with
  | none => exact walk_quiet walks (quiet_pure ()) last
  | some price =>
    refine keepsFrom_ite (fun _ => walk_sellSweep walks ?_) (fun _ => walk_quiet walks (quiet_pure ()) last)
    rw [again,book]; exact placing

end selling

theorem rebuyAllowed_placing {frame : Frame} {locals : Locals} (allowed : rebuyAllowed frame locals = true) :
    locals.book.submissionHalted = false := by
  simp only [rebuyAllowed,Bool.and_eq_true,Bool.not_eq_true'] at allowed
  exact allowed.1.1.1.1.1

section buying
variable {R : Locals → List Happening → Locals → Prop} {frame : Frame} {before : Locals} (walks : Walks frame.settings .buy R)
  (pays : ∀ cost before, R before [] (paid before cost))

include walks pays

theorem walk_spend (cost : ℚ) : Keeps R false (spend cost) :=
  walk_bind walks (keeps_modify (pays cost)) (fun _ => walk_changeBook walks (by simp [KeepsLists]))

theorem walk_placeBuy {symbol : String} {kind : OrderType} {quantity reference price : ℚ}
    (placing : before.book.submissionHalted = false) :
    KeepsFrom R false before (placeBuy frame symbol kind quantity reference price) := by
  refine keepsFrom_bind walks.composes (walks.place placing) (fun _ submitted middle _ => ?_)
  exact walk_whenever walks (walk_spend walks pays _) middle

theorem walk_buyQuoted {symbol : String} {gap price : ℚ} (placing : before.book.submissionHalted = false) :
    KeepsFrom R false before (buyQuoted frame symbol gap price) := by
  refine keepsFrom_get_bind (walk_after_quiet walks (quiet_fromExcept _) (fun holding middle book _ => ?_))
  refine keepsFrom_ite (fun _ => ?_) (fun _ => walk_quiet walks (quiet_noteUnaffordable _ _ _ _ _) middle)
  refine walk_after_quiet walks (quiet_estimateBuyQuantityCandidate frame _ _ _ _) (fun candidate last again _ => ?_)
  cases candidate with
  | none => exact walk_quiet walks (quiet_pure ()) last
  | some candidate =>
    refine keepsFrom_ite (fun _ => walk_quiet walks (quiet_recordNoteLog _ _) last) (fun _ => walk_placeBuy walks pays ?_)
    rw [again,book]; exact placing

theorem walk_buySymbol {symbol : String} (placing : before.book.submissionHalted = false) :
    KeepsFrom R false before (buySymbol frame symbol) := by
  refine keepsFrom_get_bind (walk_after_quiet walks (quiet_fromExcept _) (fun gap middle book _ => ?_))
  refine walk_after_quiet walks (quiet_safeQuoteLastPrice _) (fun price last again _ => ?_)
  cases price with
  | none => exact walk_quiet walks (quiet_pure ()) last
  | some price => exact walk_buyQuoted walks pays (by rw [again,book]; exact placing)

theorem walk_buyLoop (symbols : List String) : Keeps R false (buyLoop frame symbols) := by
  induction symbols with
  | nil => exact walk_quiet walks (quiet_pure ())
  | cons symbol rest ih =>
    refine keeps_get_bind (fun locals => keepsFrom_ite (fun _ => walk_quiet walks (quiet_pure ()) locals) (fun placing => ?_))
    exact keepsFrom_bind walks.composes (walk_buySymbol walks pays (by simpa using placing)) (fun _ _ middle _ => ih middle)

omit pays

theorem walk_placeRebuy {quantity reference : ℚ} (placing : before.book.submissionHalted = false) :
    KeepsFrom R false before (placeRebuy frame quantity reference) := by
  refine keepsFrom_bind walks.composes (walks.place placing) (fun _ submitted middle _ => ?_)
  refine walk_whenever walks (walk_bind walks (walk_quiet walks (quiet_translate (by simp))) (fun message => ?_)) middle
  exact walk_bind walks (walk_quiet walks (quiet_noteLog message)) (fun _ => walk_changeBook walks (by simp [KeepsLists]))

theorem walk_rebuySized {investable price : ℚ} (placing : before.book.submissionHalted = false) :
    KeepsFrom R false before (rebuySized frame investable price) := by
  refine walk_after_quiet walks (quiet_fromExcept _) (fun ratio middle book _ => ?_)
  refine walk_after_quiet walks (quiet_estimateCashBuyQuantitySafe _ _ _ _) (fun limit last again _ => ?_)
  refine keepsFrom_ite (fun _ => walk_placeRebuy walks ?_) (fun _ => walk_quiet walks (quiet_recordNoteLog _ _) last)
  rw [again,book]; exact placing

theorem walk_rebuyCashSweep : Keeps R false (rebuyCashSweep frame) := by
  refine keeps_get_bind (fun locals => keepsFrom_ite (fun allowed => ?_) (fun _ => walk_quiet walks (quiet_pure ()) locals))
  refine walk_after_quiet walks (quiet_safeQuoteLastPrice _) (fun price middle book _ => ?_)
  cases price with
  | none => exact walk_quiet walks (quiet_pure ()) middle
  | some price =>
    refine keepsFrom_ite (fun _ => walk_rebuySized walks ?_) (fun _ => walk_quiet walks (quiet_pure ()) middle)
    rw [book]; exact rebuyAllowed_placing allowed

end buying
end LongBridge.Cycle
