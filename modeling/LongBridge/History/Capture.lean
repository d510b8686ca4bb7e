import LongBridge.Effects.Conforming
import LongBridge.History.Inventory

namespace LongBridge.History
open Effects

section capture

-- What the broker answers about the balances: None, a list or a tuple, or any other value
inductive BalanceAnswer where
  | missing
  | listed (accounts : List NativeBalance)
  | other

def BalanceAnswer.accounts : BalanceAnswer → Option (List NativeBalance)
  | .listed accounts => some accounts
  | _ => none

-- The channels of a stock answer; none where they are neither a list nor a tuple
abbrev StocksAnswer := Option (List (Option (List NativePosition)))

inductive ReadCall where
  | accountBalance
  | stockPositions
  | clock

def ReadCall.Result : ReadCall → Type
  | .accountBalance => BalanceAnswer
  | .stockPositions => StocksAnswer
  | .clock => ℤ

abbrev readPorts : Ports := ⟨ReadCall,ReadCall.Result,Empty⟩

-- The slot of one cycle
structure Capture where
  seen : Bool
  balance : BalanceAnswer
  projection : Option Projection
  positions : Option (List Fields)
  started : Option ℤ
  finished : Option ℤ
  stocksSeen : Bool
  stocks : StocksAnswer
  stocksError : Option PyExc

-- `begin_natural_cycle_history`
def beginNaturalCycleHistory : Capture := ⟨false,.missing,none,none,none,none,false,none,none⟩

-- The slot of the running cycle, if there is one, is what a read has for a local.
abbrev CycleRead := Script readPorts PyExc (Option Capture)

def askRead (call : ReadCall) : CycleRead call.Result := Script.invoke (P := readPorts) call

def note (change : Capture → Capture) : CycleRead Unit := Script.modify (Option.map change)

def balanceUnavailable : PyExc := ⟨"RuntimeError","captured account balance unavailable"⟩

def BalanceAnswer.kept : BalanceAnswer → Except PyExc BalanceAnswer
  | .missing => .error balanceUnavailable
  | answer => .ok answer

def readCycleAccountBalance : CycleRead BalanceAnswer := do
  let current ← Script.get
  match current with
  | none => askRead .accountBalance
  | some slot =>
    if slot.seen then Script.fromExcept slot.balance.kept
    else do
      note fun slot => { slot with seen := true }
      let started : ℤ ← askRead .clock
      note fun slot => { slot with started := some started }
      let balance : BalanceAnswer ← askRead .accountBalance
      let finished : ℤ ← askRead .clock
      note fun slot => { slot with finished := some finished, balance, projection := projectCycleHistoryBalances balance.accounts }
      return balance

def Capture.keptStocks (slot : Capture) : Except PyExc StocksAnswer :=
  match slot.stocksError with
  | some exc => .error exc
  | none => .ok slot.stocks

-- The projection takes the positions up only where it is there already.
def Capture.withStocks (slot : Capture) (response : StocksAnswer) : Capture :=
  let kept := { slot with stocks := response }
  match projectCycleStockPositions response with
  | none => kept
  | some rows => if slot.projection.isSome then { kept with positions := some rows } else kept

def readCycleStockPositions : CycleRead StocksAnswer := do
  let current ← Script.get
  match current with
  | none => askRead .stockPositions
  | some slot =>
    if slot.stocksSeen then Script.fromExcept slot.keptStocks
    else do
      note fun slot => { slot with stocksSeen := true }
      let answer ← (askRead .stockPositions).attempt
      match answer with
      | .error exc => do
        note fun slot => { slot with stocksError := some exc }
        let finished : ℤ ← askRead .clock
        note fun slot => { slot with finished := some finished }
        Script.raise exc
      | .ok response => do
        let finished : ℤ ← askRead .clock
        note fun slot => { slot with finished := some finished }
        note fun slot => slot.withStocks response
        return response

structure Observed where
  projection : Projection
  positions : Option (List Fields)
  started : Option ℤ
  finished : Option ℤ

-- `cycle_history_observation`
def cycleHistoryObservation (current : Option Capture) : Option Observed := do
  let slot ← current
  if slot.seen then
    let projection ← slot.projection
    return ⟨projection,slot.positions,slot.started,slot.finished⟩
  else none

-- Who reads in a cycle, and what each of them is told
inductive Reader where
  | balance
  | stocks
  deriving DecidableEq

inductive Told where
  | balance (result : Except PyExc BalanceAnswer)
  | stocks (result : Except PyExc StocksAnswer)

def Reader.read : Reader → CycleRead Told
  | .balance => do
    let result ← readCycleAccountBalance.attempt
    return .balance result
  | .stocks => do
    let result ← readCycleStockPositions.attempt
    return .stocks result

def cycleReads (readers : List Reader) : CycleRead (List Told) := readers.foldlM (fun told reader => do
  let next ← reader.read
  return told ++ [next]) []

end capture

section once

-- What the broker has answered so far
structure Asked where
  balance : Option (Except PyExc BalanceAnswer)
  stocks : Option (Except PyExc StocksAnswer)

-- Each kind of read is made once; the clock answers.
def onceRule : Discipline readPorts PyExc Asked where
  allow asked call := match call with
    | .accountBalance => asked.balance = none
    | .stockPositions => asked.stocks = none
    | .clock => True
  possible _ call answer := match call,answer with
    | .clock,.error _ => False
    | _,_ => True
  move asked call answer := match call,answer with
    | .accountBalance,answer => { asked with balance := some answer }
    | .stockPositions,answer => { asked with stocks := some answer }
    | .clock,_ => asked

def answerOf : Option (Except PyExc BalanceAnswer) → BalanceAnswer
  | some (.ok answer) => answer
  | _ => .missing

-- What the slot holds of the answers
structure Holds (asked : Asked) (slot : Capture) : Prop where
  seen : slot.seen = asked.balance.isSome
  balance : slot.balance = answerOf asked.balance
  projection : slot.projection = projectCycleHistoryBalances (answerOf asked.balance).accounts
  stocksSeen : slot.stocksSeen = asked.stocks.isSome
  calm : asked.stocks = none → slot.stocksError = none
  stocks : ∀ result ∈ asked.stocks, slot.keptStocks = result
  positions : ∀ rows ∈ slot.positions, ∃ response, asked.stocks = some (.ok response) ∧ projectCycleStockPositions response = some rows

-- What a reader is told: of the balances the answer, or what is kept of it where they were read before
def Due (asked : Asked) (again : Bool) (reader : Reader) (told : Told) : Prop :=
  match reader,told with
  | .balance,.balance result => ∃ answer, asked.balance = some answer ∧ result = if again then (answerOf (some answer)).kept else answer
  | .stocks,.stocks result => asked.stocks = some result
  | _,_ => False

-- One entry for each reader, at its place
def ToldInTurn (asked : Asked) (readers : List Reader) (told : List Told) : Prop :=
  told.length = readers.length ∧ ∀ i reader, readers[i]? = some reader →
    ∃ one, told[i]? = some one ∧ Due asked ((readers.take i).contains .balance) reader one

-- What is known stays known.
structure Grown (before after : Asked) : Prop where
  balance : ∀ answer, before.balance = some answer → after.balance = some answer
  stocks : ∀ answer, before.stocks = some answer → after.stocks = some answer

variable {asked : Asked} {slot : Capture} {held again : Bool} {reader : Reader} {readers : List Reader}

theorem grown_refl (asked : Asked) : Grown asked asked := ⟨fun _ same => same,fun _ same => same⟩

theorem due_grown {after : Asked} {told : Told} (due : Due asked again reader told) (grown : Grown asked after) : Due after again reader told := by
  cases reader with
  | balance =>
    cases told with
    | balance result =>
      obtain ⟨answer,known,same⟩ := due
      exact ⟨answer,grown.balance answer known,same⟩
    | stocks result => exact due
  | stocks =>
    cases told with
    | balance result => exact due
    | stocks result => exact grown.stocks result due

theorem toldInTurn_snoc {after : Asked} {told : List Told} {next : Told} (turn : ToldInTurn asked readers told) (grown : Grown asked after)
    (due : Due after (readers.contains .balance) reader next) : ToldInTurn after (readers ++ [reader]) (told ++ [next]) := by
  obtain ⟨same,each⟩ := turn
  refine ⟨by rw [List.length_append,List.length_append,same]; rfl,?_⟩
  intro i one there
  by_cases early : i < readers.length
  · rw [List.getElem?_append_left early] at there
    obtain ⟨old,found,known⟩ := each i one there
    refine ⟨old,by rw [List.getElem?_append_left (same ▸ early),found],?_⟩
    rw [List.take_append_of_le_length early.le]
    exact due_grown known grown
  · have within : i < (readers ++ [reader]).length := (List.getElem?_eq_some_iff.mp there).1
    have last : i = readers.length := by
      rw [List.length_append,List.length_singleton] at within
      omega
    subst last
    rw [List.getElem?_concat_length] at there
    cases there
    refine ⟨next,by rw [← same,List.getElem?_concat_length],?_⟩
    rw [List.take_left]
    exact due

-- What a read leaves behind
def Keeps (asked : Asked) (reader : Reader) (tells : Told) (after : Asked) (left : Option Capture) : Prop :=
  Grown asked after ∧ after.balance.isSome = (asked.balance.isSome || reader == .balance) ∧ Due after asked.balance.isSome reader tells ∧
    ∃ slot, left = some slot ∧ Holds after slot

theorem promises_askRead {call : ReadCall} {before : Option Capture} {ends : Asked → Except PyExc call.Result → Option Capture → Prop} :
    (askRead call).Promises onceRule ends asked held before ↔ onceRule.allow asked call ∧
      ∀ answer, onceRule.possible asked call answer → ends (onceRule.move asked call answer) answer before := Iff.rfl

theorem balance_keeps (holds : Holds asked slot) :
    readCycleAccountBalance.Promises onceRule (fun after result left => Keeps asked .balance (.balance result) after left) asked held (some slot) := by
  unfold readCycleAccountBalance
  refine promises_bind.mpr (promises_get.mpr ?_)
  dsimp only
  cases asked_ : asked.balance with
  | some answer =>
    have seen : slot.seen = true := by rw [holds.seen,asked_]; rfl
    rw [if_pos seen]
    refine promises_fromExcept.mpr ⟨grown_refl asked,by rw [asked_]; rfl,⟨answer,asked_,?_⟩,slot,rfl,holds⟩
    rw [asked_,holds.balance,asked_]
    rfl
  | none =>
    have unseen : ¬slot.seen = true := by rw [holds.seen,asked_]; exact Bool.false_ne_true
    rw [if_neg unseen]
    refine promises_bind.mpr (promises_modify.mpr (promises_bind.mpr (promises_askRead.mpr ⟨trivial,fun first possible => ?_⟩)))
    cases first with
    | error exc => exact possible.elim
    | ok started =>
      refine promises_bind.mpr (promises_modify.mpr (promises_bind.mpr (promises_askRead.mpr ⟨asked_,fun answer _ => ?_⟩)))
      cases answer with
      | error exc =>
        refine ⟨⟨fun old known => ?_,fun old known => known⟩,by rw [asked_]; rfl,⟨.error exc,rfl,by rw [asked_]; rfl⟩,_,rfl,
          ⟨rfl,?_,?_,holds.stocksSeen,holds.calm,holds.stocks,holds.positions⟩⟩
        · rw [asked_] at known
          cases known
        · exact holds.balance.trans (by rw [asked_]; rfl)
        · exact holds.projection.trans (by rw [asked_]; rfl)
      | ok balance =>
        refine promises_bind.mpr (promises_askRead.mpr ⟨trivial,fun last possible => ?_⟩)
        cases last with
        | error exc => exact possible.elim
        | ok finished =>
          refine promises_bind.mpr (promises_modify.mpr ?_)
          refine ⟨⟨fun old known => ?_,fun old known => known⟩,by rw [asked_]; rfl,⟨.ok balance,rfl,by rw [asked_]; rfl⟩,_,rfl,
            ⟨rfl,rfl,rfl,holds.stocksSeen,holds.calm,holds.stocks,holds.positions⟩⟩
          rw [asked_] at known
          cases known

theorem withStocks_other (slot : Capture) (response : StocksAnswer) : ∃ positions, slot.withStocks response = { slot with stocks := response, positions } ∧
    (positions = slot.positions ∨ positions = projectCycleStockPositions response) := by
  unfold Capture.withStocks
  cases projected : projectCycleStockPositions response with
  | none => exact ⟨_,rfl,.inl rfl⟩
  | some rows =>
    dsimp only
    split
    · exact ⟨_,rfl,.inr rfl⟩
    · exact ⟨_,rfl,.inl rfl⟩

theorem stocks_keeps (holds : Holds asked slot) :
    readCycleStockPositions.Promises onceRule (fun after result left => Keeps asked .stocks (.stocks result) after left) asked held (some slot) := by
  unfold readCycleStockPositions
  refine promises_bind.mpr (promises_get.mpr ?_)
  dsimp only
  cases asked_ : asked.stocks with
  | some answer =>
    have seen : slot.stocksSeen = true := by rw [holds.stocksSeen,asked_]; rfl
    rw [if_pos seen]
    refine promises_fromExcept.mpr ⟨grown_refl asked,(Bool.or_false _).symm,?_,slot,rfl,holds⟩
    rw [holds.stocks answer asked_]
    exact asked_
  | none =>
    have unseen : ¬slot.stocksSeen = true := by rw [holds.stocksSeen,asked_]; exact Bool.false_ne_true
    have bare : slot.positions = none := by
      cases listed : slot.positions with
      | none => rfl
      | some rows =>
        obtain ⟨_,known,_⟩ := holds.positions rows listed
        rw [asked_] at known
        cases known
    have fresh : ∀ answer, Grown asked { asked with stocks := some answer } := by
      refine fun answer => ⟨fun old known => known,fun old known => ?_⟩
      rw [asked_] at known
      cases known
    rw [if_neg unseen]
    refine promises_bind.mpr (promises_modify.mpr (promises_bind.mpr (promises_attempt.mpr (promises_askRead.mpr ⟨asked_,fun answer _ => ?_⟩))))
    cases answer with
    | error exc =>
      refine promises_bind.mpr (promises_modify.mpr (promises_bind.mpr (promises_askRead.mpr ⟨trivial,fun last possible => ?_⟩)))
      cases last with
      | error exc => exact possible.elim
      | ok finished =>
        refine promises_bind.mpr (promises_modify.mpr (promises_raise.mpr ?_))
        refine ⟨fresh (.error exc),(Bool.or_false _).symm,rfl,_,rfl,⟨holds.seen,holds.balance,holds.projection,rfl,fun none => absurd none (Option.some_ne_none _),?_,?_⟩⟩
        · intro result known
          cases known
          rfl
        · intro rows listed
          rw [bare] at listed
          cases listed
    | ok response =>
      refine promises_bind.mpr (promises_askRead.mpr ⟨trivial,fun last possible => ?_⟩)
      cases last with
      | error exc => exact possible.elim
      | ok finished =>
        refine promises_bind.mpr (promises_modify.mpr (promises_bind.mpr (promises_modify.mpr ?_)))
        obtain ⟨positions,same,taken⟩ := withStocks_other { slot with stocksSeen := true, finished := some finished } response
        refine ⟨fresh (.ok response),(Bool.or_false _).symm,rfl,_,congrArg some same,⟨holds.seen,holds.balance,holds.projection,rfl,fun none => absurd none (Option.some_ne_none _),?_,?_⟩⟩
        · intro result known
          cases known
          unfold Capture.keptStocks
          dsimp only
          rw [holds.calm asked_]
          rfl
        · intro rows listed
          rcases taken with old | projected
          · rw [old] at listed
            exact absurd (bare.symm.trans listed) (Option.some_ne_none rows).symm
          · exact ⟨response,rfl,projected.symm.trans listed⟩

theorem reader_keeps (holds : Holds asked slot) (reader : Reader) :
    reader.read.Promises onceRule (fun after result left => ∃ told, result = .ok told ∧ Keeps asked reader told after left) asked held (some slot) := by
  cases reader with
  | balance =>
    refine promises_bind.mpr (promises_attempt.mpr (promises_mono ?_ (balance_keeps holds)))
    intro after result left kept
    exact ⟨_,rfl,kept⟩
  | stocks =>
    refine promises_bind.mpr (promises_attempt.mpr (promises_mono ?_ (stocks_keeps holds)))
    intro after result left kept
    exact ⟨_,rfl,kept⟩

-- What a cycle's readers have been told so far
def Reading (readers : List Reader) (after : Asked) (told : List Told) (left : Option Capture) : Prop :=
  ToldInTurn after readers told ∧ after.balance.isSome = readers.contains .balance ∧ ∃ slot, left = some slot ∧ Holds after slot

theorem cycleReads_keeps (readers : List Reader) (unasked : asked.balance = none) (holds : Holds asked slot) :
    (cycleReads readers).Promises onceRule (Outcome (Reading readers) fun _ _ _ => False) asked held (some slot) := by
  refine promises_foldlM (I := fun front after told left => Reading front after told left) ?_ ?_
  · intro front reader asked told before _ reading
    obtain ⟨turn,seen,slot,rfl,holds⟩ := reading
    refine promises_bind.mpr (promises_mono ?_ (reader_keeps holds reader))
    rintro after _ left ⟨next,rfl,grown,more,own,slot,rfl,holds⟩
    rw [seen] at own more
    refine ⟨toldInTurn_snoc turn grown own,?_,slot,rfl,holds⟩
    rw [more]
    cases reader <;> simp
  · refine ⟨⟨rfl,fun i reader there => ?_⟩,by rw [unasked]; rfl,slot,rfl,holds⟩
    rw [List.getElem?_nil] at there
    cases there

abbrev ReadEvent := Event readPorts PyExc

def isBalanceRead : ReadEvent → Bool
  | .answered _ .accountBalance _ => true
  | _ => false

def isStockRead : ReadEvent → Bool
  | .answered _ .stockPositions _ => true
  | _ => false

-- The answers known at the end of a run, beside its events
structure Answered (events : List ReadEvent) (asked : Asked) : Prop where
  balance : ∀ answer ∈ asked.balance, ∃ held, .answered held .accountBalance answer ∈ events
  stocks : ∀ answer ∈ asked.stocks, ∃ held, .answered held .stockPositions answer ∈ events

variable {events : List ReadEvent}

theorem balance_once (allowed : onceRule.Allowed asked events) : events.countP isBalanceRead ≤ if asked.balance.isSome then 0 else 1 := by
  refine allowed_once (fun asked : Asked => asked.balance.isSome) (fun asked event free counted => ?_) (fun asked event other => ?_) allowed
  · rcases event with ⟨_,_ | _ | _,_⟩ | _ | _
    · exact ⟨congrArg Option.isSome (free : asked.balance = none),rfl⟩
    all_goals cases counted
  · rcases event with ⟨_,_ | _ | _,_⟩ | _ | _
    · cases other
    all_goals rfl

theorem stock_once (allowed : onceRule.Allowed asked events) : events.countP isStockRead ≤ if asked.stocks.isSome then 0 else 1 := by
  refine allowed_once (fun asked : Asked => asked.stocks.isSome) (fun asked event free counted => ?_) (fun asked event other => ?_) allowed
  · rcases event with ⟨_,_ | _ | _,_⟩ | _ | _
    · cases counted
    · exact ⟨congrArg Option.isSome (free : asked.stocks = none),rfl⟩
    all_goals cases counted
  · rcases event with ⟨_,_ | _ | _,_⟩ | _ | _
    · rfl
    · cases other
    all_goals rfl

theorem answered_snoc {before : List ReadEvent} {event : ReadEvent} (known : Answered before asked) :
    Answered (before ++ [event]) (onceRule.moved asked event) := by
  have old : Answered (before ++ [event]) asked := by
    constructor
    · intro answer same
      obtain ⟨held,member⟩ := known.balance answer same
      exact ⟨held,List.mem_append_left _ member⟩
    · intro answer same
      obtain ⟨held,member⟩ := known.stocks answer same
      exact ⟨held,List.mem_append_left _ member⟩
  have last : event ∈ before ++ [event] := List.mem_append_right _ (List.mem_singleton_self _)
  cases event with
  | answered held call answer =>
    cases call with
    | accountBalance => exact ⟨fun found same => ⟨held,Option.some.inj same ▸ last⟩,old.stocks⟩
    | stockPositions => exact ⟨old.balance,fun found same => ⟨held,Option.some.inj same ▸ last⟩⟩
    | clock => exact old
  | fault held exc => exact old
  | marked label => exact old

theorem answered_run : Answered events (events.foldl onceRule.moved ⟨none,none⟩) := by
  induction events using List.reverseRecOn with
  | nil =>
    constructor <;>
    · intro answer same
      cases same
  | append_singleton before event ih =>
    rw [List.foldl_append]
    exact answered_snoc ih

theorem clock_expected (clock : ∀ held exc, .answered held .clock (.error exc) ∉ events) : onceRule.Expected asked events := by
  induction events generalizing asked with
  | nil => trivial
  | cons event rest ih =>
    refine ⟨?_,ih fun held exc member => clock held exc (List.mem_cons_of_mem _ member)⟩
    cases event with
    | answered held call answer =>
      cases call with
      | accountBalance => trivial
      | stockPositions => trivial
      | clock =>
        cases answer with
        | ok time => trivial
        | error exc => exact (clock held exc List.mem_cons_self).elim
    | fault held exc => trivial
    | marked label => trivial

theorem observed_projection (holds : Holds asked slot) :
    (cycleHistoryObservation (some slot)).map Observed.projection = projectCycleHistoryBalances (answerOf asked.balance).accounts := by
  rw [← holds.projection]
  unfold cycleHistoryObservation
  cases seen : slot.seen with
  | true =>
    cases projected : slot.projection with
    | none => simp [seen,projected]
    | some projection => simp [seen,projected]
  | false =>
    have unasked : asked.balance = none := by
      rw [holds.seen] at seen
      exact Option.not_isSome_iff_eq_none.mp (Bool.eq_false_iff.mp seen)
    have bare : slot.projection = none := by
      rw [holds.projection,unasked]
      rfl
    simp [seen,bare]

theorem observed_positions {observed : Observed} (found : observed ∈ cycleHistoryObservation (some slot)) : observed.positions = slot.positions := by
  unfold cycleHistoryObservation at found
  obtain ⟨_,⟨⟩,found⟩ := Option.bind_eq_some_iff.mp found
  split at found
  · obtain ⟨projection,_,same⟩ := Option.bind_eq_some_iff.mp found
    cases same
    rfl
  · cases found

-- What a whole cycle of reads leaves, beside the answers among its events
theorem reads_hold {readers : List Reader} {result : Except PyExc (List Told)} {left : Option Capture}
    (run : (cycleReads readers).Steps held (some beginNaturalCycleHistory) events result left)
    (clock : ∀ held exc, .answered held .clock (.error exc) ∉ events) :
    onceRule.Allowed ⟨none,none⟩ events ∧ ∃ told asked slot, result = .ok told ∧ left = some slot ∧ Answered events asked ∧
      ToldInTurn asked readers told ∧ Holds asked slot := by
  have start : Holds ⟨none,none⟩ beginNaturalCycleHistory := by
    refine ⟨rfl,rfl,rfl,rfl,fun _ => rfl,?_,?_⟩ <;>
    · intro found same
      cases same
  obtain ⟨allowed,ended⟩ := conforms_runs (cycleReads_keeps readers rfl start) run (clock_expected clock)
  refine ⟨allowed,?_⟩
  cases result with
  | error exc => exact ended.elim
  | ok told =>
    obtain ⟨turn,_,slot,same,holds⟩ := ended
    exact ⟨told,_,slot,rfl,same,answered_run,turn,holds⟩

-- However many readers a cycle has, each kind of read reaches the broker once, each reader in turn is told of that
-- one answer, and what is observed at the end is made of the same answers.
theorem cycle_reads_once {readers : List Reader} {result : Except PyExc (List Told)} {left : Option Capture}
    (run : (cycleReads readers).Steps held (some beginNaturalCycleHistory) events result left)
    (clock : ∀ held exc, .answered held .clock (.error exc) ∉ events) :
    events.countP isBalanceRead ≤ 1 ∧ events.countP isStockRead ≤ 1 ∧ ∃ told asked, result = .ok told ∧ Answered events asked ∧
      ToldInTurn asked readers told ∧
        (cycleHistoryObservation left).map Observed.projection = projectCycleHistoryBalances (answerOf asked.balance).accounts ∧
          ∀ observed ∈ cycleHistoryObservation left, ∀ rows ∈ observed.positions, ∃ response, asked.stocks = some (.ok response) ∧
            projectCycleStockPositions response = some rows := by
  obtain ⟨allowed,told,asked,slot,ended,rfl,answered,due,holds⟩ := reads_hold run clock
  refine ⟨balance_once allowed,stock_once allowed,told,asked,ended,answered,due,observed_projection holds,fun observed found rows listed => ?_⟩
  refine holds.positions rows ?_
  rw [← observed_positions found]
  exact listed

-- Where the parts of an observation come from
theorem observed_sources {readers : List Reader} {result : Except PyExc (List Told)} {left : Option Capture} {observed : Observed}
    (run : (cycleReads readers).Steps held (some beginNaturalCycleHistory) events result left)
    (clock : ∀ held exc, .answered held .clock (.error exc) ∉ events) (found : cycleHistoryObservation left = some observed) :
    (∃ answer, projectCycleHistoryBalances answer = some observed.projection) ∧
      ∀ rows ∈ observed.positions, ∃ channels, projectCycleStockPositions channels = some rows := by
  obtain ⟨-,-,asked,slot,-,rfl,-,-,holds⟩ := reads_hold run clock
  have same := observed_projection holds
  rw [found] at same
  refine ⟨⟨_,same.symm⟩,fun rows there => ?_⟩
  rw [observed_positions found] at there
  obtain ⟨response,-,projected⟩ := holds.positions rows there
  exact ⟨response,projected⟩

-- The broker answers nothing about the balances and fails about the positions: the second balance reader is told
-- that there is nothing, the second stock reader the same failure.
def twoReads : List ReadEvent := [.answered true .clock (.ok (0 : ℤ)),.answered true .accountBalance (.ok BalanceAnswer.missing),
  .answered true .clock (.ok (1 : ℤ)),.answered true .stockPositions (.error ⟨"OpenApiException","offline"⟩),.answered true .clock (.ok (2 : ℤ)),
  .fault true ⟨"OpenApiException","offline"⟩,.fault true balanceUnavailable,.fault true ⟨"OpenApiException","offline"⟩]

def toldTwice : List Told := [.balance (.ok .missing),.stocks (.error ⟨"OpenApiException","offline"⟩),.balance (.error balanceUnavailable),
  .stocks (.error ⟨"OpenApiException","offline"⟩)]

theorem twoReads_once : ∃ left asked, (cycleReads [.balance,.stocks,.balance,.stocks]).Steps false (some beginNaturalCycleHistory) twoReads (.ok toldTwice) left ∧
    twoReads.countP isBalanceRead ≤ 1 ∧ twoReads.countP isStockRead ≤ 1 ∧ Answered twoReads asked ∧
    ToldInTurn asked [.balance,.stocks,.balance,.stocks] toldTwice := by
  obtain ⟨left,run⟩ : ∃ left, (cycleReads [.balance,.stocks,.balance,.stocks]).Steps false (some beginNaturalCycleHistory) twoReads (.ok toldTwice) left :=
    ⟨_,.ask (.ask (.ask (.ask (.ask (.fault (.fault (.fault .done)))))))⟩
  obtain ⟨first,second,told,asked,same,answered,turn,_⟩ := cycle_reads_once run (by intro held exc member; simp [twoReads] at member)
  cases same
  exact ⟨left,asked,run,first,second,answered,turn⟩

end once

end LongBridge.History
