import Mathlib.Data.List.Chain
import LongBridge.Observation.System

namespace LongBridge.Observation
open Effects

section facts
variable {ι : Type} [DecidableEq ι]

abbrev Turns (ι : Type) := List (Turn bucketPorts PyExc Objects ι)

def readingOf (who : ι) (turn : Turn bucketPorts PyExc Objects ι) : Option ℤ := if turn.who = who then clockOf turn.event else none

-- The clock as one run reads it
def readings (turns : Turns ι) (who : ι) : List ℤ := turns.filterMap (readingOf who)

-- A clock that never goes back, from the time on at which the run begins
def Forward (now : ℤ) (turns : Turns ι) (who : ι) : Prop := (now :: readings turns who).IsChain (· ≤ ·)

instance (now : ℤ) (turns : Turns ι) (who : ι) : Decidable (Forward now turns who) := inferInstanceAs (Decidable (List.IsChain _ _))

-- A request that asks for an object
def readsKey (key : String) : Event bucketPorts PyExc → Bool
  | .answered _ (.reload other) _ => other == key
  | .answered _ (.download other) _ => other == key
  | _ => false

-- What a run knows of its requests, it knows of the bucket.
structure Knows (turns : Turns ι) (objects : Objects) (now : ℤ) (who : ι) (requests : Requests) : Prop where
  seen : ∀ entry ∈ requests.seen, objects entry.1 = some entry.2 ∧ ∃ turn ∈ turns, turn.who = who ∧ readsKey entry.1 turn.event = true ∧
    turn.before entry.1 = some entry.2
  written : ∀ entry ∈ requests.written, objects entry.1 = some entry.2
  taken : ∀ key ∈ requests.taken, objects key ≠ none
  gone : ∀ key ∈ requests.gone, ∃ turn ∈ turns, turn.who = who ∧ readsKey key turn.event = true ∧ turn.before key = none
  told : ∀ entry ∈ requests.told, ∃ turn ∈ turns, turn.who = who ∧ tellingOf turn.event = some entry
  clock : requests.clock = (readings turns who).getLastD now
  steady : Forward now turns who → requests.steady = true

variable {turns : Turns ι} {objects after : Objects} {now : ℤ} {who other : ι} {requests : Requests} {event : Event bucketPorts PyExc}

theorem knows_fresh : Knows [] objects now who (.fresh now) :=
  ⟨(fun _ member => nomatch member),(fun _ member => nomatch member),(fun _ member => nomatch member),(fun _ member => nomatch member),
    (fun _ member => nomatch member),rfl,fun _ => rfl⟩

theorem readings_append (turn : Turn bucketPorts PyExc Objects ι) :
    readings (turns ++ [turn]) who = readings turns who ++ (readingOf who turn).toList := by
  unfold readings
  rw [List.filterMap_append]
  cases shown : readingOf who turn with
  | none => rw [List.filterMap_cons_none shown]; rfl
  | some time => rw [List.filterMap_cons_some shown]; rfl

theorem forward_before {rest : Turns ι} (forward : Forward now (turns ++ rest) who) : Forward now turns who := by
  unfold Forward readings at *
  rw [List.filterMap_append,← List.cons_append] at forward
  exact forward.left_of_append

-- What other runs do leaves what a run knows, and what it learnt itself stays true.
theorem Knows.later {turn : Turn bucketPorts PyExc Objects ι} (knows : Knows turns objects now who requests) (step : bucketStep objects event after)
    (clock : requests.clock = (readings (turns ++ [turn]) who).getLastD now) : Knows (turns ++ [turn]) after now who requests where
  seen entry member := by
    obtain ⟨there,earlier,listed,rest⟩ := knows.seen entry member
    exact ⟨bucketStep_keeps step there,earlier,List.mem_append_left _ listed,rest⟩
  written entry member := bucketStep_keeps step (knows.written entry member)
  taken key member := by
    obtain ⟨body,there⟩ := Option.ne_none_iff_exists'.mp (knows.taken key member)
    rw [bucketStep_keeps step there]
    nofun
  gone key member := by
    obtain ⟨earlier,listed,rest⟩ := knows.gone key member
    exact ⟨earlier,List.mem_append_left _ listed,rest⟩
  told entry member := by
    obtain ⟨earlier,listed,rest⟩ := knows.told entry member
    exact ⟨earlier,List.mem_append_left _ listed,rest⟩
  clock := clock
  steady forward := knows.steady (forward_before forward)

theorem readings_quiet {turn : Turn bucketPorts PyExc Objects ι} (quiet : turn.who = who → clockOf turn.event = none) :
    readings (turns ++ [turn]) who = readings turns who := by
  have none : readingOf who turn = none := by
    unfold readingOf
    split
    · rename_i same
      exact quiet same
    · rfl
  rw [readings_append,none]
  exact List.append_nil _

theorem Knows.quiet {turn : Turn bucketPorts PyExc Objects ι} (knows : Knows turns objects now who requests) (step : bucketStep objects event after)
    (quiet : turn.who = who → clockOf turn.event = none) : Knows (turns ++ [turn]) after now who requests :=
  knows.later step (knows.clock.trans (by rw [readings_quiet quiet]))

-- A step that is asked for with the outside on both its sides
abbrev ownTurn (objects : Objects) (who : ι) (event : Event bucketPorts PyExc) (after : Objects) : Turn bucketPorts PyExc Objects ι :=
  ⟨objects,who,event,after⟩

theorem knows_misses {key : String} {exc : PyExc} {after : Objects} (knows : Knows (turns ++ [ownTurn objects who event after]) after now who requests)
    (reads : readsKey key event = true) (missing : exc.kind = "NotFound" → objects key = none) :
    Knows (turns ++ [ownTurn objects who event after]) after now who (requests.misses key exc) := by
  unfold Requests.misses
  split
  · rename_i kind
    refine { knows with gone := ?_ }
    intro other member
    rcases List.mem_cons.mp member with rfl | old
    · exact ⟨_,List.mem_append_right _ List.mem_cons_self,rfl,reads,missing kind⟩
    · exact knows.gone other old
  · exact knows

theorem knows_tells {message : String} {heard : Bool} (knows : Knows (turns ++ [ownTurn objects who event after]) after now who requests)
    (telling : tellingOf event = some (message,heard)) : Knows (turns ++ [ownTurn objects who event after]) after now who (requests.tells message heard) := by
  refine { knows with told := ?_ }
  intro entry member
  rcases List.mem_cons.mp member with rfl | old
  · exact ⟨_,List.mem_append_right _ List.mem_cons_self,rfl,telling⟩
  · exact knows.told entry old

theorem getLastD_append {items : List ℤ} {last start : ℤ} : (items ++ [last]).getLastD start = last := by
  rw [List.getLastD_eq_getLast?,List.getLast?_concat]
  rfl

theorem knows_ticked {held : Bool} {time : ℤ} (knows : Knows turns objects now who requests) :
    Knows (turns ++ [ownTurn objects who (.answered held .clock (.ok time)) objects]) objects now who (requests.ticked time) := by
  have shown : readings (turns ++ [ownTurn objects who (.answered held .clock (.ok time)) objects]) who = readings turns who ++ [time] := by
    rw [readings_append,readingOf,if_pos rfl]
    rfl
  refine ⟨?_,knows.written,knows.taken,?_,?_,?_,?_⟩
  · intro entry member
    obtain ⟨there,earlier,listed,rest⟩ := knows.seen entry member
    exact ⟨there,earlier,List.mem_append_left _ listed,rest⟩
  · intro key member
    obtain ⟨earlier,listed,rest⟩ := knows.gone key member
    exact ⟨earlier,List.mem_append_left _ listed,rest⟩
  · intro entry member
    obtain ⟨earlier,listed,rest⟩ := knows.told entry member
    exact ⟨earlier,List.mem_append_left _ listed,rest⟩
  · rw [shown]
    exact getLastD_append.symm
  · intro forward
    have earlier := knows.steady (forward_before forward)
    unfold Forward at forward
    rw [shown,← List.cons_append,List.isChain_append] at forward
    have later : requests.clock ≤ time := by
      refine forward.2.2 _ ?_ time rfl
      rw [knows.clock,List.getLast?_cons,List.getLastD_eq_getLast?]
      rfl
    exact Bool.and_eq_true_iff.mpr ⟨earlier,decide_eq_true later⟩

-- A step of its own
theorem knows_own (knows : Knows turns objects now who requests) (step : bucketStep objects event after) :
    Knows (turns ++ [ownTurn objects who event after]) after now who ((onBucket (fun _ _ _ => True) (fun _ => True) (fun _ _ => True)).moved requests event) := by
  cases event with
  | fault held error => exact knows.quiet step fun _ => rfl
  | marked label => exact knows.quiet step fun _ => rfl
  | answered held call answer =>
    cases call with
    | reload key =>
      cases answer with
      | ok size => exact knows.quiet step fun _ => rfl
      | error exc => exact knows_misses (knows.quiet step fun _ => rfl) (beq_self_eq_true key) step.2
    | download key =>
      cases answer with
      | error exc => exact knows_misses (knows.quiet step fun _ => rfl) (beq_self_eq_true key) step.2
      | ok body =>
        have kept : Knows (turns ++ [ownTurn objects who (.answered held (.download key) (.ok body)) after]) after now who requests :=
          knows.quiet step fun _ => rfl
        refine { kept with seen := ?_ }
        intro entry member
        rcases List.mem_cons.mp member with rfl | old
        · obtain ⟨rfl,there⟩ := step
          exact ⟨there,_,List.mem_append_right _ List.mem_cons_self,rfl,beq_self_eq_true key,there⟩
        · exact kept.seen entry old
    | upload key body =>
      cases answer with
      | ok written =>
        have kept : Knows (turns ++ [ownTurn objects who (.answered held (.upload key body) (.ok written)) after]) after now who requests :=
          knows.quiet step fun _ => rfl
        refine { kept with written := ?_ }
        intro entry member
        rcases List.mem_cons.mp member with rfl | old
        · obtain ⟨_,rfl⟩ := step
          exact Function.update_self ..
        · exact kept.written entry old
      | error exc =>
        have kept : Knows (turns ++ [ownTurn objects who (.answered held (.upload key body) (.error exc)) after]) after now who requests :=
          knows.quiet step fun _ => rfl
        show Knows _ after now who (requests.fails key exc)
        unfold Requests.fails
        split
        · rename_i kind
          refine { kept with taken := ?_ }
          intro other member
          rcases List.mem_cons.mp member with rfl | old
          · rcases step with ⟨rfl,there⟩ | ⟨unlike,_⟩
            · exact there kind
            · exact absurd kind unlike
          · exact kept.taken other old
        · exact kept
    | fetch =>
      have kept : Knows (turns ++ [ownTurn objects who (.answered held .fetch answer) after]) after now who requests :=
        knows.quiet step fun _ => rfl
      cases answer <;> exact { kept with }
    | clock =>
      cases answer with
      | ok time =>
        obtain ⟨rfl,_⟩ := step
        exact knows_ticked knows
      | error exc => exact knows.quiet step fun _ => rfl
    | send message =>
      cases answer with
      | ok heard => exact knows_tells (knows.quiet step fun _ => rfl) rfl
      | error exc => exact knows_tells (knows.quiet step fun _ => rfl) rfl

end facts

end LongBridge.Observation
