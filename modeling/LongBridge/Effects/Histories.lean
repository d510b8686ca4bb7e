import LongBridge.Effects.Interleaving
import LongBridge.Effects.Versions

namespace Effects

variable {P : Ports} {ε W ι κ ν : Type} {view : W → Versioned κ ν} {turns : List (Turn P ε W ι)} {world after : W} {key : κ}
  {cell : ℕ × ν} {R S : κ → ℕ × ν → ℕ × ν → Prop}

-- What a key has had in the course of a run.
def Had (view : W → Versioned κ ν) (turns : List (Turn P ε W ι)) (world : W) (key : κ) (cell : ℕ × ν) : Prop :=
  (view world).cells key = some cell ∨
    ∃ turn ∈ turns, (view turn.before).cells key = some cell ∨ (view turn.after).cells key = some cell

theorem had_snoc {who : ι} {event : Event P ε} : Had view (turns ++ [⟨world,who,event,after⟩]) after key cell ↔
    (view after).cells key = some cell ∨ Had view turns world key cell := by
  unfold Had
  simp only [List.mem_append,List.mem_singleton,or_and_right,exists_or,exists_eq_left]
  constructor
  · rintro (now | earlier | before | now)
    · exact .inl now
    · exact .inr (.inr earlier)
    · exact .inr (.inl before)
    · exact .inl now
  · rintro (now | before | earlier)
    · exact .inl now
    · exact .inr (.inr (.inl before))
    · exact .inr (.inl earlier)

-- No cell is lost, and later versions are related to earlier ones.
structure History (R : κ → ℕ × ν → ℕ × ν → Prop) (view : W → Versioned κ ν) (turns : List (Turn P ε W ι)) (world : W) :
    Prop where
  current : ∀ key cell, Had view turns world key cell → ∃ now, (view world).cells key = some now ∧ cell.1 ≤ now.1
  forward : ∀ turn ∈ turns, ∀ key cell, (view turn.before).cells key = some cell →
    ∃ later, (view turn.after).cells key = some later ∧ cell.1 ≤ later.1
  ordered : ∀ key one two, Had view turns world key one → Had view turns world key two → one.1 ≤ two.1 → R key one two

theorem history_start (none : ∀ key, (view world).cells key = none) : History R view ([] : List (Turn P ε W ι)) world := by
  have never : ∀ key cell, ¬Had view ([] : List (Turn P ε W ι)) world key cell := by
    rintro key cell (found | ⟨turn,member,_⟩)
    · rw [none] at found; cases found
    · cases member
  exact ⟨fun key cell had => absurd had (never key cell),(fun turn member => nomatch member),
    fun key one two had => absurd had (never key one)⟩

theorem History.mono (history : History R view turns world)
    (weaker : ∀ key one two, Had view turns world key one → Had view turns world key two → one.1 ≤ two.1 → R key one two →
      S key one two) : History S view turns world := by
  refine ⟨history.current,history.forward,?_⟩
  intro key one two first second order
  exact weaker key one two first second order (history.ordered key one two first second order)

theorem had_still {who : ι} {event : Event P ε} (same : view after = view world) :
    Had view (turns ++ [⟨world,who,event,after⟩]) after key cell ↔ Had view turns world key cell := by
  rw [had_snoc,same]
  exact or_iff_right_of_imp .inl

theorem History.still (history : History R view turns world) {who : ι} {event : Event P ε} (same : view after = view world) :
    History R view (turns ++ [⟨world,who,event,after⟩]) after := by
  constructor
  · intro key cell had
    rw [same]
    exact history.current key cell ((had_still same).mp had)
  · intro turn member key cell found
    rcases List.mem_append.mp member with early | late
    · exact history.forward turn early key cell found
    · cases List.mem_singleton.mp late
      exact ⟨cell,by rw [same]; exact found,Nat.le_refl _⟩
  · intro key one two first second
    exact history.ordered key one two ((had_still same).mp first) ((had_still same).mp second)

theorem History.bounded (history : History R view turns world) (had : Had view turns world key cell) :
    cell.1 ≤ (view world).last := by
  obtain ⟨now,found,order⟩ := history.current key cell had
  exact Nat.le_trans order ((view world).bounded key now.1 now.2 found)

variable [DecidableEq κ]

theorem had_written {who : ι} {event : Event P ε} {place : κ} {value : ν} (written : view after = (view world).write place value) :
    Had view (turns ++ [⟨world,who,event,after⟩]) after key cell ↔
      (key = place ∧ cell = ((view world).last + 1,value)) ∨ Had view turns world key cell := by
  rw [had_snoc,written]
  by_cases here : key = place
  · subst here
    rw [Versioned.write_same,Option.some.injEq,eq_comm]
    exact or_congr_left (and_iff_right rfl).symm
  · rw [Versioned.write_other _ _ here]
    refine (or_iff_right_of_imp .inl).trans (or_iff_right ?_).symm
    exact fun other => here other.1

-- A write has to be related to what its key has had.
theorem History.write (history : History R view turns world) {who : ι} {event : Event P ε} {place : κ} {value : ν}
    (written : view after = (view world).write place value)
    (own : R place ((view world).last + 1,value) ((view world).last + 1,value))
    (next : ∀ cell, Had view turns world place cell → R place cell ((view world).last + 1,value)) :
    History R view (turns ++ [⟨world,who,event,after⟩]) after := by
  constructor
  · intro key cell had
    rw [written]
    rcases (had_written written).mp had with ⟨rfl,rfl⟩ | earlier
    · exact ⟨_,Versioned.write_same ..,Nat.le_refl _⟩
    · by_cases here : key = place
      · subst here
        exact ⟨_,Versioned.write_same ..,Nat.le_succ_of_le (history.bounded earlier)⟩
      · rw [Versioned.write_other _ _ here]
        exact history.current key cell earlier
  · intro turn member key cell found
    rcases List.mem_append.mp member with early | late
    · exact history.forward turn early key cell found
    · cases List.mem_singleton.mp late
      change ∃ later, (view after).cells key = some later ∧ cell.1 ≤ later.1
      rw [written]
      by_cases here : key = place
      · subst here
        exact ⟨_,Versioned.write_same ..,Nat.le_succ_of_le (history.bounded (.inl found))⟩
      · rw [Versioned.write_other _ _ here]
        exact ⟨cell,found,Nat.le_refl _⟩
  · intro key one two first second order
    rcases (had_written written).mp first with ⟨rfl,rfl⟩ | old
    · rcases (had_written written).mp second with ⟨_,rfl⟩ | earlier
      · exact own
      · have bound := history.bounded earlier
        omega
    · rcases (had_written written).mp second with ⟨rfl,rfl⟩ | earlier
      · exact next one old
      · exact history.ordered key one two old earlier order

end Effects
