import LongBridge.Python.Times

namespace LongBridge

-- A zone of `zoneinfo`: the offset from UTC at every instant, and the instant that a
-- wall time stands for. Of two instants that read the same it is the first. An offset is
-- less than a day, also the one of a wall time that the clocks skip.
structure Zone where
  offset : ℤ → ℤ
  instantOf : ℤ → ℤ
  offsetNear : ∀ instant, |offset instant| < daySpan
  instantNear : ∀ wall, |wall - instantOf wall| < daySpan
  first : ∀ instant, instantOf (instant + offset instant) + offset (instantOf (instant + offset instant)) = instant + offset instant ∧
    instantOf (instant + offset instant) ≤ instant

namespace Zone

-- `astimezone(zone)`: what the clocks of the zone read.
def wall (zone : Zone) (instant : ℤ) : ℤ := instant + zone.offset instant

def fixed (offset : ℤ) (near : |offset| < daySpan) : Zone where
  offset _ := offset
  instantOf wall := wall - offset
  offsetNear _ := near
  instantNear wall := by rwa [sub_sub_cancel]
  first instant := by
    constructor
    · ring
    · rw [add_sub_cancel_right]

def utc : Zone := fixed 0 (by decide)

-- The date a wall time falls on, by its ordinal.
def date (zone : Zone) (instant : ℤ) : ℕ := utcOrdinal (zone.wall instant)

theorem now_bound (zone : Zone) (instant : ℤ) : instant < (zone.date instant + 1) * daySpan := by
  have near := abs_lt.mp (zone.offsetNear instant)
  unfold date utcOrdinal wall
  unfold daySpan at *
  omega

theorem instantOf_le (zone : Zone) (instant : ℤ) : zone.instantOf (zone.wall instant) ≤ instant := (zone.first instant).2

end Zone

-- Whole minutes: the first not before an instant.
def nextMinute (instant : ℤ) : ℤ := if instant % minuteSpan = 0 then instant else instant / minuteSpan * minuteSpan + minuteSpan

-- `while cursor <= stop: ...; cursor += one minute`
def minutesFrom (start stop : ℤ) : List ℤ :=
  (List.range (((stop - start) / minuteSpan + 1).toNat)).map fun index : ℕ => start + (index : ℤ) * minuteSpan

theorem minutesFrom_cons {start stop : ℤ} (more : start ≤ stop) : minutesFrom start stop = start :: minutesFrom (start + minuteSpan) stop := by
  unfold minutesFrom minuteSpan
  obtain ⟨count,same⟩ : ∃ count : ℕ, (stop - start) / 60000000 + 1 = count + 1 := ⟨((stop - start) / 60000000).toNat,by omega⟩
  have rest : ((stop - (start + 60000000)) / 60000000 + 1).toNat = count := by omega
  have whole : ((stop - start) / 60000000 + 1).toNat = count + 1 := by omega
  rw [whole,rest,List.range_succ_eq_map,List.map_cons,List.map_map]
  congr 1
  · simp
  · apply List.map_congr_left
    intro index _
    simp only [Function.comp,Nat.succ_eq_add_one]
    push_cast
    ring

theorem mem_minutesFrom {start stop minute : ℤ} : minute ∈ minutesFrom start stop ↔
    start ≤ minute ∧ minute ≤ stop ∧ (minute - start) % minuteSpan = 0 := by
  unfold minutesFrom minuteSpan
  rw [List.mem_map]
  constructor
  · rintro ⟨index,member,rfl⟩
    rw [List.mem_range] at member
    omega
  · intro inside
    refine ⟨((minute - start) / 60000000).toNat,?_,?_⟩
    · rw [List.mem_range]
      omega
    · omega

theorem minutesFrom_ascending (start stop : ℤ) : (minutesFrom start stop).Pairwise (· < ·) := by
  unfold minutesFrom
  rw [List.pairwise_map]
  refine List.Pairwise.imp ?_ List.pairwise_lt_range
  intro one two less
  unfold minuteSpan
  omega

theorem nextMinute_facts (instant : ℤ) : instant ≤ nextMinute instant ∧ nextMinute instant < instant + minuteSpan ∧
    nextMinute instant % minuteSpan = 0 := by
  unfold nextMinute minuteSpan
  split <;> omega

-- The whole minutes from one instant to another.
theorem mem_wholeMinutes {since stop minute : ℤ} : minute ∈ minutesFrom (nextMinute since) stop ↔
    since ≤ minute ∧ minute ≤ stop ∧ minute % minuteSpan = 0 := by
  rw [mem_minutesFrom]
  obtain ⟨least,near,whole⟩ := nextMinute_facts since
  unfold minuteSpan at *
  omega

end LongBridge
