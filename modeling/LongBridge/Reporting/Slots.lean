import LongBridge.Reporting.Windows

namespace LongBridge.Reporting
open Effects

section minutes
variable {eligible : ℤ → Bool} {cursor since through minute : ℤ}

def Aligned (minute : ℤ) : Prop := minute % minuteSpan = 0

instance (minute : ℤ) : Decidable (Aligned minute) := inferInstanceAs (Decidable (minute % minuteSpan = 0))

end minutes

section attribution

-- The slot a run belongs to: it began at or after it and ended before the next one.
def Owns (eligible : ℤ → Bool) (slot started finished : ℤ) : Prop :=
  Aligned slot ∧ eligible slot = true ∧ slot ≤ started ∧
    ∀ next, Aligned next → eligible next = true → slot < next → finished < next

variable {eligible : ℤ → Bool} {slot started finished due : ℤ} {slots : List ℤ}

end attribution

end LongBridge.Reporting
