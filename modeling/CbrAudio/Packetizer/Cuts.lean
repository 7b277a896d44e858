import CbrAudio.Geometry.Lengths

/-!
# Where the waiting bytes are cut

As long as the smallest legal payload is there, the largest one that can be made is cut off.

* `Lengths.nextCut` — the largest legal payload that some bytes can make.
* `Lengths.cuts` — **the plan**: the payloads that are cut from some bytes, one after the other.
-/

namespace CbrAudio.Lengths

open Word

/-- The largest payload of whole units that `available` bytes can make. -/
def nextCut (l : Lengths) (available : Nat) : Nat := Nat.min (alignDown available l.align) l.max

theorem nextCut_le (l : Lengths) (available : Nat) : l.nextCut available ≤ available :=
  Nat.le_trans (Nat.min_le_left ..) (alignDown_le ..)

theorem nextCut_le_max (l : Lengths) (available : Nat) : l.nextCut available ≤ l.max :=
  Nat.min_le_right ..

/-- Where a payload is due, there is something to cut. -/
theorem nextCut_pos (l : Lengths) {available : Nat} (h : l.min ≤ available) :
    0 < l.nextCut available := by
  have hfit : l.align ≤ available := Nat.le_trans l.align_le_min h
  have hne : alignDown available l.align ≠ 0 := fun hz =>
    Nat.not_lt.2 hfit ((alignDown_eq_zero_iff l.align_pos).1 hz)
  have hmax : 0 < l.max :=
    Nat.lt_of_lt_of_le l.align_pos (Nat.le_trans l.align_le_min l.min_le_max)
  exact Nat.lt_min.2 ⟨Nat.pos_of_ne_zero hne, hmax⟩

/-- **The plan** for `available` bytes. -/
def cuts (l : Lengths) (available : Nat) : List Nat :=
  if l.min ≤ available then l.nextCut available :: l.cuts (available - l.nextCut available) else []
termination_by available
decreasing_by
  have hpos := l.nextCut_pos ‹_›
  have hle := l.nextCut_le available
  omega

end CbrAudio.Lengths
