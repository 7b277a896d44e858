import CbrAudio.Geometry.Span
import CbrAudio.Geometry.Lengths
import Mathlib.Algebra.Order.Field.Basic
import Mathlib.Algebra.Order.Ring.Rat
import Mathlib.Tactic.Lemma
import Mathlib.Tactic.Ring

/-!
# Playing time

How long bytes last and how many bytes a duration has room for are reckoned in whole nanoseconds
and whole bytes.  Behind both is one proportion of bytes to nanoseconds, and in fractions nothing is
lost.

* `Geometry.playtime` — **the exact time of some bytes**, as a fraction of nanoseconds.
* `Geometry.paceBytes`, `Geometry.paceNanos` — the proportion: so many bytes last so many
  nanoseconds.
* `playtime_le_iff`, `le_playtime_iff` — playing times are compared without fractions.
* **`le_octets_iff`** — a duration has room for as many bytes as last no longer, although the room
  is rounded down on the way and cut off at a word.
-/

namespace CbrAudio.Geometry

open Word

/-- **The exact time of some bytes** in nanoseconds, also of parts of frames and of samples. -/
def playtime (bytes : Nat) (clockRate : UInt32) : Geometry → ℚ
  | .frame size millis => bytes / size.toNat * (millis.toNat * nanosPerMilli)
  | .sample bits _ => bytes * 8 * nanosPerSecond / (clockRate.toNat * bits.toNat)

/-- So many bytes last `paceNanos`. -/
def paceBytes (clockRate : UInt32) : Geometry → Nat
  | .frame size _ => size.toNat
  | .sample bits _ => clockRate.toNat * bits.toNat

/-- So many nanoseconds pass with `paceBytes`. -/
def paceNanos : Geometry → Nat
  | .frame _ millis => millis.toNat * nanosPerMilli
  | .sample _ _ => 8 * nanosPerSecond

variable {g : Geometry} {limits : Limits} {clockRate : UInt32}

/-! ## The proportion -/

lemma paceNanos_pos (h : g.check = .ok ()) : 0 < g.paceNanos := by
  rcases g with ⟨size, millis⟩ | ⟨bits, fragment⟩
  · exact Nat.mul_pos (millis_pos_of_check h) (by decide)
  · show 0 < 8 * nanosPerSecond
    decide

lemma paceBytes_pos (h : g.check = .ok ()) (hclock : g.checkClock limits = .ok ()) :
    0 < g.paceBytes limits.clockRate := by
  rcases g with ⟨size, millis⟩ | ⟨bits, fragment⟩
  · exact size_pos_of_check h
  · exact Nat.mul_pos (clockRate_pos_of_checkClock hclock) (bits_pos_of_check h)

lemma playtime_eq (g : Geometry) (bytes : Nat) (clockRate : UInt32) :
    g.playtime bytes clockRate = (bytes * g.paceNanos : ℕ) / (g.paceBytes clockRate : ℕ) := by
  rcases g with ⟨size, millis⟩ | ⟨bits, fragment⟩
  · simp only [playtime, paceNanos, paceBytes, Nat.cast_mul]
    ring
  · simp only [playtime, paceNanos, paceBytes, Nat.cast_mul]
    push_cast
    ring

/-- The room of a duration is its part of the proportion, rounded down. -/
lemma octets_eq (h : 0 < g.paceNanos) (nanos : Nat) :
    g.octets nanos clockRate = clamp (nanos * g.paceBytes clockRate / g.paceNanos) := by
  rcases g with ⟨size, millis⟩ | ⟨bits, fragment⟩
  · have hden : ¬ millis.toNat * nanosPerMilli = 0 := Nat.ne_of_gt h
    rw [octets, mulDiv, if_neg hden, Nat.mul_comm]
    rfl
  · have hden : ¬ 8 * nanosPerSecond = 0 := by decide
    rw [octets, mulDiv, if_neg hden]
    rfl

/-! ## Playing times compared -/

section Compare

variable {bytes nanos : Nat}

lemma playtime_le_iff (h : 0 < g.paceBytes clockRate) :
    g.playtime bytes clockRate ≤ nanos ↔
      bytes * g.paceNanos ≤ nanos * g.paceBytes clockRate := by
  have hpos : (0 : ℚ) < (g.paceBytes clockRate : ℕ) := Nat.cast_pos.mpr h
  rw [playtime_eq, div_le_iff₀ hpos, ← Nat.cast_mul, Nat.cast_le]

lemma le_playtime_iff (h : 0 < g.paceBytes clockRate) :
    (nanos : ℚ) ≤ g.playtime bytes clockRate ↔
      nanos * g.paceBytes clockRate ≤ bytes * g.paceNanos := by
  have hpos : (0 : ℚ) < (g.paceBytes clockRate : ℕ) := Nat.cast_pos.mpr h
  rw [playtime_eq, le_div_iff₀ hpos, ← Nat.cast_mul, Nat.cast_le]

/-- More bytes take longer. -/
lemma playtime_mono {m n : Nat} (h : m ≤ n) (g : Geometry) (clockRate : UInt32) :
    g.playtime m clockRate ≤ g.playtime n clockRate := by
  rw [playtime_eq, playtime_eq]
  refine div_le_div_of_nonneg_right ?_ (Nat.cast_nonneg _)
  exact Nat.cast_le.mpr (Nat.mul_le_mul_right _ h)

/-- Bytes fit a duration exactly if they last no longer. -/
lemma le_room_iff (hb : 0 < g.paceBytes clockRate) (hn : 0 < g.paceNanos) :
    bytes ≤ nanos * g.paceBytes clockRate / g.paceNanos ↔
      g.playtime bytes clockRate ≤ nanos := by
  rw [playtime_le_iff hb, Nat.le_div_iff_mul_le hn]

/-- **A duration has room for as many bytes as last no longer.**  Counts beyond a word do not
occur, so it does not matter that the room is cut off there. -/
theorem le_octets_iff (hb : 0 < g.paceBytes clockRate) (hn : 0 < g.paceNanos)
    (hword : bytes ≤ maxWord) :
    bytes ≤ g.octets nanos clockRate ↔ g.playtime bytes clockRate ≤ nanos := by
  rw [octets_eq hn, clamp, Nat.le_min, le_room_iff hb hn]
  exact and_iff_left hword

/-- A room that is not cut off is a bound for counts of any size. -/
lemma le_octets_iff_of_lt (hb : 0 < g.paceBytes clockRate) (hn : 0 < g.paceNanos)
    (h : g.octets nanos clockRate < maxWord) :
    bytes ≤ g.octets nanos clockRate ↔ g.playtime bytes clockRate ≤ nanos := by
  have hwhole : g.octets nanos clockRate = nanos * g.paceBytes clockRate / g.paceNanos := by
    rw [octets_eq hn, clamp] at h ⊢
    omega
  rw [hwhole, le_room_iff hb hn]

end Compare

end CbrAudio.Geometry
