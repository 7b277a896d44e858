import CbrAudio.Geometry.Span
import CbrAudio.SetupFault

/-!
# Which payload lengths are legal

A payload is made of whole units, fits a packet, and lasts neither longer nor shorter than the
transport wishes.  Where the wishes collide the packet size wins over the longest duration, and
both win over the shortest one.

* `Lengths` — the smallest and the largest legal payload and the unit, in order by type.
* `Geometry.lengths` — the legal lengths of a layout under given limits, or the reason why there
  are none.
-/

namespace CbrAudio

/-- The legal lengths of a payload in bytes. -/
structure Lengths where
  min : Nat
  max : Nat
  align : Nat
  align_pos : 0 < align
  align_le_min : align ≤ min
  min_le_max : min ≤ max
  deriving DecidableEq, Repr

namespace Geometry

open Word

/-- Refuses a layout with a quantity that is zero. -/
def check (geometry : Geometry) : Except SetupFault Unit :=
  match geometry.emptyField? with
  | some field => .error (.invalidGeometry geometry.mode field)
  | none => .ok ()

/-- Refuses a clock that does not tick, for layouts that measure time by it. -/
def checkClock (geometry : Geometry) (limits : Limits) : Except SetupFault Unit :=
  match geometry.mode with
  | .frame => .ok ()
  | .sample => if limits.clockRate = 0 then .error (.invalidConstraint "clock_rate") else .ok ()

/-- A layout that is one has no empty frames. -/
theorem size_pos_of_check {size : UInt64} {millis : UInt32}
    (h : (frame size millis).check = .ok ()) : 0 < size.toNat := by
  rcases Nat.eq_zero_or_pos size.toNat with hz | hpos
  · obtain rfl : size = 0 := UInt64.toNat_inj.mp hz
    simp [check, emptyField?] at h
  · exact hpos

theorem millis_pos_of_check {size : UInt64} {millis : UInt32}
    (h : (frame size millis).check = .ok ()) : 0 < millis.toNat := by
  rcases Nat.eq_zero_or_pos millis.toNat with hz | hpos
  · obtain rfl : millis = 0 := UInt32.toNat_inj.mp hz
    by_cases hsize : size = 0 <;> simp [check, emptyField?, hsize] at h
  · exact hpos

theorem bits_pos_of_check {bits : UInt32} {fragment : UInt64}
    (h : (sample bits fragment).check = .ok ()) : 0 < bits.toNat := by
  rcases Nat.eq_zero_or_pos bits.toNat with hz | hpos
  · obtain rfl : bits = 0 := UInt32.toNat_inj.mp hz
    simp [check, emptyField?] at h
  · exact hpos

/-- A clock that samples are measured by ticks. -/
theorem clockRate_pos_of_checkClock {bits : UInt32} {fragment : UInt64} {limits : Limits}
    (h : (sample bits fragment).checkClock limits = .ok ()) : 0 < limits.clockRate.toNat := by
  rcases Nat.eq_zero_or_pos limits.clockRate.toNat with hz | hpos
  · have hstill : limits.clockRate = 0 := UInt32.toNat_inj.mp hz
    simp [checkClock, mode, hstill] at h
  · exact hpos

/-- The largest legal payload: as many whole units as the packet has room for, but no more than
the longest duration allows, of which one unit is always allowed. -/
def largest (geometry : Geometry) (limits : Limits) : Nat :=
  let byMtu := alignDown limits.capacity geometry.unit
  match limits.maxPtime with
  | none => byMtu
  | some ptime =>
    let room := geometry.octets ptime.toNat limits.clockRate
    Nat.min (Nat.max (alignDown room geometry.unit) geometry.unit) byMtu

/-- The smallest legal payload: whole units for the shortest duration, at least one of them, but
never more than the largest payload. -/
def smallest (geometry : Geometry) (limits : Limits) : Nat :=
  let room := geometry.octets limits.minPtime.toNat limits.clockRate
  Nat.min (Nat.max (alignUp room geometry.unit) geometry.unit) (geometry.largest limits)

theorem unit_le_largest {geometry : Geometry} {limits : Limits}
    (h : alignDown limits.capacity geometry.unit ≠ 0) :
    geometry.unit ≤ geometry.largest limits := by
  have hfit := le_alignDown_of_ne_zero h
  rw [largest]
  cases limits.maxPtime with
  | none => exact hfit
  | some ptime => exact Nat.le_min.2 ⟨Nat.le_max_right .., hfit⟩

theorem unit_le_smallest {geometry : Geometry} {limits : Limits}
    (h : alignDown limits.capacity geometry.unit ≠ 0) :
    geometry.unit ≤ geometry.smallest limits :=
  Nat.le_min.2 ⟨Nat.le_max_right .., unit_le_largest h⟩

theorem unit_pos_of_fits {geometry : Geometry} {limits : Limits}
    (h : alignDown limits.capacity geometry.unit ≠ 0) : 0 < geometry.unit := by
  refine Nat.pos_of_ne_zero fun hz => h ?_
  rw [hz, alignDown, Nat.mod_zero, Nat.sub_self]

/-- **The legal lengths** of a layout under given limits.  A layout that is none is reported
first, then a clock that does not tick, then a packet too small for one unit. -/
def lengths (geometry : Geometry) (limits : Limits) : Except SetupFault Lengths := do
  geometry.check
  geometry.checkClock limits
  if h : alignDown limits.capacity geometry.unit = 0 then
    .error (.mtuTooSmall limits.capacity geometry.unit)
  else
    .ok {
      min := geometry.smallest limits
      max := geometry.largest limits
      align := geometry.unit
      align_pos := unit_pos_of_fits h
      align_le_min := unit_le_smallest h
      min_le_max := Nat.min_le_right .. }

end Geometry

end CbrAudio
