import CbrAudio.Geometry
import CbrAudio.Limits

/-!
# The time that bytes span

A run of bytes lasts some nanoseconds and spans some ticks of the stream's clock.  Both are
computed from the count of bytes alone, so a position in the stream has one time however the bytes
before it were cut.

* `Geometry.duration` — nanoseconds; of frames only whole ones count, and the clock plays no part.
* `Geometry.ticks` — ticks, modulo 2³² as in the field of a packet that carries them.
* `Geometry.octets` — the other direction: the bytes that a duration has room for.
-/

namespace CbrAudio.Geometry

open Word

/-- The nanoseconds that `bytes` last at `clockRate` ticks a second. -/
def duration (bytes : Nat) (clockRate : UInt32) : Geometry → Nat
  | .frame size millis =>
    clamp (bytes / max size.toNat 1 * (millis.toNat * nanosPerMilli))
  | .sample bits _ =>
    mulDiv bytes (8 * nanosPerSecond) (clockRate.toNat * bits.toNat)

/-- The ticks that `bytes` span at `clockRate` ticks a second, modulo 2³². -/
def ticks (bytes : Nat) (clockRate : UInt32) : Geometry → UInt32
  | .frame size millis =>
    UInt32.ofNat (mulDiv (duration bytes clockRate (.frame size millis)) clockRate.toNat nanosPerSecond)
  | .sample bits _ => UInt32.ofNat (clamp (8 * bytes) / max bits.toNat 1)

/-- The bytes that `nanos` nanoseconds have room for, rounded down. -/
def octets (nanos : Nat) (clockRate : UInt32) : Geometry → Nat
  | .frame size millis => mulDiv size.toNat nanos (millis.toNat * nanosPerMilli)
  | .sample bits _ => mulDiv nanos (clockRate.toNat * bits.toNat) (8 * nanosPerSecond)

end CbrAudio.Geometry
