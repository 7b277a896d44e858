import CbrAudio.Geometry.Lengths

/-!
# The legal lengths, word by word

The legal lengths are reckoned in words: durations and clocks are multiplied in 64 bits, a quantity
is scaled in 128, and there are differences, quotients and remainders on the way that need not
exist.  Here every step says whether it can be taken.

* `Word.times?`, `Word.over?`, `Word.rest?` — products within a bound, and quotients and remainders
  by what is not zero.
* `Word.mulDiv?`, `Word.alignDown?`, `Word.alignUp?` — scaling and rounding, step by step.
* **`Geometry.lengths?`** — the smallest and the largest payload and the unit, or the reason why
  there are none; and nothing at all if a step on the way cannot be taken.
-/

namespace CbrAudio

namespace Word

/-- The largest count that 128 bits hold. -/
def maxWide : Nat := 0xffffffffffffffffffffffffffffffff

/-- The product, if it is no larger than what it is kept in can hold. -/
def times? (bound m n : Nat) : Option Nat := if m * n ≤ bound then some (m * n) else none

/-- The quotient, if there is one. -/
def over? (m n : Nat) : Option Nat := if n = 0 then none else some (m / n)

/-- The remainder, if there is one. -/
def rest? (m n : Nat) : Option Nat := if n = 0 then none else some (m % n)

/-- Scaling: the product is taken in 128 bits. -/
def mulDiv? (n num den : Nat) : Option Nat :=
  if den = 0 then some maxWord
  else do
    let wide ← times? maxWide n num
    let quotient ← over? wide den
    some (clamp quotient)

/-- The largest multiple of `unit` up to `n`. -/
def alignDown? (n unit : Nat) : Option Nat := do
  let rest ← rest? n unit
  minus? n rest

/-- The smallest multiple of `unit` from `n` on, or the largest one a word holds if that does not
fit. -/
def alignUp? (n unit : Nat) : Option Nat := do
  let rest ← rest? n unit
  if rest = 0 then some n
  else do
    let gap ← minus? unit rest
    match plus? n gap with
    | some next => some next
    | none => alignDown? maxWord unit

end Word

namespace Geometry

open Word

/-- The bytes that `nanos` nanoseconds have room for. -/
def octets? (nanos : Nat) (clockRate : UInt32) : Geometry → Option Nat
  | .frame size millis => do
    let frame ← times? maxWord millis.toNat nanosPerMilli
    mulDiv? size.toNat nanos frame
  | .sample bits _ => do
    let rate ← times? maxWord clockRate.toNat bits.toNat
    let scale ← times? maxWord 8 nanosPerSecond
    mulDiv? nanos rate scale

/-- The largest payload that the longest duration allows, if there is such a duration. -/
def longest? (g : Geometry) (limits : Limits) : Option (Option Nat) :=
  match limits.maxPtime with
  | none => some none
  | some ptime => do
    let room ← g.octets? ptime.toNat limits.clockRate
    let whole ← alignDown? room g.unit
    some (some (Nat.max whole g.unit))

/-- **The legal lengths, step by step.** -/
def lengths? (g : Geometry) (limits : Limits) : Option (Except SetupFault (Nat × Nat × Nat)) :=
  match g.check, g.checkClock limits with
  | .error why, _ => some (.error why)
  | .ok _, .error why => some (.error why)
  | .ok _, .ok _ => do
    let longest ← g.longest? limits
    let room ← g.octets? limits.minPtime.toNat limits.clockRate
    let byMtu ← alignDown? limits.capacity g.unit
    if byMtu = 0 then some (.error (.mtuTooSmall limits.capacity g.unit))
    else do
      let largest := (longest.map fun n => Nat.min n byMtu).getD byMtu
      let shortest ← alignUp? room g.unit
      some (.ok (Nat.min (Nat.max shortest g.unit) largest, largest, g.unit))

end Geometry

end CbrAudio
