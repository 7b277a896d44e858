import CbrAudio.Geometry

/-!
# Fragments of whole bytes

Samples need not fill bytes: two samples of 12 bits take three bytes, two of 4 bits take one.  The
fragment of a width is found by doubling the bits until they make whole bytes.

* `wholeBits` — **doubling**: the first of `b`, `2 * b`, `4 * b`, … that is a multiple of eight.
* `missing` — how many factors of two a count lacks to be one; doubling takes one away, so at most
  three doublings are needed.
* `Geometry.ofSampleBits`, `Geometry.ofSampleBytes` — the layout of a sample codec from its width.
-/

namespace CbrAudio

namespace Fragment

/-- How many doublings make `bits` a multiple of eight. -/
def missing (bits : Nat) : Nat :=
  if bits % 8 = 0 then 0 else if bits % 4 = 0 then 1 else if bits % 2 = 0 then 2 else 3

theorem missing_double_lt {bits : Nat} (h : bits % 8 ≠ 0) : missing (bits + bits) < missing bits := by
  simp only [missing]
  repeat' split
  all_goals omega

/-- The first of `bits`, `2 * bits`, `4 * bits`, … that fills whole bytes. -/
def wholeBits (bits : Nat) : Nat :=
  if bits % 8 = 0 then bits else wholeBits (bits + bits)
termination_by missing bits
decreasing_by exact missing_double_lt ‹_›

/-- The bytes of the smallest fragment of whole samples that doubling finds. -/
def size (bits : Nat) : Nat := wholeBits bits / 8

end Fragment

namespace Geometry

/-- Samples of `bits` bits, in the fragments that doubling finds. -/
def ofSampleBits (bits : UInt32) : Geometry :=
  .sample bits (UInt64.ofNatClamp (Fragment.size bits.toNat))

/-- Samples of whole bytes.  A width whose bits exceed 32 bits counts as the largest width. -/
def ofSampleBytes (bytes : UInt32) : Geometry :=
  ofSampleBits (UInt32.ofNatClamp (8 * bytes.toNat))

end Geometry

end CbrAudio
