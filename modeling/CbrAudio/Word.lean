/-!
# Counts that fit a 64-bit word

Byte counts and nanoseconds are kept as natural numbers no larger than a 64-bit word holds.  A
result that would be larger is replaced by the largest word, and nothing overflows on the way,
because the arithmetic in between is exact.

* `maxWord`, `clamp` — the bound, and the nearest count within it.
* `mulDiv` — **scaling**: the product of two counts divided by a third, rounded down.
* `alignDown`, `alignUp` — the multiples of a unit next to a count.
* `plus?`, `minus?` — sums and differences that are counts, or nothing.

The rest of the file says what each of them does to the order and to divisibility.
-/

namespace CbrAudio.Word

/-- The largest count a 64-bit word holds. -/
def maxWord : Nat := 0xffffffffffffffff

/-- The count itself if a word holds it, the largest word otherwise. -/
def clamp (n : Nat) : Nat := min n maxWord

/-- **Scaling** by `num / den`, rounded down.  Nothing is lost before the division; a quotient
beyond a word, like a division by zero, gives the largest word. -/
def mulDiv (n num den : Nat) : Nat :=
  if den = 0 then maxWord else clamp (n * num / den)

/-- The largest multiple of `unit` up to `n`; `unit` is positive. -/
def alignDown (n unit : Nat) : Nat := n - n % unit

/-- The smallest multiple of `unit` from `n` on, or the largest one a word holds if that does not
fit; `unit` is positive. -/
def alignUp (n unit : Nat) : Nat :=
  if n % unit = 0 then n
  else
    let next := n + (unit - n % unit)
    if next ≤ maxWord then next else alignDown maxWord unit

/-- The sum, if a word holds it. -/
def plus? (m n : Nat) : Option Nat := if m + n ≤ maxWord then some (m + n) else none

/-- The difference, if there is one. -/
def minus? (m n : Nat) : Option Nat := if n ≤ m then some (m - n) else none

/-! ## Bounds and divisibility -/

theorem clamp_le_maxWord (n : Nat) : clamp n ≤ maxWord := Nat.min_le_right ..

theorem clamp_le_self (n : Nat) : clamp n ≤ n := Nat.min_le_left ..

theorem clamp_of_le {n : Nat} (h : n ≤ maxWord) : clamp n = n := Nat.min_eq_left h

theorem plus?_of_le {m n : Nat} (h : m + n ≤ maxWord) : plus? m n = some (m + n) := if_pos h

theorem minus?_of_le {m n : Nat} (h : n ≤ m) : minus? m n = some (m - n) := if_pos h

theorem clamp_le_clamp {m n : Nat} (h : m ≤ n) : clamp m ≤ clamp n :=
  Nat.le_min.mpr ⟨Nat.le_trans (clamp_le_self m) h, clamp_le_maxWord m⟩

theorem mulDiv_le_mulDiv {m n : Nat} (h : m ≤ n) (num den : Nat) :
    mulDiv m num den ≤ mulDiv n num den := by
  rw [mulDiv, mulDiv]
  split
  · exact Nat.le_refl _
  · exact clamp_le_clamp (Nat.div_le_div_right (Nat.mul_le_mul_right num h))

theorem alignDown_le (n unit : Nat) : alignDown n unit ≤ n := Nat.sub_le ..

theorem dvd_alignDown (n unit : Nat) : unit ∣ alignDown n unit := Nat.dvd_sub_mod n

/-- A multiple that is not zero is no smaller than the unit. -/
theorem le_alignDown_of_ne_zero {n unit : Nat} (h : alignDown n unit ≠ 0) :
    unit ≤ alignDown n unit :=
  Nat.le_of_dvd (Nat.pos_of_ne_zero h) (dvd_alignDown n unit)

/-- Only a count below the unit is rounded down to nothing. -/
theorem alignDown_eq_zero_iff {n unit : Nat} (h : 0 < unit) : alignDown n unit = 0 ↔ n < unit := by
  rw [alignDown]
  constructor
  · intro hz
    have := Nat.mod_lt n h
    omega
  · intro hn
    rw [Nat.mod_eq_of_lt hn, Nat.sub_self]

theorem dvd_alignUp (n unit : Nat) (h : 0 < unit) : unit ∣ alignUp n unit := by
  rw [alignUp]
  split
  · next hz => exact Nat.dvd_of_mod_eq_zero hz
  · dsimp only
    split
    · have hlt := Nat.mod_lt n h
      have hsum : n + (unit - n % unit) = (n / unit + 1) * unit := by
        have := Nat.div_add_mod n unit
        rw [Nat.add_mul, Nat.one_mul, Nat.mul_comm]
        omega
      exact hsum ▸ Nat.dvd_mul_left ..
    · exact dvd_alignDown ..

end CbrAudio.Word
