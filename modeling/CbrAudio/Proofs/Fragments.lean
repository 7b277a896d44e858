import CbrAudio.Proofs.Offsets
import Mathlib.Data.Nat.ModEq
import Mathlib.Data.Nat.Prime.Defs
import Mathlib.Order.Bounds.Basic

/-!
# Fragments are as small as they can be

Doubling makes the bits of a sample whole bytes.  It takes no factor but two, and only while one is
missing, so it stops at the least common multiple of the width and eight.

* `Fragment.wholeBits?` — doubling with sums that must fit a word.
* **What doubling keeps.**  `double_dvd` is one step: a common multiple of the width and eight is a
  multiple of the double as well.  `wholeBits_dvd` is the whole loop, and `wholeBits_eq_lcm` its
  result; being no more than eight widths it fits a word, so `wholeBits?_eq` finds it too.
* `Geometry.ticks_add` — bytes in front that are whole samples last whole ticks, so their time can
  be taken apart from the time of the rest.
* **`fragment_least`** — for every width: the loop ends within a word, the fragment is the smallest
  number of bytes that holds whole samples, and no tick is lost between fragments.
-/

namespace CbrAudio

namespace Fragment

open Word

/-- Doubling, as long as a word holds the sum. -/
def wholeBits? (bits : Nat) : Option Nat :=
  if bits % 8 = 0 then some bits
  else
    match _h : plus? bits bits with
    | none => none
    | some double => wholeBits? double
termination_by missing bits
decreasing_by
  rw [plus?] at _h
  split at _h
  · obtain rfl := Option.some.inj _h
    exact missing_double_lt ‹_›
  · cases _h

variable {bits n : Nat}

/-! ## What doubling keeps -/

lemma eight_dvd_wholeBits (bits : Nat) : 8 ∣ wholeBits bits := by
  fun_induction wholeBits bits with
  | case1 bits h => exact Nat.dvd_of_mod_eq_zero h
  | case2 bits h ih => exact ih

lemma dvd_wholeBits (bits : Nat) : bits ∣ wholeBits bits := by
  fun_induction wholeBits bits with
  | case1 bits h => exact Nat.dvd_refl bits
  | case2 bits h ih => exact Nat.dvd_trans (Nat.dvd_add (Nat.dvd_refl _) (Nat.dvd_refl _)) ih

/-- **One step.**  A common multiple is no odd number of widths, as long as the width has a factor
of two less than eight. -/
lemma double_dvd (h : bits % 8 ≠ 0) (hbits : bits ∣ n) (hbytes : 8 ∣ n) : bits + bits ∣ n := by
  obtain ⟨k, rfl⟩ := hbits
  have heven : 2 ∣ k := by
    by_contra hodd
    have hcoprime : Nat.Coprime (2 ^ 3) k :=
      Nat.Coprime.pow_left 3 ((Nat.Prime.coprime_iff_not_dvd Nat.prime_two).mpr hodd)
    exact h (Nat.mod_eq_zero_of_dvd (hcoprime.dvd_of_dvd_mul_right hbytes))
  rw [← Nat.mul_two]
  exact Nat.mul_dvd_mul_left bits heven

/-- **The loop.**  What it ends with divides every common multiple. -/
lemma wholeBits_dvd (hbits : bits ∣ n) (hbytes : 8 ∣ n) : wholeBits bits ∣ n := by
  fun_induction wholeBits bits with
  | case1 bits h => exact hbits
  | case2 bits h ih => exact ih (double_dvd h hbits hbytes)

lemma wholeBits_eq_lcm (bits : Nat) : wholeBits bits = Nat.lcm bits 8 :=
  Nat.dvd_antisymm (wholeBits_dvd (Nat.dvd_lcm_left bits 8) (Nat.dvd_lcm_right bits 8))
    (Nat.lcm_dvd (dvd_wholeBits bits) (eight_dvd_wholeBits bits))

lemma wholeBits_le (bits : Nat) : wholeBits bits ≤ 8 * bits := by
  rcases Nat.eq_zero_or_pos bits with rfl | hpos
  · rw [wholeBits, if_pos rfl, Nat.mul_zero]
  · exact Nat.le_of_dvd (by omega)
      (wholeBits_dvd (Nat.dvd_mul_left bits 8) (Nat.dvd_mul_right 8 bits))

lemma le_wholeBits (bits : Nat) : bits ≤ wholeBits bits := by
  fun_induction wholeBits bits with
  | case1 bits h => exact Nat.le_refl bits
  | case2 bits h ih => omega

/-- No sum on the way is larger than the last one. -/
lemma wholeBits?_eq (h : wholeBits bits ≤ maxWord) : wholeBits? bits = some (wholeBits bits) := by
  fun_induction wholeBits bits with
  | case1 bits hwhole => rw [wholeBits?, if_pos hwhole]
  | case2 bits hwhole ih =>
      have hfit : bits + bits ≤ maxWord := Nat.le_trans (le_wholeBits _) h
      rw [wholeBits?, if_neg hwhole]
      split
      · next hnone =>
        rw [plus?_of_le hfit] at hnone
        cases hnone
      · next double hdouble =>
        rw [plus?_of_le hfit] at hdouble
        obtain rfl := Option.some.inj hdouble
        exact ih h

/-! ## Fragments -/

lemma eight_mul_size (bits : Nat) : 8 * size bits = wholeBits bits :=
  Nat.mul_div_cancel' (eight_dvd_wholeBits bits)

/-- **Whole samples are whole fragments.** -/
lemma dvd_eight_mul_iff : bits ∣ 8 * n ↔ size bits ∣ n := by
  have hcommon : bits ∣ 8 * n ↔ wholeBits bits ∣ 8 * n :=
    ⟨fun h => wholeBits_dvd h (Nat.dvd_mul_right 8 n), Nat.dvd_trans (dvd_wholeBits bits)⟩
  rw [hcommon, ← eight_mul_size, Nat.mul_dvd_mul_iff_left (by decide)]

lemma isLeast_size (hpos : 0 < bits) : IsLeast {n | 0 < n ∧ bits ∣ 8 * n} (size bits) := by
  have hsize : 0 < size bits := by
    have hle := le_wholeBits bits
    rw [← eight_mul_size] at hle
    omega
  refine ⟨⟨hsize, dvd_eight_mul_iff.mpr (Nat.dvd_refl _)⟩, ?_⟩
  rintro n ⟨hn, hwhole⟩
  exact Nat.le_of_dvd hn (dvd_eight_mul_iff.mp hwhole)

end Fragment

namespace Geometry

variable {bits : UInt32} {fragment : UInt64} {clockRate : UInt32} {a b : Nat}

/-- Bytes in front that hold whole samples last whole ticks. -/
lemma ticks_add (hbits : bits ≠ 0) (ha : bits.toNat ∣ 8 * a) (hfit : 8 * (a + b) < 2 ^ 64) :
    (sample bits fragment).ticks (a + b) clockRate =
      (sample bits fragment).ticks a clockRate + (sample bits fragment).ticks b clockRate := by
  have hcheck : (sample bits fragment).check = .ok () := by
    simp [check, emptyField?, hbits]
  have hreckonable (n : Nat) (h : 8 * n < 2 ^ 64) :
      (sample bits fragment).Reckonable n clockRate := by
    show n < 2 ^ 61
    omega
  apply UInt32.toNat_inj.mp
  rw [UInt32.toNat_add, ticks_eq hcheck (hreckonable _ hfit),
    ticks_eq hcheck (hreckonable a (by omega)), ticks_eq hcheck (hreckonable b (by omega))]
  show 8 * (a + b) / bits.toNat % 2 ^ 32 = _
  rw [Nat.mul_add, Nat.add_div_of_dvd_right ha, Nat.add_mod]
  rfl

end Geometry

/-- **Fragments are as small as they can be.**  For every width of samples but zero, doubling ends
without a sum that a word of 64 bits does not hold, at the least common multiple of the width and
eight, which are the bits of the fragment.  So the fragment is the least number of bytes that holds
whole samples; payloads hold whole samples exactly if they are whole fragments; and the time of
whole fragments is exact, so that of the bytes behind them can be added to it, whatever the clock
is. -/
theorem fragment_least (bits : UInt32) (hbits : bits ≠ 0) :
    ∃ fragment : UInt64, Geometry.ofSampleBits bits = .sample bits fragment ∧
      Fragment.wholeBits? bits.toNat = some (8 * fragment.toNat) ∧
      8 * fragment.toNat = Nat.lcm bits.toNat 8 ∧
      IsLeast {n | 0 < n ∧ bits.toNat ∣ 8 * n} fragment.toNat ∧
      (∀ n, bits.toNat ∣ 8 * n ↔ fragment.toNat ∣ n) ∧
      ∀ clockRate a b, fragment.toNat ∣ a → 8 * (a + b) < 2 ^ 64 →
        (Geometry.ofSampleBits bits).ticks (a + b) clockRate =
          (Geometry.ofSampleBits bits).ticks a clockRate +
            (Geometry.ofSampleBits bits).ticks b clockRate ∧
        ((Geometry.ofSampleBits bits).ticks a clockRate).toNat = 8 * a / bits.toNat % 2 ^ 32 ∧
        8 * a / bits.toNat * bits.toNat = 8 * a := by
  have hwidth := bits.toNat_lt
  have hpos : 0 < bits.toNat :=
    Nat.pos_of_ne_zero fun hz => hbits (UInt32.toNat_inj.mp hz)
  have hle := Fragment.wholeBits_le bits.toNat
  have hsize := Fragment.eight_mul_size bits.toNat
  have hfragment : (UInt64.ofNatClamp (Fragment.size bits.toNat)).toNat =
      Fragment.size bits.toNat := by
    apply UInt64.toNat_ofNatClamp_of_lt
    simp only [UInt64.size]
    omega
  refine ⟨UInt64.ofNatClamp (Fragment.size bits.toNat), rfl, ?_⟩
  rw [hfragment, hsize]
  refine ⟨Fragment.wholeBits?_eq (by simp only [Word.maxWord]; omega),
    Fragment.wholeBits_eq_lcm bits.toNat, Fragment.isLeast_size hpos,
    fun n => Fragment.dvd_eight_mul_iff, ?_⟩
  intro clockRate a b ha hfit
  have hwhole : bits.toNat ∣ 8 * a := Fragment.dvd_eight_mul_iff.mpr ha
  have hcheck : (Geometry.ofSampleBits bits).check = .ok () := by
    simp [Geometry.ofSampleBits, Geometry.check, Geometry.emptyField?, hbits]
  have hreckonable : (Geometry.ofSampleBits bits).Reckonable a clockRate := by
    show a < 2 ^ 61
    omega
  exact ⟨Geometry.ticks_add hbits hwhole hfit, Geometry.ticks_eq hcheck hreckonable,
    Nat.div_mul_cancel hwhole⟩

/-- Two samples of 12 bits take three bytes.  Six bytes hold four of them, so seven more bytes, with
a sample that is torn apart, begin at tick 4 and end at tick 8. -/
theorem fragment_least_twelve :
    ∃ fragment : UInt64, Geometry.ofSampleBits 12 = .sample 12 fragment ∧ fragment.toNat = 3 ∧
      Fragment.wholeBits? 12 = some 24 ∧
      (Geometry.ofSampleBits 12).ticks (6 + 7) 8000 =
        (Geometry.ofSampleBits 12).ticks 6 8000 + (Geometry.ofSampleBits 12).ticks 7 8000 ∧
      ((Geometry.ofSampleBits 12).ticks 6 8000).toNat = 4 := by
  obtain ⟨fragment, hg, hloop, hlcm, -, -, htime⟩ := fragment_least 12 (by decide)
  have hthree : fragment.toNat = 3 := by
    have : Nat.lcm (12 : UInt32).toNat 8 = 24 := by decide
    omega
  obtain ⟨hadd, hexact, -⟩ := htime 8000 6 7 (by rw [hthree]; decide) (by decide)
  rw [hthree] at hloop
  exact ⟨fragment, hg, hthree, hloop, hadd, hexact⟩

end CbrAudio
