import CbrAudio.Geometry.Checked
import CbrAudio.Proofs.Cuts
import CbrAudio.Proofs.Playtime
import Mathlib.Order.Bounds.Basic

/-!
# The largest legal payload is the best one

A duration is turned into bytes first and into whole units then, and both are rounded down.  That
costs no unit: no longer payload of whole units would be allowed.

* **No step is in the way** — `lengths?_eq`: everything that is reckoned with fits the word it is
  kept in, and nothing is divided by zero.
* **When there are legal lengths** — `lengths_eq_ok_iff`, and which fault there is otherwise.
* `Geometry.InTime` — payloads that are not too long for the transport.  `isGreatest_largest` — the
  largest legal payload among them is the largest of all; `largest_of_never` — and if there is none,
  it is a single unit.
* **`lengths_optimal`** — all of it.
-/

namespace CbrAudio

namespace Word

/-! ## Step by step -/

lemma times?_of_le {bound m n : Nat} (h : m * n ≤ bound) : times? bound m n = some (m * n) :=
  if_pos h

lemma over?_of_pos {m n : Nat} (h : 0 < n) : over? m n = some (m / n) := if_neg (Nat.ne_of_gt h)

lemma rest?_of_pos {m n : Nat} (h : 0 < n) : rest? m n = some (m % n) := if_neg (Nat.ne_of_gt h)

/-- The product of two words always fits 128 bits. -/
lemma mulDiv?_eq {n num : Nat} (hn : n ≤ maxWord) (hnum : num ≤ maxWord) (den : Nat) :
    mulDiv? n num den = some (mulDiv n num den) := by
  rw [mulDiv?, mulDiv]
  split
  · rfl
  · next hden =>
    have hwide : n * num ≤ maxWide := Nat.le_trans (Nat.mul_le_mul hn hnum) (by decide)
    rw [times?_of_le hwide, Option.bind_eq_bind, Option.bind_some,
      over?_of_pos (Nat.pos_of_ne_zero hden), Option.bind_some]

lemma alignDown?_eq {unit : Nat} (h : 0 < unit) (n : Nat) :
    alignDown? n unit = some (alignDown n unit) := by
  rw [alignDown?, rest?_of_pos h, Option.bind_eq_bind, Option.bind_some,
    minus?_of_le (Nat.mod_le n unit), alignDown]

lemma alignUp?_eq {unit : Nat} (h : 0 < unit) (n : Nat) :
    alignUp? n unit = some (alignUp n unit) := by
  rw [alignUp?, alignUp, rest?_of_pos h, Option.bind_eq_bind, Option.bind_some]
  split
  · rfl
  · rw [minus?_of_le (Nat.le_of_lt (Nat.mod_lt n h)), Option.bind_some]
    by_cases hnext : n + (unit - n % unit) ≤ maxWord
    · simp only [plus?, if_pos hnext]
    · simp only [plus?, if_neg hnext, alignDown?_eq h]

end Word

namespace Geometry

open Word

variable {g : Geometry} {limits : Limits} {clockRate : UInt32}

/-- Milliseconds of 32 bits make nanoseconds of 64, and so do clock rates and widths of samples. -/
lemma octets?_eq {nanos : Nat} (h : nanos ≤ maxWord) (g : Geometry) (clockRate : UInt32) :
    g.octets? nanos clockRate = some (g.octets nanos clockRate) := by
  rcases g with ⟨size, millis⟩ | ⟨bits, fragment⟩
  · have hmillis := millis.toNat_lt
    have hsize : size.toNat ≤ maxWord := Nat.le_of_lt_succ size.toNat_lt
    have hframe : millis.toNat * nanosPerMilli ≤ maxWord := by
      simp only [nanosPerMilli, maxWord]
      omega
    rw [octets?, times?_of_le hframe, Option.bind_eq_bind, Option.bind_some, mulDiv?_eq hsize h]
    rfl
  · have hproduct : clockRate.toNat * bits.toNat ≤ 0xffffffff * 0xffffffff :=
      Nat.mul_le_mul (Nat.le_of_lt_succ clockRate.toNat_lt) (Nat.le_of_lt_succ bits.toNat_lt)
    have hrate : clockRate.toNat * bits.toNat ≤ maxWord := Nat.le_trans hproduct (by decide)
    have hscale : 8 * nanosPerSecond ≤ maxWord := by decide
    rw [octets?, times?_of_le hrate, Option.bind_eq_bind, Option.bind_some, times?_of_le hscale,
      Option.bind_some, mulDiv?_eq h hrate]
    rfl

/-- The largest payload that the longest duration allows. -/
def longest (g : Geometry) (limits : Limits) : Option Nat :=
  limits.maxPtime.map fun ptime =>
    Nat.max (alignDown (g.octets ptime.toNat limits.clockRate) g.unit) g.unit

lemma largest_eq (g : Geometry) (limits : Limits) :
    g.largest limits =
      ((g.longest limits).map fun n => Nat.min n (alignDown limits.capacity g.unit)).getD
        (alignDown limits.capacity g.unit) := by
  rw [largest, longest]
  cases limits.maxPtime <;> rfl

lemma longest?_eq (hunit : 0 < g.unit) : g.longest? limits = some (g.longest limits) := by
  rw [longest?, longest]
  cases limits.maxPtime with
  | none => rfl
  | some ptime =>
      have hword : ptime.toNat ≤ maxWord := Nat.le_of_lt_succ ptime.toNat_lt
      simp only [octets?_eq hword, Option.bind_eq_bind, Option.bind_some, alignDown?_eq hunit,
        Option.map_some]

/-! ## When there are legal lengths -/

lemma lengths_of_check {why : SetupFault} (h : g.check = .error why) :
    g.lengths limits = .error why := by
  simp only [lengths, bind, Except.bind, h]

lemma lengths_of_checkClock {why : SetupFault} (h : g.check = .ok ())
    (hclock : g.checkClock limits = .error why) : g.lengths limits = .error why := by
  simp only [lengths, bind, Except.bind, h, hclock]

lemma lengths_of_narrow (h : g.check = .ok ()) (hclock : g.checkClock limits = .ok ())
    (hmtu : alignDown limits.capacity g.unit = 0) :
    g.lengths limits = .error (.mtuTooSmall limits.capacity g.unit) := by
  simp only [lengths, bind, Except.bind, h, hclock, dif_pos hmtu]

lemma exists_lengths (h : g.check = .ok ()) (hclock : g.checkClock limits = .ok ())
    (hmtu : alignDown limits.capacity g.unit ≠ 0) : ∃ l, g.lengths limits = .ok l := by
  simp only [lengths, bind, Except.bind, h, hclock, dif_neg hmtu]
  exact ⟨_, rfl⟩

lemma check_eq_error {field : String} (h : g.emptyField? = some field) :
    g.check = .error (.invalidGeometry g.mode field) := by
  rw [check, h]

lemma checkClock_eq_ok_iff :
    g.checkClock limits = .ok () ↔ (g.mode = .sample → limits.clockRate ≠ 0) := by
  rw [checkClock]
  cases g.mode with
  | frame => simp
  | sample => by_cases h : limits.clockRate = 0 <;> simp [h]

lemma checkClock_eq_error (hmode : g.mode = .sample) (h : limits.clockRate = 0) :
    g.checkClock limits = .error (.invalidConstraint "clock_rate") := by
  simp only [checkClock, hmode, if_pos h]

/-- A frame that is none is no unit either, but such a layout is refused; a fragment has to be
positive from the start. -/
lemma unit_pos (h : g.check = .ok ()) (hunit : g.mode = .sample → 0 < g.unit) : 0 < g.unit := by
  rcases g with ⟨size, millis⟩ | ⟨bits, fragment⟩
  · exact size_pos_of_check h
  · exact hunit rfl

/-- **There are legal lengths** exactly if nothing is zero that must not be, and a unit fits. -/
lemma lengths_eq_ok_iff (hunit : g.mode = .sample → 0 < g.unit) :
    (∃ l, g.lengths limits = .ok l) ↔
      g.check = .ok () ∧ (g.mode = .sample → limits.clockRate ≠ 0) ∧
        g.unit ≤ limits.capacity := by
  rw [← checkClock_eq_ok_iff]
  cases hc : g.check with
  | error why => simp [lengths_of_check hc]
  | ok u =>
      cases hk : g.checkClock limits with
      | error why => simp [lengths_of_checkClock hc hk]
      | ok v =>
          have hfit := alignDown_eq_zero_iff (n := limits.capacity) (unit_pos hc hunit)
          by_cases hmtu : alignDown limits.capacity g.unit = 0
          · have hnarrow := hfit.mp hmtu
            simp [lengths_of_narrow hc hk hmtu, hnarrow]
          · have hwide : g.unit ≤ limits.capacity := Nat.not_lt.mp fun hlt => hmtu (hfit.mpr hlt)
            simp [exists_lengths hc hk hmtu, hwide]

/-- **Every step can be taken.**  The only thing that could be divided by is a unit of nothing. -/
lemma lengths?_eq (hunit : g.mode = .sample → 0 < g.unit) :
    g.lengths? limits = some ((g.lengths limits).map fun l => (l.min, l.max, l.align)) := by
  cases hc : g.check with
  | error why =>
      rw [lengths_of_check hc]
      simp only [lengths?, hc, Except.map]
  | ok u =>
      cases hk : g.checkClock limits with
      | error why =>
          rw [lengths_of_checkClock hc hk]
          simp only [lengths?, hc, hk, Except.map]
      | ok v =>
          have hpos := unit_pos hc hunit
          have hword : limits.minPtime.toNat ≤ maxWord := Nat.le_of_lt_succ limits.minPtime.toNat_lt
          simp only [lengths?, hc, hk, longest?_eq hpos, octets?_eq hword, alignDown?_eq hpos,
            alignUp?_eq hpos, Option.bind_eq_bind, Option.bind_some]
          by_cases hmtu : alignDown limits.capacity g.unit = 0
          · rw [if_pos hmtu, lengths_of_narrow hc hk hmtu]
            rfl
          · obtain ⟨l, hl⟩ := exists_lengths hc hk hmtu
            obtain ⟨-, hmin, hmax, halign⟩ := lengths_ok hl
            rw [if_neg hmtu, hl, ← largest_eq]
            simp only [Except.map, hmin, hmax, halign]
            rfl

/-! ## The largest payload -/

/-- Bytes that are not too long for the transport, if it has a longest duration. -/
def InTime (g : Geometry) (limits : Limits) (bytes : Nat) : Prop :=
  ∀ ptime, limits.maxPtime = some ptime →
    g.playtime bytes limits.clockRate ≤ (ptime.toNat : ℕ)

lemma InTime.mono {m n : Nat} (h : g.InTime limits n) (hle : m ≤ n) : g.InTime limits m :=
  fun ptime hptime => le_trans (playtime_mono hle g limits.clockRate) (h ptime hptime)

lemma capacity_le_maxWord (limits : Limits) : limits.capacity ≤ maxWord :=
  Nat.le_trans (Nat.sub_le ..) (Nat.le_of_lt_succ limits.mtu.toNat_lt)

section Optimum

variable (hb : 0 < g.paceBytes limits.clockRate) (hn : 0 < g.paceNanos) (hpos : 0 < g.unit)
  (hfit : g.unit ≤ limits.capacity)
include hb hn hpos hfit

/-- **No larger payload is allowed**, if any is.  Whole units are not lost when bytes are rounded
down to them (`le_alignDown`), nor when a duration is rounded down to bytes (`le_octets_iff`). -/
lemma isGreatest_largest {m : Nat} (hm : 0 < m) (hdvd : g.unit ∣ m) (htime : g.InTime limits m) :
    IsGreatest {n | 0 < n ∧ g.unit ∣ n ∧ n ≤ limits.capacity ∧ g.InTime limits n}
      (g.largest limits) := by
  have hone : g.InTime limits g.unit := htime.mono (Nat.le_of_dvd hm hdvd)
  have hbyMtu : g.unit ≤ alignDown limits.capacity g.unit := le_alignDown (Nat.dvd_refl _) hfit
  have hle : alignDown limits.capacity g.unit ≤ limits.capacity := alignDown_le ..
  have hword := capacity_le_maxWord limits
  rw [largest]
  cases hmax : limits.maxPtime with
  | none =>
      refine ⟨⟨Nat.lt_of_lt_of_le hpos hbyMtu, dvd_alignDown .., hle, fun ptime h => ?_⟩, ?_⟩
      · rw [hmax] at h
        cases h
      · rintro n ⟨-, hd, hcap, -⟩
        exact le_alignDown hd hcap
  | some ptime =>
      -- A unit is in time, so it has room, and the unit that is always allowed is no exception.
      have hroom : g.unit ≤ alignDown (g.octets ptime.toNat limits.clockRate) g.unit := by
        refine le_alignDown (Nat.dvd_refl _) ?_
        exact (le_octets_iff hb hn (by omega)).mpr (hone ptime hmax)
      have hwhole : alignDown (g.octets ptime.toNat limits.clockRate) g.unit ≤
          g.octets ptime.toNat limits.clockRate := alignDown_le ..
      dsimp only
      rw [show Nat.max _ g.unit = _ from Nat.max_eq_left hroom]
      refine ⟨⟨?_, dvd_min (dvd_alignDown ..) (dvd_alignDown ..), ?_, ?_⟩, ?_⟩
      · exact Nat.lt_min.mpr ⟨Nat.lt_of_lt_of_le hpos hroom, Nat.lt_of_lt_of_le hpos hbyMtu⟩
      · exact Nat.le_trans (Nat.min_le_right ..) hle
      · intro other h
        obtain rfl : ptime = other := by simpa [hmax] using h
        refine (le_octets_iff hb hn ?_).mp (Nat.le_trans (Nat.min_le_left ..) hwhole)
        exact Nat.le_trans (Nat.min_le_right ..) (Nat.le_trans hle hword)
      · rintro n ⟨-, hd, hcap, ht⟩
        refine Nat.le_min.mpr ⟨le_alignDown hd ?_, le_alignDown hd hcap⟩
        exact (le_octets_iff hb hn (by omega)).mpr (ht ptime hmax)

/-- **A single unit is always allowed**, also if it is too long. -/
lemma largest_of_never (h : ∀ n, 0 < n → g.unit ∣ n → ¬ g.InTime limits n) :
    g.largest limits = g.unit := by
  have hbyMtu : g.unit ≤ alignDown limits.capacity g.unit := le_alignDown (Nat.dvd_refl _) hfit
  have hword := capacity_le_maxWord limits
  have hlate := h g.unit hpos (Nat.dvd_refl _)
  rw [largest]
  cases hmax : limits.maxPtime with
  | none =>
      refine absurd (fun ptime hptime => ?_) hlate
      rw [hmax] at hptime
      cases hptime
  | some ptime =>
      have hroom : ¬ g.unit ≤ g.octets ptime.toNat limits.clockRate := by
        intro hle
        refine hlate fun other hother => ?_
        obtain rfl : ptime = other := by simpa [hmax] using hother
        exact (le_octets_iff hb hn (by omega)).mp hle
      have hnone : alignDown (g.octets ptime.toNat limits.clockRate) g.unit = 0 :=
        (alignDown_eq_zero_iff hpos).mpr (Nat.not_le.mp hroom)
      dsimp only
      rw [hnone, show Nat.max 0 g.unit = g.unit from Nat.max_eq_right (Nat.zero_le _)]
      exact Nat.min_eq_left hbyMtu

end Optimum

/-- **Legal lengths are in order, and the largest is the best.**  Let a layout be any of frames, or
of samples in fragments that are not empty, and let limits be any that their words hold.  Whatever
is reckoned on the way can be reckoned.  There are legal lengths exactly if the layout is one, a
clock that samples are measured by ticks, and a unit fits a packet; of what is wrong the first in
this order is the fault.  Legal lengths are whole units within a packet, and the largest is the
largest number of whole units that fits a packet and lasts no longer than the longest duration, to
the nanosecond and without rounding.  If already a single unit lasts longer, it is a single unit. -/
theorem lengths_optimal (g : Geometry) (limits : Limits)
    (hunit : g.mode = .sample → 0 < g.unit) :
    g.lengths? limits = some ((g.lengths limits).map fun l => (l.min, l.max, l.align)) ∧
    ((∃ l, g.lengths limits = .ok l) ↔
      g.check = .ok () ∧ (g.mode = .sample → limits.clockRate ≠ 0) ∧
        g.unit ≤ limits.mtu.toNat - headerSize) ∧
    (∀ field, g.emptyField? = some field →
      g.lengths limits = .error (.invalidGeometry g.mode field)) ∧
    (g.check = .ok () → g.mode = .sample → limits.clockRate = 0 →
      g.lengths limits = .error (.invalidConstraint "clock_rate")) ∧
    (g.check = .ok () → (g.mode = .sample → limits.clockRate ≠ 0) →
      limits.mtu.toNat - headerSize < g.unit →
      g.lengths limits = .error (.mtuTooSmall (limits.mtu.toNat - headerSize) g.unit)) ∧
    ∀ l, g.lengths limits = .ok l →
      l.align = g.unit ∧ l.align ∣ l.min ∧ l.align ∣ l.max ∧
      1 ≤ l.align ∧ l.align ≤ l.min ∧ l.min ≤ l.max ∧ l.max ≤ limits.mtu.toNat - headerSize ∧
      (∀ m, 0 < m → l.align ∣ m → g.InTime limits m →
        IsGreatest {n | 0 < n ∧ l.align ∣ n ∧ n ≤ limits.mtu.toNat - headerSize ∧
          g.InTime limits n} l.max) ∧
      ((∀ m, 0 < m → l.align ∣ m → ¬ g.InTime limits m) → l.max = l.align) := by
  refine ⟨lengths?_eq hunit, lengths_eq_ok_iff hunit, ?_, ?_, ?_, ?_⟩
  · exact fun field hfield => lengths_of_check (check_eq_error hfield)
  · exact fun hc hmode hstill => lengths_of_checkClock hc (checkClock_eq_error hmode hstill)
  · intro hc hclock hnarrow
    refine lengths_of_narrow hc (checkClock_eq_ok_iff.mpr hclock) ?_
    exact (alignDown_eq_zero_iff (unit_pos hc hunit)).mpr hnarrow
  · intro l hl
    obtain ⟨hc, hclock, hfit⟩ := (lengths_eq_ok_iff hunit).mp ⟨l, hl⟩
    obtain ⟨-, -, hmax, halign⟩ := lengths_ok hl
    have haligned := aligned_of_lengths hl
    have hpos := unit_pos hc hunit
    have hb := paceBytes_pos hc (checkClock_eq_ok_iff.mpr hclock)
    have hn := paceNanos_pos hc
    refine ⟨halign, haligned.dvd_min, haligned.dvd_max, l.align_pos, l.align_le_min, l.min_le_max,
      max_le_capacity hl, ?_, ?_⟩
    · rw [hmax, halign]
      exact fun m hm hdvd htime => isGreatest_largest hb hn hpos hfit hm hdvd htime
    · rw [hmax, halign]
      exact fun hnever => largest_of_never hb hn hpos hfit hnever

/-- Two samples of 12 bits take three bytes, and at 44,100 samples a second a millisecond has room
for 66.15 bytes: 22 pairs of samples are the most, although 68 bytes fit a packet. -/
theorem lengths_optimal_pairs :
    let g : Geometry := .sample 12 3
    let limits : Limits := { mtu := 80, maxPtime := some 1000000, clockRate := 44100 }
    0 < g.unit ∧ (∃ l, g.lengths limits = .ok l ∧ l.max = 66) ∧
      IsGreatest {n | 0 < n ∧ 3 ∣ n ∧ n ≤ limits.mtu.toNat - headerSize ∧ g.InTime limits n} 66 := by
  intro g limits
  have hunit : 0 < g.unit := by decide
  obtain ⟨-, hiff, -, -, -, hlegal⟩ := lengths_optimal g limits fun _ => hunit
  obtain ⟨l, hl⟩ := hiff.mpr ⟨rfl, fun _ => by decide, by decide⟩
  have hmax : l.max = 66 := (lengths_ok hl).2.2.1.trans (by decide)
  obtain ⟨halign, -, -, -, -, -, -, hbest, -⟩ := hlegal l hl
  have htime : g.InTime limits 3 := by
    intro ptime hptime
    obtain rfl : (1000000 : UInt64) = ptime := Option.some.inj hptime
    exact (playtime_le_iff (by decide)).mpr (by decide)
  rw [hmax, halign] at hbest
  exact ⟨hunit, ⟨l, hl, hmax⟩, hbest 3 (by decide) (by decide) htime⟩

end Geometry

end CbrAudio
