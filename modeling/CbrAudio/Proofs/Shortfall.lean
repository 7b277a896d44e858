import CbrAudio.Geometry.Fragment
import CbrAudio.Proofs.Optimum

/-!
# The smallest legal payload can be too short

The transport asks for a shortest duration.  It is turned into bytes, which are rounded down, and
then into whole units, which are rounded up.  What the first step loses the second one makes up for,
except if the bytes were whole units already.

* `le_alignUp_of_lt` — a count is rounded up indeed, as long as the result is below a multiple that
  a word holds.
* `smallest_eq` — where the smallest legal payload is not the largest, it is the room of the
  shortest duration, rounded up.
* **`shortest_reached_iff`** — the smallest legal payload lasts as long as the transport asks for,
  unless that is longer than some whole units and not as long as one byte more.
* `shortest_missed` — a clock of 11,025 ticks a second with which it does not.
-/

namespace CbrAudio.Geometry

open Word

variable {g : Geometry} {limits : Limits} {l : Lengths}

lemma le_alignUp_of_lt {m n unit : Nat} (hd : unit ∣ m) (hword : m ≤ maxWord)
    (hlt : alignUp n unit < m) : n ≤ alignUp n unit := by
  rw [alignUp] at hlt ⊢
  split
  · exact Nat.le_refl n
  · next hmod =>
    rw [if_neg hmod] at hlt
    dsimp only at hlt ⊢
    by_cases hnext : n + (unit - n % unit) ≤ maxWord
    · rw [if_pos hnext]
      exact Nat.le_add_right ..
    · -- The largest multiple that a word holds is not below `m`.
      rw [if_neg hnext] at hlt
      exact absurd (le_alignDown hd hword) (Nat.not_le.mpr hlt)

lemma max_le_maxWord (hl : g.lengths limits = .ok l) : l.max ≤ maxWord :=
  Nat.le_trans (max_le_capacity hl) (capacity_le_maxWord limits)

/-- Whatever has legal lengths has a pace. -/
lemma pace_pos_of_lengths (hl : g.lengths limits = .ok l) :
    0 < g.paceBytes limits.clockRate ∧ 0 < g.paceNanos := by
  have hc : g.check = .ok () := (lengths_ok hl).1
  have hclock : g.checkClock limits = .ok () := by
    cases hk : g.checkClock limits with
    | ok u => rfl
    | error why => simp [lengths_of_checkClock hc hk] at hl
  exact ⟨paceBytes_pos hc hclock, paceNanos_pos hc⟩

/-- The smallest payload, where it is not bounded by the largest. -/
lemma smallest_eq (hl : g.lengths limits = .ok l) (hlt : l.min < l.max) :
    l.min = Nat.max (alignUp (g.octets limits.minPtime.toNat limits.clockRate) l.align) l.align ∧
      g.octets limits.minPtime.toNat limits.clockRate ≤ l.min := by
  obtain ⟨-, hmin, hmax, halign⟩ := lengths_ok hl
  have hword := max_le_maxWord hl
  have heq : l.min =
      Nat.max (alignUp (g.octets limits.minPtime.toNat limits.clockRate) l.align) l.align := by
    rw [smallest, ← hmax, ← halign] at hmin
    rcases Nat.le_total
      (Nat.max (alignUp (g.octets limits.minPtime.toNat limits.clockRate) l.align) l.align) l.max
      with hle | hle
    · rw [hmin]
      exact Nat.min_eq_left hle
    · have hcapped : l.min = l.max := hmin.trans (Nat.min_eq_right hle)
      omega
  have hup : alignUp (g.octets limits.minPtime.toNat limits.clockRate) l.align ≤ l.min := by
    rw [heq]
    exact Nat.le_max_left ..
  refine ⟨heq, Nat.le_trans ?_ hup⟩
  exact le_alignUp_of_lt (aligned_of_lengths hl).dvd_max hword (Nat.lt_of_le_of_lt hup hlt)

/-- **The shortest duration is reached, but for one gap.**  Where the smallest legal payload is
below the largest, it lasts as long as the transport asks for, unless that duration is longer than
the time of some whole units and shorter than the time of one byte more.  Nothing but that byte is
ever missing. -/
theorem shortest_reached_iff (hl : g.lengths limits = .ok l) (hlt : l.min < l.max) :
    ((limits.minPtime.toNat : ℚ) ≤ g.playtime l.min limits.clockRate ↔
      ∀ k, 0 < k →
        (limits.minPtime.toNat : ℚ) ≤ g.playtime (k * l.align) limits.clockRate ∨
          g.playtime (k * l.align + 1) limits.clockRate ≤ (limits.minPtime.toNat : ℚ)) ∧
      (limits.minPtime.toNat : ℚ) < g.playtime (l.min + 1) limits.clockRate := by
  obtain ⟨hb, hn⟩ := pace_pos_of_lengths hl
  obtain ⟨hmin, hroom⟩ := smallest_eq hl hlt
  have hfits : ∀ bytes, bytes ≤ g.octets limits.minPtime.toNat limits.clockRate ↔
      g.playtime bytes limits.clockRate ≤ (limits.minPtime.toNat : ℕ) := by
    have hword : l.max ≤ maxWord := max_le_maxWord hl
    exact fun bytes => le_octets_iff_of_lt hb hn (by omega)
  refine ⟨⟨?_, ?_⟩, ?_⟩
  · -- In the gap the room is whole units already, and they are not rounded up.
    intro hreached k hk
    by_contra hgap
    rw [not_or, not_le, not_le] at hgap
    have hbelow : k * l.align ≤ g.octets limits.minPtime.toNat limits.clockRate :=
      (hfits _).mpr (le_of_lt hgap.1)
    have habove : ¬ k * l.align + 1 ≤ g.octets limits.minPtime.toNat limits.clockRate :=
      fun hle => absurd ((hfits _).mp hle) (not_le.mpr hgap.2)
    have hwhole : g.octets limits.minPtime.toNat limits.clockRate = k * l.align := by omega
    have hunit : l.align ≤ k * l.align := Nat.le_mul_of_pos_left l.align hk
    have hsame : l.min = k * l.align := by
      rw [hmin, hwhole, alignUp, if_pos (Nat.mul_mod_left k l.align)]
      exact Nat.max_eq_left hunit
    rw [hsame] at hreached
    exact absurd hreached (not_le.mpr hgap.1)
  · -- A payload that is too short is no longer than the room, so it is the room.
    intro hgaps
    by_contra hmissed
    rw [not_le] at hmissed
    obtain ⟨k, hk⟩ := (aligned_of_lengths hl).dvd_min
    have hkpos : 0 < k := Nat.pos_of_ne_zero fun hz => by
      have := l.min_pos
      rw [hk, hz] at this
      omega
    rw [Nat.mul_comm] at hk
    rcases hgaps k hkpos with hreached | hbyte
    · rw [hk] at hmissed
      exact absurd hreached (not_le.mpr hmissed)
    · have hover := (hfits _).mpr hbyte
      omega
  · rw [← not_le]
    intro hle
    have hover := (hfits _).mpr hle
    omega

/-- Frames of 24 bytes last 30 milliseconds.  The transport asks for 31, which have room for 24.8
bytes: 24, which are a whole frame. -/
theorem shortest_reached_iff_frames :
    let g : Geometry := .frame 24 30
    let limits : Limits := { minPtime := 31000000 }
    ∃ l, g.lengths limits = .ok l ∧ l.min = 24 ∧ l.max = 1368 ∧
      ¬ (limits.minPtime.toNat : ℚ) ≤ g.playtime l.min limits.clockRate ∧
      (limits.minPtime.toNat : ℚ) < g.playtime (l.min + 1) limits.clockRate := by
  intro g limits
  obtain ⟨l, hl⟩ : ∃ l, g.lengths limits = .ok l := exists_lengths rfl rfl (by decide)
  obtain ⟨-, hsmallest, hlargest, hunit⟩ := lengths_ok hl
  have hmin : l.min = 24 := hsmallest.trans (by decide)
  have hmax : l.max = 1368 := hlargest.trans (by decide)
  have halign : l.align = 24 := hunit
  obtain ⟨hiff, hbyte⟩ := shortest_reached_iff hl (by omega)
  refine ⟨l, hl, hmin, hmax, fun hreached => ?_, hbyte⟩
  have hgap := hiff.mp hreached 1 (by decide)
  rw [halign, Nat.one_mul] at hgap
  rw [hmin] at hbyte
  rcases hgap with hframe | hmore
  · exact absurd ((le_playtime_iff (by decide)).mp hframe) (by decide)
  · exact absurd hmore (not_le.mpr hbyte)

/-- Ten milliseconds of samples of eight bits, at 11,025 a second, are 110.25 bytes.  The smallest
legal payload is 110 bytes, and does not last ten milliseconds. -/
theorem shortest_missed :
    let g : Geometry := .ofSampleBits 8
    let limits : Limits := { minPtime := 10000000, clockRate := 11025 }
    ∃ l, g.lengths limits = .ok l ∧ l.min = 110 ∧ l.max = 1388 ∧
      g.playtime l.min limits.clockRate < (limits.minPtime.toNat : ℚ) := by
  intro g limits
  have hsize : Fragment.size 8 = 1 := by
    simp [Fragment.size, Fragment.wholeBits]
  have hg : g = .sample 8 1 := by
    show sample 8 (UInt64.ofNatClamp (Fragment.size 8)) = .sample 8 1
    rw [hsize]
    rfl
  obtain ⟨l, hl⟩ : ∃ l, g.lengths limits = .ok l := by
    rw [hg]
    exact exists_lengths rfl rfl (by decide)
  obtain ⟨-, hsmallest, hlargest, -⟩ := lengths_ok hl
  rw [hg] at hsmallest hlargest
  have hmin : l.min = 110 := hsmallest.trans (by decide)
  refine ⟨l, hl, hmin, hlargest.trans (by decide), ?_⟩
  rw [hmin, hg, ← not_le, le_playtime_iff (by decide)]
  decide

end CbrAudio.Geometry
