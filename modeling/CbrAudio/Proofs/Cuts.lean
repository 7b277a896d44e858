import CbrAudio.Packetizer.Cuts
import Mathlib.Algebra.GroupWithZero.Nat
import Mathlib.Tactic.Lemma

/-!
# What the plan comes to

The plan for some bytes is made cut by cut.  This file says what it comes to as a whole.

* **In range** — `pos_of_mem_cuts`, `le_max_of_mem_cuts`, `sum_cuts_le`: every cut is a payload
  that fits, and no byte is promised twice.
* **Whole units** — `Lengths.Aligned`, and `aligned_of_lengths`: the legal lengths of a layout are
  multiples of its unit.  It is this that lets the loop take the largest payload every time.
* **`cuts_eq`** — the closed form: as many of the largest payloads as there are, then one more if
  what is left is worth a packet.  `sum_cuts` and `leftover_lt_min` say what stays behind.
-/

namespace CbrAudio

open Word

/-! ## Multiples -/

/-- A multiple of the unit that is no larger than a count is not lost when it is rounded down. -/
lemma le_alignDown {m n unit : Nat} (hd : unit ∣ m) (h : m ≤ n) : m ≤ alignDown n unit := by
  obtain ⟨k, rfl⟩ := hd
  have hk : unit * k ≤ unit * (n / unit) := by
    rcases Nat.eq_zero_or_pos unit with rfl | hpos
    · simp
    · exact Nat.mul_le_mul_left unit ((Nat.le_div_iff_mul_le hpos).mpr (by rwa [Nat.mul_comm]))
  have hn := Nat.div_add_mod n unit
  simp only [alignDown]
  omega

lemma dvd_min {unit m n : Nat} (hm : unit ∣ m) (hn : unit ∣ n) : unit ∣ Nat.min m n := by
  show unit ∣ min m n
  rcases Nat.le_total m n with h | h
  · rwa [Nat.min_eq_left h]
  · rwa [Nat.min_eq_right h]

lemma dvd_max {unit m n : Nat} (hm : unit ∣ m) (hn : unit ∣ n) : unit ∣ Nat.max m n := by
  show unit ∣ max m n
  rcases Nat.le_total m n with h | h
  · rwa [Nat.max_eq_right h]
  · rwa [Nat.max_eq_left h]

namespace Lengths

variable (l : Lengths)

/-! ## In range -/

lemma cuts_of_lt {l : Lengths} {available : Nat} (h : available < l.min) :
    l.cuts available = [] := by
  rw [cuts, if_neg (Nat.not_le.mpr h)]

lemma cuts_of_le {l : Lengths} {available : Nat} (h : l.min ≤ available) :
    l.cuts available = l.nextCut available :: l.cuts (available - l.nextCut available) := by
  rw [cuts, if_pos h]

lemma pos_of_mem_cuts (available : Nat) : ∀ n ∈ l.cuts available, 0 < n := by
  induction available using cuts.induct l with
  | case1 available h ih =>
      rw [cuts_of_le h]
      intro n hn
      rcases List.mem_cons.mp hn with rfl | hn
      · exact l.nextCut_pos h
      · exact ih n hn
  | case2 available h =>
      rw [cuts_of_lt (Nat.not_le.mp h)]
      simp

lemma le_max_of_mem_cuts (available : Nat) : ∀ n ∈ l.cuts available, n ≤ l.max := by
  induction available using cuts.induct l with
  | case1 available h ih =>
      rw [cuts_of_le h]
      intro n hn
      rcases List.mem_cons.mp hn with rfl | hn
      · exact l.nextCut_le_max available
      · exact ih n hn
  | case2 available h =>
      rw [cuts_of_lt (Nat.not_le.mp h)]
      simp

lemma sum_cuts_le (available : Nat) : (l.cuts available).sum ≤ available := by
  induction available using cuts.induct l with
  | case1 available h ih =>
      have hle := l.nextCut_le available
      rw [cuts_of_le h, List.sum_cons]
      omega
  | case2 available h =>
      rw [cuts_of_lt (Nat.not_le.mp h)]
      exact Nat.zero_le available

/-! ## Whole units -/

/-- The smallest and the largest payload are made of whole units. -/
structure Aligned : Prop where
  dvd_min : l.align ∣ l.min
  dvd_max : l.align ∣ l.max

/-- What stays behind when `available` bytes have been cut. -/
def leftover (available : Nat) : Nat :=
  if l.min ≤ available % l.max then available % l.max % l.align else available % l.max

/-- The cut for what the largest payloads leave over, if it is worth a packet. -/
def lastCut (rest : Nat) : List Nat := if l.min ≤ rest then [alignDown rest l.align] else []

variable {l}

lemma min_pos (l : Lengths) : 0 < l.min := Nat.lt_of_lt_of_le l.align_pos l.align_le_min

lemma max_pos (l : Lengths) : 0 < l.max := Nat.lt_of_lt_of_le l.min_pos l.min_le_max

lemma nextCut_of_max_le (h : l.Aligned) {available : Nat} (hmax : l.max ≤ available) :
    l.nextCut available = l.max :=
  Nat.min_eq_right (le_alignDown h.dvd_max hmax)

lemma nextCut_of_lt_max {available : Nat} (hmax : available < l.max) :
    l.nextCut available = alignDown available l.align :=
  Nat.min_eq_left (Nat.le_trans (alignDown_le available l.align) (Nat.le_of_lt hmax))

/-- Below the largest payload there is at most one cut: less than a unit is left behind it. -/
lemma cuts_of_lt_max {available : Nat} (hmax : available < l.max) :
    l.cuts available = l.lastCut available := by
  by_cases h : l.min ≤ available
  · have hmod := Nat.mod_lt available l.align_pos
    have hle := Nat.mod_le available l.align
    have hrest : available - alignDown available l.align < l.min := by
      have := l.align_le_min
      simp only [alignDown]
      omega
    rw [cuts_of_le h, nextCut_of_lt_max hmax, cuts_of_lt hrest, lastCut, if_pos h]
  · rw [cuts_of_lt (Nat.not_le.mp h), lastCut, if_neg h]

/-- A legal payload of whole units is cut as it is. -/
lemma cuts_of_legal {n : Nat} (hmin : l.min ≤ n) (hmax : n ≤ l.max) (hd : l.align ∣ n) :
    l.cuts n = [n] := by
  have hwhole : alignDown n l.align = n := by
    rw [alignDown, Nat.mod_eq_zero_of_dvd hd, Nat.sub_zero]
  have hcut : l.nextCut n = n := by
    rw [nextCut, hwhole]
    exact Nat.min_eq_left hmax
  rw [cuts_of_le hmin, hcut, Nat.sub_self, cuts_of_lt l.min_pos]

/-- **The closed form of the plan.**  The induction is on the bytes, not on the recursion of
`cuts`: a plan that starts with the largest payload goes on with the plan for the rest. -/
theorem cuts_eq (h : l.Aligned) (available : Nat) :
    l.cuts available =
      List.replicate (available / l.max) l.max ++ l.lastCut (available % l.max) := by
  induction available using Nat.strongRecOn with
  | ind available ih =>
      rcases Nat.lt_or_ge available l.max with hlt | hge
      · rw [cuts_of_lt_max hlt, Nat.div_eq_of_lt hlt, Nat.mod_eq_of_lt hlt]
        rfl
      · have hmin : l.min ≤ available := Nat.le_trans l.min_le_max hge
        have hpos := l.max_pos
        rw [cuts_of_le hmin, nextCut_of_max_le h hge, ih (available - l.max) (by omega),
          Nat.div_eq_sub_div hpos hge, Nat.mod_eq_sub_mod hge, List.replicate_succ,
          List.cons_append]

lemma alignDown_add_mod (n unit : Nat) : alignDown n unit + n % unit = n :=
  Nat.sub_add_cancel (Nat.mod_le n unit)

/-- The cuts and what they leave behind are all of the bytes. -/
lemma sum_cuts (h : l.Aligned) (available : Nat) :
    (l.cuts available).sum + l.leftover available = available := by
  have hdiv := Nat.div_add_mod' available l.max
  rw [cuts_eq h, List.sum_append, List.sum_replicate_nat, lastCut, leftover]
  split
  · have hlast := alignDown_add_mod (available % l.max) l.align
    simp only [List.sum_cons, List.sum_nil]
    omega
  · simp only [List.sum_nil]
    omega

/-- What stays behind is no packet. -/
lemma leftover_lt_min (l : Lengths) (available : Nat) : l.leftover available < l.min := by
  rw [leftover]
  split
  · exact Nat.lt_of_lt_of_le (Nat.mod_lt _ l.align_pos) l.align_le_min
  · exact Nat.not_le.mp ‹_›

/-- **Every cut is a legal payload** of whole units. -/
lemma legal_of_mem_cuts (h : l.Aligned) (available : Nat) :
    ∀ n ∈ l.cuts available, l.align ∣ n ∧ l.min ≤ n ∧ n ≤ l.max := by
  rw [cuts_eq h]
  intro n hn
  rcases List.mem_append.mp hn with hn | hn
  · rw [List.eq_of_mem_replicate hn]
    exact ⟨h.dvd_max, l.min_le_max, Nat.le_refl _⟩
  · have hlt := Nat.mod_lt available l.max_pos
    rw [lastCut] at hn
    split at hn
    · have hfit := alignDown_le (available % l.max) l.align
      rw [List.mem_singleton.mp hn]
      exact ⟨dvd_alignDown .., le_alignDown h.dvd_min ‹_›, by omega⟩
    · simp at hn

end Lengths

namespace Geometry

/-! ## The legal lengths of a layout -/

/-- The legal lengths are those that the layout and the limits ask for, and a unit fits. -/
lemma lengths_ok {g : Geometry} {limits : Limits} {l : Lengths} (h : g.lengths limits = .ok l) :
    g.check = .ok () ∧ l.min = g.smallest limits ∧ l.max = g.largest limits ∧ l.align = g.unit := by
  simp only [lengths, bind, Except.bind] at h
  cases hc : g.check with
  | error why => simp [hc] at h
  | ok u =>
      cases hk : g.checkClock limits with
      | error why => simp [hc, hk] at h
      | ok v =>
          simp only [hc, hk] at h
          split at h
          · simp at h
          · cases h
            exact ⟨rfl, rfl, rfl, rfl⟩

variable {g : Geometry} {limits : Limits} {l : Lengths}

/-- They are multiples of the unit, whatever the wishes of the transport are. -/
lemma aligned_of_lengths (h : g.lengths limits = .ok l) : l.Aligned := by
  obtain ⟨-, hmin, hmax, halign⟩ := lengths_ok h
  have hunit : 0 < g.unit := halign ▸ l.align_pos
  have hmtu : g.unit ∣ alignDown limits.capacity g.unit := dvd_alignDown ..
  have hlargest : g.unit ∣ g.largest limits := by
    simp only [largest]
    cases limits.maxPtime with
    | none => exact hmtu
    | some ptime =>
        exact dvd_min (dvd_max (dvd_alignDown ..) (Nat.dvd_refl _)) hmtu
  have hsmallest : g.unit ∣ g.smallest limits :=
    dvd_min (dvd_max (dvd_alignUp _ _ hunit) (Nat.dvd_refl _)) hlargest
  exact ⟨by rwa [halign, hmin], by rwa [halign, hmax]⟩

/-- **A legal payload fits a packet.** -/
lemma max_le_capacity (h : g.lengths limits = .ok l) : l.max ≤ limits.capacity := by
  obtain ⟨-, -, hmax, -⟩ := lengths_ok h
  have hmtu : alignDown limits.capacity g.unit ≤ limits.capacity := alignDown_le ..
  rw [hmax]
  simp only [largest]
  cases limits.maxPtime with
  | none => exact hmtu
  | some ptime => exact Nat.le_trans (Nat.min_le_right ..) hmtu

/-- With the header in front it fits the transport. -/
lemma header_add_max_le_mtu (h : g.lengths limits = .ok l) :
    headerSize + l.max ≤ limits.mtu.toNat := by
  have hfit := max_le_capacity h
  have hpos := l.max_pos
  simp only [Limits.capacity, payloadCapacity] at hfit
  omega

end Geometry

end CbrAudio
