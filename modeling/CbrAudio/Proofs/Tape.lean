import CbrAudio.Proofs.Stamps
import CbrAudio.Proofs.Twins
import Mathlib

/-!
# The tape behind a backlog

A backlog forgets the bytes that have left and the segments they came in.  Here they are kept: all
bytes in a row, the positions at which a time stamp came, and how far the head has got.  What the
backlog says about its head can then be read off the positions.

* `Tape` — the bytes since nothing was there, which grow at the back, and the position of the head.
* `Tape.anchorAt` — the last time stamp up to a position, and how far back it is.
* `Backlog.advance_advance`, `Backlog.advance_push` — when bytes leave, it does not matter in how
  many parts they do, nor what has come in behind them.
* **`Tape.Leaves`** — what a backlog has to do with a tape, and that it stays so: `Leaves.push`,
  `Leaves.advance`.
-/

namespace CbrAudio

/-- All bytes that came, and how many of them have gone. -/
structure Tape where
  bytes : List UInt8 := []
  /-- The time stamps that came, each with the position of the first byte it came with. -/
  stamps : List (Nat × UInt64) := []
  /-- The position of the head. -/
  gone : Nat := 0
  within : gone ≤ bytes.length := by simp
  stamped : ∀ s ∈ stamps, s.1 < bytes.length := by simp

namespace Tape

/-- How much is left. -/
def left (t : Tape) : Nat := t.bytes.length - t.gone

/-- The bytes from one position up to another. -/
def between (start stop : Nat) (t : Tape) : List UInt8 := (t.bytes.take stop).drop start

/-- The last time stamp up to a position, and how far back it is; or how far back the first byte is
if there is none. -/
def anchorAt (position : Nat) (t : Tape) : Anchor :=
  match (t.stamps.filter fun s => s.1 ≤ position).getLast? with
  | some (start, stamp) => ⟨some stamp, position - start⟩
  | none => ⟨none, position⟩

/-- The anchor of the head. -/
def anchor (t : Tape) : Anchor := t.anchorAt t.gone

/-- Bytes come.  If there is not even one, their time stamp is of nothing. -/
def push (data : List UInt8) (stamp : Option UInt64) (t : Tape) : Tape :=
  if h : data = [] then t
  else {
    bytes := t.bytes ++ data
    stamps := t.stamps ++ (stamp.map (t.bytes.length, ·)).toList
    gone := t.gone
    within := by
      have := t.within
      rw [List.length_append]
      omega
    stamped := by
      have hpos := List.length_pos_iff.mpr h
      intro s hs
      rw [List.length_append]
      rcases List.mem_append.mp hs with hold | hnew
      · have := t.stamped s hold
        omega
      · obtain ⟨time, -, rfl⟩ : ∃ time, stamp = some time ∧ (t.bytes.length, time) = s := by
          simpa using hnew
        omega }

/-- The head goes on by `n` bytes, or to the end. -/
def pass (n : Nat) (t : Tape) : Tape where
  bytes := t.bytes
  stamps := t.stamps
  gone := t.gone + min n t.left
  within := by
    have := t.within
    rw [left]
    omega
  stamped := t.stamped

/-! ## The anchor of a position -/

variable {t : Tape} {data : List UInt8} {stamp : Option UInt64} {position : Nat}

@[simp] lemma push_nil (stamp : Option UInt64) (t : Tape) : t.push [] stamp = t := rfl

@[simp] lemma bytes_push (data : List UInt8) (stamp : Option UInt64) (t : Tape) :
    (t.push data stamp).bytes = t.bytes ++ data := by
  rw [push]
  split
  · next h => simp [h]
  · rfl

@[simp] lemma gone_push (data : List UInt8) (stamp : Option UInt64) (t : Tape) :
    (t.push data stamp).gone = t.gone := by
  rw [push]
  split <;> rfl

/-- `n` bytes from a position on, or as many as there are. -/
lemma take_drop_bytes (start n : Nat) (t : Tape) :
    (t.bytes.drop start).take n = t.between start (min (start + n) t.bytes.length) := by
  rw [between, List.drop_take, List.take_eq_take_iff, List.length_drop]
  omega

lemma gone_add_left (t : Tape) : t.gone + t.left = t.bytes.length := Nat.add_sub_cancel' t.within

/-- **Behind the last byte** nothing comes between, so the time is that of the end, and more. -/
lemma anchorAt_of_le (h : t.bytes.length ≤ position) :
    t.anchorAt position = (t.anchorAt t.bytes.length).pass (position - t.bytes.length) := by
  have hall : ∀ bound, t.bytes.length ≤ bound → (t.stamps.filter fun s => s.1 ≤ bound) = t.stamps :=
    fun bound hbound => List.filter_eq_self.mpr fun s hs => by
      have := t.stamped s hs
      simp only [decide_eq_true_eq]
      omega
  rw [anchorAt, anchorAt, hall _ h, hall _ (Nat.le_refl _)]
  cases hlast : t.stamps.getLast? with
  | none => simp [Anchor.pass, h]
  | some s =>
      have hstart := t.stamped s (List.mem_of_getLast? hlast)
      simp only [Anchor.pass, Anchor.mk.injEq, true_and]
      omega

/-- **What comes later** has no effect on a position in front of it. -/
lemma anchorAt_push_of_lt (h : position < t.bytes.length) :
    (t.push data stamp).anchorAt position = t.anchorAt position := by
  rw [push]
  split
  · rfl
  · have hnew : ((stamp.map (t.bytes.length, ·)).toList.filter fun s => s.1 ≤ position) = [] := by
      cases stamp with
      | none => rfl
      | some time => simpa using h
    rw [anchorAt, anchorAt, List.filter_append, hnew, List.append_nil]

/-- **In what comes** the time is reckoned from its first byte, if that has a time stamp. -/
lemma anchorAt_push_of_le (hdata : data ≠ []) (h : t.bytes.length ≤ position) :
    (t.push data stamp).anchorAt position =
      ((t.anchorAt t.bytes.length).renew stamp).pass (position - t.bytes.length) := by
  cases stamp with
  | none =>
      rw [Anchor.renew, ← anchorAt_of_le h, push, dif_neg hdata]
      simp [anchorAt]
  | some time =>
      rw [push, dif_neg hdata]
      simp [anchorAt, List.filter_append, h, Anchor.renew, Anchor.pass]

/-- No more bytes have gone since a time stamp than have gone at all. -/
lemma distance_anchor_le (t : Tape) : t.anchor.distance ≤ t.gone := by
  rw [anchor, anchorAt]
  split
  · exact Nat.sub_le ..
  · exact Nat.le_refl _

end Tape

/-! ## Bytes leave a backlog -/

namespace Segment

/-- A segment without its first bytes. -/
def after (n : Nat) (s : Segment) (h : n < s.bytes.length) : Segment :=
  ⟨s.bytes.drop n, s.stamp, List.drop_eq_nil_iff.not.mpr (Nat.not_le_of_lt h)⟩

lemma length_after {n : Nat} (s : Segment) (h : n < s.bytes.length) :
    (s.after n h).bytes.length = s.bytes.length - n := List.length_drop

lemma after_after {m n : Nat} (s : Segment) (hm : m < s.bytes.length)
    (hn : n < (s.after m hm).bytes.length) (h : m + n < s.bytes.length) :
    (s.after m hm).after n hn = s.after (m + n) h := by
  simp [after]

end Segment

namespace Backlog

variable {n : Nat} {s : Segment}

@[simp] lemma advanceFrom_zero (segments : List Segment) (a : Anchor) :
    advanceFrom 0 segments a = ⟨segments, a⟩ := by
  cases segments <;> rfl

/-- The whole head leaves. -/
lemma advanceFrom_of_le (h : s.bytes.length ≤ n) (rest : List Segment) (a : Anchor) :
    advanceFrom n (s :: rest) a =
      advanceFrom (n - s.bytes.length) rest (succeed s.bytes.length rest a) := by
  have hpos := List.length_pos_iff.mpr s.nonempty
  rw [advanceFrom, if_neg (by omega), dif_pos (List.drop_eq_nil_iff.mpr h)]

/-- Part of the head leaves. -/
lemma advanceFrom_of_lt (h : n < s.bytes.length) (rest : List Segment) (a : Anchor) :
    advanceFrom n (s :: rest) a = ⟨s.after n h :: rest, a.pass n⟩ := by
  rw [advanceFrom]
  split
  · next hn =>
      subst hn
      simp [Segment.after, Anchor.pass]
  · rw [dif_neg (List.drop_eq_nil_iff.not.mpr (Nat.not_le_of_lt h))]
    rfl

lemma advance_advanceFrom (m n : Nat) (segments : List Segment) (a : Anchor) :
    (advanceFrom m segments a).advance n = advanceFrom (m + n) segments a := by
  induction segments generalizing m a with
  | nil => simp [advanceFrom, advance]
  | cons s rest ih =>
      rcases Nat.lt_or_ge m s.bytes.length with hm | hm
      · have hafter := s.length_after hm
        rw [advanceFrom_of_lt hm, advance]
        dsimp only
        rcases Nat.lt_or_ge (m + n) s.bytes.length with hn | hn
        · rw [advanceFrom_of_lt (by omega), advanceFrom_of_lt hn, s.after_after hm _ hn]
          simp [Anchor.pass, Nat.add_assoc]
        · rw [advanceFrom_of_le (by omega), advanceFrom_of_le hn, hafter,
            succeed_pass (Nat.le_of_lt hm)]
          congr 1
          omega
      · rw [advanceFrom_of_le hm, ih, advanceFrom_of_le (by omega)]
        congr 1
        omega

/-- **In parts.** -/
lemma advance_advance (m n : Nat) (q : Backlog) : (q.advance m).advance n = q.advance (m + n) :=
  advance_advanceFrom m n q.segments q.anchor

lemma segments_advance_size (q : Backlog) : (q.advance q.size).segments = [] :=
  segments_of_size (by rw [size_advance, Nat.sub_self])

/-- **No more leave than there are.** -/
lemma advance_min (n : Nat) (q : Backlog) : q.advance (min n q.size) = q.advance n := by
  rcases Nat.le_total n q.size with h | h
  · rw [Nat.min_eq_left h]
  · obtain ⟨k, rfl⟩ := Nat.exists_eq_add_of_le h
    rw [Nat.min_eq_right h, ← advance_advance]
    generalize hall : q.advance q.size = rest
    have hnone : rest.segments = [] := hall ▸ segments_advance_size q
    obtain ⟨segments, a⟩ := rest
    obtain rfl : segments = [] := hnone
    rfl

lemma size_push (data : List UInt8) (stamp : Option UInt64) (q : Backlog) :
    (q.push data stamp).size = q.size + data.length := by
  rw [size_eq_length, size_eq_length, contents_push, List.length_append]

/-- Where only what came in last waits, the time is reckoned from its first byte. -/
lemma anchor_advance_push {q : Backlog} {data : List UInt8} (hq : q.segments = [])
    (hdata : data ≠ []) (h : n ≤ data.length) (stamp : Option UInt64) :
    ((q.push data stamp).advance n).anchor = (q.anchor.renew stamp).pass n := by
  obtain ⟨segments, a⟩ := q
  obtain rfl : segments = [] := hq
  rw [push, dif_neg hdata]
  let s : Segment := ⟨data, stamp, hdata⟩
  show (advanceFrom n [s] (a.renew stamp)).anchor = (a.renew stamp).pass n
  rcases Nat.lt_or_ge n s.bytes.length with hlt | hge
  · rw [advanceFrom_of_lt hlt]
  · obtain rfl : n = s.bytes.length := Nat.le_antisymm h hge
    rw [advanceFrom_of_le hge]
    rfl

lemma advanceFrom_append (new : Segment) {segments : List Segment} (hne : segments ≠ [])
    (a : Anchor) (h : n ≤ (segments.flatMap Segment.bytes).length) :
    advanceFrom n (segments ++ [new]) a = (advanceFrom n segments a).push new.bytes new.stamp := by
  induction segments generalizing n a with
  | nil => exact absurd rfl hne
  | cons s rest ih =>
      rw [List.flatMap_cons, List.length_append] at h
      rw [List.cons_append]
      rcases Nat.lt_or_ge n s.bytes.length with hn | hn
      · rw [advanceFrom_of_lt hn, advanceFrom_of_lt hn, push, dif_neg new.nonempty]
        rfl
      · rw [advanceFrom_of_le hn, advanceFrom_of_le hn]
        rcases rest with _ | ⟨next, rest⟩
        · -- Nothing is left to wait, so what comes is the new head either way.
          have hz : n - s.bytes.length = 0 := by
            simp only [List.flatMap_nil, List.length_nil] at h
            omega
          rw [hz, List.nil_append, advanceFrom_zero, advanceFrom_zero, push, dif_neg new.nonempty]
          rfl
        · exact ih (by simp) _ (by omega)

/-- **Whatever has come in behind them.** -/
lemma advance_push {q : Backlog} (h : n ≤ q.size) (data : List UInt8) (stamp : Option UInt64) :
    (q.push data stamp).advance n = (q.advance n).push data stamp := by
  obtain ⟨segments, a⟩ := q
  by_cases hdata : data = []
  · simp [push, hdata]
  · rcases segments with _ | ⟨s, rest⟩
    · obtain rfl : n = 0 := Nat.le_zero.mp h
      simp [advance]
    · rw [size_eq_length] at h
      have hpush : (⟨s :: rest, a⟩ : Backlog).push data stamp =
          ⟨s :: rest ++ [⟨data, stamp, hdata⟩], a⟩ := by
        rw [push, dif_neg hdata]
        rfl
      rw [hpush]
      exact advanceFrom_append ⟨data, stamp, hdata⟩ (by simp) a h

end Backlog

/-! ## What a tape leaves -/

/-- **What a backlog has to do with a tape**: it has the bytes that are left, and however many of
them leave, it reckons from the time stamp in front of its head. -/
structure Tape.Leaves (t : Tape) (q : Backlog) : Prop where
  contents : q.contents = t.bytes.drop t.gone
  anchor : ∀ n ≤ q.size, (q.advance n).anchor = t.anchorAt (t.gone + n)

namespace Tape.Leaves

variable {t : Tape} {q : Backlog}

lemma empty : ({} : Tape).Leaves .empty where
  contents := rfl
  anchor n h := by
    obtain rfl : n = 0 := Nat.le_zero.mp h
    rfl

lemma size_eq (h : t.Leaves q) : q.size = t.left := by
  rw [Backlog.size_eq_length, h.contents, List.length_drop, left]

lemma anchor_eq (h : t.Leaves q) : q.anchor = t.anchor := by
  have hzero := h.anchor 0 (Nat.zero_le _)
  rwa [Backlog.advance, Backlog.advanceFrom_zero] at hzero

/-- No count of the backlog is larger than that of the bytes that came. -/
lemma fits (h : t.Leaves q) : q.anchor.distance + q.size ≤ t.bytes.length := by
  have := t.distance_anchor_le
  rw [h.anchor_eq, h.size_eq, ← t.gone_add_left]
  omega

lemma push (h : t.Leaves q) (data : List UInt8) (stamp : Option UInt64) :
    (t.push data stamp).Leaves (q.push data stamp) := by
  by_cases hdata : data = []
  · simpa [hdata, Backlog.push] using h
  have hend : t.gone + q.size = t.bytes.length := by rw [h.size_eq, gone_add_left]
  refine ⟨?_, fun n hn => ?_⟩
  · rw [Backlog.contents_push, h.contents, bytes_push, gone_push,
      List.drop_append_of_le_length t.within]
  · rw [gone_push]
    rcases Nat.lt_or_ge n q.size with hlt | hge
    · -- The head is still in front of what came.
      have hsize : (q.advance n).size ≠ 0 := by
        rw [Backlog.size_advance]
        omega
      rw [Backlog.advance_push (Nat.le_of_lt hlt), Backlog.anchor_push hdata, if_neg hsize,
        h.anchor n (Nat.le_of_lt hlt), anchorAt_push_of_lt (by omega)]
    · -- All that was there has left, and then some of what came.
      obtain ⟨k, rfl⟩ := Nat.exists_eq_add_of_le hge
      have hk : k ≤ data.length := by
        rw [Backlog.size_push] at hn
        omega
      rw [← Backlog.advance_advance, Backlog.advance_push (Nat.le_refl _),
        Backlog.anchor_advance_push q.segments_advance_size hdata hk, h.anchor _ (Nat.le_refl _),
        hend, anchorAt_push_of_le hdata (by omega)]
      congr 1
      omega

lemma advance (h : t.Leaves q) (n : Nat) : (t.pass n).Leaves (q.advance n) := by
  rw [← Backlog.advance_min, h.size_eq]
  have hle : min n t.left ≤ q.size := h.size_eq ▸ Nat.min_le_right ..
  refine ⟨?_, fun k hk => ?_⟩
  · rw [Backlog.contents_advance, h.contents, List.drop_drop]
    rfl
  · rw [Backlog.size_advance] at hk
    rw [Backlog.advance_advance, h.anchor _ (by omega), ← Nat.add_assoc]
    rfl

end Tape.Leaves

end CbrAudio
