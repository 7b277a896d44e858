import CbrAudio.Proofs.Events

/-!
# Stamps

The time of a packet is that of its first byte: of the chunk that brought it, and of the bytes of
that chunk in front of it.

* `Backlog.anchors` — the anchor that each waiting byte will have as the head.  `anchors_advance`
  and `anchors_push`: bytes that leave take theirs along, and a chunk with a time stamp brings its
  own.
* **`Moves.anchors`** — so the anchors are those of the chunks, in the order of the stream, however
  it was cut and cleared.  `Chunk.exists_at` finds the chunk that a position is in.
* `Backlog.Untimed`, `Event.timeless` — no time stamp has come since the backlog was empty.
* **`stamp_of_first_byte`** — over every run.
-/

namespace CbrAudio

variable {σ : Type}

namespace Anchor

/-- The anchors of `n` bytes in a row. -/
def run (n : Nat) (a : Anchor) : List Anchor :=
  (List.range' a.distance n).map fun distance => { a with distance := distance }

@[simp] lemma run_zero (a : Anchor) : a.run 0 = [] := rfl

@[simp] lemma length_run (n : Nat) (a : Anchor) : (a.run n).length = n := by
  rw [run, List.length_map, List.length_range']

lemma head?_run {n : Nat} (a : Anchor) (h : 0 < n) : (a.run n).head? = some a := by
  obtain ⟨m, rfl⟩ := Nat.exists_eq_succ_of_ne_zero (Nat.pos_iff_ne_zero.mp h)
  rfl

lemma getElem?_run {n d : Nat} (a : Anchor) (h : d < n) : (a.run n)[d]? = some (a.pass d) := by
  simp [run, pass, h]

lemma drop_run (k n : Nat) (a : Anchor) : (a.run n).drop k = (a.pass k).run (n - k) := by
  rw [run, ← List.map_drop, List.drop_range']
  simp [run, pass]

end Anchor

namespace Backlog

/-- The anchor that each byte of some segments will have as the head. -/
def anchorsFrom : Anchor → List Segment → List Anchor
  | _, [] => []
  | a, s :: rest => a.run s.bytes.length ++ anchorsFrom (succeed s.bytes.length rest a) rest

/-- The anchor that each waiting byte will have as the head. -/
def anchors (b : Backlog) : List Anchor := anchorsFrom b.anchor b.segments

/-- What has left in parts has left. -/
lemma succeed_pass {k n : Nat} (h : k ≤ n) (rest : List Segment) (a : Anchor) :
    succeed (n - k) rest (a.pass k) = succeed n rest a := by
  have hpass : (a.pass k).pass (n - k) = a.pass n := by
    simp only [Anchor.pass, Anchor.mk.injEq, true_and]
    omega
  rcases rest with _ | ⟨next, rest⟩
  · exact hpass
  · rw [succeed, succeed, hpass]

lemma anchors_advanceFrom (n : Nat) (segments : List Segment) (a : Anchor) :
    (advanceFrom n segments a).anchors = (anchorsFrom a segments).drop n := by
  induction segments generalizing n a with
  | nil => simp [advanceFrom, anchors, anchorsFrom]
  | cons s rest ih =>
      rw [advanceFrom]
      split
      · next h => rw [h, List.drop_zero, anchors]
      · split
        · next h =>
            -- The head leaves as a whole, and takes all of its anchors along.
            have hlen : (a.run s.bytes.length).length ≤ n := by
              rw [Anchor.length_run]
              exact List.drop_eq_nil_iff.mp h
            rw [ih, anchorsFrom, List.drop_append, List.drop_of_length_le hlen, Anchor.length_run,
              List.nil_append]
        · next h =>
            -- Part of it stays, and reckons from the same time stamp as before.
            have hlt : n < s.bytes.length :=
              Nat.lt_of_not_le fun hle => h (List.drop_of_length_le hle)
            rw [anchors, anchorsFrom, List.length_drop, succeed_pass (Nat.le_of_lt hlt),
              anchorsFrom, List.drop_append, Anchor.drop_run, Anchor.length_run,
              Nat.sub_eq_zero_of_le (Nat.le_of_lt hlt), List.drop_zero]

/-- **Bytes that leave** take their anchors along. -/
lemma anchors_advance (n : Nat) (b : Backlog) : (b.advance n).anchors = b.anchors.drop n :=
  anchors_advanceFrom n b.segments b.anchor

/-- A segment with a time stamp does not change the anchors in front of it. -/
lemma anchorsFrom_append {s : Segment} {t : UInt64} (ht : s.stamp = some t)
    (front : List Segment) (a : Anchor) (hfront : front ≠ []) :
    anchorsFrom a (front ++ [s]) =
      anchorsFrom a front ++ Anchor.run s.bytes.length ⟨some t, 0⟩ := by
  induction front generalizing a with
  | nil => exact absurd rfl hfront
  | cons first rest ih =>
      rcases rest with _ | ⟨second, rest⟩
      · simp [anchorsFrom, succeed, ht, Anchor.renew]
      · have hrest := ih (succeed first.bytes.length (second :: rest) a) (by simp)
        show a.run _ ++ anchorsFrom _ (second :: rest ++ [s]) =
          a.run _ ++ anchorsFrom _ (second :: rest) ++ _
        rw [List.append_assoc, ← hrest]
        rfl

/-- **A chunk with a time stamp** brings its own. -/
lemma anchors_push (data : List UInt8) (t : UInt64) (b : Backlog) :
    (b.push data (some t)).anchors = b.anchors ++ Anchor.run data.length ⟨some t, 0⟩ := by
  obtain ⟨segments, a⟩ := b
  rw [push]
  split
  · next h => simp [h]
  · rcases segments with _ | ⟨first, rest⟩
    · simp [anchors, anchorsFrom, isEmpty, Anchor.renew]
    · exact anchorsFrom_append rfl (first :: rest) a (by simp)

/-- The head has the anchor of the backlog. -/
lemma head?_anchors {b : Backlog} (h : b.size ≠ 0) : b.anchors.head? = some b.anchor := by
  obtain ⟨segments, a⟩ := b
  rcases segments with _ | ⟨s, rest⟩
  · exact absurd rfl h
  · have hpos : 0 < s.bytes.length := List.length_pos_iff.mpr s.nonempty
    rw [anchors, anchorsFrom, List.head?_append, Anchor.head?_run a hpos]
    rfl

lemma length_anchors (b : Backlog) : b.anchors.length = b.size := by
  obtain ⟨segments, a⟩ := b
  rw [anchors, size]
  induction segments generalizing a with
  | nil => rfl
  | cons s rest ih => rw [anchorsFrom, List.length_append, Anchor.length_run, ih, List.foldr_cons]

end Backlog

namespace Chunk

/-- The anchors that the bytes of a chunk will have. -/
def anchors (chunk : Chunk) : List Anchor := Anchor.run chunk.data.length ⟨chunk.stamp, 0⟩

lemma length_flatMap_anchors (chunks : List Chunk) :
    (chunks.flatMap anchors).length = (chunks.flatMap Chunk.data).length := by
  induction chunks with
  | nil => rfl
  | cons chunk rest ih =>
      rw [List.flatMap_cons, List.flatMap_cons, List.length_append, List.length_append, ih, anchors,
        Anchor.length_run]

/-- **The chunk that a position of the stream is in.** -/
lemma exists_at {chunks : List Chunk} {n : Nat} (h : n < (chunks.flatMap Chunk.data).length) :
    ∃ front chunk back d, chunks = front ++ chunk :: back ∧ d < chunk.data.length ∧
      n = (front.flatMap Chunk.data).length + d := by
  induction chunks generalizing n with
  | nil => simp at h
  | cons chunk rest ih =>
      rcases Nat.lt_or_ge n chunk.data.length with hlt | hge
      · exact ⟨[], chunk, rest, n, rfl, hlt, (Nat.zero_add n).symm⟩
      · have hrest : n - chunk.data.length < (rest.flatMap Chunk.data).length := by
          rw [List.flatMap_cons, List.length_append] at h
          omega
        obtain ⟨front, found, back, d, rfl, hd, hn⟩ := ih hrest
        refine ⟨chunk :: front, found, back, d, rfl, hd, ?_⟩
        rw [List.flatMap_cons, List.length_append]
        omega

/-- The anchor of that position. -/
lemma getElem?_flatMap_anchors (front back : List Chunk) {chunk : Chunk} {d : Nat}
    (h : d < chunk.data.length) :
    ((front ++ chunk :: back).flatMap anchors)[(front.flatMap Chunk.data).length + d]? =
      some ⟨chunk.stamp, d⟩ := by
  have hd : (anchors chunk)[d]? = some ⟨chunk.stamp, d⟩ := by
    rw [anchors, Anchor.getElem?_run _ h, Anchor.pass, Nat.zero_add]
  rw [List.flatMap_append, List.flatMap_cons, ← length_flatMap_anchors,
    List.getElem?_append_right (Nat.le_add_right _ _), Nat.add_sub_cancel_left,
    List.getElem?_append_left, hd]
  rwa [anchors, Anchor.length_run]

/-- The byte at that position. -/
lemma getElem?_flatMap_data (front back : List Chunk) {chunk : Chunk} {d : Nat}
    (h : d < chunk.data.length) :
    ((front ++ chunk :: back).flatMap Chunk.data)[(front.flatMap Chunk.data).length + d]? =
      chunk.data[d]? := by
  rw [List.flatMap_append, List.flatMap_cons, List.getElem?_append_right (Nat.le_add_right _ _),
    Nat.add_sub_cancel_left, List.getElem?_append_left h]

/-- A chunk has a time stamp if it has a byte. -/
def Stamped (chunk : Chunk) : Prop := chunk.data ≠ [] → chunk.stamp.isSome

/-- A chunk has no time stamp if it has a byte. -/
def Unstamped (chunk : Chunk) : Prop := chunk.data ≠ [] → chunk.stamp = none

end Chunk

/-! ## Where a packet starts -/

namespace Event

/-- Byte `d` of a chunk is the next one to go. -/
def Next (es : List Event) (chunk : Chunk) (d : Nat) : Prop :=
  ∃ front back, es.filterMap chunk? = front ++ chunk :: back ∧ d < chunk.data.length ∧
    (es.flatMap gone).length = (front.flatMap Chunk.data).length + d

lemma flatMap_came (es : List Event) :
    es.flatMap came = (es.filterMap chunk?).flatMap Chunk.data := by
  induction es with
  | nil => rfl
  | cons e es ih =>
      rw [List.flatMap_cons, ih]
      cases e <;> rfl

end Event

lemma Packetizer.anchors_joined (p : Packetizer) {chunk : Chunk} (h : chunk.Stamped) :
    (p.joined chunk).backlog.anchors = p.backlog.anchors ++ chunk.anchors := by
  by_cases hdata : chunk.data = []
  · simp [joined, Backlog.push, Chunk.anchors, hdata]
  · obtain ⟨t, ht⟩ := Option.isSome_iff_exists.mp (h hdata)
    rw [joined, Chunk.anchors, ht]
    exact p.backlog.anchors_push chunk.data t

lemma Backlog.anchors_of_size {b : Backlog} (h : b.size = 0) : b.anchors = [] := by
  rw [← List.length_eq_zero_iff, length_anchors, h]

/-- No move loses an anchor, and none invents one. -/
lemma Move.anchors {p q : Packetizer} {es : List Event} (h : Move p es q)
    (hes : ∀ chunk ∈ es.filterMap Event.chunk?, chunk.Stamped) :
    ∃ past, past.length = (es.flatMap Event.gone).length ∧
      past ++ q.backlog.anchors =
        p.backlog.anchors ++ (es.filterMap Event.chunk?).flatMap Chunk.anchors := by
  cases h with
  | @cut g n hg hpos hfit asked answer =>
      refine ⟨p.backlog.anchors.take n, ?_, ?_⟩
      · simp [Packetizer.sending, Event.gone, Packetizer.packet, Backlog.length_front,
          Backlog.length_anchors]
      · show _ ++ (p.backlog.advance n).anchors = _
        rw [Backlog.anchors_advance, List.take_append_drop]
        exact (List.append_nil _).symm
  | @whole g chunk hg hempty hdata answer =>
      have hnil : p.backlog.anchors = [] := Backlog.anchors_of_size hempty
      refine ⟨chunk.anchors, ?_, ?_⟩
      · simp [Packetizer.sending, Event.gone, Packetizer.packet, Chunk.anchors]
      · simp [Packetizer.sending, Event.chunk?, Packetizer.emitted, hnil]
  | join chunk =>
      have hjoined := p.anchors_joined (hes chunk (by simp [Event.chunk?]))
      exact ⟨[], by simp [Event.gone], by simp [Event.chunk?, hjoined]⟩
  | gap hempty => exact ⟨[], by simp [Event.gone], by simp [Event.chunk?]⟩
  | relimit limits => exact ⟨[], by simp, by simp⟩
  | _ =>
      -- What waits is gone, and its anchors with it.
      refine ⟨p.backlog.anchors, ?_, ?_⟩
      · simp [Event.gone, Backlog.length_anchors, Backlog.size_eq_length]
      · rfl

namespace Moves

open Event

variable {p q : Packetizer} {es : List Event} {chunk : Chunk} {d : Nat}

/-- **The anchors of a run** are those of its chunks: some have gone, and the others wait. -/
lemma anchors (h : Moves p es q) (hes : ∀ chunk ∈ es.filterMap chunk?, chunk.Stamped) :
    ∃ past, past.length = (es.flatMap gone).length ∧
      past ++ q.backlog.anchors =
        p.backlog.anchors ++ (es.filterMap chunk?).flatMap Chunk.anchors := by
  induction h with
  | refl p => exact ⟨[], rfl, by simp⟩
  | @cons p q r es es' first rest ih =>
      rw [List.filterMap_append, List.forall_mem_append] at hes
      obtain ⟨past, hlen, hpast⟩ := first.anchors hes.1
      obtain ⟨past', hlen', hpast'⟩ := ih hes.2
      refine ⟨past ++ past', ?_, ?_⟩
      · rw [List.length_append, hlen, hlen', List.flatMap_append, List.length_append]
      · rw [List.append_assoc, hpast', ← List.append_assoc, hpast, List.filterMap_append,
          List.flatMap_append, List.append_assoc]

/-- **The head of the backlog** is the next byte of the stream. -/
lemma next (h : Moves p es q) (hp : p.backlog.size = 0) (hq : q.backlog.size ≠ 0) :
    ∃ chunk d, Next es chunk d ∧ q.backlog.contents.head? = chunk.data[d]? := by
  have hbytes := h.bytes
  rw [(p.backlog.contents_eq_nil_iff).mpr hp, List.nil_append, flatMap_came] at hbytes
  have hlt : (es.flatMap gone).length < ((es.filterMap chunk?).flatMap Chunk.data).length := by
    rw [← hbytes, List.length_append, ← Backlog.size_eq_length]
    omega
  obtain ⟨front, chunk, back, d, hchunks, hd, hn⟩ := Chunk.exists_at hlt
  refine ⟨chunk, d, ⟨front, back, hchunks, hd, hn⟩, ?_⟩
  rw [← Chunk.getElem?_flatMap_data front back hd, ← hchunks, ← hn, ← hbytes,
    List.getElem?_append_right (Nat.le_refl _), Nat.sub_self, List.head?_eq_getElem?]

/-- It has the anchor of that byte. -/
lemma anchor_eq (h : Moves p es q) (hp : p.backlog.size = 0) (hq : q.backlog.size ≠ 0)
    (hes : ∀ chunk ∈ es.filterMap chunk?, chunk.Stamped) (hnext : Next es chunk d) :
    q.backlog.anchor = ⟨chunk.stamp, d⟩ := by
  obtain ⟨front, back, hchunks, hd, hn⟩ := hnext
  obtain ⟨past, hlen, hpast⟩ := h.anchors hes
  rw [Backlog.anchors_of_size hp, List.nil_append, hchunks] at hpast
  have hhere := Chunk.getElem?_flatMap_anchors front back hd
  rw [← hpast, ← hn, ← hlen, List.getElem?_append_right (Nat.le_refl _), Nat.sub_self,
    ← List.head?_eq_getElem?, Backlog.head?_anchors hq] at hhere
  exact Option.some.inj hhere

end Moves

/-! ## Without time stamps -/

namespace Backlog

/-- No time is known for a waiting byte, and none will be. -/
def Untimed (b : Backlog) : Prop := b.anchor.stamp = none ∧ ∀ s ∈ b.segments, s.stamp = none

lemma untimed_empty : empty.Untimed := by
  simp [Untimed, empty]

lemma untimed_advanceFrom {segments : List Segment} (h : ∀ s ∈ segments, s.stamp = none)
    (n : Nat) {a : Anchor} (ha : a.stamp = none) : (advanceFrom n segments a).Untimed := by
  induction segments generalizing n a with
  | nil => exact ⟨ha, h⟩
  | cons s rest ih =>
      rw [List.forall_mem_cons] at h
      rw [advanceFrom]
      split
      · exact ⟨ha, List.forall_mem_cons.mpr h⟩
      · split
        · refine ih h.2 _ ?_
          rcases rest with _ | ⟨next, rest⟩
          · exact ha
          · simp only [succeed, h.2 next List.mem_cons_self, Anchor.renew, Anchor.pass, ha]
        · exact ⟨ha, List.forall_mem_cons.mpr h⟩

lemma Untimed.advance {b : Backlog} (h : b.Untimed) (n : Nat) : (b.advance n).Untimed :=
  untimed_advanceFrom h.2 n h.1

lemma Untimed.push {b : Backlog} (h : b.Untimed) {chunk : Chunk} (hchunk : chunk.Unstamped) :
    (b.push chunk.data chunk.stamp).Untimed := by
  rw [Backlog.push]
  split
  · exact h
  · next hdata =>
      rw [hchunk hdata]
      refine ⟨?_, ?_⟩
      · split <;> exact h.1
      · simp only [List.forall_mem_append, List.forall_mem_singleton, and_true]
        exact h.2

end Backlog

namespace Event

/-- What waits goes, and what is known of its time. -/
def empties : Event → Bool
  | .cleared _ | .restarted _ => true
  | _ => false

/-- What waited has just gone without a packet, or nothing has happened yet. -/
def Emptied (es : List Event) : Prop :=
  es = [] ∨ ∃ earlier e, es = earlier ++ [e] ∧ e.empties = true

/-- Whether no time is known behind an event. -/
def untimed (so : Bool) : Event → Bool
  | .cleared _ | .restarted _ => true
  | .taken chunk => so && (chunk.data.isEmpty || chunk.stamp.isNone)
  | _ => so

lemma foldl_untimed {es : List Event} (h : ∀ chunk ∈ es.filterMap chunk?, chunk.Unstamped) :
    es.foldl untimed true = true := by
  induction es with
  | nil => rfl
  | cons e es ih =>
      rw [← List.singleton_append, List.filterMap_append, List.forall_mem_append] at h
      have hone : untimed true e = true := by
        rcases e with chunk | _ | _ | _ | _
        · have hchunk : chunk.data = [] ∨ chunk.stamp = none := by
            rw [Classical.or_iff_not_imp_left]
            exact h.1 chunk (by simp [chunk?])
          simpa [untimed] using hchunk
        all_goals rfl
      rw [List.foldl_cons, hone, ih h.2]

lemma Emptied.foldl_untimed {es : List Event} (h : Emptied es) : es.foldl untimed true = true := by
  rcases h with rfl | ⟨earlier, e, rfl, he⟩
  · rfl
  · rw [List.foldl_append]
    cases e with
    | cleared bytes => rfl
    | restarted bytes => rfl
    | _ => cases he

end Event

lemma Move.untimed {p q : Packetizer} {es : List Event} (h : Move p es q) {so : Bool}
    (hp : so = true → p.backlog.Untimed) (hes : es.foldl Event.untimed so = true) :
    q.backlog.Untimed := by
  cases h with
  | @cut g n hg hpos hfit asked answer => exact (hp hes).advance n
  | @whole g chunk hg hempty hdata answer =>
      have hso : so = true := by
        simp only [List.foldl_cons, List.foldl_nil, Packetizer.sending, Event.untimed] at hes
        exact (Bool.and_eq_true_iff.mp hes).1
      exact hp hso
  | join chunk =>
      simp only [List.foldl_cons, List.foldl_nil, Event.untimed, Bool.and_eq_true] at hes
      refine (hp hes.1).push fun hdata => ?_
      simpa [hdata] using hes.2
  | gap hempty => exact hp hes
  | relimit limits => exact hp hes
  | _ => exact Backlog.untimed_empty

namespace Moves

open Event

variable {p q : Packetizer} {es : List Event}

/-- **The state knows** that no time is known. -/
lemma untimed (h : Moves p es q) {so : Bool} (hp : so = true → p.backlog.Untimed)
    (hes : es.foldl Event.untimed so = true) : q.backlog.Untimed := by
  induction h generalizing so with
  | refl p => exact hp hes
  | @cons p q r es es' first rest ih =>
      rw [List.foldl_append] at hes
      exact ih (fun hso => first.untimed hp hso) hes

/-! ## The time of a packet -/

/-- A chunk that is taken where nothing waits is next. -/
lemma next_taken (h : Moves p es q) (hp : p.backlog.size = 0) (hq : q.backlog.size = 0)
    {chunk : Chunk} (hdata : chunk.data ≠ []) : Next (es ++ [.taken chunk]) chunk 0 := by
  have hbytes := h.bytes
  rw [(p.backlog.contents_eq_nil_iff).mpr hp, (q.backlog.contents_eq_nil_iff).mpr hq,
    List.nil_append, List.append_nil, flatMap_came] at hbytes
  refine ⟨es.filterMap chunk?, [], ?_, List.length_pos_iff.mpr hdata, ?_⟩
  · rw [List.filterMap_append]
    rfl
  · rw [List.flatMap_append, hbytes, List.length_append]
    rfl

namespace Origin

variable {earlier : List Event} {x : Sending}

/-- A packet that was asked to carry a time carries it. -/
lemma stamp_of_asked (h : Origin p earlier x) {t : UInt64} (hasked : x.asked = some t) :
    x.offer.packet.stamp = some t := by
  cases h with
  | cut before hg hpos hfit asked answer =>
      obtain rfl : asked = some t := hasked
      rfl
  | whole before hg hempty hdata answer => cases hasked

/-- **Any other packet** carries the time of its first byte, if the chunks have times. -/
lemma stamp_of_stamped (h : Origin p earlier x) (hp : p.backlog.size = 0) (hasked : x.asked = none)
    (hearlier : ∀ chunk ∈ earlier.filterMap chunk?, chunk.Stamped) :
    ∃ chunk d t g, Next earlier chunk d ∧ x.offer.packet.payload.head? = chunk.data[d]? ∧
      chunk.stamp = some t ∧ x.geometry = some g ∧
      x.offer.packet.stamp = some (if d = 0 then t
        else UInt64.ofNatClamp (t.toNat + g.duration d x.clockRate)) := by
  cases h with
  | @cut q g n earlier before hg hpos hfit asked answer =>
      have hsize : q.backlog.size ≠ 0 := by omega
      obtain ⟨chunk, d, hnext, hhead⟩ := before.next hp hsize
      have hanchor := before.anchor_eq hp hsize hearlier hnext
      obtain ⟨front, back, hchunks, hd, -⟩ := id hnext
      have hchunk : chunk.Stamped := hearlier chunk (by simp [hchunks])
      have hdata : chunk.data ≠ [] := List.length_pos_iff.mp (Nat.zero_lt_of_lt hd)
      obtain ⟨t, ht⟩ := Option.isSome_iff_exists.mp (hchunk hdata)
      obtain rfl : asked = none := hasked
      refine ⟨chunk, d, t, g, hnext, ?_, ht, (Packetizer.layout_ok hg).1, ?_⟩
      · rw [← hhead, Packetizer.packet, Backlog.front_eq_take, List.head?_take, if_neg (by omega)]
      · rw [Packetizer.packet, Option.none_or, Packetizer.headTime, hanchor, ht, Option.map_some]
  | @whole q g chunk earlier before hg hempty hdata answer =>
      obtain ⟨t, ht⟩ := Option.isSome_iff_exists.mp (hearlier chunk (by simp [chunk?]) hdata)
      refine ⟨chunk, 0, t, g, before.next_taken hp hempty hdata, ?_, ht,
        (Packetizer.layout_ok hg).1, ?_⟩
      · exact List.head?_eq_getElem?
      · rw [if_pos rfl]
        exact ht

/-- And none, if none is known. -/
lemma stamp_of_untimed (h : Origin p earlier x) (hp : p.backlog.Untimed) (hasked : x.asked = none)
    (hearlier : earlier.foldl Event.untimed true = true) : x.offer.packet.stamp = none := by
  cases h with
  | @cut q g n earlier before hg hpos hfit asked answer =>
      have huntimed := before.untimed (fun _ => hp) hearlier
      obtain rfl : asked = none := hasked
      rw [Packetizer.packet, Option.none_or, Packetizer.headTime, huntimed.1, Option.map_none]
  | @whole q g chunk earlier before hg hempty hdata answer =>
      rw [List.foldl_append] at hearlier
      simp only [List.foldl_cons, List.foldl_nil, Event.untimed, Bool.and_eq_true] at hearlier
      have hnone : chunk.stamp = none := by simpa [hdata] using hearlier.2
      exact hnone

end Origin

end Moves

/-! ## Runs -/

/-- **A packet has the time of its first byte.**  That is the time of the chunk that has brought the
byte, and the duration of the bytes of the chunk in front of it, under the setup in force; it is
unknown if no chunk that came since the last clearing had a time.  A packet that is asked to carry
some other time carries that one. -/
theorem stamp_of_first_byte (limits : Limits) (logger : Log.Logger) (sink : Sink σ Packet) (s : σ)
    (ops : List Operation) :
    let es := Operation.trace sink ops (.fresh limits logger) s
    ∀ (earlier later : List Event) (x : Sending), es = earlier ++ .offered x :: later →
      (∀ t, x.asked = some t → x.offer.packet.stamp = some t) ∧
      (x.asked = none → (∀ chunk ∈ earlier.filterMap Event.chunk?, chunk.Stamped) →
        ∃ chunk d t g, Event.Next earlier chunk d ∧
          x.offer.packet.payload.head? = chunk.data[d]? ∧ chunk.stamp = some t ∧
          x.geometry = some g ∧
          x.offer.packet.stamp = some (if d = 0 then t
            else UInt64.ofNatClamp (t.toNat + g.duration d x.clockRate))) ∧
      (x.asked = none → ∀ before since : List Event, earlier = before ++ since →
        Event.Emptied before → (∀ chunk ∈ since.filterMap Event.chunk?, chunk.Unstamped) →
        x.offer.packet.stamp = none) := by
  intro es earlier later x hsplit
  have hmoves : Moves (.fresh limits logger) es _ :=
    Operation.trace_fresh limits logger sink ops s
  rw [hsplit] at hmoves
  refine ⟨?_, ?_, ?_⟩
  · intro t hasked
    exact hmoves.origin.stamp_of_asked hasked
  · intro hasked hearlier
    exact hmoves.origin.stamp_of_stamped rfl hasked hearlier
  · intro hasked before since hparts hempty hsince
    refine hmoves.origin.stamp_of_untimed Backlog.untimed_empty hasked ?_
    rw [hparts, List.foldl_append, hempty.foldl_untimed]
    exact Event.foldl_untimed hsince

/-- The second packet starts with the last byte of the first chunk, two frames after its time.  When
all has been cleared a chunk without a time follows, and what it leaves behind is flushed. -/
theorem stamp_of_first_byte_second :
    let limits : Limits := { maxPtime := some 40000000 }
    let first : Chunk := { data := [1, 2, 3, 4, 5], stamp := some 1000 }
    let second : Chunk := { data := [6, 7, 8, 9], stamp := some 90000000 }
    let third : Chunk := { data := [10, 11, 12, 13, 14] }
    let ops : List Operation := [.setFrames 2 20, .handle first, .handle second, .clear,
      .handle third, .flush .all (some 7)]
    let es := Operation.trace Sink.collect ops (.fresh limits .silent) #[]
    let sent (asked stamp : Option UInt64) (offset : UInt32) (payload : List UInt8) : Sending :=
      ⟨some (.frame 2 20), 8000, asked, ⟨⟨0, false, false, stamp, offset, payload⟩, .ok ()⟩⟩
    let early : List Event :=
      [.cleared [], .taken first, .offered (sent none (some 1000) 0 [1, 2, 3, 4]), .taken second]
    let x := sent none (some 40001000) 320 [5, 6, 7, 8]
    let y := sent none none 640 [10, 11, 12, 13]
    let z := sent (some 7) (some 7) 960 [14]
    es = early ++ .offered x :: [.cleared [9], .taken third, .offered y, .offered z] ∧
      (∃ chunk d t g, Event.Next early chunk d ∧ [5, 6, 7, 8].head? = chunk.data[d]? ∧
        chunk.stamp = some t ∧ x.geometry = some g ∧
        x.offer.packet.stamp = some (if d = 0 then t
          else UInt64.ofNatClamp (t.toNat + g.duration d 8000))) ∧
      y.offer.packet.stamp = none ∧ z.offer.packet.stamp = some 7 := by
  intro limits first second third ops es sent early x y z
  have hes : es = early ++ .offered x :: [.cleared [9], .taken third, .offered y, .offered z] := by
    decide +kernel
  have hstamps := stamp_of_first_byte limits .silent Sink.collect #[] ops
  refine ⟨hes, ?_, ?_, ?_⟩
  · refine (hstamps early _ x hes).2.1 rfl ?_
    show ∀ chunk ∈ [first, second], chunk.Stamped
    simp [Chunk.Stamped, first, second]
  · refine (hstamps (early ++ [.offered x, .cleared [9], .taken third]) [.offered z] y hes).2.2 rfl
      (early ++ [.offered x, .cleared [9]]) [.taken third] rfl ?_ ?_
    · exact .inr ⟨early ++ [.offered x], .cleared [9], rfl, rfl⟩
    · show ∀ chunk ∈ [third], chunk.Unstamped
      simp [Chunk.Unstamped, third]
  · exact (hstamps (early ++ [.offered x, .cleared [9], .taken third, .offered y]) [] z hes).1 7 rfl

end CbrAudio
