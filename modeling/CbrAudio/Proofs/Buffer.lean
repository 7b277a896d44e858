import CbrAudio.Buffer
import CbrAudio.Proofs.Tape

/-!
# A buffer is a tape

A buffer keeps segments whole and counts along, with words.  Here it is shown to hold what a backlog
does, request by request: no count leaves its range, every part of a segment is there, and a copy
over any number of segments is the part of the tape it was meant to be.

* `Buffer.Kept`, `Buffer.Holds` — **the representation**: the first segment is there to its last
  byte, and has one that waits.
* `Buffer.gather_eq`, `Buffer.flushFrom_holds` — the two loops over the segments.
* `Holds.push`, `Holds.copy_eq`, `Holds.flush`, `Holds.take_eq`, `Holds.drain_eq` — one lemma for
  each request.
* `Buffer.Shows` — what can be seen of a buffer, said of a tape.
* **`Buffer.reads_tape`** — over all requests, as long as a word counts the bytes that came.
-/

namespace CbrAudio

open Word

namespace Anchor

lemma pass?_of_le {n : Nat} {a : Anchor} (h : a.distance + n ≤ maxWord) :
    a.pass? n = some (a.pass n) := by
  rw [pass?, plus?_of_le h]
  rfl

/-- The head goes, and another one may come. -/
lemma reach_pass (gone : Nat) (rest : List Segment) (a : Anchor) :
    (a.pass gone).reach rest = Backlog.succeed gone rest a := by
  cases rest <;> rfl

lemma distance_reach_le (segments : List Segment) (a : Anchor) :
    (a.reach segments).distance ≤ a.distance := by
  rcases segments with _ | ⟨⟨_, _ | _, _⟩, _⟩
  all_goals simp [reach, renew]

end Anchor

namespace Buffer

/-- **The segments of a buffer**, how much of the first one has gone, and what waits.  The first one
is not there without a byte that waits, and a word counts the bytes of each. -/
inductive Kept : List Segment → Nat → List Segment → Prop
  | none : Kept [] 0 []
  | some {s : Segment} {skip : Nat} {rest : List Segment} (hskip : skip < s.bytes.length)
      (hcount : ∀ r ∈ s :: rest, r.bytes.length ≤ maxWord) :
    Kept (s :: rest) skip (s.after skip hskip :: rest)

/-- Segments of which nothing has gone. -/
lemma Kept.whole {segments : List Segment} (h : ∀ s ∈ segments, s.bytes.length ≤ maxWord) :
    Kept segments 0 segments := by
  rcases segments with _ | ⟨s, rest⟩
  · exact .none
  · exact .some (List.length_pos_iff.mpr s.nonempty) h

lemma Kept.append {segments left : List Segment} {skip : Nat} (h : Kept segments skip left)
    {new : Segment} (hnew : new.bytes.length ≤ maxWord) :
    Kept (segments ++ [new]) skip (left ++ [new]) := by
  cases h with
  | none => exact .whole (by simpa using hnew)
  | some hskip hcount =>
      refine .some hskip fun r hr => ?_
      rcases List.mem_append.mp (show r ∈ (_ :: _) ++ [new] from hr) with hold | hlast
      · exact hcount r hold
      · exact List.mem_singleton.mp hlast ▸ hnew

/-- **What a buffer has to do with a backlog.** -/
structure Holds (b : Buffer) (q : Backlog) : Prop where
  kept : Kept b.segments b.skip q.segments
  available : b.available = q.size
  anchor : b.anchor = q.anchor

lemma Kept.holds {segments left : List Segment} {skip available : Nat}
    (h : Kept segments skip left) (hsize : available = (left.flatMap Segment.bytes).length)
    (a : Anchor) : Holds ⟨segments, skip, available, a⟩ ⟨left, a⟩ :=
  ⟨h, by rwa [Backlog.size_eq_length], rfl⟩

lemma holds_empty : empty.Holds .empty := ⟨.none, rfl, rfl⟩

variable {b : Buffer} {q : Backlog}

lemma Holds.push (h : b.Holds q) {data : List UInt8} (hfit : q.size + data.length ≤ maxWord)
    (stamp : Option UInt64) :
    ∃ next, b.push data stamp = some next ∧ next.Holds (q.push data stamp) := by
  by_cases hdata : data = []
  · refine ⟨b, by rw [Buffer.push, dif_pos hdata], ?_⟩
    rwa [Backlog.push, dif_pos hdata]
  · rw [← h.available] at hfit
    refine ⟨_, by rw [Buffer.push, dif_neg hdata, plus?_of_le hfit]; rfl, ?_, ?_, ?_⟩
    · rw [Backlog.push, dif_neg hdata]
      exact h.kept.append (Nat.le_trans (Nat.le_add_left ..) hfit)
    · rw [Backlog.size_push, ← h.available]
    · rw [Backlog.anchor_push hdata, ← h.available, ← h.anchor]

/-! ## Copies -/

lemma slice?_of_le {start stop : Nat} {bytes : List UInt8} (hstart : start ≤ stop)
    (hstop : stop ≤ bytes.length) : slice? start stop bytes = some ((bytes.take stop).drop start) :=
  if_pos ⟨hstart, hstop⟩

/-- The share of a piece is what it has of the bytes up to `stop`, without those before `start`. -/
lemma share_eq {start stop position : Nat} (hstart : start < stop) (hposition : position < stop)
    (piece : List UInt8) :
    share start stop position (position + piece.length) piece =
      some ((piece.take (stop - position)).drop (start - position)) := by
  rw [share]
  split
  · rw [minus?_of_le (Nat.le_of_lt hposition), Option.bind_eq_bind, Option.bind_some,
      slice?_of_le (by omega) (Nat.min_le_left ..), Nat.min_comm, ← List.take_take,
      List.take_length]
  · rw [List.drop_of_length_le]
    rw [List.length_take]
    omega

/-- **The loop of a copy.**  It stops with the piece that `stop` is in. -/
lemma gather_eq {start stop : Nat} (hstart : start < stop) {position : Nat}
    {pieces : List (List UInt8)} (hposition : position < stop)
    (hstop : stop ≤ position + pieces.flatten.length)
    (hfit : position + pieces.flatten.length ≤ maxWord) :
    gather start stop position pieces =
      some ((pieces.flatten.take (stop - position)).drop (start - position)) := by
  induction pieces generalizing position with
  | nil =>
      simp only [List.flatten_nil, List.length_nil] at hstop
      omega
  | cons piece rest ih =>
      simp only [List.flatten_cons, List.length_append, ← Nat.add_assoc] at hstop hfit
      rw [gather, plus?_of_le (by omega)]
      simp only [Option.bind_eq_bind, Option.bind_some, share_eq hstart hposition]
      split
      · next hlast => rw [List.flatten_cons, List.take_append_of_le_length (by omega)]
      · next hmore =>
          have hall : piece.length ≤ stop - position := by omega
          rw [ih (by omega) hstop hfit, Option.bind_some, List.flatten_cons, List.take_append,
            List.take_of_length_le hall, List.drop_append, Nat.sub_sub, Nat.sub_sub]

lemma Holds.pieces_eq (h : b.Holds q) :
    ∃ pieces, b.pieces = some pieces ∧ pieces.flatten = q.contents := by
  obtain ⟨segments, skip, available, a⟩ := b
  obtain ⟨left, a'⟩ := q
  have hkept : Kept segments skip left := h.kept
  cases hkept with
  | none => exact ⟨[], rfl, rfl⟩
  | @some s _ rest hskip hcount =>
      refine ⟨s.bytes.drop skip :: rest.map Segment.bytes, ?_, ?_⟩
      · have hslice := slice?_of_le (Nat.le_of_lt hskip) (Nat.le_refl s.bytes.length)
        rw [List.take_length] at hslice
        simp only [Buffer.pieces, hslice, Option.bind_eq_bind, Option.bind_some]
      · rw [List.flatten_cons, Backlog.contents, List.flatMap_cons, List.flatMap_def]
        rfl

/-- **Bytes from anywhere**, over any number of segments. -/
lemma Holds.copy_eq (h : b.Holds q) (hfit : q.size ≤ maxWord) (offset n : Nat) :
    b.copy offset n = some (q.copy offset n) := by
  obtain ⟨pieces, hpieces, hflatten⟩ := h.pieces_eq
  have hlength : pieces.flatten.length = q.size := by rw [hflatten, ← Backlog.size_eq_length]
  have hstop : min (clamp (offset + n)) q.size = min (offset + n) q.size := by
    rw [clamp]
    omega
  rw [Buffer.copy, h.available, hstop, Backlog.copy]
  split
  · next hnone =>
      -- The range is empty, or begins behind the end.
      have hlen : ((q.contents.drop offset).take n).length = 0 := by
        rw [List.length_take, List.length_drop, ← Backlog.size_eq_length]
        omega
      rw [List.length_eq_zero_iff.mp hlen]
  · next hsome =>
      rw [hpieces, Option.bind_eq_bind, Option.bind_some,
        gather_eq (by omega) (by omega) (by omega) (by omega), hflatten, Nat.sub_zero, Nat.sub_zero,
        List.drop_take, Option.some.injEq, List.take_eq_take_iff, List.length_drop,
        ← Backlog.size_eq_length]
      omega

/-! ## Bytes leave -/

/-- **The loop of a flush.**  What has left of a segment is counted until the segment has left as a
whole; the next one then brings its time stamp. -/
lemma flushFrom_holds {segments left : List Segment} {skip : Nat} (h : Kept segments skip left)
    {a : Anchor} {n available : Nat} (hsize : available + n = (left.flatMap Segment.bytes).length)
    (hfit : a.distance + n ≤ maxWord) :
    ∃ next, flushFrom available n segments skip a = some next ∧
      next.Holds (Backlog.advanceFrom n left a) := by
  induction segments generalizing left skip n a with
  | nil =>
      cases h
      obtain ⟨rfl, rfl⟩ : available = 0 ∧ n = 0 := Nat.add_eq_zero_iff.mp hsize
      exact ⟨_, rfl, .none, rfl, rfl⟩
  | cons head rest ih =>
      cases h with
      | some hskip hcount =>
          have hhead := head.length_after hskip
          have hword : head.bytes.length ≤ maxWord := hcount head (.head rest)
          rw [List.flatMap_cons, List.length_append, hhead] at hsize
          rw [flushFrom]
          split
          · next hz =>
              subst hz
              refine ⟨_, rfl, Backlog.advanceFrom_zero _ a ▸ Kept.holds (.some hskip hcount) ?_ a⟩
              rwa [List.flatMap_cons, List.length_append, hhead]
          · rw [minus?_of_le (Nat.le_of_lt hskip), Option.bind_eq_bind, Option.bind_some]
            split
            · next hlt =>
                -- Part of the first segment stays.
                have hpart : n < (head.after skip hskip).bytes.length := hhead ▸ hlt
                have hnext : skip + n < head.bytes.length := by omega
                rw [plus?_of_le (by omega), Backlog.advanceFrom_of_lt hpart,
                  head.after_after hskip hpart hnext, Anchor.pass?_of_le hfit]
                refine ⟨_, rfl, Kept.holds (.some hnext hcount) ?_ _⟩
                rw [List.flatMap_cons, List.length_append, head.length_after]
                omega
            · next hge =>
                -- All of it leaves, and the rest of the bytes with the segments behind it.
                have hall : (head.after skip hskip).bytes.length ≤ n := by omega
                have hreach : ((a.pass (head.bytes.length - skip)).reach rest).distance ≤
                    a.distance + (head.bytes.length - skip) := Anchor.distance_reach_le rest _
                rw [minus?_of_le (by omega), Anchor.pass?_of_le (by omega),
                  Backlog.advanceFrom_of_le hall, hhead, ← Anchor.reach_pass]
                exact ih (.whole fun r hr => hcount r (.tail _ hr)) (by omega) (by omega)

lemma Holds.flush (h : b.Holds q) {n : Nat} (hfit : q.anchor.distance + q.size ≤ maxWord) :
    ∃ next, b.flush n = some next ∧ next.Holds (q.advance n) := by
  have hgone : min n q.size ≤ q.size := Nat.min_le_right ..
  rw [Buffer.flush, h.available, minus?_of_le hgone, Option.bind_eq_bind, Option.bind_some,
    h.anchor, ← Backlog.advance_min]
  refine flushFrom_holds h.kept ?_ (by omega)
  rw [← Backlog.contents, ← Backlog.size_eq_length]
  omega

/-- Whether they are part of the first segment or not, the first bytes are handed over. -/
lemma Holds.front_eq (h : b.Holds q) {n : Nat} (hfit : q.size ≤ maxWord) :
    b.front n = some (q.contents.take n) := by
  have hcopy : b.copy 0 n = some (q.contents.take n) := h.copy_eq hfit 0 n
  obtain ⟨segments, skip, available, a⟩ := b
  obtain ⟨left, a'⟩ := q
  have hkept : Kept segments skip left := h.kept
  cases hkept with
  | none => exact hcopy
  | @some head _ rest hskip hcount =>
      have hword : head.bytes.length ≤ maxWord := hcount head (.head rest)
      have hhead := head.length_after hskip
      simp only [front, minus?_of_le (Nat.le_of_lt hskip), Option.bind_eq_bind, Option.bind_some]
      split
      · next hpart =>
          rw [plus?_of_le (by omega), Option.bind_some, slice?_of_le (by omega) (by omega),
            List.drop_take, Nat.add_sub_cancel_left, Backlog.contents, List.flatMap_cons,
            List.take_append_of_le_length (by omega)]
          rfl
      · exact hcopy

lemma flush_min (n : Nat) (b : Buffer) : b.flush (min n b.available) = b.flush n := by
  rw [flush, flush, Nat.min_assoc, Nat.min_self]

/-- **Both ways to take** hand over the same bytes, and leave what a flush leaves. -/
lemma Holds.take_eq (h : b.Holds q) (hfit : q.anchor.distance + q.size ≤ maxWord) (n : Nat) :
    ∃ rest, b.flush n = some rest ∧ b.take n = some (q.contents.take n, rest) ∧
      rest.Holds (q.advance n) := by
  obtain ⟨rest, hflush, hrest⟩ := h.flush (n := n) hfit
  refine ⟨rest, hflush, ?_, hrest⟩
  have hmin : q.contents.take (min n q.size) = q.contents.take n := by
    rw [Backlog.size_eq_length, ← List.take_take, List.take_length]
  rw [Buffer.take, flush_min, hflush, h.available, h.front_eq (by omega), hmin]
  rfl

lemma Holds.drain_eq (h : b.Holds q) (hfit : q.anchor.distance + q.size ≤ maxWord) :
    b.drain = some (q.contents, empty) := by
  obtain ⟨rest, -, htake, -⟩ := h.take_eq hfit q.size
  rw [Buffer.drain, h.available, htake, Backlog.size_eq_length, List.take_length]
  rfl

end Buffer

/-! ## Whole runs -/

namespace Buffer.Request

/-- How many bytes a request brings. -/
def weight : Request → Nat
  | .push data _ => data.length
  | _ => 0

/-- How many bytes come in all. -/
def total (requests : List Request) : Nat := (requests.map weight).sum

end Buffer.Request

namespace Tape

/-- What a request does to the tape.  Where a buffer is emptied a new one begins. -/
def perform : Buffer.Request → Tape → Tape
  | .push data stamp, t => t.push data stamp
  | .copy .., t => t
  | .flush n, t | .take n, t => t.pass n
  | .drain, _ | .clear, _ => {}

lemma length_perform_le (request : Buffer.Request) (t : Tape) :
    (t.perform request).bytes.length ≤ t.bytes.length + request.weight := by
  cases request with
  | push data stamp =>
      rw [perform, bytes_push, List.length_append]
      exact Nat.le_refl _
  | copy offset n => exact Nat.le_add_right ..
  | flush n => exact Nat.le_add_right ..
  | take n => exact Nat.le_add_right ..
  | drain => exact Nat.zero_le _
  | clear => exact Nat.zero_le _

/-- The tape after some requests. -/
def performAll : List Buffer.Request → Tape → Tape
  | [], t => t
  | request :: rest, t => performAll rest (t.perform request)

end Tape

namespace Buffer

/-- A buffer has come as far as a tape. -/
def Follows (t : Tape) (b : Buffer) : Prop := ∃ q, b.Holds q ∧ t.Leaves q

/-- **What can be seen of a buffer**, said of the tape. -/
structure Shows (t : Tape) (b : Buffer) : Prop where
  available : b.available = t.bytes.length - t.gone
  isEmpty_iff : b.isEmpty = true ↔ t.bytes.length - t.gone = 0
  copy : ∀ offset n, b.copy offset n =
    some (t.between (t.gone + offset) (min (t.gone + offset + n) t.bytes.length))
  anchor : b.anchor = t.anchor

variable {b : Buffer} {t : Tape}

lemma Follows.shows (h : b.Follows t) (hfit : t.bytes.length ≤ maxWord) : b.Shows t := by
  obtain ⟨q, hb, ht⟩ := h
  have hq := ht.fits
  have havailable : b.available = t.bytes.length - t.gone := hb.available.trans ht.size_eq
  refine ⟨havailable, ?_, fun offset n => ?_, hb.anchor.trans ht.anchor_eq⟩
  · rw [isEmpty, decide_eq_true_eq, havailable]
  · rw [hb.copy_eq (by omega), Backlog.copy, ht.contents, List.drop_drop, Tape.take_drop_bytes]

/-- **One request.** -/
lemma Follows.perform (h : b.Follows t) (request : Request)
    (hfit : t.bytes.length + request.weight ≤ maxWord) :
    ∃ data next, b.perform request = some (data, next) ∧ next.Follows (t.perform request) := by
  obtain ⟨q, hb, ht⟩ := h
  have hq := ht.fits
  cases request with
  | push data stamp =>
      have hroom : q.size + data.length ≤ maxWord := by
        rw [Request.weight] at hfit
        omega
      obtain ⟨next, hpush, hnext⟩ := hb.push hroom stamp
      exact ⟨[], next, by rw [Buffer.perform, hpush]; rfl, _, hnext, ht.push data stamp⟩
  | copy offset n =>
      exact ⟨_, b, by rw [Buffer.perform, hb.copy_eq (by omega)]; rfl, q, hb, ht⟩
  | flush n =>
      obtain ⟨next, hflush, hnext⟩ := hb.flush (n := n) (by omega)
      exact ⟨[], next, by rw [Buffer.perform, hflush]; rfl, _, hnext, ht.advance n⟩
  | take n =>
      obtain ⟨next, -, htake, hnext⟩ := hb.take_eq (by omega) n
      exact ⟨_, next, htake, _, hnext, ht.advance n⟩
  | drain => exact ⟨_, empty, hb.drain_eq (by omega), _, holds_empty, .empty⟩
  | clear => exact ⟨_, empty, rfl, _, holds_empty, .empty⟩

/-- **Many requests**, as long as a word counts the bytes that came. -/
lemma Follows.performAll (requests : List Request) (h : b.Follows t)
    (hfit : t.bytes.length + Request.total requests ≤ maxWord) :
    ∃ next, b.performAll requests = some next ∧ next.Follows (t.performAll requests) ∧
      (t.performAll requests).bytes.length ≤ maxWord := by
  induction requests generalizing b t with
  | nil => exact ⟨b, rfl, h, hfit⟩
  | cons request rest ih =>
      rw [Request.total, List.map_cons, List.sum_cons] at hfit
      rw [← Nat.add_assoc] at hfit
      obtain ⟨data, next, hperform, hnext⟩ := h.perform request (by omega)
      have hlength := t.length_perform_le request
      obtain ⟨last, hlast, hrest⟩ := ih hnext (by rw [Request.total]; omega)
      exact ⟨last, by rw [Buffer.performAll, hperform]; exact hlast, hrest⟩

/-- **A buffer is a tape.**  Whatever is asked of it, in any order, no count and no part of a
segment is out of range, as long as a word counts the bytes that came.  What waits is what is left
of the tape; a copy is the part of the tape from one position up to another; bytes that are taken
are the ones that a flush skips; and the time of the head is that of the last time stamp up to
it. -/
theorem reads_tape (requests : List Request) (h : Request.total requests ≤ maxWord) :
    let t := Tape.performAll requests {}
    ∃ b, performAll requests empty = some b ∧ b.Shows t ∧
      (∀ n, ∃ rest, b.flush n = some rest ∧
        b.take n = some (t.between t.gone (t.gone + min n (t.bytes.length - t.gone)), rest) ∧
        rest.Shows (t.pass n)) ∧
      b.drain = some (t.between t.gone t.bytes.length, empty) := by
  intro t
  have hstart : ({} : Tape).bytes.length + Request.total requests ≤ maxWord := by
    rwa [List.length_nil, Nat.zero_add]
  obtain ⟨b, hb, hfollows, hfit⟩ :=
    Follows.performAll requests ⟨.empty, holds_empty, .empty⟩ hstart
  obtain ⟨q, hholds, hleaves⟩ := hfollows
  have hq := hleaves.fits
  have hwithin : t.gone ≤ t.bytes.length := t.within
  refine ⟨b, hb, Follows.shows ⟨q, hholds, hleaves⟩ hfit, fun n => ?_, ?_⟩
  · obtain ⟨rest, hflush, htake, hrest⟩ := hholds.take_eq (by omega) n
    refine ⟨rest, hflush, ?_, Follows.shows ⟨_, hrest, hleaves.advance n⟩ hfit⟩
    have hstop : min (t.gone + n) t.bytes.length =
        t.gone + min n (t.bytes.length - t.gone) := by omega
    rw [htake, hleaves.contents, Tape.take_drop_bytes, hstop]
  · rw [hholds.drain_eq (by omega), hleaves.contents, Tape.between, List.take_length]

/-- A request over two segments: the second has no time stamp, and that of the third has not been
reached. -/
theorem reads_tape_over_segments :
    let requests : List Request :=
      [.push [1, 2, 3] (some 5), .push [4, 5] none, .push [6, 7] (some 9), .flush 1, .take 3]
    Request.total requests ≤ maxWord ∧
      ∃ b, performAll requests empty = some b ∧ b.available = 3 ∧ b.anchor = ⟨some 5, 4⟩ ∧
        b.copy 1 9 = some [6, 7] ∧ b.drain = some ([5, 6, 7], empty) := by
  intro requests
  have htotal : Request.total requests ≤ maxWord := by decide
  obtain ⟨b, hb, hshows, -, hdrain⟩ := reads_tape requests htotal
  exact ⟨htotal, b, hb, hshows.available, hshows.anchor, hshows.copy 1 9, hdrain⟩

end Buffer

end CbrAudio
