/-!
# Bytes that wait for a packet

A queue of bytes that knows the time of its head.  Bytes enter in segments, some of which have a
time stamp; they leave from the front in any amounts.

* `Segment` — bytes that came in together; there is at least one.
* `Anchor` — the last time stamp that reached the head, and how many bytes have left since.
* `Backlog` — the segments that wait and the anchor of the first byte.
* `Backlog.push`, `Backlog.advance` — bytes enter at the back and leave at the front.
* **`Backlog.contents`** — the waiting bytes as one list.  Every operation is determined by what it
  does to this list: see `contents_push`, `contents_advance` and `front_eq_take`.
-/

namespace CbrAudio

/-- Bytes that came in together. -/
structure Segment where
  bytes : List UInt8
  /-- The time of the first byte that came in, if it is known. -/
  stamp : Option UInt64
  nonempty : bytes ≠ []
  deriving DecidableEq, Repr

/-- A time to reckon from. -/
structure Anchor where
  /-- The last time stamp that reached the head. -/
  stamp : Option UInt64 := none
  /-- The bytes that have left since then. -/
  distance : Nat := 0
  deriving DecidableEq, Repr

namespace Anchor

/-- A new head: its time stamp takes over, if it has one. -/
def renew (stamp : Option UInt64) (a : Anchor) : Anchor :=
  match stamp with
  | some t => ⟨some t, 0⟩
  | none => a

/-- Bytes have left. -/
def pass (n : Nat) (a : Anchor) : Anchor := { a with distance := a.distance + n }

end Anchor

/-- A queue of bytes with the time of its head. -/
structure Backlog where
  segments : List Segment := []
  anchor : Anchor := {}
  deriving DecidableEq, Repr

namespace Backlog

/-- Nothing waits, and no time is known. -/
def empty : Backlog := {}

/-- The waiting bytes. -/
def contents (b : Backlog) : List UInt8 := b.segments.flatMap Segment.bytes

/-- How many bytes wait. -/
def size (b : Backlog) : Nat := b.segments.foldr (fun s n => s.bytes.length + n) 0

def isEmpty (b : Backlog) : Bool := b.segments.isEmpty

/-- Bytes enter at the back.  If nothing waited they are the new head. -/
def push (data : List UInt8) (stamp : Option UInt64) (b : Backlog) : Backlog :=
  if h : data = [] then b
  else {
    segments := b.segments ++ [⟨data, stamp, h⟩]
    anchor := if b.isEmpty then b.anchor.renew stamp else b.anchor }

/-! ## The front of the queue -/

/-- The first `n` bytes of some segments. -/
def frontOf : Nat → List Segment → List UInt8
  | _, [] => []
  | n, s :: rest =>
    let part := s.bytes.take n
    if part.length < n then part ++ frontOf (n - part.length) rest else part

/-- The first `n` waiting bytes, or all if there are fewer. -/
def front (n : Nat) (b : Backlog) : List UInt8 := frontOf n b.segments

/-- What the anchor becomes when the head of the queue is gone and `rest` is left. -/
def succeed (gone : Nat) (rest : List Segment) (a : Anchor) : Anchor :=
  match rest with
  | [] => a.pass gone
  | next :: _ => (a.pass gone).renew next.stamp

/-- The first `n` bytes leave.  A segment that becomes the head brings its time stamp. -/
def advanceFrom : Nat → List Segment → Anchor → Backlog
  | _, [], a => ⟨[], a⟩
  | n, s :: rest, a =>
    if n = 0 then ⟨s :: rest, a⟩
    else if h : s.bytes.drop n = [] then
      advanceFrom (n - s.bytes.length) rest (succeed s.bytes.length rest a)
    else ⟨⟨s.bytes.drop n, s.stamp, h⟩ :: rest, a.pass n⟩

/-- The first `n` bytes leave, or all if there are fewer. -/
def advance (n : Nat) (b : Backlog) : Backlog := advanceFrom n b.segments b.anchor

/-- The first `n` bytes, and the queue without them. -/
def take (n : Nat) (b : Backlog) : List UInt8 × Backlog := (b.front n, b.advance n)

/-- `n` of the waiting bytes, from `offset` on, or as many as there are. -/
def copy (offset n : Nat) (b : Backlog) : List UInt8 := (b.contents.drop offset).take n

/-- All bytes leave, and the time of the head is forgotten. -/
def drain (b : Backlog) : List UInt8 × Backlog := (b.contents, empty)

/-! ## The waiting bytes as one list -/

@[simp] theorem contents_empty : empty.contents = [] := rfl

theorem size_eq_length (b : Backlog) : b.size = b.contents.length := by
  obtain ⟨segments, anchor⟩ := b
  simp only [size, contents]
  induction segments with
  | nil => rfl
  | cons s rest ih => rw [List.foldr_cons, ih, List.flatMap_cons, List.length_append]

theorem isEmpty_iff (b : Backlog) : b.isEmpty = true ↔ b.contents = [] := by
  obtain ⟨segments, anchor⟩ := b
  cases segments with
  | nil => simp [isEmpty, contents]
  | cons s rest => simp [isEmpty, contents, s.nonempty]

theorem contents_push (data : List UInt8) (stamp : Option UInt64) (b : Backlog) :
    (b.push data stamp).contents = b.contents ++ data := by
  rw [push]
  split
  · next h => simp [h]
  · simp [contents]

theorem frontOf_eq_take (n : Nat) (segments : List Segment) :
    frontOf n segments = (segments.flatMap Segment.bytes).take n := by
  induction segments generalizing n with
  | nil => simp [frontOf]
  | cons s rest ih =>
    simp only [frontOf, ih, List.flatMap_cons, List.take_append, List.length_take]
    split
    · next h => rw [Nat.min_eq_right (by omega)]
    · next h => rw [Nat.sub_eq_zero_of_le (by omega), List.take_zero, List.append_nil]

theorem front_eq_take (n : Nat) (b : Backlog) : b.front n = b.contents.take n :=
  frontOf_eq_take n b.segments

theorem contents_advanceFrom (n : Nat) (segments : List Segment) (a : Anchor) :
    (advanceFrom n segments a).contents = (segments.flatMap Segment.bytes).drop n := by
  induction segments generalizing n a with
  | nil => simp [advanceFrom, contents]
  | cons s rest ih =>
    rw [advanceFrom]
    split
    · next h => simp [h, contents]
    · split
      · next h => rw [ih, List.flatMap_cons, List.drop_append, h, List.nil_append]
      · next h =>
        have hlt : n < s.bytes.length := Nat.lt_of_not_le fun hle => h (List.drop_of_length_le hle)
        rw [List.flatMap_cons, List.drop_append, Nat.sub_eq_zero_of_le (Nat.le_of_lt hlt),
          List.drop_zero]
        rfl

theorem contents_advance (n : Nat) (b : Backlog) :
    (b.advance n).contents = b.contents.drop n := contents_advanceFrom n b.segments b.anchor

/-- Cutting neither loses nor invents a byte. -/
theorem front_append_advance (n : Nat) (b : Backlog) :
    b.front n ++ (b.advance n).contents = b.contents := by
  rw [front_eq_take, contents_advance, List.take_append_drop]

end Backlog

end CbrAudio
