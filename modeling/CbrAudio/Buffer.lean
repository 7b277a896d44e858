import CbrAudio.Backlog
import CbrAudio.Word

/-!
# Bytes kept as they came in

A buffer holds what waits for a packet without moving it: a segment stays whole until its last byte
has gone, and only how much of the first one has gone is kept beside it.  How much waits in all is
counted along.

Counts are words here, and parts of a segment are taken by position.  An operation that would leave
the range of a word or of a segment has no result.

* `Buffer` — the segments, what of the first one has gone, what waits, and the anchor of the head.
* `Buffer.push`, `Buffer.flush` — bytes enter at the back and leave at the front.
* `Buffer.copy` — **bytes from anywhere**, put together from the segments they are in.
* `Buffer.take`, `Buffer.drain` — bytes leave and are handed over.  If the first segment has them
  all they are a part of it, and otherwise a copy.
* `Buffer.Request` — all of these as values, and `Buffer.perform`, which carries one out.
-/

namespace CbrAudio

open Word

namespace Anchor

/-- Bytes have left, if a word holds how many have by now. -/
def pass? (n : Nat) (a : Anchor) : Option Anchor :=
  (plus? a.distance n).map fun distance => { a with distance := distance }

/-- The segment at the head is another one: its time stamp takes over, if it has one. -/
def reach (segments : List Segment) (a : Anchor) : Anchor :=
  match segments with
  | [] => a
  | head :: _ => a.renew head.stamp

end Anchor

/-- What waits for a packet, in the segments it came in. -/
structure Buffer where
  segments : List Segment := []
  /-- How much of the first segment has gone. -/
  skip : Nat := 0
  /-- How much waits. -/
  available : Nat := 0
  anchor : Anchor := {}
  deriving DecidableEq, Repr

namespace Buffer

/-- Nothing waits, and no time is known. -/
def empty : Buffer := {}

def isEmpty (b : Buffer) : Bool := b.available = 0

/-- The bytes from one position up to another, if there are these positions in this order. -/
def slice? (start stop : Nat) (bytes : List UInt8) : Option (List UInt8) :=
  if start ≤ stop ∧ stop ≤ bytes.length then some ((bytes.take stop).drop start) else none

/-- Bytes enter at the back.  If nothing waited they are the new head. -/
def push (data : List UInt8) (stamp : Option UInt64) (b : Buffer) : Option Buffer :=
  if h : data = [] then some b
  else do
    let available ← plus? b.available data.length
    some { b with
      segments := b.segments ++ [⟨data, stamp, h⟩]
      available := available
      anchor := if b.available = 0 then b.anchor.renew stamp else b.anchor }

/-! ## Copies -/

/-- What waits, in pieces: what is left of the first segment, and the others. -/
def pieces (b : Buffer) : Option (List (List UInt8)) :=
  match b.segments with
  | [] => some []
  | head :: rest => do
    let left ← slice? b.skip head.bytes.length head.bytes
    some (left :: rest.map Segment.bytes)

/-- The share of one piece in the bytes from `start` up to `stop`.  The piece goes from `position`
up to `next`. -/
def share (start stop position next : Nat) (piece : List UInt8) : Option (List UInt8) :=
  if start < next then do
    let room ← minus? stop position
    slice? (start - position) (min piece.length room) piece
  else some []

/-- The bytes from `start` up to `stop`, where the first of some pieces begins at `position`. -/
def gather (start stop : Nat) : Nat → List (List UInt8) → Option (List UInt8)
  | _, [] => some []
  | position, piece :: rest => do
    let next ← plus? position piece.length
    let part ← share start stop position next piece
    if stop ≤ next then some part
    else do
      let others ← gather start stop next rest
      some (part ++ others)

/-- **Bytes from anywhere**: `n` of those that wait, from `offset` on, or as many as there are. -/
def copy (offset n : Nat) (b : Buffer) : Option (List UInt8) :=
  let stop := min (clamp (offset + n)) b.available
  if stop ≤ offset then some []
  else do
    let pieces ← b.pieces
    gather offset stop 0 pieces

/-! ## Bytes leave -/

/-- The first `n` bytes leave, segment by segment, and `available` bytes stay. -/
def flushFrom (available : Nat) : Nat → List Segment → Nat → Anchor → Option Buffer
  | _, [], skip, a => some ⟨[], skip, available, a⟩
  | n, head :: rest, skip, a =>
    if n = 0 then some ⟨head :: rest, skip, available, a⟩
    else do
      let left ← minus? head.bytes.length skip
      if n < left then do
        let skip ← plus? skip n
        let a ← a.pass? n
        some ⟨head :: rest, skip, available, a⟩
      else do
        let more ← minus? n left
        let a ← a.pass? left
        flushFrom available more rest 0 (a.reach rest)

/-- **Bytes leave**: the first `n`, or all if there are fewer. -/
def flush (n : Nat) (b : Buffer) : Option Buffer := do
  let gone := min n b.available
  let available ← minus? b.available gone
  flushFrom available gone b.segments b.skip b.anchor

/-- The first `n` bytes: a part of the first segment if it has them all, or else a copy. -/
def front (n : Nat) (b : Buffer) : Option (List UInt8) :=
  match b.segments with
  | [] => b.copy 0 n
  | head :: _ => do
    let left ← minus? head.bytes.length b.skip
    if n ≤ left then do
      let stop ← plus? b.skip n
      slice? b.skip stop head.bytes
    else b.copy 0 n

/-- The first `n` bytes leave and are handed over, or all if there are fewer. -/
def take (n : Nat) (b : Buffer) : Option (List UInt8 × Buffer) := do
  let n := min n b.available
  let data ← b.front n
  let rest ← b.flush n
  some (data, rest)

/-- All bytes are handed over, and the time of the head is forgotten. -/
def drain (b : Buffer) : Option (List UInt8 × Buffer) := do
  let (data, _) ← b.take b.available
  some (data, empty)

/-! ## Requests as values -/

/-- What a buffer can be asked to do. -/
inductive Request where
  | push (data : List UInt8) (stamp : Option UInt64)
  | copy (offset n : Nat)
  | flush (n : Nat)
  | take (n : Nat)
  | drain
  | clear
  deriving DecidableEq, Repr

/-- Carries out a request: the bytes that are handed over, which may be none, and the buffer after
it. -/
def perform : Request → Buffer → Option (List UInt8 × Buffer)
  | .push data stamp, b => do
    let b ← b.push data stamp
    some ([], b)
  | .copy offset n, b => do
    let data ← b.copy offset n
    some (data, b)
  | .flush n, b => do
    let b ← b.flush n
    some ([], b)
  | .take n, b => b.take n
  | .drain, b => b.drain
  | .clear, _ => some ([], empty)

/-- The buffer after some requests. -/
def performAll : List Request → Buffer → Option Buffer
  | [], b => some b
  | request :: rest, b => do
    let (_, b) ← b.perform request
    performAll rest b

end Buffer

end CbrAudio
