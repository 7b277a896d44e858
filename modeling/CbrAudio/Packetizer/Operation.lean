import CbrAudio.Geometry.Fragment
import CbrAudio.Packetizer.Cuts
import CbrAudio.Packetizer.Emission

/-!
# What a packetizer can be asked to do

* `setGeometry` — another layout: bytes that were to be cut by the old one are dropped.
* `handle` — **a chunk comes in**.  A chunk of legal length that finds nothing waiting leaves as it
  is (`passThrough`); all others wait, and the waiting bytes are cut as planned (`enqueue`).
* `discontinuity`, `endOfStream`, `flushStop`, `reset` — what happens to the stream.
* `Operation` — all requests as values, and `Operation.perform`, which carries one out.
-/

namespace CbrAudio

namespace Packetizer

variable {σ : Type}

/-! ## The layout -/

/-- How a layout is announced. -/
def announcement : Geometry → String
  | .frame size millis => s!"frame set to {millis.toNat} ms and size {size.toNat}"
  | .sample bits fragment =>
    s!"sample size set to {bits.toNat} bits, fragment size {fragment.toNat} bytes"

/-- Why a layout cannot follow the one that is set: the family is fixed. -/
def clash? (p : Packetizer) (geometry : Geometry) : Option SetupFault :=
  match p.geometry with
  | none => none
  | some old =>
    if old.mode = geometry.mode then none else some (.modeMismatch old.mode geometry.mode)

/-- The state under another layout. -/
def withGeometry (geometry : Geometry) (p : Packetizer) : Packetizer :=
  { p with
    geometry := some geometry
    backlog := .empty
    phase := if p.phase = .unconfigured then .configured else p.phase }

/-- Another layout.  What waits was to be cut by the old one and is dropped. -/
def setGeometry (geometry : Geometry) : Work σ Unit := do
  let p ← Work.current
  match p.clash? geometry with
  | some why =>
    Work.log .error why.message
    Work.fail (.setup why)
  | none =>
    if !p.backlog.isEmpty then
      Work.log .debug ("dropping " ++ toString p.backlog.size
        ++ " pending bytes on geometry change")
    Work.update (withGeometry geometry)
    Work.log .debug (announcement geometry)

/-! ## Chunks -/

/-- What the setup gives; otherwise the chunk is dropped, and that is logged. -/
def demand {α : Type} (chunk : Chunk) (result : Except SetupFault α) : Work σ α :=
  match result with
  | .ok a => pure a
  | .error why => do
    Work.log .error ("dropping " ++ toString chunk.data.length ++ "-byte chunk: " ++ why.message)
    Work.fail (.setup why)

/-- What waits belongs in front of a gap and leaves; the packet after it is marked, even if the one
before it was not taken. -/
def breakOff : Work σ Unit := do
  let flushed ← (flush .all none).attempt
  Work.update fun p => { p with gap := true }
  Work.ofExcept flushed

/-- A chunk leaves as it is. -/
def passThrough (chunk : Chunk) : Work σ Unit := do
  Work.log .debug "fast packet push"
  push chunk.data chunk.stamp

/-- The waiting bytes are cut as planned. -/
def carve (plan : List Nat) : Work σ Unit := plan.forM fun n => flush (.upTo n) none

/-- A chunk joins the waiting bytes, and as much of them leaves as can. -/
def enqueue (chunk : Chunk) (l : Lengths) : Work σ Unit := do
  Work.update fun p => { p with backlog := p.backlog.push chunk.data chunk.stamp }
  let p ← Work.current
  carve (l.cuts p.backlog.size)
  let left ← Work.current
  Work.log .trace (toString left.backlog.size ++ " bytes left buffered")

/-- A chunk comes in while the legal lengths are known. -/
def accept (chunk : Chunk) (l : Lengths) : Work σ Unit := do
  Work.update fun p => { p with phase := .active }
  let p ← Work.current
  let size := chunk.data.length
  let waiting := p.backlog.size
  Work.log .debug (s!"got chunk size {size}, available {waiting}, "
    ++ s!"min {l.min} max {l.max} align {l.align}")
  if waiting = 0 ∧ l.min ≤ size ∧ size ≤ l.max then passThrough chunk else enqueue chunk l

/-- **A chunk comes in.**  It is dropped if the setup does not allow packets. -/
def handle (chunk : Chunk) : Work σ Unit := do
  let p ← Work.current
  let _ ← demand chunk p.layout
  if chunk.gap then
    Work.log .debug "got discontinuity"
    breakOff
  let p ← Work.current
  let l ← demand chunk p.lengths
  accept chunk l

/-! ## Signals -/

/-- Audio is missing: what waits leaves, and the next packet is marked. -/
def discontinuity : Work σ Unit := do
  Work.log .debug "discontinuity signalled"
  breakOff

/-- No more audio will come: what waits leaves. -/
def endOfStream : Work σ Unit := do
  let p ← Work.current
  Work.log .debug ("end of stream, flushing " ++ toString p.backlog.size ++ " bytes")
  flush .all none

/-- What waits is dropped; the session goes on. -/
def clear : Work σ Unit := Work.update fun p => { p with backlog := .empty }

/-- The source has dropped what it had: so does the packetizer. -/
def flushStop : Work σ Unit := clear

/-- What waits is handed over. -/
def drain : Work σ (List UInt8) := do
  let p ← Work.current
  Work.update fun p => { p with backlog := p.backlog.drain.2 }
  pure p.backlog.drain.1

/-- The state at the start of another session, with the same layout and limits. -/
def restarted (p : Packetizer) : Packetizer :=
  { p with
    backlog := .empty
    sent := 0
    gap := false
    phase := if p.geometry.isSome then .configured else .unconfigured }

/-- The session ends, and another one begins. -/
def reset : Work σ Unit := do
  Work.update restarted
  Work.log .debug "reset"

end Packetizer

/-! ## Requests as values -/

/-- What a packetizer can be asked to do. -/
inductive Operation where
  /-- Frames of `size` bytes, `millis` milliseconds each. -/
  | setFrames (size : UInt64) (millis : UInt32)
  /-- Samples of `bits` bits. -/
  | setSamples (bits : UInt32)
  /-- Samples of whole bytes. -/
  | setSampleBytes (bytes : UInt32)
  | setLimits (limits : Limits)
  | handle (chunk : Chunk)
  | flush (which : Portion) (stamp : Option UInt64)
  | discontinuity
  | endOfStream
  | flushStop
  | clear
  | drain
  | reset
  deriving DecidableEq, Repr

namespace Operation

variable {σ : Type}

open Packetizer in
/-- Carries out a request.  The result are the bytes that are handed over, which are none for all
requests but one. -/
def perform : Operation → Work σ (List UInt8)
  | .setFrames size millis => do setGeometry (.frame size millis); pure []
  | .setSamples bits => do setGeometry (.ofSampleBits bits); pure []
  | .setSampleBytes bytes => do setGeometry (.ofSampleBytes bytes); pure []
  | .setLimits limits => do Work.update fun p => { p with limits := limits }; pure []
  | .handle chunk => do Packetizer.handle chunk; pure []
  | .flush which stamp => do Packetizer.flush which stamp; pure []
  | .discontinuity => do Packetizer.discontinuity; pure []
  | .endOfStream => do Packetizer.endOfStream; pure []
  | .flushStop => do Packetizer.flushStop; pure []
  | .clear => do Packetizer.clear; pure []
  | .drain => Packetizer.drain
  | .reset => do Packetizer.reset; pure []

end Operation

end CbrAudio
