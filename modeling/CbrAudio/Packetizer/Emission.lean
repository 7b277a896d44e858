import CbrAudio.Packetizer.Work

/-!
# Packets leave

* `push` — **a packet leaves**: it carries the mark of a gap if there was one, and its offset is
  the time of the bytes sent before it.
* `headStamp` — the presentation time of the first waiting byte, reckoned from the last time stamp
  that reached the head.
* `flush` — waiting bytes leave as one packet, whatever the legal lengths are.
-/

namespace CbrAudio

/-- How many of the waiting bytes are meant. -/
inductive Portion where
  | all
  | upTo (n : Nat)
  deriving DecidableEq, Repr

namespace Backlog

/-- The waiting bytes of a portion. -/
def portion (which : Portion) (b : Backlog) : List UInt8 :=
  match which with
  | .all => b.contents
  | .upTo n => b.front n

end Backlog

namespace Packetizer

variable {σ : Type}

/-- How a time stamp is written in a record. -/
def stampText : Option UInt64 → String
  | some t => s!"Some({t.toNat})"
  | none => "None"

/-- The packet that would leave with this payload. -/
def packet (p : Packetizer) (geometry : Geometry) (payload : List UInt8) (stamp : Option UInt64) :
    Packet where
  payloadType := p.limits.payloadType
  marker := p.gap
  discont := p.gap
  stamp := stamp
  offset := geometry.ticks p.sent p.limits.clockRate
  payload := payload

/-- A packet is offered to the receiver, and a refusal is logged. -/
def deliver (packet : Packet) : Work σ Unit := do
  match ← (Work.offer packet).attempt with
  | .ok () => pure ()
  | .error fault =>
    Work.log .warn ("sink rejected packet: " ++ fault.message)
    Work.fail fault

/-- **A packet leaves.**  Its bytes count as sent and the gap as marked, whatever the receiver
answers. -/
def push (payload : List UInt8) (stamp : Option UInt64) : Work σ Unit := do
  let p ← Work.current
  let geometry ← Work.require p.layout
  if p.gap then Work.log .debug "setting marker and discont"
  let packet := p.packet geometry payload stamp
  Work.update fun p => { p with gap := false, sent := p.sent + payload.length }
  Work.log .trace ("pushing " ++ toString payload.length ++ " bytes ts " ++ stampText stamp
    ++ " rtp offset " ++ toString packet.offset.toNat)
  deliver packet

/-- The presentation time of the first waiting byte: the last time stamp that reached the head,
and the time of the bytes that have left since. -/
def headStamp : Work σ (Option UInt64) := do
  let p ← Work.current
  let anchor := p.backlog.anchor
  Work.log .trace ("last timestamp " ++ stampText anchor.stamp ++ ", distance "
    ++ toString anchor.distance)
  match anchor.stamp with
  | none => pure none
  | some t =>
    if anchor.distance = 0 then pure (some t)
    else
      let geometry ← Work.require p.layout
      pure (some (UInt64.ofNatClamp
        (t.toNat + geometry.duration anchor.distance p.limits.clockRate)))

/-- The time of a packet: the one that is asked for, or that of the first waiting byte. -/
def stampOr (stamp : Option UInt64) : Work σ (Option UInt64) :=
  match stamp with
  | some t => pure (some t)
  | none => headStamp

/-- Waiting bytes leave as one packet.  Where none wait, nothing happens. -/
def flush (which : Portion) (stamp : Option UInt64) : Work σ Unit := do
  let p ← Work.current
  let payload := p.backlog.portion which
  if payload.isEmpty then pure ()
  else
    let stamp ← stampOr stamp
    Work.update fun p => { p with backlog := p.backlog.advance payload.length }
    push payload stamp

end Packetizer

end CbrAudio
