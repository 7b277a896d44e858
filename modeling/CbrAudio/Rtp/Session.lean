import CbrAudio.Packet
import CbrAudio.Rtp.Packet
import CbrAudio.Sink

/-!
# Sessions

A session gives packets what they have in common, a source and a time to reckon from, and numbers
them one after the other.

* `Session` — source, number of the next packet, and the time of the first tick.
* `Session.frame` — **a packet of the session**: the number goes up by one, modulo 2¹⁶, and the
  offset is added to the first tick, modulo 2³².
* `Session.sink` — the receiver of payloads in front of a receiver of framed packets.  A packet
  that is not taken has used up its number all the same.
-/

namespace CbrAudio.Rtp

/-- The numbers that belong to a session. -/
structure Session where
  ssrc : UInt32
  /-- The number of the next packet. -/
  sequence : UInt16
  /-- The timestamp of the first tick. -/
  base : UInt32
  deriving DecidableEq, Repr

namespace Session

/-- The header of the next packet. -/
def header (p : CbrAudio.Packet) (s : Session) : Header :=
  { Header.blank p.payloadType s.ssrc with
    marker := p.marker
    sequence := s.sequence
    timestamp := s.base + p.offset }

/-- **A packet of the session**, and the session after it. -/
def frame (p : CbrAudio.Packet) (s : Session) : Packet × Session :=
  (⟨s.header p, p.payload⟩, { s with sequence := s.sequence + 1 })

/-- Frames each payload and offers the packet to another receiver. -/
def sink {σ : Type} (inner : Sink σ Packet) : Sink (Session × σ) CbrAudio.Packet :=
  inner.contramap frame

end Session

end CbrAudio.Rtp
