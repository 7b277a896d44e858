import CbrAudio.Rtp.Header

/-!
# Packets on the wire

* `Rtp.Packet` — a header and a payload.
* `Rtp.Packet.encode` — the octets of a packet: the fixed header, then the payload.
* `Rtp.Packet.decode` — **the packet** that octets hold; a list of contributing sources is passed
  over and not kept.
-/

namespace CbrAudio.Rtp

/-- A header and a payload. -/
structure Packet where
  header : Header
  payload : List UInt8
  deriving DecidableEq, Repr

namespace Packet

/-- The octets of a packet. -/
def encode (p : Packet) : List UInt8 := p.header.encode ++ p.payload

/-- **The packet** that octets hold. -/
def decode (octets : List UInt8) : Except Refusal Packet :=
  match Header.decode octets with
  | .error why => .error why
  | .ok header =>
    if octets.length < header.extent then
      .error (.truncatedSources header.extent octets.length)
    else .ok ⟨header, octets.drop header.extent⟩

theorem length_encode (p : Packet) : p.encode.length = headerSize + p.payload.length := by
  rw [encode, List.length_append, Header.length_encode, headerSize]

end Packet

end CbrAudio.Rtp
