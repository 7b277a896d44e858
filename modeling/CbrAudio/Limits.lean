import CbrAudio.Word

/-!
# What the transport allows

The limits come from payload negotiation and from the network path, and may change between two
chunks.

* `Limits` — payload type, largest packet, bounds on the duration of a packet, clock rate.
* `Limits.capacity` — the payload bytes that one packet has room for.
-/

namespace CbrAudio

/-- The bytes of the fixed header in front of every payload. -/
def headerSize : Nat := 12

/-- The payload bytes in a packet of `mtu` bytes: none if the header alone is too large. -/
def payloadCapacity (mtu : Nat) : Nat := mtu - headerSize

/-- The nanoseconds of a millisecond. -/
def nanosPerMilli : Nat := 1000000

/-- The nanoseconds of a second. -/
def nanosPerSecond : Nat := 1000000000

/-- Limits on the packets of one stream.  Durations are in nanoseconds. -/
structure Limits where
  /-- The payload type written into every packet. -/
  payloadType : UInt8 := 0
  /-- The bytes of the largest packet, header included. -/
  mtu : UInt64 := 1400
  /-- No packet should be shorter than this; zero means no bound. -/
  minPtime : UInt64 := 0
  /-- No packet should be longer than this, if there is a bound. -/
  maxPtime : Option UInt64 := none
  /-- Clock ticks per second. -/
  clockRate : UInt32 := 8000
  deriving DecidableEq, Repr

namespace Limits

/-- The payload bytes that one packet has room for. -/
def capacity (limits : Limits) : Nat := payloadCapacity limits.mtu.toNat

end Limits

end CbrAudio
