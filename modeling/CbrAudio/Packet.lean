/-!
# Chunks and packets

Audio comes in as chunks of any size and leaves as packets.

* `Chunk` — a piece of encoded audio as it arrives.
* `Packet` — one payload with what the transport has to know about it, before the session adds
  its own numbers.
-/

namespace CbrAudio

/-- A piece of encoded audio. -/
structure Chunk where
  data : List UInt8
  /-- The presentation time of the first byte in nanoseconds, if it is known. -/
  stamp : Option UInt64 := none
  /-- Whether audio is missing in front of the chunk. -/
  gap : Bool := false
  deriving DecidableEq, Repr

/-- A payload ready to be framed. -/
structure Packet where
  payloadType : UInt8
  /-- Set on the first packet after a gap. -/
  marker : Bool
  discont : Bool
  /-- The presentation time of the first byte in nanoseconds, if it is known. -/
  stamp : Option UInt64
  /-- The ticks from the start of the session to the first byte. -/
  offset : UInt32
  payload : List UInt8
  deriving DecidableEq, Repr

end CbrAudio
