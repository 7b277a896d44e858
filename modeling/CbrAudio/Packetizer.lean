import CbrAudio.Backlog
import CbrAudio.Geometry.Lengths
import CbrAudio.Log.Logger

/-!
# The packetizer

What a packetizer knows between two chunks: the layout of the stream, the limits of the transport,
the bytes that wait for a packet, and how far the session has come.

* `Phase` — what a packetizer has gone through.
* `Packetizer` — the state.
* `Packetizer.layout`, `Packetizer.lengths` — the layout if it is one, and the lengths that are
  legal under it.
* `Packetizer.nextOffset` — the ticks that the next packet will carry.
-/

namespace CbrAudio

/-- What a packetizer has gone through. -/
inductive Phase where
  /-- No layout has been set: no data is taken. -/
  | unconfigured
  /-- There is a layout, but no data has come since the session began. -/
  | configured
  /-- Data has come. -/
  | active
  deriving DecidableEq, Repr

/-- The state of a packetizer. -/
structure Packetizer where
  logger : Log.Logger
  limits : Limits
  geometry : Option Geometry := none
  backlog : Backlog := .empty
  /-- The bytes of all packets offered since the session began. -/
  sent : Nat := 0
  /-- Whether the next packet is the first one after a gap. -/
  gap : Bool := false
  phase : Phase := .unconfigured
  deriving DecidableEq, Repr

namespace Packetizer

/-- A packetizer without a layout. -/
def fresh (limits : Limits) (logger : Log.Logger) : Packetizer where
  logger := logger
  limits := limits

/-- The layout, unless there is none or a quantity of it is zero. -/
def layout (p : Packetizer) : Except SetupFault Geometry :=
  match p.geometry with
  | none => .error .unconfigured
  | some geometry =>
    match geometry.check with
    | .error why => .error why
    | .ok () => .ok geometry

/-- The legal lengths of a payload. -/
def lengths (p : Packetizer) : Except SetupFault Lengths :=
  match p.layout with
  | .error why => .error why
  | .ok geometry => geometry.lengths p.limits

/-- The ticks that the next packet will carry. -/
def nextOffset (p : Packetizer) : Option UInt32 :=
  p.geometry.map (Geometry.ticks p.sent p.limits.clockRate)

end Packetizer

end CbrAudio
