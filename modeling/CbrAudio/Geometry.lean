/-!
# How a codec lays out its bytes

Constant-bit-rate audio is cut into units of one size.  A frame codec has frames of so many bytes
that last so many milliseconds; a sample codec has samples of so many bits, which travel in
fragments, groups of samples that fill whole bytes.

* `Mode` — the two families, with the names they have in messages.
* `Geometry` — the layout of one codec.
* `Geometry.emptyField?` — the first quantity that is zero, if one is: such a layout is no layout.
* `Geometry.unit` — the bytes that no packet may tear apart.
-/

namespace CbrAudio

/-- The two families of codecs. -/
inductive Mode where
  | frame
  | sample
  deriving DecidableEq, Repr

namespace Mode

/-- The name of the family in messages. -/
def name : Mode → String
  | .frame => "frame"
  | .sample => "sample"

end Mode

/-- The layout of one codec's bytes. -/
inductive Geometry where
  /-- Frames of `size` bytes, each `millis` milliseconds long. -/
  | frame (size : UInt64) (millis : UInt32)
  /-- Samples of `bits` bits, which travel in fragments of `fragment` bytes. -/
  | sample (bits : UInt32) (fragment : UInt64)
  deriving DecidableEq, Repr

namespace Geometry

def mode : Geometry → Mode
  | .frame .. => .frame
  | .sample .. => .sample

/-- The bytes of a frame or of a fragment: every payload is made of whole units. -/
def unit : Geometry → Nat
  | .frame size _ => size.toNat
  | .sample _ fragment => fragment.toNat

/-- The name of the first quantity that is zero.  The frame size is looked at before the frame
duration. -/
def emptyField? : Geometry → Option String
  | .frame size millis =>
    if size = 0 then some "frame_size"
    else if millis = 0 then some "frame_duration"
    else none
  | .sample bits _ => if bits = 0 then some "sample_size" else none

end Geometry

end CbrAudio
