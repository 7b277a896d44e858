import CbrAudio.Geometry

/-!
# What can be wrong with the setup of a stream

A stream cannot be cut into packets when its layout or the transport's limits do not allow it.

* `SetupFault` — the causes.
* `SetupFault.message` — the wording of each.
-/

namespace CbrAudio

/-- Why a stream cannot be cut into packets. -/
inductive SetupFault where
  /-- No layout has been set. -/
  | unconfigured
  /-- The layout has a quantity, `field`, that is zero. -/
  | invalidGeometry (mode : Mode) (field : String)
  /-- The family of a layout is fixed once one has been set. -/
  | modeMismatch (current requested : Mode)
  /-- One unit of `align` bytes is more than a packet has room for. -/
  | mtuTooSmall (capacity align : Nat)
  /-- The transport's limits have a quantity, `field`, that is zero. -/
  | invalidConstraint (field : String)
  deriving DecidableEq, Repr

namespace SetupFault

def message : SetupFault → String
  | .unconfigured => "payloader is not configured: no frame or sample geometry set"
  | .invalidGeometry mode field =>
    s!"invalid {mode.name} geometry: {field} must be non-zero"
  | .modeMismatch current requested =>
    s!"payloader is {current.name}-based and cannot switch to {requested.name}-based geometry"
  | .mtuTooSmall capacity align =>
    s!"MTU payload capacity of {capacity} bytes cannot hold one {align}-byte unit"
  | .invalidConstraint field =>
    s!"invalid transport constraint: {field} must be non-zero"

end SetupFault

end CbrAudio
