import CbrAudio.Limits
import CbrAudio.Octets

/-!
# The fixed header

Every packet begins with twelve octets:

```
 0                   1                   2                   3
 0 1 2 3 4 5 6 7 8 9 0 1 2 3 4 5 6 7 8 9 0 1 2 3 4 5 6 7 8 9 0 1
|ver|P|X|  CC   |M|     PT      |           sequence            |
|                           timestamp                           |
|                             ssrc                              |
```

* `Header` — the fields, each as a number that may be too large for its place.
* `Header.encode` — the twelve octets; of a number too large the low bits are kept.
* `Header.decode` — **the header** in front of some octets.
* `Refusal` — why octets are no packet, with its wording.
-/

namespace CbrAudio.Rtp

/-- The fields of the fixed header. -/
structure Header where
  version : UInt8
  padding : Bool
  extension : Bool
  /-- The number of contributing sources listed after the header. -/
  csrcCount : UInt8
  marker : Bool
  payloadType : UInt8
  sequence : UInt16
  timestamp : UInt32
  ssrc : UInt32
  deriving DecidableEq, Repr

/-- Why octets are no packet. -/
inductive Refusal where
  /-- There are only `present` octets, too few for the fixed header. -/
  | tooShort (present : Nat)
  /-- Only version 2 is known. -/
  | unsupportedVersion (version : Nat)
  /-- The list of contributing sources asks for more octets than there are. -/
  | truncatedSources (needed present : Nat)
  deriving DecidableEq, Repr

namespace Refusal

def message : Refusal → String
  | .tooShort present => s!"header too short: {present} bytes"
  | .unsupportedVersion version => s!"unsupported version {version}"
  | .truncatedSources needed present =>
    s!"CSRC list truncated: need {needed} bytes, have {present}"

end Refusal

namespace Header

/-- The one version there is. -/
def knownVersion : UInt8 := 2

/-- A header with all numbers of the session still at zero.  Payload types have seven bits. -/
def blank (payloadType : UInt8) (ssrc : UInt32) : Header where
  version := knownVersion
  padding := false
  extension := false
  csrcCount := 0
  marker := false
  payloadType := UInt8.ofNat (payloadType.toNat % 128)
  sequence := 0
  timestamp := 0
  ssrc := ssrc

/-- Version, padding, extension and source count side by side. -/
def leading (h : Header) : UInt8 :=
  UInt8.ofNat (h.version.toNat % 4 * 64 + h.padding.toNat * 32 + h.extension.toNat * 16
    + h.csrcCount.toNat % 16)

/-- Marker and payload type side by side. -/
def second (h : Header) : UInt8 := UInt8.ofNat (h.marker.toNat * 128 + h.payloadType.toNat % 128)

/-- The twelve octets of a header. -/
def encode (h : Header) : List UInt8 :=
  h.leading :: h.second ::
    (Octets.ofWord16 h.sequence ++ Octets.ofWord32 h.timestamp ++ Octets.ofWord32 h.ssrc)

/-- The fields that twelve octets hold. -/
def ofOctets (a b s₁ s₂ t₁ t₂ t₃ t₄ i₁ i₂ i₃ i₄ : UInt8) : Header where
  version := UInt8.ofNat (a.toNat / 64)
  padding := a.toNat / 32 % 2 = 1
  extension := a.toNat / 16 % 2 = 1
  csrcCount := UInt8.ofNat (a.toNat % 16)
  marker := b.toNat / 128 = 1
  payloadType := UInt8.ofNat (b.toNat % 128)
  sequence := Octets.toWord16 s₁ s₂
  timestamp := Octets.toWord32 t₁ t₂ t₃ t₄
  ssrc := Octets.toWord32 i₁ i₂ i₃ i₄

/-- **The header** in front of some octets. -/
def decode (octets : List UInt8) : Except Refusal Header :=
  match octets with
  | a :: b :: s₁ :: s₂ :: t₁ :: t₂ :: t₃ :: t₄ :: i₁ :: i₂ :: i₃ :: i₄ :: _ =>
    if a.toNat / 64 = knownVersion.toNat then
      .ok (ofOctets a b s₁ s₂ t₁ t₂ t₃ t₄ i₁ i₂ i₃ i₄)
    else .error (.unsupportedVersion (a.toNat / 64))
  | short => .error (.tooShort short.length)

/-- The octets of the header together with its list of contributing sources, four octets each. -/
def extent (h : Header) : Nat := headerSize + 4 * h.csrcCount.toNat

theorem length_encode (h : Header) : h.encode.length = headerSize := rfl

end Header

end CbrAudio.Rtp
