/-!
# Words as octets

In a packet the most significant octet of a word comes first.

* `ofWord16`, `ofWord32` — the octets of a word.
* `toWord16`, `toWord32` — the word that some octets make.

Reading gives back what was written, and writing what was read.
-/

namespace CbrAudio.Octets

/-- The two octets of a word. -/
def ofWord16 (w : UInt16) : List UInt8 := [UInt8.ofNat (w.toNat / 256), UInt8.ofNat w.toNat]

/-- The four octets of a word. -/
def ofWord32 (w : UInt32) : List UInt8 :=
  [UInt8.ofNat (w.toNat / 16777216), UInt8.ofNat (w.toNat / 65536), UInt8.ofNat (w.toNat / 256),
    UInt8.ofNat w.toNat]

def toWord16 (a b : UInt8) : UInt16 := UInt16.ofNat (a.toNat * 256 + b.toNat)

def toWord32 (a b c d : UInt8) : UInt32 :=
  UInt32.ofNat (a.toNat * 16777216 + b.toNat * 65536 + c.toNat * 256 + d.toNat)

/-! ## Reading and writing -/

theorem toWord16_ofWord16 (w : UInt16) :
    toWord16 (UInt8.ofNat (w.toNat / 256)) (UInt8.ofNat w.toNat) = w := by
  apply UInt16.toNat_inj.1
  have := w.toNat_lt
  simp only [toWord16, UInt16.toNat_ofNat', UInt8.toNat_ofNat']
  omega

theorem toWord32_ofWord32 (w : UInt32) :
    toWord32 (UInt8.ofNat (w.toNat / 16777216)) (UInt8.ofNat (w.toNat / 65536))
      (UInt8.ofNat (w.toNat / 256)) (UInt8.ofNat w.toNat) = w := by
  apply UInt32.toNat_inj.1
  have := w.toNat_lt
  simp only [toWord32, UInt32.toNat_ofNat', UInt8.toNat_ofNat']
  omega

theorem ofWord16_toWord16 (a b : UInt8) : ofWord16 (toWord16 a b) = [a, b] := by
  have ha := a.toNat_lt
  have hb := b.toNat_lt
  simp only [ofWord16, toWord16, UInt16.toNat_ofNat', List.cons.injEq, and_true,
    ← UInt8.toNat_inj, UInt8.toNat_ofNat']
  omega

theorem ofWord32_toWord32 (a b c d : UInt8) : ofWord32 (toWord32 a b c d) = [a, b, c, d] := by
  have ha := a.toNat_lt
  have hb := b.toNat_lt
  have hc := c.toNat_lt
  have hd := d.toNat_lt
  simp only [ofWord32, toWord32, UInt32.toNat_ofNat', List.cons.injEq, and_true,
    ← UInt8.toNat_inj, UInt8.toNat_ofNat']
  omega

end CbrAudio.Octets
