import CbrAudio.Proofs.Reparse
import Mathlib.Data.Set.Function

/-!
# One header, twelve octets

The fixed header and its octets say the same.

* `Header.packed` — the octets put together by shifts and masks.  No two fields share a bit, so
  these are the sums of place values that `encode` makes: `encode_eq_packed`.
* `Header.Heads` — octets that a header stands in front of: there are twelve, and the two highest
  bits of the first one name the version.  **`exists_decode_iff`**: these octets can be read and no
  others, and `encode_of_decode`: writing gives back what was read.
* `Header.trimmed` — the header with its numbers cut to their places.  **`decode_encode_trimmed`**:
  whatever a header holds, this is what is read from its octets, so a number that is too large
  changes no field but its own.
* **`codec_bijective`** — writing is a bijection, with all of this.
-/

namespace CbrAudio.Rtp.Header

variable {h : Header} {octets : List UInt8}

/-! ## Shifts and masks -/

/-- The octets of a header, put together by shifts and masks. -/
def packed (h : Header) : List UInt8 :=
  [h.version <<< 6 ||| h.padding.toUInt8 <<< 5 ||| h.extension.toUInt8 <<< 4
      ||| (h.csrcCount &&& 0x0f),
    h.marker.toUInt8 <<< 7 ||| (h.payloadType &&& 0x7f),
    (h.sequence >>> 8).toUInt8, h.sequence.toUInt8,
    (h.timestamp >>> 24).toUInt8, (h.timestamp >>> 16).toUInt8,
    (h.timestamp >>> 8).toUInt8, h.timestamp.toUInt8,
    (h.ssrc >>> 24).toUInt8, (h.ssrc >>> 16).toUInt8, (h.ssrc >>> 8).toUInt8, h.ssrc.toUInt8]

/-- Where a number ends above a place, one that fits below it can be put in by a sum. -/
lemma or_eq_add {a b : Nat} (i : Nat) (hb : b < 2 ^ i) : a * 2 ^ i ||| b = a * 2 ^ i + b := by
  rw [Nat.mul_comm, Nat.two_pow_add_eq_or_of_lt hb]

/-- A mask of low bits keeps a remainder. -/
lemma toNat_and_low {n mask : UInt8} {i : Nat} (hmask : mask.toNat = 2 ^ i - 1) :
    (n &&& mask).toNat = n.toNat % 2 ^ i := by
  rw [UInt8.toNat_and, hmask, Nat.and_two_pow_sub_one_eq_mod]

lemma leading_eq_or (h : Header) :
    h.leading = h.version <<< 6 ||| h.padding.toUInt8 <<< 5 ||| h.extension.toUInt8 <<< 4
      ||| (h.csrcCount &&& 0x0f) := by
  have hp := h.padding.toNat_le
  have hx := h.extension.toNat_le
  have hversion : (h.version <<< 6).toNat = h.version.toNat % 4 * 2 ^ 6 := by
    rw [UInt8.toNat_shiftLeft, Nat.shiftLeft_eq]
    show h.version.toNat * 64 % 256 = h.version.toNat % 4 * 64
    omega
  have hpadding : (h.padding.toUInt8 <<< 5).toNat = h.padding.toNat * 2 ^ 5 := by
    cases h.padding <;> rfl
  have hextension : (h.extension.toUInt8 <<< 4).toNat = h.extension.toNat * 2 ^ 4 := by
    cases h.extension <;> rfl
  have hcsrc : (h.csrcCount &&& 0x0f).toNat = h.csrcCount.toNat % 2 ^ 4 := toNat_and_low rfl
  apply UInt8.toNat_inj.mp
  -- From the lowest place upwards every field ends below the next one.
  rw [toNat_leading, UInt8.toNat_or, UInt8.toNat_or, UInt8.toNat_or, hversion, hpadding,
    hextension, hcsrc, Nat.or_assoc, Nat.or_assoc, or_eq_add 4 (by omega),
    or_eq_add 5 (by omega), or_eq_add 6 (by omega)]
  omega

lemma second_eq_or (h : Header) :
    h.second = h.marker.toUInt8 <<< 7 ||| (h.payloadType &&& 0x7f) := by
  have hmarker : (h.marker.toUInt8 <<< 7).toNat = h.marker.toNat * 2 ^ 7 := by
    cases h.marker <;> rfl
  have htype : (h.payloadType &&& 0x7f).toNat = h.payloadType.toNat % 2 ^ 7 := toNat_and_low rfl
  apply UInt8.toNat_inj.mp
  rw [toNat_second, UInt8.toNat_or, hmarker, htype, or_eq_add 7 (by omega)]
  rfl

lemma ofWord16_eq_shifts (w : UInt16) :
    Octets.ofWord16 w = [(w >>> 8).toUInt8, w.toUInt8] := by
  have hhigh : (w >>> 8).toNat = w.toNat / 256 := by
    rw [UInt16.toNat_shiftRight]
    exact Nat.shiftRight_eq_div_pow ..
  simp only [Octets.ofWord16, List.cons.injEq, and_true, ← UInt8.toNat_inj, UInt8.toNat_ofNat',
    UInt16.toNat_toUInt8, hhigh]

lemma ofWord32_eq_shifts (w : UInt32) :
    Octets.ofWord32 w =
      [(w >>> 24).toUInt8, (w >>> 16).toUInt8, (w >>> 8).toUInt8, w.toUInt8] := by
  have hshift (i : UInt32) (hi : i.toNat < 32) : (w >>> i).toNat = w.toNat / 2 ^ i.toNat := by
    rw [UInt32.toNat_shiftRight, Nat.mod_eq_of_lt hi, Nat.shiftRight_eq_div_pow]
  simp only [Octets.ofWord32, List.cons.injEq, and_true, ← UInt8.toNat_inj, UInt8.toNat_ofNat',
    UInt32.toNat_toUInt8, hshift 24 (by decide), hshift 16 (by decide), hshift 8 (by decide)]
  exact ⟨rfl, rfl, rfl⟩

/-- **Sums of place values are shifts and masks.** -/
lemma encode_eq_packed (h : Header) : h.encode = h.packed := by
  rw [encode, leading_eq_or, second_eq_or, ofWord16_eq_shifts, ofWord32_eq_shifts,
    ofWord32_eq_shifts]
  rfl

/-! ## What can be read -/

/-- A header stands in front: there are as many octets as it has, and the two highest bits of the
first one name the version. -/
def Heads (octets : List UInt8) : Prop :=
  headerSize ≤ octets.length ∧ octets.head?.map (fun a : UInt8 => a >>> 6) = some 0b10

lemma shiftRight_eq_two_iff (a : UInt8) : a >>> 6 = 0b10 ↔ a.toNat / 64 = knownVersion.toNat := by
  rw [← UInt8.toNat_inj, UInt8.toNat_shiftRight, Nat.shiftRight_eq_div_pow]
  rfl

/-- **What can be read** are the octets that a header stands in front of. -/
lemma exists_decode_iff : (∃ h, decode octets = .ok h) ↔ Heads octets := by
  constructor
  · rintro ⟨h, hread⟩
    unfold decode at hread
    split at hread
    · next a _ _ _ _ _ _ _ _ _ _ _ rest =>
      split at hread
      · next hknown =>
        refine ⟨?_, congrArg some ((shiftRight_eq_two_iff a).mpr hknown)⟩
        simp only [headerSize, List.length_cons]
        omega
      · cases hread
    · cases hread
  · rintro ⟨hlong, hversion⟩
    rw [headerSize] at hlong
    iterate 12
      cases octets with
      | nil => simp at hlong
      | cons a octets => ?_
    have hknown := (shiftRight_eq_two_iff _).mp (Option.some.inj hversion)
    exact ⟨_, if_pos hknown⟩

lemma toNat_decide_mod_two (n : Nat) : (decide (n % 2 = 1)).toNat = n % 2 := by
  rcases Nat.mod_two_eq_zero_or_one n with hn | hn <;> simp [hn]

/-- **Writing gives back what was read.** -/
lemma encode_of_decode (hread : decode octets = .ok h) : h.encode = octets.take headerSize := by
  unfold decode at hread
  split at hread
  · next a b s₁ s₂ t₁ t₂ t₃ t₄ i₁ i₂ i₃ i₄ rest =>
    split at hread
    · obtain rfl : ofOctets a b s₁ s₂ t₁ t₂ t₃ t₄ i₁ i₂ i₃ i₄ = h := Except.ok.inj hread
      have ha := a.toNat_lt
      have hb := b.toNat_lt
      have hleading : (ofOctets a b s₁ s₂ t₁ t₂ t₃ t₄ i₁ i₂ i₃ i₄).leading = a := by
        apply UInt8.toNat_inj.mp
        rw [toNat_leading]
        simp only [ofOctets, UInt8.toNat_ofNat', toNat_decide_mod_two]
        omega
      have hsecond : (ofOctets a b s₁ s₂ t₁ t₂ t₃ t₄ i₁ i₂ i₃ i₄).second = b := by
        have hbit : b.toNat / 128 = b.toNat / 128 % 2 := by omega
        apply UInt8.toNat_inj.mp
        rw [toNat_second]
        simp only [ofOctets, UInt8.toNat_ofNat']
        rw [hbit, toNat_decide_mod_two]
        omega
      rw [encode, hleading, hsecond]
      simp only [ofOctets, Octets.ofWord16_toWord16, Octets.ofWord32_toWord32]
      rfl
    · cases hread
  · cases hread

/-! ## Numbers that are too large -/

/-- The header with its numbers cut to their places. -/
def trimmed (h : Header) : Header :=
  { h with
    version := UInt8.ofNat (h.version.toNat % 4)
    csrcCount := UInt8.ofNat (h.csrcCount.toNat % 16)
    payloadType := UInt8.ofNat (h.payloadType.toNat % 128) }

lemma encode_trimmed (h : Header) : h.trimmed.encode = h.encode := by
  have hleading : h.trimmed.leading = h.leading := by
    apply UInt8.toNat_inj.mp
    rw [toNat_leading, toNat_leading]
    simp only [trimmed, UInt8.toNat_ofNat']
    omega
  have hsecond : h.trimmed.second = h.second := by
    apply UInt8.toNat_inj.mp
    rw [toNat_second, toNat_second]
    simp only [trimmed, UInt8.toNat_ofNat']
    omega
  rw [encode, encode, hleading, hsecond]
  rfl

lemma fits_trimmed (hversion : h.version.toNat % 4 = knownVersion.toNat) : h.trimmed.Fits := by
  refine ⟨?_, ?_, ?_⟩
  · show UInt8.ofNat (h.version.toNat % 4) = knownVersion
    rw [hversion]
    rfl
  · show (UInt8.ofNat (h.csrcCount.toNat % 16)).toNat ≤ 15
    rw [UInt8.toNat_ofNat']
    omega
  · show (UInt8.ofNat (h.payloadType.toNat % 128)).toNat ≤ 127
    rw [UInt8.toNat_ofNat']
    omega

/-- **What is read from any header**: its numbers, cut to their places, and all else as it is.  Only
a version that is cut to another one than the known one is refused. -/
lemma decode_encode_trimmed (h : Header) (rest : List UInt8) :
    decode (h.encode ++ rest) =
      if h.version.toNat % 4 = knownVersion.toNat then .ok h.trimmed
      else .error (.unsupportedVersion (h.version.toNat % 4)) := by
  split
  · next hversion => rw [← encode_trimmed, decode_encode_append (fits_trimmed hversion)]
  · next hversion =>
    have hp := h.padding.toNat_le
    have hx := h.extension.toNat_le
    have htop : h.leading.toNat / 64 = h.version.toNat % 4 := by
      rw [toNat_leading]
      omega
    show (if h.leading.toNat / 64 = knownVersion.toNat then _ else _) = _
    rw [htop, if_neg hversion]

/-! ## All together -/

/-- **One header, twelve octets.**  Headers whose fields fit, and runs of twelve octets that begin
with the version, correspond one to one.  Such a header is read back from in front of any octets.
Octets are read as a header exactly if there are at least twelve and the two highest bits of the
first are `10`; writing that header gives their first twelve.  And the octets of any header at all
are its fields side by side, each cut to its place: a number that is too large is written like what
is left of it, and every other field is read back unharmed. -/
theorem codec_bijective :
    Set.BijOn encode {h | h.Fits} {octets | octets.length = headerSize ∧ Heads octets} ∧
    (∀ (h : Header) rest, h.Fits → decode (h.encode ++ rest) = .ok h) ∧
    (∀ octets, ((∃ h, decode octets = .ok h) ↔ Heads octets) ∧
      ∀ h, decode octets = .ok h → h.encode = octets.take headerSize) ∧
    ∀ h : Header, h.encode = h.packed ∧ h.encode = h.trimmed.encode ∧
      ∀ rest, decode (h.encode ++ rest) =
        if h.version.toNat % 4 = knownVersion.toNat then .ok h.trimmed
        else .error (.unsupportedVersion (h.version.toNat % 4)) := by
  have hback : ∀ h : Header, h.Fits → decode h.encode = .ok h := fun h hfits => by
    simpa using decode_encode_append hfits []
  refine ⟨⟨?_, ?_, ?_⟩, fun h rest hfits => decode_encode_append hfits rest,
    fun octets => ⟨exists_decode_iff, fun h => encode_of_decode⟩,
    fun h => ⟨encode_eq_packed h, (encode_trimmed h).symm, decode_encode_trimmed h⟩⟩
  · intro h hfits
    exact ⟨length_encode h, exists_decode_iff.mp ⟨h, hback h hfits⟩⟩
  · intro h hfits h' hfits' hsame
    rw [← Except.ok.injEq (ε := Refusal), ← hback h hfits, ← hback h' hfits', hsame]
  · rintro octets ⟨hlength, hheads⟩
    obtain ⟨h, hread⟩ := exists_decode_iff.mpr hheads
    refine ⟨h, fits_of_decode hread, ?_⟩
    rw [encode_of_decode hread, List.take_of_length_le hlength.le]

/-- A header with every bit in use is read back, and so is one whose numbers are too large, as far
as they fit: version 6 is cut to 2, 243 sources to 3, and payload type 200 to 72. -/
theorem codec_bijective_full :
    let full : Header := ⟨2, true, true, 15, true, 127, 0xbeef, 0x01020304, 0xfffffffe⟩
    let wide : Header := ⟨6, false, true, 0xf3, false, 200, 1, 2, 3⟩
    decode (full.encode ++ [9, 9]) = .ok full ∧
      wide.encode = [0x93, 0x48, 0, 1, 0, 0, 0, 2, 0, 0, 0, 3] ∧
      decode (wide.encode ++ [9]) = .ok ⟨2, false, true, 3, false, 72, 1, 2, 3⟩ := by
  intro full wide
  have hfits : full.Fits := ⟨rfl, by decide, by decide⟩
  obtain ⟨-, hback, -, hany⟩ := codec_bijective
  exact ⟨hback full [9, 9] hfits, by decide, ((hany wide).2.2 [9]).trans (by decide)⟩

end CbrAudio.Rtp.Header
