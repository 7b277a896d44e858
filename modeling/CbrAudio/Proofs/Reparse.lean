import CbrAudio.Proofs.Wire

/-!
# Read, written and read again

A packet that was read can be written again.  Its header still counts the contributing sources that
were listed behind it, but the list has been passed over and is not written.  So the next reader
takes as many octets for the list as there were, from the front of the payload.

* `Header.fits_of_decode` — a header that was read has no field too large for its place, so writing
  keeps it as it is.
* `Packet.decode_encode_of_fits` — what is read from the octets of any packet with such a header.
* **`reparse_iff`** — a packet that was read survives exactly if it lists no sources.
* `reparse_loses_payload` — one that lists one source and does not.
-/

namespace CbrAudio.Rtp

variable {octets : List UInt8}

namespace Header

variable {h : Header}

/-- Writing keeps a header that was read. -/
lemma fits_of_decode (hread : decode octets = .ok h) : h.Fits := by
  unfold decode at hread
  split at hread
  · next a b s₁ s₂ t₁ t₂ t₃ t₄ i₁ i₂ i₃ i₄ rest =>
    split at hread
    · next hknown =>
      obtain rfl : ofOctets a b s₁ s₂ t₁ t₂ t₃ t₄ i₁ i₂ i₃ i₄ = h := Except.ok.inj hread
      refine ⟨?_, ?_, ?_⟩
      · show UInt8.ofNat (a.toNat / 64) = knownVersion
        rw [hknown]
        rfl
      · show (UInt8.ofNat (a.toNat % 16)).toNat ≤ 15
        rw [UInt8.toNat_ofNat']
        omega
      · show (UInt8.ofNat (b.toNat % 128)).toNat ≤ 127
        rw [UInt8.toNat_ofNat']
        omega
    · cases hread
  · cases hread

end Header

namespace Packet

variable {p : Packet}

lemma header_of_decode (hread : decode octets = .ok p) : Header.decode octets = .ok p.header := by
  rw [decode] at hread
  split at hread
  · cases hread
  · next header hheader =>
    split at hread
    · cases hread
    · obtain rfl : ⟨header, octets.drop header.extent⟩ = p := Except.ok.inj hread
      exact hheader

/-- **What is read from a packet's octets**: its header, and its payload without as many octets as
the list of sources would take. -/
lemma decode_encode_of_fits (hfits : p.header.Fits) :
    decode p.encode =
      if p.payload.length < 4 * p.header.csrcCount.toNat then
        .error (.truncatedSources p.header.extent (headerSize + p.payload.length))
      else .ok ⟨p.header, p.payload.drop (4 * p.header.csrcCount.toNat)⟩ := by
  have hshort : p.encode.length < p.header.extent ↔
      p.payload.length < 4 * p.header.csrcCount.toNat := by
    rw [length_encode, Header.extent]
    omega
  have hdrop : p.encode.drop p.header.extent =
      p.payload.drop (4 * p.header.csrcCount.toNat) := by
    rw [Header.extent, ← List.drop_drop, ← Header.length_encode p.header, encode, List.drop_left]
  have hheader : Header.decode p.encode = .ok p.header :=
    Header.decode_encode_append hfits p.payload
  rw [decode, hheader]
  dsimp only
  rw [hdrop, length_encode]
  rw [length_encode] at hshort
  by_cases h : p.payload.length < 4 * p.header.csrcCount.toNat
  · rw [if_pos h, if_pos (hshort.mpr h)]
  · rw [if_neg h, if_neg fun hlt => h (hshort.mp hlt)]

/-- **A packet survives exactly if it lists no sources.**  Let octets be read as a packet, and let
it be written and read again.  Then its header is counted on for a list that is not there: either
the payload is too short to be taken for it, and the octets are refused, or its front is, and only
the rest is left.  With a count of zero there is nothing to take, whatever the other fields and the
payload are. -/
theorem reparse_iff (hread : decode octets = .ok p) :
    decode p.encode =
        (if p.payload.length < 4 * p.header.csrcCount.toNat then
          .error (.truncatedSources (headerSize + 4 * p.header.csrcCount.toNat)
            (headerSize + p.payload.length))
        else .ok ⟨p.header, p.payload.drop (4 * p.header.csrcCount.toNat)⟩) ∧
      (decode p.encode = .ok p ↔ p.header.csrcCount = 0) := by
  have hagain := decode_encode_of_fits (Header.fits_of_decode (header_of_decode hread))
  refine ⟨hagain, ?_⟩
  rw [hagain]
  constructor
  · -- A payload that is kept whole has had no octet taken from its front.
    intro hsame
    split at hsame
    · cases hsame
    · next hlong =>
      have hpayload : p.payload.drop (4 * p.header.csrcCount.toNat) = p.payload :=
        congrArg Packet.payload (Except.ok.inj hsame)
      have hlength := congrArg List.length hpayload
      rw [List.length_drop] at hlength
      refine UInt8.toNat_inj.mp ?_
      show p.header.csrcCount.toNat = 0
      omega
  · intro hnone
    have hzero : 4 * p.header.csrcCount.toNat = 0 := by
      rw [hnone]
      rfl
    rw [hzero, if_neg (Nat.not_lt_zero _), List.drop_zero]

/-- One source is listed, and six octets of payload follow: the first four are gone when the packet
is read again. -/
theorem reparse_iff_one_source :
    let octets : List UInt8 :=
      [0x81, 0, 0, 1, 0, 0, 0, 0, 0, 0, 0, 7, 0xaa, 0xaa, 0xaa, 0xaa, 1, 2, 3, 4, 5, 6]
    ∃ p, decode octets = .ok p ∧ p.payload = [1, 2, 3, 4, 5, 6] ∧
      decode p.encode = .ok ⟨p.header, [5, 6]⟩ ∧ decode p.encode ≠ .ok p := by
  intro octets
  obtain ⟨p, hread⟩ : ∃ p, decode octets = .ok p := ⟨_, rfl⟩
  obtain rfl := Except.ok.inj hread
  obtain ⟨hagain, hiff⟩ := reparse_iff hread
  exact ⟨_, hread, rfl, hagain, fun hsame => absurd (hiff.mp hsame) (by decide)⟩

/-- One source is listed, and two octets of payload follow: the packet is refused when it is read
again. -/
theorem reparse_loses_payload :
    let octets : List UInt8 :=
      [0x81, 0, 0, 1, 0, 0, 0, 0, 0, 0, 0, 7, 0xaa, 0xaa, 0xaa, 0xaa, 9, 9]
    ∃ p, decode octets = .ok p ∧ p.payload = [9, 9] ∧
      decode p.encode = .error (.truncatedSources 16 14) :=
  ⟨_, rfl, rfl, rfl⟩

end Packet

end CbrAudio.Rtp
