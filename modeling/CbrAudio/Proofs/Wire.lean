import CbrAudio.Proofs.Delivery
import CbrAudio.Rtp.Session

/-!
# On the wire and back

What a session makes of packets, and what is read from their octets.

* `Header.Fits` — no field is too large for its place.  **`Header.decode_encode_append`**: such a
  header is read back from in front of any octets, and `Packet.decode_encode` from its packet.
* `Session.frames` — the packets of a session.  They are what the receiver behind it is offered
  (`seen_sink`), and `getElem?_frames` says what each of them carries: the numbers count up from
  the first one, modulo 2¹⁶.
-/

namespace CbrAudio.Rtp

/-! ## Headers -/

namespace Header

/-- Every field fits its place, and the version is the one there is. -/
structure Fits (h : Header) : Prop where
  version : h.version = knownVersion
  csrcCount : h.csrcCount.toNat ≤ 15
  payloadType : h.payloadType.toNat ≤ 127

variable {h : Header}

/-- The fields of the first octet, by place value. -/
lemma toNat_leading (h : Header) :
    h.leading.toNat = h.version.toNat % 4 * 64 + h.padding.toNat * 32 + h.extension.toNat * 16
      + h.csrcCount.toNat % 16 := by
  have hp := h.padding.toNat_le
  have hx := h.extension.toNat_le
  rw [leading, UInt8.toNat_ofNat']
  omega

lemma toNat_second (h : Header) :
    h.second.toNat = h.marker.toNat * 128 + h.payloadType.toNat % 128 := by
  have hm := h.marker.toNat_le
  rw [second, UInt8.toNat_ofNat']
  omega

lemma decide_toNat_eq_one (b : Bool) : decide (b.toNat = 1) = b := by
  cases b <;> rfl

lemma ofOctets_encode (hfits : h.Fits) :
    ofOctets h.leading h.second
        (UInt8.ofNat (h.sequence.toNat / 256)) (UInt8.ofNat h.sequence.toNat)
        (UInt8.ofNat (h.timestamp.toNat / 16777216)) (UInt8.ofNat (h.timestamp.toNat / 65536))
        (UInt8.ofNat (h.timestamp.toNat / 256)) (UInt8.ofNat h.timestamp.toNat)
        (UInt8.ofNat (h.ssrc.toNat / 16777216)) (UInt8.ofNat (h.ssrc.toNat / 65536))
        (UInt8.ofNat (h.ssrc.toNat / 256)) (UInt8.ofNat h.ssrc.toNat) = h := by
  have hp := h.padding.toNat_le
  have hx := h.extension.toNat_le
  have hm := h.marker.toNat_le
  have hversion : h.version.toNat = 2 := congrArg UInt8.toNat hfits.version
  have hcsrc := hfits.csrcCount
  have htype := hfits.payloadType
  -- Every field is a digit of its octet, because all digits are within their bounds.
  have h₁ : h.leading.toNat / 64 = h.version.toNat := by rw [toNat_leading]; omega
  have h₂ : h.leading.toNat / 32 % 2 = h.padding.toNat := by rw [toNat_leading]; omega
  have h₃ : h.leading.toNat / 16 % 2 = h.extension.toNat := by rw [toNat_leading]; omega
  have h₄ : h.leading.toNat % 16 = h.csrcCount.toNat := by rw [toNat_leading]; omega
  have h₅ : h.second.toNat / 128 = h.marker.toNat := by rw [toNat_second]; omega
  have h₆ : h.second.toNat % 128 = h.payloadType.toNat := by rw [toNat_second]; omega
  simp only [ofOctets, h₁, h₂, h₃, h₄, h₅, h₆, UInt8.ofNat_toNat, decide_toNat_eq_one,
    Octets.toWord16_ofWord16, Octets.toWord32_ofWord32]

/-- **A header is read back**, whatever octets are behind it. -/
theorem decode_encode_append (hfits : h.Fits) (rest : List UInt8) :
    decode (h.encode ++ rest) = .ok h := by
  have hversion : h.version.toNat = 2 := congrArg UInt8.toNat hfits.version
  have hknown : h.leading.toNat / 64 = knownVersion.toNat := by
    have hp := h.padding.toNat_le
    have hx := h.extension.toNat_le
    show h.leading.toNat / 64 = 2
    rw [toNat_leading]
    omega
  show (if h.leading.toNat / 64 = knownVersion.toNat then _ else _) = Except.ok h
  rw [if_pos hknown, ofOctets_encode hfits]

end Header

/-! ## Packets -/

/-- **A packet is read back**, if no other sources are listed between header and payload. -/
theorem Packet.decode_encode {p : Packet} (hfits : p.header.Fits) (hc : p.header.csrcCount = 0) :
    Packet.decode p.encode = .ok p := by
  have hextent : p.header.extent = headerSize := by
    rw [Header.extent, hc]
    rfl
  have hlong : ¬ p.encode.length < p.header.extent := by
    rw [Packet.length_encode, hextent]
    omega
  rw [Packet.decode, Packet.encode, Header.decode_encode_append hfits, ← Packet.encode]
  simp only [if_neg hlong]
  rw [hextent, Packet.encode, ← Header.length_encode p.header, List.drop_left]

/-! ## Sessions -/

namespace Session

variable {σ : Type}

/-- The packets of a session, one after the other. -/
def frames (s : Session) : List CbrAudio.Packet → List Packet
  | [] => []
  | p :: rest => (s.frame p).1 :: frames (s.frame p).2 rest

lemma header_fits (p : CbrAudio.Packet) (s : Session) : (s.header p).Fits := by
  refine ⟨rfl, Nat.zero_le _, ?_⟩
  show (UInt8.ofNat (p.payloadType.toNat % 128)).toNat ≤ 127
  rw [UInt8.toNat_ofNat']
  omega

/-- Every packet of a session is read back. -/
lemma decode_encode_of_mem_frames (s : Session) (packets : List CbrAudio.Packet) :
    ∀ framed ∈ s.frames packets, Packet.decode framed.encode = .ok framed := by
  induction packets generalizing s with
  | nil => simp [frames]
  | cons p rest ih =>
      intro framed hframed
      rcases List.mem_cons.mp hframed with rfl | hframed
      · exact Packet.decode_encode (s.header_fits p) rfl
      · exact ih _ framed hframed

lemma map_payload_frames (s : Session) (packets : List CbrAudio.Packet) :
    (s.frames packets).map Packet.payload = packets.map CbrAudio.Packet.payload := by
  induction packets generalizing s with
  | nil => rfl
  | cons p rest ih =>
      rw [frames, List.map_cons, List.map_cons, ih]
      rfl

lemma flatMap_payload_frames (s : Session) (packets : List CbrAudio.Packet) :
    (s.frames packets).flatMap Packet.payload = packets.flatMap CbrAudio.Packet.payload := by
  rw [List.flatMap_def, List.flatMap_def, map_payload_frames]

lemma take_frames (k : Nat) (s : Session) (packets : List CbrAudio.Packet) :
    (s.frames packets).take k = s.frames (packets.take k) := by
  induction packets generalizing s k with
  | nil => simp [frames]
  | cons p rest ih =>
      cases k with
      | zero => rfl
      | succ k => rw [frames, List.take_succ_cons, List.take_succ_cons, frames, ih]

/-- The session when `k` packets have been numbered. -/
def numbered (k : Nat) (s : Session) : Session :=
  { s with sequence := s.sequence + UInt16.ofNat k }

lemma numbered_zero (s : Session) : s.numbered 0 = s := by
  have hzero : s.sequence + UInt16.ofNat 0 = s.sequence := UInt16.add_zero s.sequence
  rw [numbered, hzero]

lemma numbered_succ (p : CbrAudio.Packet) (k : Nat) (s : Session) :
    (s.frame p).2.numbered k = s.numbered (k + 1) := by
  have hcount : s.sequence + 1 + UInt16.ofNat k = s.sequence + UInt16.ofNat (k + 1) := by
    rw [UInt16.add_assoc, UInt16.add_comm 1, UInt16.ofNat_add]
    rfl
  simp only [frame, numbered, hcount]

/-- **Packets are numbered** by their place. -/
lemma getElem?_frames (s : Session) (packets : List CbrAudio.Packet) (k : Nat) :
    (s.frames packets)[k]? = packets[k]?.map fun p => ((s.numbered k).frame p).1 := by
  induction packets generalizing s k with
  | nil => rfl
  | cons p rest ih =>
      cases k with
      | zero =>
          rw [numbered_zero]
          rfl
      | succ k =>
          show (frames (s.frame p).2 rest)[k]? = rest[k]?.map _
          rw [ih, numbered_succ]

lemma accepts_sink {inner : Sink σ Packet} (h : inner.Accepts) : (sink inner).Accepts :=
  fun p s => h (s.1.frame p).1 s.2

/-- **The receiver behind a session** sees the packets of the session. -/
lemma seen_sink (inner : Sink σ Packet) (packets : List CbrAudio.Packet) (s : Session) (t : σ) :
    ((sink inner).seen packets (s, t)).2 = inner.seen (s.frames packets) t := by
  induction packets generalizing s t with
  | nil => rfl
  | cons p rest ih => exact ih (s.frame p).2 (inner.offer (s.frame p).1 t).2

end Session

end CbrAudio.Rtp
