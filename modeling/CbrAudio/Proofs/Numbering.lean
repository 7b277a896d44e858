import CbrAudio.Proofs.Wire

/-!
# Numbers on the wire

A session does not stop at a refusal: the next packet gets the next number.

* `Sink.Reply`, `Sink.replies` — packets offered one after the other, whatever the answers are.
* `Session.replies_sink` — **the session law**: the receiver behind a session is offered the packets
  of the session, its answers come back as they are, and only the next number moves.
* **`session_law`** — what that comes to, field by field, and that every packet is read back from
  its octets.
-/

namespace CbrAudio

variable {σ α : Type}

namespace Sink

/-- An answer to an offer, and the states of the receiver around it. -/
structure Reply (σ : Type) where
  before : σ
  answer : Except Fault Unit
  after : σ

/-- **Offers one after the other.**  No answer keeps the next offer from being made. -/
def replies (sink : Sink σ α) : List α → σ → List (Reply σ)
  | [], _ => []
  | a :: rest, s =>
    ⟨s, (sink.offer a s).1, (sink.offer a s).2⟩ :: sink.replies rest (sink.offer a s).2

end Sink

namespace Rtp.Session

/-! ## Offers to a session -/

/-- **Packets of a session** reach the receiver behind it whatever it answers, and the session
counts on. -/
lemma replies_sink (inner : Sink σ Packet) (packets : List CbrAudio.Packet) (s : Session) (t : σ) :
    (sink inner).replies packets (s, t) =
      (inner.replies (s.frames packets) t).mapIdx fun n reply =>
        ⟨(s.numbered n, reply.before), reply.answer, (s.numbered (n + 1), reply.after)⟩ := by
  induction packets generalizing s t with
  | nil => rfl
  | cons packet rest ih =>
      have hrest := ih (s.frame packet).2 (inner.offer (s.frame packet).1 t).2
      have hnext : (s.frame packet).2 = s.numbered 1 := by
        rw [← numbered_succ packet, numbered_zero]
      simp only [numbered_succ] at hrest
      simp only [frames, Sink.replies, List.mapIdx_cons, numbered_zero, ← hnext]
      exact congrArg _ hrest

lemma frames_eq_mapIdx (s : Session) (packets : List CbrAudio.Packet) :
    s.frames packets = packets.mapIdx fun n packet => ((s.numbered n).frame packet).1 := by
  refine List.ext_getElem? fun k => ?_
  rw [getElem?_frames, List.getElem?_mapIdx]

/-! ## The numbers as they are -/

lemma numbered_eq (s : Session) (n : Nat) :
    s.numbered n = { s with sequence := UInt16.ofNat (s.sequence.toNat + n) } := by
  rw [numbered, UInt16.ofNat_add, UInt16.ofNat_toNat]

/-- What a session writes in front of a payload. -/
lemma header_numbered (s : Session) (n : Nat) (packet : CbrAudio.Packet) :
    (s.numbered n).header packet = {
      version := 2
      padding := false
      extension := false
      csrcCount := 0
      marker := packet.marker
      payloadType := UInt8.ofNat (packet.payloadType.toNat % 128)
      sequence := UInt16.ofNat (s.sequence.toNat + n)
      timestamp := UInt32.ofNat (s.base.toNat + packet.offset.toNat)
      ssrc := s.ssrc } := by
  rw [numbered_eq, UInt32.ofNat_add, UInt32.ofNat_toNat, UInt32.ofNat_toNat]
  rfl

end Rtp.Session

/-- **The session law.**  However many packets are offered to a session, and whichever of them the
receiver behind it refuses: for the `n`-th one (from 0) that receiver is offered one packet, framed
as written out here, and what it answers is the answer.  Then the session has moved by one number,
and nothing else of it has changed.  Each of these packets is read back from its octets. -/
theorem session_law (inner : Sink σ Rtp.Packet) (session : Rtp.Session) (packets : List Packet)
    (t : σ) :
    let framed : List Rtp.Packet := packets.mapIdx fun n packet => {
      header := {
        version := 2
        padding := false
        extension := false
        csrcCount := 0
        marker := packet.marker
        payloadType := UInt8.ofNat (packet.payloadType.toNat % 128)
        sequence := UInt16.ofNat (session.sequence.toNat + n)
        timestamp := UInt32.ofNat (session.base.toNat + packet.offset.toNat)
        ssrc := session.ssrc }
      payload := packet.payload }
    let counted (n : Nat) : Rtp.Session :=
      { session with sequence := UInt16.ofNat (session.sequence.toNat + n) }
    (Rtp.Session.sink inner).replies packets (session, t) =
        (inner.replies framed t).mapIdx (fun n reply =>
          ⟨(counted n, reply.before), reply.answer, (counted (n + 1), reply.after)⟩) ∧
      ∀ packet ∈ framed, Rtp.Packet.decode packet.encode = .ok packet := by
  intro framed counted
  have hframed : session.frames packets = framed := by
    rw [Rtp.Session.frames_eq_mapIdx]
    refine congrArg (packets.mapIdx ·) (funext fun n => funext fun packet => ?_)
    exact congrArg (Rtp.Packet.mk · packet.payload) (session.header_numbered n packet)
  have hcounted : session.numbered = counted := funext session.numbered_eq
  rw [← hframed, ← hcounted]
  exact ⟨session.replies_sink inner packets t, session.decode_encode_of_mem_frames packets⟩

/-- Two packets at the end of all numbers.  The first one is refused, and has its number all the
same. -/
example :
    let busy : Sink (List UInt16) Rtp.Packet := {
      offer packet seen :=
        (if seen = [] then .error (.rejected "busy") else .ok (),
          seen ++ [packet.header.sequence]) }
    let packet : Packet := ⟨200, true, true, none, 3, [1, 2]⟩
    let session : Rtp.Session := ⟨9, 65535, 4294967295⟩
    ((Rtp.Session.sink busy).replies [packet, packet] (session, [])).map
        (fun reply => (reply.answer.isOk, reply.after)) =
      [(false, ⟨9, 0, 4294967295⟩, [65535]), (true, ⟨9, 1, 4294967295⟩, [65535, 0])] := by
  decide

end CbrAudio
