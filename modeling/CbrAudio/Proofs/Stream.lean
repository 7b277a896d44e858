import CbrAudio.Proofs.Bounds
import CbrAudio.Proofs.Conservation
import CbrAudio.Proofs.Wire

/-!
# A stream on the wire

What goes in as chunks comes out as framed packets, when the receiver takes whatever it is offered.

* `Paced` — every packet carries the time of the bytes before it.
* `Passage` — **what is carried through a run**: the packets sent on the way from one state to
  another are paced, and hold the bytes that came in but for what waits.  Passages compose
  (`Passage.trans`); a delivery of cuts and a chunk that joins are passages.
* `Effect.Smooth` — work that goes through, with its passage.  `perform_smooth` shows it of every
  request that feeds, and `run_smooth` of every run of such requests, through
  `Packetizer.Settled`: less waits between two of them than the smallest payload.
* **`stream_arrives`** — from the chunks to the octets of each packet and back.
-/

namespace CbrAudio

variable {σ α : Type}

/-! ## Pace -/

/-- Every packet carries the time of the bytes before it, `before` of which are older than the
first packet. -/
def Paced (g : Geometry) (clockRate : UInt32) : Nat → List Packet → Prop
  | _, [] => True
  | before, packet :: rest =>
    packet.offset = g.ticks before clockRate ∧
      Paced g clockRate (before + packet.payload.length) rest

section Pace

variable {g : Geometry} {clockRate : UInt32}

lemma Paced.append {before : Nat} {first second : List Packet} (h : Paced g clockRate before first)
    (h' : Paced g clockRate (before + (first.flatMap Packet.payload).length) second) :
    Paced g clockRate before (first ++ second) := by
  induction first generalizing before with
  | nil => exact h'
  | cons packet rest ih =>
      refine ⟨h.1, ih h.2 ?_⟩
      rw [Nat.add_assoc, ← List.length_append]
      exact h'

lemma Paced.offset_eq {before : Nat} {packets : List Packet} (h : Paced g clockRate before packets)
    {k : Nat} {packet : Packet} (hk : packets[k]? = some packet) :
    packet.offset =
      g.ticks (before + ((packets.take k).flatMap Packet.payload).length) clockRate := by
  induction packets generalizing before k with
  | nil => simp at hk
  | cons first rest ih =>
      cases k with
      | zero =>
          obtain rfl : first = packet := by simpa using hk
          exact h.1
      | succ k =>
          rw [List.take_succ_cons, List.flatMap_cons, List.length_append, ← Nat.add_assoc]
          exact ih h.2 hk

end Pace

namespace Packetizer

variable {g : Geometry} {plan : List Nat} {p : Packetizer}

lemma paced_packets (g : Geometry) (hfit : plan.sum ≤ p.backlog.size) :
    Paced g p.limits.clockRate p.sent (p.packets g plan) := by
  induction plan generalizing p with
  | nil => trivial
  | cons n plan ih =>
      rw [List.sum_cons] at hfit
      have hrest : plan.sum ≤ (p.departed n).backlog.size := by
        rw [size_departed]
        omega
      -- The cut is as long as planned, so the next packet starts where the state behind it says.
      refine ⟨rfl, ?_⟩
      show Paced g p.limits.clockRate (p.sent + (p.backlog.front n).length) _
      rw [Backlog.length_front, Nat.min_eq_left (by omega)]
      exact ih (p := p.departed n) hrest

lemma sent_departedAll (plan : List Nat) (p : Packetizer) :
    (p.departedAll plan).sent = p.sent + plan.sum := by
  induction plan generalizing p with
  | nil => rfl
  | cons n plan ih =>
      rw [departedAll, List.foldl_cons, ← departedAll, ih, List.sum_cons, ← Nat.add_assoc]
      rfl

lemma length_bytes_packets (g : Geometry) (hfit : plan.sum ≤ p.backlog.size) :
    ((p.packets g plan).flatMap Packet.payload).length = plan.sum := by
  rw [List.length_flatMap, map_length_packets g hfit]

end Packetizer

/-! ## Passages -/

/-- **A passage**: the packets `packets` have been sent on the way from one state to another, while
the bytes `came` came in. -/
structure Passage (sink : Sink σ Packet) (g : Geometry) (packets : List Packet)
    (came : List UInt8) (p : Packetizer) (s : σ) (q : Packetizer) (t : σ) : Prop where
  setup : p.SameSetup q
  receiver : t = sink.seen packets s
  bytes : packets.flatMap Packet.payload ++ q.backlog.contents = p.backlog.contents ++ came
  paced : Paced g p.limits.clockRate p.sent packets
  sent : q.sent = p.sent + (packets.flatMap Packet.payload).length

namespace Passage

variable {sink : Sink σ Packet} {g : Geometry} {p q r : Packetizer} {s t u : σ}
  {packets packets' : List Packet} {came came' : List UInt8}

lemma refl (p : Packetizer) (s : σ) : Passage sink g [] [] p s p s where
  setup := ⟨rfl, rfl⟩
  receiver := rfl
  bytes := (List.append_nil _).symm
  paced := trivial
  sent := rfl

/-- **Passages compose.** -/
lemma trans (h : Passage sink g packets came p s q t) (h' : Passage sink g packets' came' q t r u) :
    Passage sink g (packets ++ packets') (came ++ came') p s r u where
  setup := h.setup.trans h'.setup
  receiver := by
    rw [h'.receiver, h.receiver, Sink.seen, Sink.seen, Sink.seen, List.foldl_append]
  bytes := by
    rw [List.flatMap_append, List.append_assoc, h'.bytes, ← List.append_assoc, h.bytes,
      List.append_assoc]
  paced := by
    have hlater := h'.paced
    rw [h.setup.2, h.sent] at hlater
    exact h.paced.append hlater
  sent := by
    rw [h'.sent, h.sent, List.flatMap_append, List.length_append, Nat.add_assoc]

/-- The mark of a gap is not seen by a passage. -/
lemma marked (h : Passage sink g packets came p s q t) :
    Passage sink g packets came p s { q with gap := true } t :=
  ⟨h.setup, h.receiver, h.bytes, h.paced, h.sent⟩

/-- Cuts that all leave are a passage. -/
lemma departedAll {plan : List Nat} (hfit : plan.sum ≤ p.backlog.size) (s : σ) :
    Passage sink g (p.packets g plan) [] p s (p.departedAll plan)
      (sink.seen (p.packets g plan) s) where
  setup := ⟨(Packetizer.departedAll_setup plan p).1, (Packetizer.departedAll_setup plan p).2.1⟩
  receiver := rfl
  bytes := by rw [List.append_nil, Packetizer.packets_append_departedAll]
  paced := Packetizer.paced_packets g hfit
  sent := by rw [Packetizer.sent_departedAll, Packetizer.length_bytes_packets g hfit]

/-- So is a chunk that joins the waiting bytes. -/
lemma joined (chunk : Chunk) (p : Packetizer) (s : σ) :
    Passage sink g [] chunk.data p s (p.joined chunk) s where
  setup := ⟨rfl, rfl⟩
  receiver := rfl
  bytes := Packetizer.contents_joined chunk p
  paced := trivial
  sent := rfl

/-- And a chunk that leaves as it is. -/
lemma emitted {chunk : Chunk} (hempty : p.backlog.contents = []) (stamp : Option UInt64) (s : σ) :
    Passage sink g [p.packet g chunk.data stamp] chunk.data p s
      ({ p with phase := .active }.emitted chunk.data.length)
      (sink.seen [p.packet g chunk.data stamp] s) where
  setup := ⟨rfl, rfl⟩
  receiver := rfl
  bytes := by
    show ([p.packet g chunk.data stamp].flatMap Packet.payload) ++ p.backlog.contents = _
    rw [hempty, List.flatMap_singleton, List.append_nil, List.nil_append]
    rfl
  paced := ⟨rfl, trivial⟩
  sent := by
    rw [List.flatMap_singleton]
    rfl

end Passage

namespace Effect

variable {sink : Sink σ Packet} {g : Geometry} {p : Packetizer} {s : σ} {plan : List Nat}
  {came came' : List UInt8}

/-- **Work that goes through**: it ends well, and what it does is a passage. -/
structure Smooth (sink : Sink σ Packet) (g : Geometry) (came : List UInt8) (p : Packetizer) (s : σ)
    (e : Effect σ α) (a : α) : Prop where
  result : e.result = .ok a
  passage : Passage sink g (e.offers.map Offer.packet) came p s e.packetizer e.sink

lemma Smooth.give {e : Effect σ Unit} (h : Smooth sink g came p s e ()) (a : α) :
    Smooth sink g came p s (e.give a) a where
  result := by
    rw [Effect.give, h.result]
    rfl
  passage := h.passage

lemma Smooth.marked {e : Effect σ α} {a : α} (h : Smooth sink g came p s e a) :
    Smooth sink g came p s e.marked a :=
  ⟨h.result, h.passage.marked⟩

lemma Smooth.after {β : Type} {e : Effect σ α} {e' : Effect σ β} {a : α} {b : β}
    (h : Smooth sink g came p s e a) (h' : Smooth sink g came' e.packetizer e.sink e' b) :
    Smooth sink g (came ++ came') p s (e'.after e.offers) b where
  result := h'.result
  passage := by
    rw [after_offers, List.map_append]
    exact h.passage.trans h'.passage

lemma map_packet_taken (packets : List Packet) :
    (packets.map Offer.taken).map Offer.packet = packets := by
  rw [List.map_map]
  exact List.map_id packets

/-- A delivery of cuts goes through if nothing is refused. -/
lemma carving_smooth (hsink : sink.Accepts) (hfit : plan.sum ≤ p.backlog.size) :
    Smooth sink g [] p s (carving sink g plan p s) () := by
  rw [carving_of_accepts hsink]
  refine ⟨rfl, ?_⟩
  rw [map_packet_taken]
  exact Passage.departedAll hfit s

end Effect

namespace Packetizer

variable {sink : Sink σ Packet} {g : Geometry} {p : Packetizer} {s : σ} {chunk : Chunk}
  {l : Lengths}

lemma accept_smooth (hsink : sink.Accepts) (hg : p.layout = .ok g) :
    Effect.Smooth sink g chunk.data p s (accept chunk l sink p s).effect () := by
  by_cases hpass : p.Passes chunk l
  · have hempty : p.backlog.contents = [] := by
      exact p.backlog.contents_eq_nil_iff.mpr hpass.1
    rw [effect_accept_through hg hpass]
    exact ⟨hsink _ s, Passage.emitted hempty chunk.stamp s⟩
  · have hjoin : Passage sink g [] chunk.data p s (p.joined chunk) s := Passage.joined chunk p s
    have hcarve : Effect.Smooth sink g [] (p.joined chunk) s _ () :=
      Effect.carving_smooth hsink (sum_cuts_joined_le chunk l p)
    rw [effect_accept_enqueue hg hpass]
    refine ⟨hcarve.result, ?_⟩
    have hboth := hjoin.trans hcarve.passage
    rwa [List.nil_append, List.append_nil] at hboth

/-- **A chunk goes through**, whether it is behind a gap or not. -/
lemma handle_smooth (hsink : sink.Accepts) (hl : p.lengths = .ok l) (hg : p.layout = .ok g) :
    Effect.Smooth sink g chunk.data p s (handle chunk sink p s).effect () := by
  cases hgap : chunk.gap with
  | false =>
      rw [effect_handle_plain hl hgap]
      exact accept_smooth hsink hg
  | true =>
      have hbreak : Effect.Smooth sink g [] p s (Effect.breaking sink g p s) () :=
        (Effect.carving_smooth hsink (sum_remainder p)).marked
      have hlayout : (Effect.breaking sink g p s).packetizer.layout = .ok g := by
        rw [← hg]
        exact hbreak.passage.setup.layout_eq
      rw [effect_handle_gap_of_ok hl hg hgap hbreak.result]
      exact hbreak.after (accept_smooth hsink hlayout)

end Packetizer

namespace Operation

/-- The bytes that come with a request. -/
def data : Operation → List UInt8
  | .handle chunk => chunk.data
  | _ => []

variable {sink : Sink σ Packet} {g : Geometry} {p : Packetizer} {s : σ} {l : Lengths}

/-- **Every request that feeds goes through**, if nothing is refused. -/
theorem perform_smooth (hsink : sink.Accepts) (hl : p.lengths = .ok l) (hg : p.layout = .ok g)
    {op : Operation} (hop : op.feeds) :
    Effect.Smooth sink g op.data p s (op.perform sink p s).effect [] := by
  have hflush : Effect.Smooth sink g [] p s (Effect.carving sink g p.remainder p s) () :=
    Effect.carving_smooth hsink (Packetizer.sum_remainder p)
  cases op with
  | handle chunk =>
      rw [effect_perform_handle]
      exact (Packetizer.handle_smooth hsink hl hg).give []
  | discontinuity =>
      rw [effect_perform_discontinuity, Packetizer.effect_flush_all fun _ => hg]
      exact (hflush.marked).give []
  | endOfStream =>
      rw [effect_perform_endOfStream, Packetizer.effect_flush_all fun _ => hg]
      exact hflush.give []
  | _ => cases hop

end Operation

/-! ## Runs -/

/-- There are legal lengths, and less waits than the smallest of them. -/
structure Packetizer.Settled (g : Geometry) (l : Lengths) (p : Packetizer) : Prop where
  layout : p.layout = .ok g
  lengths : p.lengths = .ok l
  left : p.backlog.size < l.min

namespace Operation

variable {sink : Sink σ Packet} {g : Geometry} {p : Packetizer} {s : σ} {l : Lengths}
  {ops : List Operation}

/-- A request that feeds leaves too little for a packet, if nothing is refused. -/
lemma perform_settled (hsink : sink.Accepts) {op : Operation} (hop : op.feeds)
    (hp : p.Settled g l) : (op.perform sink p s).packetizer.Settled g l := by
  have hsmooth : Effect.Smooth sink g op.data p s (op.perform sink p s).effect [] :=
    perform_smooth hsink hp.lengths hp.layout hop
  have hsetup := hsmooth.passage.setup
  refine ⟨hsetup.layout_eq.trans hp.layout, ?_, ?_⟩
  · rw [← hp.lengths]
    exact Packetizer.lengths_eq hsetup.1 hsetup.2
  · rcases (Packetizer.perform_fed hp.lengths hop sink s).left with h | ⟨-, hrefused⟩
    · exact h
    · obtain ⟨front, packet, fault, -, hr⟩ := hrefused
      rw [hsmooth.result] at hr
      cases hr

/-- A request that feeds keeps to the limits, if so little waits. -/
lemma perform_within {op : Operation} (hop : op.feeds) (hp : p.Settled g l) (sink : Sink σ Packet)
    (s : σ) : (op.perform sink p s).effect.Within l.max := by
  have hfits : p.backlog.size ≤ l.max :=
    Nat.le_of_lt (Nat.lt_of_lt_of_le hp.left l.min_le_max)
  exact (Packetizer.perform_fed hp.lengths hop sink s).within_iff.mpr fun _ => hfits

/-- **A run goes through**: every request ends well and keeps to the limits, and all of it is one
passage.  The induction carries `Settled` from request to request. -/
theorem run_smooth (hsink : sink.Accepts) (hops : ∀ op ∈ ops, op.feeds) (hp : p.Settled g l) :
    (∀ step ∈ history sink ops p s,
        step.outcome.result = .ok [] ∧ step.outcome.effect.Within l.max) ∧
      Passage sink g ((history sink ops p s).flatMap Step.packets) (ops.flatMap data) p s
        (performAll sink ops p s).1 (performAll sink ops p s).2 ∧
      (performAll sink ops p s).1.Settled g l := by
  induction ops generalizing p s with
  | nil => exact ⟨by simp [history], Passage.refl p s, hp⟩
  | cons op ops ih =>
      have hop : op.feeds := hops op (by simp)
      have hfirst : Effect.Smooth sink g op.data p s (op.perform sink p s).effect [] :=
        perform_smooth hsink hp.lengths hp.layout hop
      obtain ⟨hsteps, hrest, hend⟩ :=
        ih (s := (op.perform sink p s).sink) (fun o ho => hops o (by simp [ho]))
          (perform_settled hsink hop hp)
      refine ⟨?_, hfirst.passage.trans hrest, hend⟩
      intro step hstep
      rcases List.mem_cons.mp hstep with rfl | hstep
      · exact ⟨hfirst.result, perform_within hop hp sink s⟩
      · exact hsteps step hstep

/-- So does one that begins with a layout. -/
theorem run_smooth_of_setup (hsink : sink.Accepts) {setup : Operation} {limits : Limits}
    (hsetup : setup.layout? = some g) (hl : g.lengths limits = .ok l)
    (hops : ∀ op ∈ ops, op.feeds) (logger : Log.Logger) (s : σ) :
    let p := Packetizer.fresh limits logger
    let steps := history sink (setup :: ops) p s
    let final := performAll sink (setup :: ops) p s
    (∀ step ∈ steps, step.outcome.result = .ok [] ∧ step.outcome.effect.Within l.max) ∧
      Passage sink g (steps.flatMap Step.packets) (ops.flatMap data) (p.withGeometry g) s
        final.1 final.2 ∧
      final.1.Settled g l := by
  intro p steps final
  obtain ⟨hfirst, hsteps, hfinal⟩ : (setup.perform sink p s).effect = _ ∧ steps = _ ∧ final = _ :=
    history_setup hsetup limits logger ops
  have hstart : (p.withGeometry g).Settled g l :=
    ⟨Packetizer.layout_withGeometry hl logger, Packetizer.lengths_withGeometry hl logger,
      l.min_pos⟩
  have hresult : (setup.perform sink p s).result = .ok [] := congrArg Effect.result hfirst
  have hnone : (setup.perform sink p s).offers = [] := congrArg Effect.offers hfirst
  obtain ⟨hrest, hpassage, hend⟩ := run_smooth (s := s) hsink hops hstart
  rw [hsteps, hfinal]
  refine ⟨?_, ?_, hend⟩
  · intro step hstep
    rcases List.mem_cons.mp hstep with rfl | hstep
    · refine ⟨hresult, ?_⟩
      rw [hfirst]
      simp [Effect.Within, Effect.idle]
    · exact hrest step hstep
  · rw [List.flatMap_cons, Step.packets, hnone]
    exact hpassage

/-- The end of the stream leaves nothing waiting. -/
lemma contents_endOfStream (hp : p.Settled g l) :
    (perform .endOfStream sink p s).packetizer.backlog.contents = [] := by
  have heffect : (perform .endOfStream sink p s).effect =
      (Effect.carving sink g p.remainder p s).give [] := by
    rw [effect_perform_endOfStream, Packetizer.effect_flush_all fun _ => hp.layout]
  have hstate : (perform .endOfStream sink p s).packetizer =
      (Effect.carving sink g p.remainder p s).packetizer :=
    congrArg Effect.packetizer heffect
  rw [hstate, Backlog.contents_eq_nil_iff]
  exact Packetizer.size_carving_remainder g p s

end Operation

/-! ## End to end -/

namespace Rtp.Session

/-- No framed packet is longer than the header and the longest payload. -/
lemma length_encode_frames_le (s : Session) {packets : List CbrAudio.Packet} {n : Nat}
    (h : ∀ packet ∈ packets, packet.payload.length ≤ n) :
    ∀ framed ∈ s.frames packets, framed.encode.length ≤ headerSize + n := by
  intro framed hframed
  have hmem : framed.payload ∈ (s.frames packets).map Packet.payload := List.mem_map_of_mem hframed
  rw [map_payload_frames] at hmem
  obtain ⟨packet, hpacket, heq⟩ := List.mem_map.mp hmem
  have hle := h packet hpacket
  rw [heq] at hle
  rw [Packet.length_encode]
  omega

/-- **What a framed packet carries**: its number, and the time of the bytes before it. -/
lemma header_of_paced {g : Geometry} {clockRate : UInt32} {packets : List CbrAudio.Packet}
    (h : Paced g clockRate 0 packets) (s : Session) {k : Nat} {framed : Packet}
    (hk : (s.frames packets)[k]? = some framed) :
    framed.header.sequence = s.sequence + UInt16.ofNat k ∧ framed.header.ssrc = s.ssrc ∧
      framed.header.timestamp =
        s.base + g.ticks (((s.frames packets).take k).flatMap Packet.payload).length clockRate := by
  rw [getElem?_frames] at hk
  obtain ⟨packet, hpacket, rfl⟩ := Option.map_eq_some_iff.mp hk
  have hoffset := h.offset_eq hpacket
  refine ⟨rfl, rfl, ?_⟩
  rw [take_frames, flatMap_payload_frames, ← Nat.zero_add (List.length _), ← hoffset]
  rfl

end Rtp.Session

/-- **A stream arrives.**  Chunks of any sizes, with and without time stamps and gaps, and then the
end of the stream: nothing goes wrong, and the receiver behind the session sees packets that fit
the transport and are read back as they are; their payloads are the bytes of the chunks, they are
numbered one after the other, each carries the time of the bytes before it, and nothing waits. -/
theorem stream_arrives (limits : Limits) (logger : Log.Logger) {inner : Sink σ Rtp.Packet}
    (hinner : inner.Accepts) (session : Rtp.Session) (t : σ) {setup : Operation} {g : Geometry}
    {l : Lengths} (hsetup : setup.layout? = some g) (hl : g.lengths limits = .ok l)
    (chunks : List Chunk) :
    let sink := Rtp.Session.sink inner
    let p := Packetizer.fresh limits logger
    let ops := setup :: (chunks.map .handle ++ [.endOfStream])
    let steps := Operation.history sink ops p (session, t)
    let final := Operation.performAll sink ops p (session, t)
    let framed := session.frames (steps.flatMap Step.packets)
    (∀ step ∈ steps, step.outcome.result = .ok []) ∧
      final.2.2 = inner.seen framed t ∧
      (∀ packet ∈ framed, packet.encode.length ≤ limits.mtu.toNat ∧
        Rtp.Packet.decode packet.encode = .ok packet) ∧
      framed.flatMap Rtp.Packet.payload = chunks.flatMap Chunk.data ∧
      (∀ k packet, framed[k]? = some packet →
        packet.header.sequence = session.sequence + UInt16.ofNat k ∧
        packet.header.ssrc = session.ssrc ∧
        packet.header.timestamp = session.base +
          g.ticks ((framed.take k).flatMap Rtp.Packet.payload).length limits.clockRate) ∧
      final.1.backlog.contents = [] := by
  intro sink p ops steps final framed
  have haccepts : sink.Accepts := Rtp.Session.accepts_sink hinner
  have hfeeds : ∀ op ∈ chunks.map Operation.handle, op.feeds := by
    intro op hop
    obtain ⟨chunk, -, rfl⟩ := List.mem_map.mp hop
    rfl
  have hall : ∀ op ∈ chunks.map Operation.handle ++ [.endOfStream], op.feeds := by
    intro op hop
    rcases List.mem_append.mp hop with hop | hop
    · exact hfeeds op hop
    · rw [List.mem_singleton.mp hop]
      rfl
  obtain ⟨hsteps, hpassage, -⟩ :=
    Operation.run_smooth_of_setup haccepts hsetup hl hall logger (session, t)
  have hwaiting : final.1.backlog.contents = [] := by
    obtain ⟨-, -, hsettled⟩ :=
      Operation.run_smooth_of_setup haccepts hsetup hl hfeeds logger (session, t)
    -- The end of the stream is split off, so that the chunks in front of it are a run of their own.
    have hsplit : ops = (setup :: chunks.map .handle) ++ [.endOfStream] := rfl
    have hfinal : final = Operation.performAll sink ops p (session, t) := rfl
    rw [hfinal, hsplit, Operation.performAll_append]
    exact Operation.contents_endOfStream hsettled
  have hcame : (chunks.map Operation.handle ++ [Operation.endOfStream]).flatMap Operation.data =
      chunks.flatMap Chunk.data := by
    rw [List.flatMap_append, List.flatMap_map, List.flatMap_singleton]
    exact List.append_nil _
  have hmtu := Geometry.header_add_max_le_mtu hl
  have hwithin : ∀ packet ∈ steps.flatMap Step.packets, packet.payload.length ≤ l.max := by
    intro packet hpacket
    obtain ⟨step, hstep, hpacket⟩ := List.mem_flatMap.mp hpacket
    obtain ⟨offer, hoffer, rfl⟩ := List.mem_map.mp hpacket
    exact (hsteps step hstep).2 offer hoffer
  refine ⟨fun step hstep => (hsteps step hstep).1, ?_, ?_, ?_, ?_, hwaiting⟩
  · rw [hpassage.receiver]
    exact Rtp.Session.seen_sink inner _ session t
  · intro packet hpacket
    have hlong := session.length_encode_frames_le hwithin packet hpacket
    exact ⟨by omega, session.decode_encode_of_mem_frames _ packet hpacket⟩
  · have hbytes := hpassage.bytes
    rw [hwaiting, List.append_nil, hcame] at hbytes
    rw [Rtp.Session.flatMap_payload_frames]
    exact hbytes
  · intro k packet hk
    exact Rtp.Session.header_of_paced hpassage.paced session hk

/-- Five bytes, and behind a gap 28 more: a packet of the five, two of twelve bytes and one of four.
The numbers start at the largest one. -/
theorem stream_arrives_four :
    let limits : Limits := { mtu := 26 }
    let l : Lengths := ⟨4, 12, 4, by decide, by decide, by decide⟩
    let session : Rtp.Session := ⟨9, 65535, 4294967295⟩
    let inner : Sink (Array Rtp.Packet) Rtp.Packet := .collect
    let chunks : List Chunk := [⟨[1, 2, 3, 4, 5], some 0, false⟩, ⟨List.replicate 28 7, none, true⟩]
    let ops := .setFrames 4 10 :: (chunks.map Operation.handle ++ [.endOfStream])
    let steps := Operation.history (Rtp.Session.sink inner) ops (.fresh limits .silent)
      (session, #[])
    let framed := session.frames (steps.flatMap Step.packets)
    inner.Accepts ∧ (Operation.setFrames 4 10).layout? = some (.frame 4 10) ∧
      Geometry.lengths (.frame 4 10) limits = .ok l ∧
      framed.flatMap Rtp.Packet.payload = chunks.flatMap Chunk.data ∧
      framed.map (fun packet => packet.header.sequence) = [65535, 0, 1, 2] := by
  intro limits l session inner chunks ops steps framed
  have hinner : inner.Accepts := Sink.accepts_collect
  have hsetup : (Operation.setFrames 4 10).layout? = some (.frame 4 10) := rfl
  have hl : Geometry.lengths (.frame 4 10) limits = .ok l := by cbv
  obtain ⟨-, -, -, hbytes, -, -⟩ :=
    stream_arrives limits .silent hinner session #[] hsetup hl chunks
  refine ⟨hinner, hsetup, hl, hbytes, ?_⟩
  decide +kernel

end CbrAudio
