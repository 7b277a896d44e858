import CbrAudio.Proofs.Stream

/-!
# Blocks

Where the smallest and the largest legal payload are the same, a stream is cut into blocks of this
size, and how it came in makes no difference.

* `accept_legal`, `legal_of_mem_history` — whatever the receiver answers, a chunk without a gap
  makes only legal payloads: each of them is a cut of the plan, or the chunk itself.
* `Paced.eq_blocks` — **paced packets of one size are determined by their bytes**: the `k`-th of
  them is the `k`-th block, at the time where this block begins.
* **`blocks_of_stream`** — so two ways to bring the same bytes lead to the same packets, and to the
  same bytes that wait in the end.
-/

namespace CbrAudio

variable {σ τ : Type}

/-! ## Payloads of one size -/

section Blocks

variable {g : Geometry} {clockRate : UInt32} {packets : List Packet} {n : Nat}

lemma length_flatMap_payload (h : ∀ packet ∈ packets, packet.payload.length = n) :
    (packets.flatMap Packet.payload).length = packets.length * n := by
  rw [List.length_flatMap, List.map_congr_left h, List.map_const', List.sum_replicate_nat]

lemma length_flatMap_payload_take (h : ∀ packet ∈ packets, packet.payload.length = n) {k : Nat}
    (hk : k ≤ packets.length) :
    ((packets.take k).flatMap Packet.payload).length = k * n := by
  rw [length_flatMap_payload fun packet hp => h packet (List.mem_of_mem_take hp),
    List.length_take_of_le hk]

/-- The `k`-th payload begins behind `k` others. -/
lemma payload_eq_block (h : ∀ packet ∈ packets, packet.payload.length = n) (rest : List UInt8)
    {k : Nat} (hk : k < packets.length) :
    packets[k].payload = ((packets.flatMap Packet.payload ++ rest).drop (k * n)).take n := by
  have hbefore : ((packets.take k).flatMap Packet.payload).length = k * n :=
    length_flatMap_payload_take h (Nat.le_of_lt hk)
  have hsplit : packets.flatMap Packet.payload =
      (packets.take k).flatMap Packet.payload ++
        (packets[k].payload ++ (packets.drop (k + 1)).flatMap Packet.payload) := by
    rw [← List.flatMap_cons, ← List.flatMap_append, List.getElem_cons_drop, List.take_append_drop]
  rw [hsplit, List.append_assoc, List.drop_left' hbefore, List.append_assoc,
    List.take_left' (h _ (List.getElem_mem hk))]

/-- **Paced packets of one size** are the blocks of their bytes, and what is too short for a block
is behind them. -/
lemma Paced.eq_blocks (hpaced : Paced g clockRate 0 packets)
    (hsize : ∀ packet ∈ packets, packet.payload.length = n) {rest : List UInt8}
    (hrest : rest.length < n) :
    let stream := packets.flatMap Packet.payload ++ rest
    packets.map (fun packet => (packet.payload, packet.offset)) =
        (List.range (stream.length / n)).map (fun k =>
          ((stream.drop (k * n)).take n, g.ticks (k * n) clockRate)) ∧
      rest = stream.drop (stream.length - stream.length % n) := by
  intro stream
  have hbytes : (packets.flatMap Packet.payload).length = packets.length * n :=
    length_flatMap_payload hsize
  have hlength : stream.length = packets.length * n + rest.length := by
    rw [List.length_append, hbytes]
  have hcount : stream.length / n = packets.length := by
    rw [hlength, Nat.mul_comm, Nat.mul_add_div (by omega), Nat.div_eq_of_lt hrest, Nat.add_zero]
  have hover : stream.length % n = rest.length := by
    rw [hlength, Nat.mul_comm, Nat.mul_add_mod, Nat.mod_eq_of_lt hrest]
  refine ⟨List.ext_getElem (by simp [hcount]) fun k hk _ => ?_, ?_⟩
  · have hlt : k < packets.length := by simpa using hk
    have hoffset := hpaced.offset_eq (List.getElem?_eq_getElem hlt)
    rw [length_flatMap_payload_take hsize (Nat.le_of_lt hlt), Nat.zero_add] at hoffset
    simp only [List.getElem_map, List.getElem_range]
    exact Prod.ext (payload_eq_block hsize rest hlt) hoffset
  · rw [hover, hlength, Nat.add_sub_cancel, ← hbytes, List.drop_left]

end Blocks

/-! ## Legal payloads -/

namespace Effect

/-- Every packet that is offered has a legal payload. -/
def Legal {α : Type} (l : Lengths) (e : Effect σ α) : Prop :=
  ∀ offer ∈ e.offers, l.min ≤ offer.packet.payload.length ∧ offer.packet.payload.length ≤ l.max

end Effect

namespace Packetizer

variable {sink : Sink σ Packet} {g : Geometry} {p : Packetizer} {s : σ} {chunk : Chunk}
  {l : Lengths}

/-- **A chunk that is taken makes legal payloads**, up to the packet that is refused. -/
lemma accept_legal (hg : p.layout = .ok g) (haligned : l.Aligned) :
    ((accept chunk l sink p s).effect).Legal l := by
  by_cases hpass : p.Passes chunk l
  · rw [effect_accept_through hg hpass]
    intro offer hoffer
    rw [Effect.offering, List.mem_singleton] at hoffer
    rw [hoffer]
    exact hpass.2
  · rw [effect_accept_enqueue hg hpass]
    intro offer hoffer
    have hcut : offer.packet.payload.length ∈ l.cuts (p.backlog.size + chunk.data.length) := by
      rw [← map_length_packets g (sum_cuts_joined_le chunk l p)]
      exact List.mem_map_of_mem (Effect.packet_mem_of_mem_carving hoffer)
    exact (Lengths.legal_of_mem_cuts haligned _ _ hcut).2

lemma perform_legal (hl : p.lengths = .ok l) (hgap : chunk.gap = false) :
    ((Operation.perform (.handle chunk) sink p s).effect).Legal l := by
  obtain ⟨g, hg, hlen⟩ := layout_of_lengths hl
  have hlegal : ((accept chunk l sink p s).effect).Legal l :=
    accept_legal hg (Geometry.aligned_of_lengths hlen)
  rw [Operation.effect_perform_handle, effect_handle_plain hl hgap]
  exact hlegal

end Packetizer

/-! ## Runs -/

namespace Operation

variable {sink : Sink σ Packet} {p : Packetizer} {s : σ} {l : Lengths} {chunks : List Chunk}

/-- **All packets of a run without gaps have legal payloads**, whatever the receiver answers. -/
lemma legal_of_mem_history (hl : p.lengths = .ok l) (hplain : ∀ chunk ∈ chunks, chunk.gap = false) :
    ∀ packet ∈ (history sink (chunks.map .handle) p s).flatMap Step.packets,
      l.min ≤ packet.payload.length ∧ packet.payload.length ≤ l.max := by
  intro packet hpacket
  obtain ⟨⟨op, before, receiver, outcome⟩, hstep, hpacket⟩ := List.mem_flatMap.mp hpacket
  obtain ⟨offer, hoffer, rfl⟩ := List.mem_map.mp hpacket
  have hops : ∀ op ∈ chunks.map Operation.handle,
      ∃ chunk, op = .handle chunk ∧ chunk.gap = false := by
    intro op hop
    obtain ⟨chunk, hchunk, rfl⟩ := List.mem_map.mp hop
    exact ⟨chunk, rfl, hplain chunk hchunk⟩
  have hkeep : ∀ (op : Operation) (q : Packetizer) (t : σ),
      (∃ chunk, op = .handle chunk ∧ chunk.gap = false) → q.lengths = .ok l →
      (op.perform sink q t).packetizer.lengths = .ok l := by
    rintro _ q t ⟨chunk, rfl, -⟩ hq
    exact Packetizer.perform_lengths hq rfl sink t
  obtain ⟨⟨chunk, rfl, hgap⟩, hbefore, houtcome⟩ := forall_mem_history hkeep hops hl _ hstep
  obtain rfl : outcome = perform (.handle chunk) sink before receiver := houtcome
  exact Packetizer.perform_legal hbefore hgap offer hoffer

/-- **One way to bring a stream.**  The packets are its blocks, and less than a block waits. -/
lemma blocks_of_chunks {setup : Operation} {g : Geometry} {limits : Limits}
    (hsetup : setup.layout? = some g) (hl : g.lengths limits = .ok l) (hfixed : l.min = l.max)
    (hsink : sink.Accepts) (hplain : ∀ chunk ∈ chunks, chunk.gap = false) (logger : Log.Logger)
    (s : σ) :
    let p := Packetizer.fresh limits logger
    let stream := chunks.flatMap Chunk.data
    let steps := history sink (setup :: chunks.map .handle) p s
    let waiting := (performAll sink (setup :: chunks.map .handle) p s).1.backlog.contents
    (∀ step ∈ steps, step.outcome.result = .ok []) ∧
      (steps.flatMap Step.packets).map (fun packet => (packet.payload, packet.offset)) =
        (List.range (stream.length / l.max)).map (fun k =>
          ((stream.drop (k * l.max)).take l.max, g.ticks (k * l.max) limits.clockRate)) ∧
      waiting = stream.drop (stream.length - stream.length % l.max) := by
  intro p stream steps waiting
  have hfeeds : ∀ op ∈ chunks.map Operation.handle, op.feeds := by
    intro op hop
    obtain ⟨chunk, -, rfl⟩ := List.mem_map.mp hop
    rfl
  obtain ⟨hresults, hpassage, hsettled⟩ :=
    run_smooth_of_setup hsink hsetup hl hfeeds logger s
  have hsize : ∀ packet ∈ steps.flatMap Step.packets, packet.payload.length = l.max := by
    obtain ⟨hfirst, hsteps, -⟩ : (setup.perform sink p s).effect = _ ∧ steps = _ ∧ _ :=
      history_setup hsetup limits logger (chunks.map .handle)
    have hnone : (setup.perform sink p s).offers = [] := congrArg Effect.offers hfirst
    rw [hsteps, List.flatMap_cons, Step.packets, hnone]
    intro packet hpacket
    obtain ⟨hmin, hmax⟩ :=
      legal_of_mem_history (Packetizer.lengths_withGeometry hl logger) hplain packet hpacket
    omega
  have hbytes : (steps.flatMap Step.packets).flatMap Packet.payload ++ waiting = stream := by
    have hcame : (chunks.map Operation.handle).flatMap data = stream := List.flatMap_map ..
    rw [← hcame]
    exact hpassage.bytes
  have hleft := hsettled.left
  rw [hfixed, Backlog.size_eq_length] at hleft
  obtain ⟨hblocks, hrest⟩ := Paced.eq_blocks hpassage.paced hsize hleft
  rw [hbytes] at hblocks hrest
  exact ⟨fun step hstep => (hresults step hstep).1, hblocks, hrest⟩

end Operation

open Operation in
/-- **How a stream comes in makes no difference.**  Where there is one legal length, two ways to
bring the same bytes in chunks without gaps lead to the same payloads at the same offsets: the
blocks of the stream, one after the other, each with the time of the bytes before it.  What is
too short for another block waits in the end. -/
theorem blocks_of_stream (limits : Limits) {g : Geometry} {l : Lengths} {setup setup' : Operation}
    (hsetup : setup.layout? = some g) (hsetup' : setup'.layout? = some g)
    (hl : g.lengths limits = .ok l) (hfixed : l.min = l.max) {sink : Sink σ Packet}
    {sink' : Sink τ Packet} (hsink : sink.Accepts) (hsink' : sink'.Accepts)
    {chunks chunks' : List Chunk} (hplain : ∀ chunk ∈ chunks, chunk.gap = false)
    (hplain' : ∀ chunk ∈ chunks', chunk.gap = false)
    (hstream : chunks.flatMap Chunk.data = chunks'.flatMap Chunk.data)
    (logger logger' : Log.Logger) (s : σ) (s' : τ) :
    let p := Packetizer.fresh limits logger
    let p' := Packetizer.fresh limits logger'
    let ops := setup :: chunks.map .handle
    let ops' := setup' :: chunks'.map .handle
    let steps := history sink ops p s
    let steps' := history sink' ops' p' s'
    let stream := chunks.flatMap Chunk.data
    let blocks := (List.range (stream.length / l.max)).map fun k =>
      ((stream.drop (k * l.max)).take l.max, g.ticks (k * l.max) limits.clockRate)
    let rest := stream.drop (stream.length - stream.length % l.max)
    ((∀ step ∈ steps, step.outcome.result = .ok []) ∧
      ∀ step ∈ steps', step.outcome.result = .ok []) ∧
    ((steps.flatMap Step.packets).map (fun packet => (packet.payload, packet.offset)) = blocks ∧
      (steps'.flatMap Step.packets).map (fun packet => (packet.payload, packet.offset)) = blocks) ∧
    (performAll sink ops p s).1.backlog.contents = rest ∧
      (performAll sink' ops' p' s').1.backlog.contents = rest := by
  intro p p' ops ops' steps steps' stream blocks rest
  obtain ⟨hresults, hblocks, hrest⟩ :=
    blocks_of_chunks hsetup hl hfixed hsink hplain logger s
  obtain ⟨hresults', hblocks', hrest'⟩ :=
    blocks_of_chunks hsetup' hl hfixed hsink' hplain' logger' s'
  rw [← hstream] at hblocks' hrest'
  exact ⟨⟨hresults, hresults'⟩, ⟨hblocks, hblocks'⟩, hrest, hrest'⟩

open Operation in
/-- Ten bytes at once, or a whole block and odd pieces: two blocks of four bytes, 10 ms apart, and
two bytes wait. -/
theorem blocks_of_stream_two :
    let limits : Limits := { mtu := 19 }
    let l : Lengths := ⟨4, 4, 4, by decide, by decide, by decide⟩
    let chunks : List Chunk := [{ data := [1, 2, 3, 4, 5, 6, 7, 8, 9, 10] }]
    let chunks' : List Chunk :=
      [{ data := [1, 2, 3, 4], stamp := some 7 }, { data := [5] }, { data := [] },
        { data := [6, 7, 8, 9] }, { data := [10], stamp := some 9 }]
    let p := Packetizer.fresh limits .silent
    let ops := .setFrames 4 10 :: chunks.map .handle
    let ops' := .setFrames 4 10 :: chunks'.map .handle
    let blocks : List (List UInt8 × UInt32) := [([1, 2, 3, 4], 0), ([5, 6, 7, 8], 80)]
    (Operation.setFrames 4 10).layout? = some (.frame 4 10) ∧
      Geometry.lengths (.frame 4 10) limits = .ok l ∧
      chunks.flatMap Chunk.data = chunks'.flatMap Chunk.data ∧
      ((history Sink.collect ops p #[]).flatMap Step.packets).map
        (fun packet => (packet.payload, packet.offset)) = blocks ∧
      ((history Sink.collect ops' p #[]).flatMap Step.packets).map
        (fun packet => (packet.payload, packet.offset)) = blocks ∧
      (performAll Sink.collect ops' p #[]).1.backlog.contents = [9, 10] := by
  intro limits l chunks chunks' p ops ops' blocks
  have hsetup : (Operation.setFrames 4 10).layout? = some (.frame 4 10) := rfl
  have hl : Geometry.lengths (.frame 4 10) limits = .ok l := by cbv
  have hstream : chunks.flatMap Chunk.data = chunks'.flatMap Chunk.data := by decide
  have hplain : ∀ chunk ∈ chunks, chunk.gap = false := by decide
  have hplain' : ∀ chunk ∈ chunks', chunk.gap = false := by decide
  obtain ⟨-, ⟨hfirst, hsecond⟩, -, hrest⟩ :=
    blocks_of_stream limits hsetup hsetup hl rfl Sink.accepts_collect Sink.accepts_collect hplain
      hplain' hstream .silent .silent #[] #[]
  exact ⟨hsetup, hl, hstream, hfirst.trans (by decide +kernel), hsecond.trans (by decide +kernel),
    hrest.trans (by decide +kernel)⟩

end CbrAudio
