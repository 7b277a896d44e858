import CbrAudio.Proofs.Arrival

/-!
# Slicing

What happens to a chunk that does not leave as it is, when no packet is refused.

**`handle_slices`** — the waiting bytes and the chunk make as many of the largest payloads as they
can; what is left over makes one more packet if it is at least the smallest payload, and then only
less than a unit stays behind.  Every packet is a legal payload of whole units, and what stays
behind is too little for one.

The state need not have been reached in any particular way: that there are legal lengths is enough,
because an unaligned or an empty range of lengths cannot be one (`Geometry.aligned_of_lengths`).
-/

namespace CbrAudio

variable {σ : Type}

namespace Packetizer

variable {sink : Sink σ Packet} {p : Packetizer}

/-- **Slicing**, packet by packet. -/
theorem handle_slices (hsink : sink.Accepts) {l : Lengths} (hl : p.lengths = .ok l)
    {chunk : Chunk} (hgap : chunk.gap = false) (hwait : ¬ p.Passes chunk l) (s : σ) :
    let available := p.backlog.size + chunk.data.length
    let rest := available % l.max
    let o := handle chunk sink p s
    o.result = .ok () ∧
      o.offers.map (fun offer => offer.packet.payload.length) =
        List.replicate (available / l.max) l.max ++
          (if l.min ≤ rest then [rest - rest % l.align] else []) ∧
      Offer.bytes o.offers ++ o.packetizer.backlog.contents = p.backlog.contents ++ chunk.data ∧
      o.packetizer.backlog.size = (if l.min ≤ rest then rest % l.align else rest) ∧
      (∀ offer ∈ o.offers, l.align ∣ offer.packet.payload.length ∧
        l.min ≤ offer.packet.payload.length ∧ offer.packet.payload.length ≤ l.max) ∧
      o.packetizer.backlog.size < l.min := by
  intro available rest o
  obtain ⟨g, hg, hlen⟩ := layout_of_lengths hl
  have haligned := Geometry.aligned_of_lengths hlen
  have heffect : o.effect = .carving sink g (l.cuts available) (p.joined chunk) s := by
    rw [effect_handle_plain hl hgap, effect_accept_enqueue hg hwait]
  -- Nothing is refused, so the packets are those of the whole plan, and its closed form applies.
  rw [Effect.carving_of_accepts hsink] at heffect
  simp only [Outcome.effect, Effect.mk.injEq] at heffect
  obtain ⟨hresult, hstate, -, hoffers⟩ := heffect
  have hfit : (l.cuts available).sum ≤ (p.joined chunk).backlog.size := by
    rw [size_joined]
    exact l.sum_cuts_le available
  have hsizes : o.offers.map (fun offer => offer.packet.payload.length) = l.cuts available := by
    rw [hoffers, List.map_map]
    exact map_length_packets g hfit
  have hleft : o.packetizer.backlog.size = l.leftover available := by
    have hsum := Lengths.sum_cuts haligned available
    rw [hstate, size_departedAll, size_joined]
    omega
  refine ⟨hresult, ?_, ?_, hleft, ?_, ?_⟩
  · rw [hsizes, Lengths.cuts_eq haligned]
    rfl
  · rw [hoffers, bytes_packets, hstate, packets_append_departedAll, contents_joined]
  · intro offer hoffer
    refine Lengths.legal_of_mem_cuts haligned available _ ?_
    rw [← hsizes]
    exact List.mem_map_of_mem hoffer
  · rw [hleft]
    exact Lengths.leftover_lt_min l available

/-- Five bytes wait, and 28 come in: two packets of 12 bytes, one of 8, and a byte stays behind. -/
theorem handle_slices_three :
    let p : Packetizer := {
      logger := .silent
      limits := { mtu := 26, minPtime := 20000000 }
      geometry := some (.frame 4 10)
      backlog := { segments := [⟨[1, 2, 3, 4, 5], none, by decide⟩] }
      phase := .active }
    let l : Lengths := ⟨8, 12, 4, by decide, by decide, by decide⟩
    let chunk : Chunk := { data := List.replicate 28 7 }
    let o := handle chunk Sink.collect p #[]
    p.lengths = .ok l ∧ ¬ p.Passes chunk l ∧ o.result = .ok () ∧
      o.offers.map (fun offer => offer.packet.payload.length) = [12, 12, 8] ∧
      o.packetizer.backlog.size = 1 := by
  intro p l chunk o
  have hl : p.lengths = .ok l := by cbv
  have hwait : ¬ p.Passes chunk l := fun h => absurd h.1 (by decide)
  obtain ⟨hresult, hsizes, -, hleft, -, -⟩ := handle_slices Sink.accepts_collect hl rfl hwait #[]
  exact ⟨hl, hwait, hresult, hsizes.trans (by decide), hleft.trans (by decide)⟩

end Packetizer

end CbrAudio
