import CbrAudio.Proofs.Events

/-!
# Twins

Two states that differ at most in the time they remember do the same, but for the time stamps of
their packets.  Where bytes wait and both states reckon their time in the same way, the time stamps
are the same as well.

* `Anchor.Alike` — anchors from which the same times are reckoned.
* `Packetizer.Twin`, `Effect.Twin` — **twins** and what they do.  Whether time stamps count is a
  parameter of both, so that every step is looked at once.
* `carving_twin`, `flush_twin`, `geometry_twin` — steps that are the same for all twins.
* `Twin.joined` — the one step that is not: a chunk without a time stamp that finds nothing waiting
  gets the time that its state remembers.
-/

namespace CbrAudio

variable {σ τ α : Type} {timed : Prop}

namespace Anchor

/-- The same times are reckoned from both. -/
def Alike (a b : Anchor) : Prop := a = b ∨ (a.stamp = none ∧ b.stamp = none)

variable {a b : Anchor}

lemma Alike.pass (h : a.Alike b) (n : Nat) : (a.pass n).Alike (b.pass n) := by
  rcases h with rfl | h
  · exact .inl rfl
  · exact .inr h

lemma Alike.renew (h : a.Alike b) (stamp : Option UInt64) :
    (a.renew stamp).Alike (b.renew stamp) := by
  rcases stamp with _ | t
  · exact h
  · exact .inl rfl

end Anchor

namespace Backlog

lemma segments_advanceFrom (n : Nat) (segments : List Segment) (a b : Anchor) :
    (advanceFrom n segments a).segments = (advanceFrom n segments b).segments := by
  induction segments generalizing n a b with
  | nil => rfl
  | cons s rest ih =>
      rw [advanceFrom, advanceFrom]
      split
      · rfl
      · split
        · exact ih _ _ _
        · rfl

lemma alike_advanceFrom {a b : Anchor} (h : a.Alike b) (n : Nat) (segments : List Segment) :
    (advanceFrom n segments a).anchor.Alike (advanceFrom n segments b).anchor := by
  induction segments generalizing n a b with
  | nil => exact h
  | cons s rest ih =>
      rw [advanceFrom, advanceFrom]
      split
      · exact h
      · split
        · refine ih ?_ _
          rcases rest with _ | ⟨next, rest⟩
          · exact h.pass _
          · exact (h.pass _).renew _
        · exact h.pass n

lemma segments_of_size {b : Backlog} (h : b.size = 0) : b.segments = [] := by
  obtain ⟨segments, a⟩ := b
  rcases segments with _ | ⟨s, rest⟩
  · rfl
  · have hpos : 0 < s.bytes.length := List.length_pos_iff.mpr s.nonempty
    rw [size, List.foldr_cons] at h
    omega

/-- Bytes that enter where nothing waits bring the time they have. -/
lemma anchor_push {data : List UInt8} (h : data ≠ []) (stamp : Option UInt64) (b : Backlog) :
    (b.push data stamp).anchor = if b.size = 0 then b.anchor.renew stamp else b.anchor := by
  have hempty : b.isEmpty = true ↔ b.size = 0 := by
    rw [isEmpty_iff, contents_eq_nil_iff]
  rw [push, dif_neg h]
  simp only [hempty]

end Backlog

namespace Packetizer

/-- The state with another time to reckon from. -/
def withAnchor (a : Anchor) (p : Packetizer) : Packetizer :=
  { p with backlog := { p.backlog with anchor := a } }

/-- **States that differ at most in the time they remember.**  If time stamps count, they reckon the
same times for what waits. -/
def Twin (timed : Prop) (p q : Packetizer) : Prop :=
  ∃ a, q = p.withAnchor a ∧ (timed → p.backlog.size ≠ 0 → p.backlog.anchor.Alike a)

variable {p q : Packetizer}

lemma Twin.refl (timed : Prop) (p : Packetizer) : p.Twin timed p :=
  ⟨p.backlog.anchor, rfl, fun _ _ => .inl rfl⟩

/-- Where nothing waits all twins are. -/
lemma Twin.of_size {timed' : Prop} (h : p.Twin timed q) (hp : p.backlog.size = 0) :
    p.Twin timed' q := by
  obtain ⟨a, rfl, -⟩ := h
  exact ⟨a, rfl, fun _ hsize => absurd hp hsize⟩

/-- The same bytes leave. -/
lemma Twin.departed (h : p.Twin timed q) (n : Nat) : (p.departed n).Twin timed (q.departed n) := by
  obtain ⟨a, rfl, ha⟩ := h
  refine ⟨((p.withAnchor a).departed n).backlog.anchor, ?_, ?_⟩
  · have hsegments :
        ((p.withAnchor a).backlog.advance n).segments = (p.backlog.advance n).segments :=
      Backlog.segments_advanceFrom n p.backlog.segments _ _
    simp only [Packetizer.departed, withAnchor, ← hsegments]
  · intro htimed hsize
    rw [size_departed] at hsize
    exact Backlog.alike_advanceFrom (ha htimed (by omega)) n p.backlog.segments

/-- **A chunk joins what waits.**  If nothing waits and the chunk has no time of its own, the time
that is remembered becomes the time of its bytes. -/
lemma Twin.joined {chunk : Chunk} (h : p.Twin timed q)
    (hlike : timed → chunk.data ≠ [] → chunk.stamp = none → p.backlog.size = 0 →
      p.backlog.anchor.Alike q.backlog.anchor) :
    (p.joined chunk).Twin timed (q.joined chunk) := by
  obtain ⟨a, rfl, ha⟩ := h
  by_cases hdata : chunk.data = []
  · refine ⟨a, ?_, ?_⟩
    · simp [Packetizer.joined, withAnchor, Backlog.push, hdata]
    · simpa [Packetizer.joined, Backlog.push, hdata] using ha
  · refine ⟨((p.withAnchor a).joined chunk).backlog.anchor, ?_, ?_⟩
    · simp [Packetizer.joined, withAnchor, Backlog.push, hdata]
    · intro htimed _
      have hp : (p.joined chunk).backlog.anchor = _ := Backlog.anchor_push hdata _ _
      have hq : ((p.withAnchor a).joined chunk).backlog.anchor = _ := Backlog.anchor_push hdata _ _
      -- Where nothing waits both anchors are renewed, otherwise neither is.
      rw [hp, hq]
      show Anchor.Alike _ (if p.backlog.size = 0 then a.renew chunk.stamp else a)
      split
      · next hsize =>
          cases hstamp : chunk.stamp with
          | none => exact (hlike htimed hdata hstamp hsize)
          | some t => exact .inl rfl
      · next hsize => exact ha htimed hsize

lemma Twin.packet_eq (h : p.Twin timed q) (g : Geometry) (payload : List UInt8)
    (stamp : Option UInt64) : q.packet g payload stamp = p.packet g payload stamp := by
  obtain ⟨a, rfl, -⟩ := h
  rfl

lemma Twin.front_eq (h : p.Twin timed q) (n : Nat) : q.backlog.front n = p.backlog.front n := by
  obtain ⟨a, rfl, -⟩ := h
  rfl

lemma Twin.portion_eq (h : p.Twin timed q) (which : Portion) :
    q.backlog.portion which = p.backlog.portion which := by
  obtain ⟨a, rfl, -⟩ := h
  cases which <;> rfl

lemma Twin.setup (h : p.Twin timed q) : p.SameSetup q := by
  obtain ⟨a, rfl, -⟩ := h
  exact ⟨rfl, rfl⟩

lemma Twin.size_eq (h : p.Twin timed q) : q.backlog.size = p.backlog.size := by
  obtain ⟨a, rfl, -⟩ := h
  rfl

/-- The time of what waits is the same. -/
lemma Twin.headTime_eq (h : p.Twin timed q) (htimed : timed) (hsize : p.backlog.size ≠ 0)
    (g : Geometry) : q.headTime g = p.headTime g := by
  obtain ⟨a, rfl, ha⟩ := h
  rcases ha htimed hsize with heq | ⟨hp, ha⟩
  · simp only [headTime, withAnchor, ← heq]
  · simp only [headTime, withAnchor, hp, ha, Option.map_none]

end Packetizer

/-! ## What twins do -/

/-- A packet without its time stamp. -/
def Packet.bare (packet : Packet) : Packet := { packet with stamp := none }

lemma Packetizer.bare_packet (p : Packetizer) (g : Geometry) (payload : List UInt8)
    (stamp : Option UInt64) : (p.packet g payload stamp).bare = p.packet g payload none := rfl

/-- **Effects that differ at most in time stamps**, and leave twins behind. -/
structure Effect.Twin (timed : Prop) (e : Effect σ α) (e' : Effect τ α) : Prop where
  result : e'.result = e.result
  state : e.packetizer.Twin timed e'.packetizer
  bare : e'.offers.map (fun offer => offer.packet.bare) =
    e.offers.map (fun offer => offer.packet.bare)
  packets : timed → e'.offers.map Offer.packet = e.offers.map Offer.packet

namespace Effect

variable {β : Type} {sink : Sink σ Packet} {sink' : Sink τ Packet} {p q : Packetizer} {s : σ}
  {t : τ}

lemma Twin.after {e : Effect σ α} {e' : Effect τ α} {next : Effect σ β} {next' : Effect τ β}
    (h : e.Twin timed e') (hnext : next.Twin timed next') :
    (next.after e.offers).Twin timed (next'.after e'.offers) where
  result := hnext.result
  state := hnext.state
  bare := by
    rw [after_offers, after_offers, List.map_append, List.map_append, h.bare, hnext.bare]
  packets := by
    intro htimed
    rw [after_offers, after_offers, List.map_append, List.map_append, h.packets htimed,
      hnext.packets htimed]

lemma Twin.give {e : Effect σ α} {e' : Effect τ α} (h : e.Twin timed e') (b : β) :
    (e.give b).Twin timed (e'.give b) where
  result := by rw [Effect.give, Effect.give, h.result]
  state := h.state
  bare := h.bare
  packets := h.packets

lemma Twin.marked {e : Effect σ α} {e' : Effect τ α} (h : e.Twin timed e') :
    e.marked.Twin timed e'.marked where
  result := h.result
  state := by
    obtain ⟨a, hstate, ha⟩ := h.state
    refine ⟨a, ?_, ha⟩
    simp only [Effect.marked, hstate]
    rfl
  bare := h.bare
  packets := h.packets

/-- Where nothing is offered only the states count. -/
lemma twin_of_silent (result : Except Fault α) (h : p.Twin timed q) :
    Twin timed (⟨result, p, s, []⟩ : Effect σ α) (⟨result, q, t, []⟩ : Effect τ α) :=
  ⟨rfl, h, rfl, fun _ => rfl⟩

/-- One packet is offered to each of two receivers that take everything. -/
lemma offering_twin (hsink : sink.Accepts) (hsink' : sink'.Accepts) {packet packet' : Packet}
    (h : p.Twin timed q) (hbare : packet'.bare = packet.bare)
    (hpacket : timed → packet' = packet) :
    (offering sink packet p s).Twin timed (offering sink' packet' q t) where
  result := (hsink' packet' t).trans (hsink packet s).symm
  state := h
  bare := congrArg (fun packet => [packet]) hbare
  packets := fun htimed => congrArg (fun packet => [packet]) (hpacket htimed)

/-- The first of some cuts, and then the others. -/
lemma carving_cons (hsink : sink.Accepts) (g : Geometry) (n : Nat) (plan : List Nat) :
    let first :=
      offering sink (p.packet g (p.backlog.front n) (p.headTime g)) (p.departed n) s
    carving sink g (n :: plan) p s =
      (carving sink g plan first.packetizer first.sink).after first.offers := by
  intro first
  have hoffers : first.offers = [.taken (p.packet g (p.backlog.front n) (p.headTime g))] := by
    simp only [first, offering, hsink _ s]
    rfl
  rw [hoffers]
  exact carving_cons_of_ok (hsink _ _)

end Effect

namespace Packetizer

variable {sink : Sink σ Packet} {sink' : Sink τ Packet} {p q : Packetizer} {s : σ} {t : τ}

/-- **A packet of waiting bytes**, with the time it is asked to carry or that of the head. -/
lemma cut_twin (hsink : sink.Accepts) (hsink' : sink'.Accepts) (h : p.Twin timed q) (g : Geometry)
    (hsize : p.backlog.size ≠ 0) (asked : Option UInt64) (n : Nat) :
    Effect.Twin timed
      (.offering sink (p.packet g (p.backlog.front n) (asked.or (p.headTime g))) (p.departed n) s)
      (.offering sink' (q.packet g (q.backlog.front n) (asked.or (q.headTime g)))
        (q.departed n) t) := by
  refine Effect.offering_twin hsink hsink' (h.departed n) ?_ ?_
  · rw [bare_packet, bare_packet, h.packet_eq, h.front_eq]
  · intro htimed
    rw [h.packet_eq, h.front_eq, h.headTime_eq htimed hsize g]

/-- **Cuts** are the same for all twins, as long as there are bytes to cut. -/
lemma carving_twin (hsink : sink.Accepts) (hsink' : sink'.Accepts) (g : Geometry) {plan : List Nat}
    (h : p.Twin timed q) (hpos : ∀ n ∈ plan, 0 < n) (hfit : plan.sum ≤ p.backlog.size) :
    (Effect.carving sink g plan p s).Twin timed (Effect.carving sink' g plan q t) := by
  induction plan generalizing p q s t with
  | nil => exact Effect.twin_of_silent (.ok ()) h
  | cons n plan ih =>
      rw [List.sum_cons] at hfit
      have hn : 0 < n := hpos n (by simp)
      have hrest : plan.sum ≤ (p.departed n).backlog.size := by
        rw [size_departed]
        omega
      have hfirst : Effect.Twin timed
          (.offering sink (p.packet g (p.backlog.front n) (p.headTime g)) (p.departed n) s)
          (.offering sink' (q.packet g (q.backlog.front n) (q.headTime g)) (q.departed n) t) :=
        cut_twin hsink hsink' h g (by omega) none n
      rw [Effect.carving_cons hsink, Effect.carving_cons hsink']
      exact hfirst.after (ih hfirst.state (fun m hm => hpos m (by simp [hm])) hrest)

/-- **A flush** is the same for all twins. -/
lemma flush_twin (hsink : sink.Accepts) (hsink' : sink'.Accepts) (h : p.Twin timed q)
    (hready : p.Ready) (which : Portion) (asked : Option UInt64) :
    (flush which asked sink p s).effect.Twin timed (flush which asked sink' q t).effect := by
  have hsame := h.portion_eq which
  by_cases hempty : p.backlog.portion which = []
  · rw [effect_flush_of_isEmpty hempty, effect_flush_of_isEmpty (hsame.trans hempty)]
    exact Effect.twin_of_silent (.ok ()) h
  · have hsize : p.backlog.size ≠ 0 := by
      have hpos := List.length_pos_iff.mpr hempty
      have hle := Backlog.length_portion_le which p.backlog
      omega
    obtain ⟨g, hg⟩ := hready hsize
    have hfront : q.backlog.front (p.backlog.portion which).length = p.backlog.portion which := by
      rw [h.front_eq, Backlog.front_length_portion]
    have hcut := cut_twin (s := s) (t := t) hsink hsink' h g hsize asked
      (p.backlog.portion which).length
    rw [hfront, Backlog.front_length_portion] at hcut
    rw [effect_flush hg hempty, effect_flush (h.setup.layout_eq.trans hg) (hsame ▸ hempty), hsame]
    exact hcut

/-- What a chunk has to get past is the same for all twins. -/
lemma entry_twin (hsink : sink.Accepts) (hsink' : sink'.Accepts) (h : p.Twin timed q)
    (chunk : Chunk) :
    (entry chunk sink p s).effect.Twin timed (entry chunk sink' q t).effect := by
  have hlayout : q.layout = p.layout := h.setup.layout_eq
  have hlengths : q.lengths = p.lengths := lengths_eq h.setup.1 h.setup.2
  cases hg : p.layout with
  | error why =>
      rw [effect_entry_of_error hg, effect_entry_of_error (hlayout.trans hg)]
      exact Effect.twin_of_silent _ h
  | ok g =>
      cases hgap : chunk.gap with
      | false =>
          rw [effect_entry_plain hg hgap, effect_entry_plain (hlayout.trans hg) hgap, hlengths]
          exact Effect.twin_of_silent _ h
      | true =>
          have hall : q.remainder = p.remainder := by
            rw [remainder, remainder, h.size_eq]
          have hbreak : (Effect.breaking sink g p s).Twin timed (.breaking sink' g q t) := by
            rw [Effect.breaking, Effect.breaking, hall]
            exact (carving_twin hsink hsink' g h p.pos_of_mem_remainder p.sum_remainder).marked
          rw [effect_entry_gap hg hgap, effect_entry_gap (hlayout.trans hg) hgap, hlengths]
          exact ⟨by rw [hbreak.result], hbreak.state, hbreak.bare, hbreak.packets⟩

end Packetizer

namespace Operation

open Packetizer

variable {sink : Sink σ Packet} {sink' : Sink τ Packet} {p q : Packetizer}

/-- A layout is set or refused whatever time is remembered. -/
lemma geometry_twin {op : Operation} {g : Geometry} (hg : op.layout? = some g)
    (h : p.Twin timed q) (s : σ) (t : τ) :
    (op.perform sink p s).effect.Twin timed (op.perform sink' q t).effect := by
  rw [effect_perform_geometry hg, effect_perform_geometry hg]
  obtain ⟨a, rfl, ha⟩ := h
  have hclash : (p.withAnchor a).clash? g = p.clash? g := rfl
  rw [hclash]
  cases p.clash? g with
  | some why => exact Effect.twin_of_silent _ ⟨a, rfl, ha⟩
  | none => exact Effect.twin_of_silent _ (Twin.refl timed _)

/-- **Every request but a chunk** does the same to all twins. -/
theorem perform_twin (hsink : sink.Accepts) (hsink' : sink'.Accepts) (h : p.Twin timed q)
    (hready : p.Ready) {op : Operation} (hop : ∀ chunk, op ≠ .handle chunk) (s : σ) (t : τ) :
    (op.perform sink p s).effect.Twin timed (op.perform sink' q t).effect := by
  cases op with
  | setFrames size millis => exact geometry_twin rfl h s t
  | setSamples bits => exact geometry_twin rfl h s t
  | setSampleBytes bytes => exact geometry_twin rfl h s t
  | setLimits limits =>
      obtain ⟨a, rfl, ha⟩ := h
      exact Effect.twin_of_silent (.ok []) ⟨a, rfl, ha⟩
  | handle chunk => exact absurd rfl (hop chunk)
  | flush which asked =>
      rw [effect_perform_flush, effect_perform_flush]
      exact (flush_twin hsink hsink' h hready which asked).give []
  | discontinuity =>
      rw [effect_perform_discontinuity, effect_perform_discontinuity]
      exact ((flush_twin hsink hsink' h hready .all none).marked).give []
  | endOfStream =>
      rw [effect_perform_endOfStream, effect_perform_endOfStream]
      exact (flush_twin hsink hsink' h hready .all none).give []
  | flushStop =>
      obtain ⟨a, rfl, -⟩ := h
      exact Effect.twin_of_silent (.ok []) (Twin.refl timed _)
  | clear =>
      obtain ⟨a, rfl, -⟩ := h
      exact Effect.twin_of_silent (.ok []) (Twin.refl timed _)
  | drain =>
      obtain ⟨a, rfl, -⟩ := h
      exact Effect.twin_of_silent (.ok p.backlog.contents) (Twin.refl timed _)
  | reset =>
      rw [effect_perform_reset, effect_perform_reset]
      obtain ⟨a, rfl, -⟩ := h
      exact Effect.twin_of_silent (.ok []) (Twin.refl timed _)

end Operation

end CbrAudio
