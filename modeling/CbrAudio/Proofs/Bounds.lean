import CbrAudio.Proofs.History

/-!
# Packets within the limits

The plan for waiting bytes keeps to the largest legal payload.  A break does not plan: whatever
waits leaves in one packet, and that it is small enough is left to the slicing, which normally
leaves less behind than the smallest payload.

* `Effect.Within` — no packet is longer than a bound.  `accept_within`, `carving_remainder_within`:
  a chunk that is taken keeps to the largest payload, a break does if no more than that waits.
* `Effect.Refused` — work that a refusal has ended.  `accept_left`: where that does not happen,
  less than the smallest payload stays behind.  **A refused packet leaves the rest of the plan
  waiting**, and nothing makes up for it before the next break.
* **`history_within_iff`** — so a run keeps to the limits exactly if no break meets more than the
  largest payload, and a break only does right after an arrival that a refusal has ended.
* **`oversize_packet`** — and it happens.
-/

namespace CbrAudio

variable {σ α : Type}

namespace Effect

/-- Every packet that is offered has a payload of at most `n` bytes. -/
def Within (n : Nat) (e : Effect σ α) : Prop := ∀ offer ∈ e.offers, offer.packet.payload.length ≤ n

/-- The last packet was not taken, and that was the end. -/
def Refused (e : Effect σ α) : Prop :=
  ∃ front packet fault, e.offers = front ++ [⟨packet, .error fault⟩] ∧ e.result = .error fault

variable {sink : Sink σ Packet} {g : Geometry} {plan : List Nat} {p : Packetizer} {s : σ}

lemma within_after_iff {n : Nat} {β : Type} {e : Effect σ α} {e' : Effect σ β} :
    (e'.after e.offers).Within n ↔ e.Within n ∧ e'.Within n := by
  simp only [Within, after_offers, List.mem_append]
  constructor
  · intro h
    exact ⟨fun o ho => h o (.inl ho), fun o ho => h o (.inr ho)⟩
  · rintro ⟨hfirst, hthen⟩ o (ho | ho)
    · exact hfirst o ho
    · exact hthen o ho

lemma Refused.after {e : Effect σ α} (h : e.Refused) (offers : List Offer) :
    (e.after offers).Refused := by
  obtain ⟨front, packet, fault, ho, hr⟩ := h
  refine ⟨offers ++ front, packet, fault, ?_, hr⟩
  rw [after_offers, ho, List.append_assoc]

lemma Refused.give {β : Type} {e : Effect σ α} (h : e.Refused) (b : β) : (e.give b).Refused := by
  obtain ⟨front, packet, fault, ho, hr⟩ := h
  refine ⟨front, packet, fault, ho, ?_⟩
  rw [Effect.give, hr]
  rfl

lemma carving_within {n : Nat} (h : ∀ k ∈ plan, k ≤ n) : (carving sink g plan p s).Within n := by
  intro offer hoffer
  exact Packetizer.length_le_of_mem_packets h p _ (packet_mem_of_mem_carving hoffer)

/-- **A break** keeps to a bound if and only if what waits does. -/
lemma carving_remainder_within {n : Nat} :
    (carving sink g p.remainder p s).Within n ↔ p.backlog.size ≤ n := by
  by_cases h : p.backlog.size = 0
  · rw [Packetizer.remainder, if_pos h, carving_nil, h]
    simp [Within, idle]
  · rw [Packetizer.remainder, if_neg h, carving_singleton]
    simp only [Within, offering, Packetizer.packet, List.mem_singleton, forall_eq,
      Backlog.length_front, Nat.min_self]

end Effect

namespace Packetizer

variable {sink : Sink σ Packet} {g : Geometry} {p q : Packetizer} {s : σ} {chunk : Chunk}
  {l : Lengths}

/-- Layout and limits are those of another state. -/
def SameSetup (p q : Packetizer) : Prop := q.geometry = p.geometry ∧ q.limits = p.limits

lemma SameSetup.layout_eq (h : p.SameSetup q) : q.layout = p.layout := by
  simp only [layout, h.1]

lemma SameSetup.trans {r : Packetizer} (h : p.SameSetup q) (h' : q.SameSetup r) : p.SameSetup r :=
  ⟨h'.1.trans h.1, h'.2.trans h.2⟩

/-! ## A chunk that is taken -/

/-- A chunk that is taken makes no packet longer than the largest payload. -/
lemma accept_within (hg : p.layout = .ok g) :
    ((accept chunk l sink p s).effect).Within l.max := by
  by_cases hpass : p.Passes chunk l
  · rw [effect_accept_through hg hpass]
    intro offer hoffer
    rw [Effect.offering, List.mem_singleton] at hoffer
    rw [hoffer]
    exact hpass.2.2
  · rw [effect_accept_enqueue hg hpass]
    exact Effect.carving_within (l.le_max_of_mem_cuts _)

lemma accept_setup (hg : p.layout = .ok g) :
    p.SameSetup (accept chunk l sink p s).effect.packetizer := by
  by_cases hpass : p.Passes chunk l
  · rw [effect_accept_through hg hpass]
    exact ⟨rfl, rfl⟩
  · rw [effect_accept_enqueue hg hpass]
    exact ⟨(departedAll_setup _ _).1, (departedAll_setup _ _).2.1⟩

/-- **What a chunk that is taken leaves behind** is too little for a packet, unless a packet was
refused. -/
lemma accept_left (hg : p.layout = .ok g) (haligned : l.Aligned) :
    (accept chunk l sink p s).effect.packetizer.backlog.size < l.min ∨
      (accept chunk l sink p s).effect.Refused := by
  by_cases hpass : p.Passes chunk l
  · have hempty : p.backlog.size = 0 := hpass.1
    rw [effect_accept_through hg hpass]
    refine .inl ?_
    show p.backlog.size < l.min
    rw [hempty]
    exact l.min_pos
  · rw [effect_accept_enqueue hg hpass]
    rcases sink.deliver_cases ((p.joined chunk).packets g
        (l.cuts (p.backlog.size + chunk.data.length))) s with
      ⟨-, ho⟩ | ⟨fault, packet, front, hr, ho⟩
    · -- All cuts have left, and the plan has been carried out as far as it goes.
      have hsum := Lengths.sum_cuts haligned (p.backlog.size + chunk.data.length)
      have hleft := l.leftover_lt_min (p.backlog.size + chunk.data.length)
      refine .inl ?_
      simp only [Effect.carving, ho, List.length_map, length_packets, List.take_length,
        size_departedAll, size_joined]
      omega
    · exact .inr ⟨_, packet, fault, ho, hr⟩

lemma layout_withGeometry {limits : Limits} (hl : g.lengths limits = .ok l)
    (logger : Log.Logger) : ((fresh limits logger).withGeometry g).layout = .ok g := by
  have hgeometry : ((fresh limits logger).withGeometry g).geometry = some g := rfl
  simp only [layout, hgeometry, (Geometry.lengths_ok hl).1]

lemma lengths_withGeometry {limits : Limits} (hl : g.lengths limits = .ok l)
    (logger : Log.Logger) : ((fresh limits logger).withGeometry g).lengths = .ok l := by
  simp only [lengths, layout_withGeometry hl logger]
  exact hl

/-! ## Requests -/

/-- What a request comes to that feeds a packetizer with legal lengths. -/
structure Fed (p : Packetizer) (l : Lengths) (op : Operation) (e : Effect σ α) : Prop where
  setup : p.SameSetup e.packetizer
  within_iff : e.Within l.max ↔ (op.breaks → p.backlog.size ≤ l.max)
  left : e.packetizer.backlog.size < l.min ∨ (∃ chunk, op = .handle chunk) ∧ e.Refused

lemma Fed.give {β : Type} {op : Operation} {e : Effect σ α} (h : p.Fed l op e) (b : β) :
    p.Fed l op (e.give b) where
  setup := h.setup
  within_iff := h.within_iff
  left := h.left.imp_right fun h => ⟨h.1, h.2.give b⟩

/-- **A break** leaves nothing waiting. -/
lemma carving_remainder_fed {op : Operation} (hop : op.breaks) :
    p.Fed l op (Effect.carving sink g p.remainder p s) where
  setup := ⟨(departedAll_setup _ p).1, (departedAll_setup _ p).2.1⟩
  within_iff := by
    rw [Effect.carving_remainder_within]
    simp only [hop, forall_const]
  left := by
    rw [size_carving_remainder]
    exact .inl l.min_pos

lemma breaking_fed {op : Operation} (hop : op.breaks) :
    p.Fed l op (Effect.breaking sink g p s) where
  setup := (carving_remainder_fed (l := l) (s := s) hop).setup
  within_iff := (carving_remainder_fed hop).within_iff
  left := (carving_remainder_fed hop).left

/-- A chunk behind a gap first breaks, then is taken as if nothing had waited. -/
lemma handle_gap_fed (hl : p.lengths = .ok l) (hgap : chunk.gap = true) :
    p.Fed l (.handle chunk) (handle chunk sink p s).effect := by
  obtain ⟨g, hg, hlen⟩ := layout_of_lengths hl
  have hbreak : p.Fed l (.handle chunk) (Effect.breaking sink g p s) := breaking_fed hgap
  cases hr : (Effect.breaking sink g p s).result with
  | error fault =>
      rw [effect_handle_gap_of_error hg hgap hr, ← hr]
      exact hbreak
  | ok u =>
      have hlayout : (Effect.breaking sink g p s).packetizer.layout = .ok g := by
        rw [← hg]
        exact hbreak.setup.layout_eq
      rw [effect_handle_gap_of_ok hl hg hgap hr]
      refine ⟨?_, ?_, ?_⟩
      · rw [Effect.after_packetizer]
        exact hbreak.setup.trans (accept_setup hlayout)
      · rw [Effect.within_after_iff, hbreak.within_iff, and_iff_left (accept_within hlayout)]
      · rw [Effect.after_packetizer]
        rcases accept_left hlayout (Geometry.aligned_of_lengths hlen) with h | h
        · exact .inl h
        · exact .inr ⟨⟨chunk, rfl⟩, h.after _⟩

lemma handle_plain_fed (hl : p.lengths = .ok l) (hgap : chunk.gap = false) :
    p.Fed l (.handle chunk) (handle chunk sink p s).effect := by
  obtain ⟨g, hg, hlen⟩ := layout_of_lengths hl
  rw [effect_handle_plain hl hgap]
  refine ⟨accept_setup hg, ?_, ?_⟩
  · simp only [Operation.breaks, hgap, Bool.false_eq_true, false_imp_iff, iff_true]
    exact accept_within hg
  · rcases accept_left hg (Geometry.aligned_of_lengths hlen) with h | h
    · exact .inl h
    · exact .inr ⟨⟨chunk, rfl⟩, h⟩

/-- **Every request that feeds**, case by case. -/
theorem perform_fed (hl : p.lengths = .ok l) {op : Operation} (hop : op.feeds)
    (sink : Sink σ Packet) (s : σ) : p.Fed l op (op.perform sink p s).effect := by
  obtain ⟨g, hg, -⟩ := layout_of_lengths hl
  cases op with
  | handle chunk =>
      rw [Operation.effect_perform_handle]
      cases hgap : chunk.gap with
      | false => exact (handle_plain_fed hl hgap).give []
      | true => exact (handle_gap_fed hl hgap).give []
  | discontinuity =>
      rw [Operation.effect_perform_discontinuity, effect_flush_all fun _ => hg]
      exact (breaking_fed rfl).give []
  | endOfStream =>
      rw [Operation.effect_perform_endOfStream, effect_flush_all fun _ => hg]
      exact (carving_remainder_fed rfl).give []
  | _ => cases hop

/-- None of them changes what is legal. -/
lemma perform_lengths (hl : p.lengths = .ok l) {op : Operation} (hop : op.feeds)
    (sink : Sink σ Packet) (s : σ) : (op.perform sink p s).packetizer.lengths = .ok l := by
  have hsetup := (perform_fed hl hop sink s).setup
  rw [← hl]
  exact lengths_eq hsetup.1 hsetup.2

end Packetizer

/-! ## Runs -/

namespace Step

/-- What the limits come to in one step. -/
structure Bounded (l : Lengths) (step : Step σ) : Prop where
  within_iff : step.outcome.effect.Within l.max ↔
    (step.operation.breaks → step.before.backlog.size ≤ l.max)
  left : step.outcome.packetizer.backlog.size < l.min ∨
    (∃ chunk, step.operation = .handle chunk) ∧ step.outcome.effect.Refused

end Step

section Runs

variable {limits : Limits} {logger : Log.Logger} {sink : Sink σ Packet} {s : σ} {g : Geometry}
  {l : Lengths} {setup : Operation} {ops : List Operation}

/-- Setting a layout sends nothing and leaves nothing waiting. -/
lemma setup_bounded (hsetup : setup.layout? = some g) :
    let p := Packetizer.fresh limits logger
    Step.Bounded l ⟨setup, p, s, setup.perform sink p s⟩ := by
  intro p
  obtain ⟨hfirst, -⟩ : (setup.perform sink p s).effect = _ ∧ _ :=
    Operation.history_setup hsetup limits logger []
  have hquiet : setup.breaks = false := by
    cases setup with
    | handle chunk => cases hsetup
    | discontinuity => cases hsetup
    | endOfStream => cases hsetup
    | _ => rfl
  refine ⟨?_, .inl ?_⟩
  · rw [hfirst]
    simp [hquiet, Effect.Within, Effect.idle]
  · have hempty : (setup.perform sink p s).packetizer.backlog.size = 0 :=
      congrArg (fun e => e.packetizer.backlog.size) hfirst
    simp only [hempty]
    exact l.min_pos

/-- **The step lemma, along a run.**  The induction carries only that layout and limits are kept:
how much waits is settled anew by every step. -/
lemma bounded_of_mem_history {p : Packetizer} (hl : p.lengths = .ok l)
    (hops : ∀ op ∈ ops, op.feeds) :
    ∀ step ∈ Operation.history sink ops p s, step.Bounded l := by
  have hkeep : ∀ (op : Operation) (q : Packetizer) (t : σ), op.feeds → q.lengths = .ok l →
      (op.perform sink q t).packetizer.lengths = .ok l :=
    fun op q t hop hq => Packetizer.perform_lengths hq hop sink t
  rintro ⟨op, before, receiver, outcome⟩ hstep
  obtain ⟨hop, hbefore, houtcome⟩ :=
    Operation.forall_mem_history (P := fun op => op.feeds) hkeep hops hl _ hstep
  obtain rfl : outcome = op.perform sink before receiver := houtcome
  have hfed := Packetizer.perform_fed hbefore hop sink receiver
  exact ⟨hfed.within_iff, hfed.left⟩

/-- **A run keeps to the limits exactly if no break meets more than the largest payload.**  Slicing
alone never exceeds it, and a request meets as much as a packet only right after an arrival that
was ended by a refusal: then the rest of the plan still waits. -/
theorem history_within_iff (hsetup : setup.layout? = some g) (hl : g.lengths limits = .ok l)
    (hops : ∀ op ∈ ops, op.feeds) (logger : Log.Logger) (sink : Sink σ Packet) (s : σ) :
    let steps := Operation.history sink (setup :: ops) (.fresh limits logger) s
    ((∀ step ∈ steps, ∀ offer ∈ step.outcome.offers, offer.packet.payload.length ≤ l.max ∧
        headerSize + offer.packet.payload.length ≤ limits.mtu.toNat) ↔
      ∀ step ∈ steps, step.operation.breaks → step.before.backlog.size ≤ l.max) ∧
    ∀ earlier a b later, steps = earlier ++ a :: b :: later → l.min ≤ b.before.backlog.size →
      (∃ chunk, a.operation = .handle chunk) ∧ a.outcome.effect.Refused := by
  intro steps
  have hbounded : ∀ step ∈ steps, step.Bounded l := by
    obtain ⟨-, hsteps, -⟩ : _ ∧ steps = _ ∧ _ :=
      Operation.history_setup hsetup limits logger ops
    intro step hstep
    rw [hsteps] at hstep
    rcases List.mem_cons.mp hstep with rfl | hstep
    · exact setup_bounded hsetup
    · exact bounded_of_mem_history (Packetizer.lengths_withGeometry hl logger) hops step hstep
  have hmtu := Geometry.header_add_max_le_mtu hl
  refine ⟨⟨?_, ?_⟩, ?_⟩
  · intro hwithin step hstep
    exact (hbounded step hstep).within_iff.mp fun offer hoffer =>
      (hwithin step hstep offer hoffer).1
  · intro hbreaks step hstep offer hoffer
    have hle := (hbounded step hstep).within_iff.mpr (hbreaks step hstep) offer hoffer
    exact ⟨hle, by omega⟩
  · -- What `b` meets is what `a` has left, and that is too little unless `a` was refused.
    intro earlier a b later hsplit hmin
    have hmem : a ∈ steps := by
      rw [hsplit]
      simp
    rw [Operation.before_eq_of_history hsplit] at hmin
    rcases (hbounded a hmem).left with h | h
    · exact absurd hmin (Nat.not_le.mpr h)
    · exact h

end Runs

/-- Refuses the first packet and takes all others. -/
def Sink.reluctant : Sink Nat Packet where
  offer _ seen := (if seen = 0 then .error (.rejected "busy") else .ok (), seen + 1)

/-- **It happens.**  A refusal in front of two whole payloads, and the end of the stream sends them
in one packet: 40 bytes where 20 are allowed. -/
theorem oversize_packet :
    let limits : Limits := { mtu := 32 }
    let l : Lengths := ⟨20, 20, 20, by decide, by decide, by decide⟩
    let chunk : Chunk := { data := (List.range 60).map UInt8.ofNat }
    let steps := Operation.history Sink.reluctant [.setFrames 20 20, .handle chunk, .endOfStream]
      (.fresh limits .silent) 0
    Geometry.lengths (.frame 20 20) limits = .ok l ∧
      ¬ ∀ step ∈ steps, ∀ offer ∈ step.outcome.offers, offer.packet.payload.length ≤ l.max := by
  intro limits l chunk steps
  have hl : Geometry.lengths (.frame 20 20) limits = .ok l := by cbv
  refine ⟨hl, ?_⟩
  decide +kernel

/-- Here the end of the stream meets 40 bytes, so the run cannot have kept to the limits. -/
theorem history_within_iff_reluctant :
    let limits : Limits := { mtu := 32 }
    let l : Lengths := ⟨20, 20, 20, by decide, by decide, by decide⟩
    let chunk : Chunk := { data := (List.range 60).map UInt8.ofNat }
    let ops : List Operation := [.handle chunk, .endOfStream]
    let steps := Operation.history Sink.reluctant (.setFrames 20 20 :: ops)
      (.fresh limits .silent) 0
    (Operation.setFrames 20 20).layout? = some (.frame 20 20) ∧
      Geometry.lengths (.frame 20 20) limits = .ok l ∧ (∀ op ∈ ops, op.feeds) ∧
      (steps.map fun step => step.before.backlog.size) = [0, 0, 40] ∧
      ¬ ∀ step ∈ steps, ∀ offer ∈ step.outcome.offers, offer.packet.payload.length ≤ l.max ∧
        headerSize + offer.packet.payload.length ≤ limits.mtu.toNat := by
  intro limits l chunk ops steps
  have hsetup : (Operation.setFrames 20 20).layout? = some (.frame 20 20) := rfl
  have hl : Geometry.lengths (.frame 20 20) limits = .ok l := by cbv
  have hops : ∀ op ∈ ops, op.feeds := by decide
  have hsizes : (steps.map fun step => step.before.backlog.size) = [0, 0, 40] := by decide +kernel
  have hbreak : ¬ ∀ step ∈ steps, step.operation.breaks → step.before.backlog.size ≤ l.max := by
    decide +kernel
  obtain ⟨hiff, -⟩ := history_within_iff hsetup hl hops .silent Sink.reluctant 0
  exact ⟨hsetup, hl, hops, hsizes, fun h => hbreak (hiff.mp h)⟩

end CbrAudio
