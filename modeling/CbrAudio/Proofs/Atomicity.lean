import CbrAudio.Proofs.Lifecycle

/-!
# Faults that leave nothing behind

A fault comes from the receiver, which has refused a packet, or from the packetizer itself.  One of
its own finds the state as it was, although the setup is looked at in several places, also behind
the point where bytes have left.

* `Effect.OwnFault` — a fault that no answer of the receiver explains.
* **Behind the point where a chunk is taken there are none**: `carving_blameless`,
  `accept_blameless`.  A break has none either, so a chunk behind a gap that is dropped has only
  done what a break does (`handle_gap_ownFault`).
* **`perform_ownFault`** — one request; the invariant of `Lifecycle` says that what waits has a
  layout, so a flush cannot fail half-way.
* **`own_faults_atomic`** — every request, after whatever has gone before.
-/

namespace CbrAudio

variable {σ τ α : Type}

namespace Effect

/-- **A fault of the packetizer's own**: the receiver has not answered with it. -/
def OwnFault (fault : Fault) (e : Effect σ α) : Prop :=
  e.result = .error fault ∧ ∀ offer ∈ e.offers, offer.answer ≠ .error fault

/-- Work that fails only if the receiver refuses a packet. -/
def Blameless (e : Effect σ α) : Prop := ∀ fault, ¬ e.OwnFault fault

variable {sink : Sink σ Packet} {g : Geometry} {plan : List Nat} {p : Packetizer} {s : σ}
  {e : Effect σ α} {fault : Fault}

lemma ownFault_give {β : Type} (b : β) : (e.give b).OwnFault fault ↔ e.OwnFault fault := by
  simp only [OwnFault, give]
  cases e.result with
  | ok a => simp [Except.map]
  | error other => simp [Except.map]

lemma OwnFault.of_after {offers : List Offer} (h : (e.after offers).OwnFault fault) :
    e.OwnFault fault :=
  ⟨h.1, fun offer hoffer => h.2 offer (List.mem_append_right offers hoffer)⟩

lemma blameless_of_ok {a : α} (h : e.result = .ok a) : e.Blameless := by
  intro fault hfault
  rw [hfault.1] at h
  cases h

lemma Blameless.give {β : Type} (h : e.Blameless) (b : β) : (e.give b).Blameless :=
  fun fault hfault => h fault ((ownFault_give b).mp hfault)

lemma offering_blameless (sink : Sink σ Packet) (packet : Packet) (p : Packetizer) (s : σ) :
    (offering sink packet p s).Blameless :=
  fun _ hfault => hfault.2 _ (List.mem_singleton_self _) hfault.1

/-- The fault of a delivery of cuts is the answer to its last packet. -/
lemma carving_blameless : (carving sink g plan p s).Blameless := by
  intro fault hfault
  rcases sink.deliver_cases (p.packets g plan) s with ⟨hr, -⟩ | ⟨other, packet, front, hr, ho⟩
  · exact blameless_of_ok hr fault hfault
  · have hsame : other = fault := by
      have hresult : (sink.deliver (p.packets g plan) s).result = .error fault := hfault.1
      rw [hr] at hresult
      exact Except.error.inj hresult
    have hlast : (⟨packet, .error other⟩ : Offer) ∈ (carving sink g plan p s).offers := by
      show _ ∈ (sink.deliver (p.packets g plan) s).offers
      rw [ho]
      simp
    exact hfault.2 _ hlast (congrArg Except.error hsame)

lemma Answered.blameless (h : e.Answered sink p s) : e.Blameless := by
  intro fault hfault
  rcases h with ⟨-, ⟨a, ha⟩, -⟩ | ⟨packet, hoffers, hresult, -⟩
  · exact blameless_of_ok ha fault hfault
  · have hmem : (⟨packet, (sink.offer packet s).1⟩ : Offer) ∈ e.offers := by simp [hoffers]
    exact hfault.2 _ hmem ((hresult fault).mp hfault.1)

end Effect

namespace Packetizer

variable {sink : Sink σ Packet} {g : Geometry} {p : Packetizer} {s : σ} {chunk : Chunk}
  {l : Lengths} {fault : Fault}

/-- Asks for the legal lengths. -/
def askLengths : Work σ Lengths := do
  let p ← Work.current
  Work.require p.lengths

/-! ## Chunks -/

/-- Behind the point where a chunk is taken only the receiver can fail. -/
lemma accept_blameless (hg : p.layout = .ok g) :
    ((accept chunk l sink p s).effect).Blameless := by
  by_cases hpass : p.Passes chunk l
  · rw [effect_accept_through hg hpass]
    exact Effect.offering_blameless sink _ _ s
  · rw [effect_accept_enqueue hg hpass]
    exact Effect.carving_blameless

lemma askLengths_eq_error_iff :
    (askLengths sink p s).result = .error fault ↔
      ∃ why, p.lengths = .error why ∧ fault = .setup why := by
  have hask : (askLengths sink p s).result = p.lengths.mapError .setup := rfl
  rw [hask]
  cases p.lengths with
  | ok l => simp [Except.mapError]
  | error why => simp [Except.mapError, eq_comm]

/-- A chunk that is dropped for its setup has changed nothing, unless there is a gap to be marked
under a layout. -/
lemma effect_handle_of_error {why : SetupFault} (hl : p.lengths = .error why)
    (hplain : chunk.gap = true → ∀ g, p.layout ≠ .ok g) :
    (handle chunk sink p s).effect = .failed (.setup why) p s := by
  have hentry : (entry chunk sink p s).effect = .failed (.setup why) p s := by
    cases hg : p.layout with
    | error other =>
        obtain rfl : other = why := by simpa [lengths, hg] using hl
        exact effect_entry_of_error hg
    | ok g =>
        have hgap : chunk.gap = false := Bool.eq_false_iff.mpr fun hgap => hplain hgap g hg
        rw [effect_entry_plain hg hgap, hl]
        rfl
  rw [handle_eq_entry_accept, Work.effect_bind_of_error hentry]
  rfl

/-- **Such a chunk fails on its own exactly if there are no legal lengths.** -/
lemma handle_ownFault_iff (hplain : chunk.gap = true → ∀ g, p.layout ≠ .ok g) :
    ((handle chunk sink p s).effect).OwnFault fault ↔
      (askLengths sink p s).result = .error fault := by
  rw [askLengths_eq_error_iff]
  cases hl : p.lengths with
  | error why =>
      rw [effect_handle_of_error hl hplain]
      simp [Effect.OwnFault, Effect.failed, eq_comm]
  | ok l =>
      obtain ⟨g, hg, -⟩ := layout_of_lengths hl
      have hgap : chunk.gap = false := Bool.eq_false_iff.mpr fun hgap => hplain hgap g hg
      rw [effect_handle_plain hl hgap]
      simp only [reduceCtorEq, false_and, exists_false, iff_false]
      exact accept_blameless hg fault

/-- **A chunk behind a gap** that fails on its own has done what a break does. -/
lemma handle_gap_ownFault (hg : p.layout = .ok g) (hgap : chunk.gap = true)
    (hfault : ((handle chunk sink p s).effect).OwnFault fault) :
    (Effect.breaking sink g p s).result = .ok () ∧
      (handle chunk sink p s).effect =
        { Effect.breaking sink g p s with result := .error fault } := by
  cases hr : (Effect.breaking sink g p s).result with
  | error other =>
      -- What waited was refused, and the receiver has said so.
      rw [effect_handle_gap_of_error hg hgap hr, ← hr] at hfault
      exact absurd hfault (Effect.carving_blameless fault)
  | ok u =>
      refine ⟨rfl, ?_⟩
      cases hl : p.lengths with
      | ok l =>
          have hlayout : (Effect.breaking sink g p s).packetizer.layout = .ok g :=
            (layout_departedAll _ p).trans hg
          rw [effect_handle_gap_of_ok hl hg hgap hr] at hfault
          exact absurd hfault.of_after (accept_blameless hlayout fault)
      | error why =>
          have hentry : (entry chunk sink p s).effect = _ := effect_entry_gap hg hgap
          rw [hr, hl] at hentry
          rw [handle_eq_entry_accept, Work.effect_bind_of_error hentry] at hfault ⊢
          rw [Except.error.inj hfault.1]

/-! ## Requests -/

/-- **One request.**  A chunk behind a gap is left out if there is a layout: what waits in front of
the gap has left before the chunk is looked at. -/
lemma perform_ownFault (h : p.Sound) {op : Operation}
    (hplain : ∀ chunk, op = .handle chunk → chunk.gap = true → ∀ g, p.layout ≠ .ok g)
    (hfault : ((op.perform sink p s).effect).OwnFault fault) :
    (op.perform sink p s).effect = .failed fault p s := by
  rcases op.perform_kinds sink p s with ⟨g, hop⟩ | hop | ⟨chunk, rfl⟩ | ⟨data, q, he, -⟩
  · have he : (op.perform sink p s).effect = _ := Operation.effect_perform_geometry hop
    cases hclash : p.clash? g with
    | none =>
        rw [he, hclash] at hfault
        exact absurd hfault (Effect.blameless_of_ok rfl fault)
    | some why =>
        rw [hclash] at he
        rw [he] at hfault ⊢
        rw [← Except.error.inj hfault.1]
  · exact absurd hfault ((perform_flushes h hop sink s).2.2.blameless fault)
  · rw [Operation.effect_perform_handle] at hfault ⊢
    rw [Effect.ownFault_give, handle_ownFault_iff (hplain chunk rfl),
      askLengths_eq_error_iff] at hfault
    obtain ⟨why, hl, rfl⟩ := hfault
    rw [effect_handle_of_error hl (hplain chunk rfl)]
    rfl
  · rw [he] at hfault
    exact absurd hfault (Effect.blameless_of_ok rfl fault)

end Packetizer

open Operation Packetizer in
/-- **Faults of the packetizer's own leave nothing behind.**  Whatever it has been asked, whatever
the receiver has answered, and whatever receiver it has now: a request that fails without a word of
the receiver has offered nothing and changed nothing.  The one exception is a chunk behind a gap
that finds a layout: it has done what a signalled gap does, no more and no less.  A question for the
legal lengths changes nothing either, and a chunk without a gap fails on its own exactly if that
question does, with the same fault. -/
theorem own_faults_atomic (limits : Limits) (logger : Log.Logger) (sink : Sink σ Packet)
    (ops : List Operation) (s : σ) (sink' : Sink τ Packet) (t : τ) :
    let p := (performAll sink ops (fresh limits logger) s).1
    (∀ (op : Operation) fault, ((op.perform sink' p t).effect).OwnFault fault →
      (¬ ∃ chunk g, op = .handle chunk ∧ chunk.gap = true ∧ p.layout = .ok g) →
      (op.perform sink' p t).effect = .failed fault p t) ∧
    (∀ chunk g fault, chunk.gap = true → p.layout = .ok g →
      ((perform (.handle chunk) sink' p t).effect).OwnFault fault →
      (perform .discontinuity sink' p t).result = .ok [] ∧
        (perform (.handle chunk) sink' p t).effect =
          { (perform .discontinuity sink' p t).effect with result := .error fault }) ∧
    (∀ fault, ((askLengths sink' p t).effect).OwnFault fault →
      (askLengths sink' p t).effect = .failed fault p t) ∧
    ∀ chunk fault, chunk.gap = false →
      (((perform (.handle chunk) sink' p t).effect).OwnFault fault ↔
        (askLengths sink' p t).result = .error fault) := by
  intro p
  have hsound : p.Sound := (performAll_sound (sound_fresh limits logger) ops).1
  refine ⟨?_, ?_, ?_, ?_⟩
  · intro op fault hfault hplain
    refine perform_ownFault hsound (fun chunk hop hgap g hg => ?_) hfault
    exact hplain ⟨chunk, g, hop, hgap, hg⟩
  · intro chunk g fault hgap hg hfault
    rw [effect_perform_handle, Effect.ownFault_give] at hfault
    obtain ⟨hr, heffect⟩ := handle_gap_ownFault hg hgap hfault
    have hbreak : (perform .discontinuity sink' p t).effect =
        (Effect.breaking sink' g p t).give [] := by
      rw [effect_perform_discontinuity, effect_flush_all fun _ => hg, Effect.breaking]
    refine ⟨?_, ?_⟩
    · show (perform .discontinuity sink' p t).effect.result = _
      rw [hbreak, Effect.give, hr]
      rfl
    · rw [effect_perform_handle, heffect, hbreak]
      rfl
  · intro fault hfault
    have heffect : (askLengths sink' p t).effect = ⟨p.lengths.mapError .setup, p, t, []⟩ := rfl
    rw [heffect] at hfault ⊢
    rw [Effect.failed, ← hfault.1]
  · intro chunk fault hgap
    rw [effect_perform_handle, Effect.ownFault_give]
    exact handle_ownFault_iff (by simp [hgap])

open Operation Packetizer in
/-- Five bytes wait when the packets become too small.  A chunk is dropped as it is; behind a gap it
takes the five bytes along first, and the gap is marked. -/
theorem own_faults_atomic_small_mtu :
    let chunk : Chunk := { data := [1] }
    let late : Chunk := { data := [1], gap := true }
    let fault : Fault := .setup (.mtuTooSmall 1 20)
    let ops := [.setFrames 20 20, .handle { data := [1, 2, 3, 4, 5] }, .setLimits { mtu := 13 }]
    let p := (performAll Sink.collect ops (fresh { mtu := 32 } .silent) #[]).1
    p.backlog.contents = [1, 2, 3, 4, 5] ∧
      (perform (.handle chunk) Sink.collect p #[]).effect = .failed fault p #[] ∧
      (perform (.handle late) Sink.collect p #[]).result = .error fault ∧
      (perform (.handle late) Sink.collect p #[]).packetizer =
        (perform .discontinuity Sink.collect p #[]).packetizer := by
  intro chunk late fault ops p
  have hlayout : p.layout = .ok (.frame 20 20) := by decide +kernel
  have hlengths : p.lengths = .error (.mtuTooSmall 1 20) := by decide +kernel
  have hlate : ((perform (.handle late) Sink.collect p #[]).effect).OwnFault fault :=
    ⟨by decide +kernel, by decide +kernel⟩
  obtain ⟨hplain, hgap, -, hiff⟩ :=
    own_faults_atomic { mtu := 32 } .silent Sink.collect ops #[] Sink.collect #[]
  have hfault : ((perform (.handle chunk) Sink.collect p #[]).effect).OwnFault fault :=
    (hiff chunk fault rfl).mpr (askLengths_eq_error_iff.mpr ⟨_, hlengths, rfl⟩)
  refine ⟨by decide +kernel, hplain _ fault hfault (by simp [chunk]), hlate.1, ?_⟩
  exact congrArg Effect.packetizer (hgap late (.frame 20 20) fault rfl hlayout hlate).2

end CbrAudio
