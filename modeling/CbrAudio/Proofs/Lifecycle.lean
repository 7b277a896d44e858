import CbrAudio.Proofs.Bounds
import CbrAudio.Proofs.Conservation
import CbrAudio.Proofs.Events

/-!
# The life of a packetizer

Bytes can only wait in a packetizer that has a proper layout, and that data has come to.  So where
bytes leave, nothing is missing that a packet needs.

* `Operation.perform_kinds` — requests by what they come to.
* `Packetizer.Sound` — **the invariant**: how the phase, the layout and the waiting bytes hang
  together.  `sound_of_active` is what most requests come down to.
* `Packetizer.KeepsMode` — a layout may follow another one, but of the same family only.
* `Effect.Answered` — work that offers one packet of what waits, or does nothing.
* `flush_sound`, `handle_sound`, `geometry_sound` — the steps; **`perform_sound`** — one request.
* **`lifecycle`** — over every run: the invariant, the family for all time to come, and that a flush
  fails only with the receiver.
-/

namespace CbrAudio

variable {σ α : Type}

namespace Operation

/-- Requests that only make bytes leave. -/
def flushes : Operation → Bool
  | .flush .. | .discontinuity | .endOfStream => true
  | _ => false

/-- The limits that a request sets. -/
def limits? : Operation → Option Limits
  | .setLimits limits => some limits
  | _ => none

/-- **Requests by what they come to**: a layout is asked for, what waits leaves, a chunk comes in,
or the state changes at once and the receiver hears nothing of it. -/
lemma perform_kinds (op : Operation) (sink : Sink σ Packet) (p : Packetizer) (s : σ) :
    (∃ g, op.layout? = some g) ∨ op.flushes ∨ (∃ chunk, op = .handle chunk) ∨
      ∃ data q, (op.perform sink p s).effect = .idle data q s ∧ q.geometry = p.geometry := by
  cases op with
  | setFrames size millis => exact .inl ⟨_, rfl⟩
  | setSamples bits => exact .inl ⟨_, rfl⟩
  | setSampleBytes bytes => exact .inl ⟨_, rfl⟩
  | flush which stamp => exact .inr (.inl rfl)
  | discontinuity => exact .inr (.inl rfl)
  | endOfStream => exact .inr (.inl rfl)
  | handle chunk => exact .inr (.inr (.inl ⟨chunk, rfl⟩))
  | setLimits limits => exact .inr (.inr (.inr ⟨_, _, effect_perform_setLimits limits, rfl⟩))
  | flushStop => exact .inr (.inr (.inr ⟨_, _, effect_perform_flushStop, rfl⟩))
  | clear => exact .inr (.inr (.inr ⟨_, _, effect_perform_clear, rfl⟩))
  | drain => exact .inr (.inr (.inr ⟨_, _, effect_perform_drain, rfl⟩))
  | reset => exact .inr (.inr (.inr ⟨_, _, effect_perform_reset, rfl⟩))

end Operation

namespace Packetizer

/-- **How phase, layout and waiting bytes hang together.** -/
structure Sound (p : Packetizer) : Prop where
  unconfigured_iff : p.phase = .unconfigured ↔ p.geometry = none
  waiting : p.backlog.size ≠ 0 → p.phase = .active
  sent : p.sent ≠ 0 → p.phase = .active
  layout : p.backlog.size ≠ 0 → ∃ g, p.geometry = some g ∧ g.check = .ok ()

/-- If there is a layout, the other state has one of the same family. -/
def KeepsMode (p q : Packetizer) : Prop :=
  ∀ g, p.geometry = some g → ∃ g', q.geometry = some g' ∧ g'.mode = g.mode

variable {p q r : Packetizer} {g : Geometry}

lemma KeepsMode.refl (p : Packetizer) : p.KeepsMode p := fun g hg => ⟨g, hg, rfl⟩

lemma KeepsMode.trans (h : p.KeepsMode q) (h' : q.KeepsMode r) : p.KeepsMode r := by
  intro g hg
  obtain ⟨g', hg', hmode⟩ := h g hg
  obtain ⟨g'', hg'', hmode'⟩ := h' g' hg'
  exact ⟨g'', hg'', hmode'.trans hmode⟩

lemma SameSetup.keepsMode (h : p.SameSetup q) : p.KeepsMode q :=
  fun g hg => ⟨g, h.1.trans hg, rfl⟩

lemma layout_eq_ok (hset : p.geometry = some g) (hcheck : g.check = .ok ()) : p.layout = .ok g := by
  rw [Packetizer.layout, hset]
  simp [hcheck]

/-- What waits can leave. -/
lemma Sound.ready (h : p.Sound) : p.Ready := by
  intro hsize
  obtain ⟨g, hset, hcheck⟩ := h.layout hsize
  exact ⟨g, layout_eq_ok hset hcheck⟩

lemma sound_fresh (limits : Limits) (logger : Log.Logger) : (fresh limits logger).Sound where
  unconfigured_iff := by simp [fresh]
  waiting h := absurd rfl h
  sent h := absurd rfl h
  layout h := absurd rfl h

/-- **Where data has come and the layout is proper**, everything may be. -/
lemma sound_of_active (hphase : p.phase = .active) (hg : p.layout = .ok g) : p.Sound := by
  obtain ⟨hset, hcheck⟩ := layout_ok hg
  refine ⟨?_, fun _ => hphase, fun _ => hphase, fun _ => ⟨g, hset, hcheck⟩⟩
  rw [hphase, hset]
  simp

/-- What waited may be gone, and the next packet marked. -/
lemma Sound.of_waiting_less (h : p.Sound) (hphase : q.phase = p.phase)
    (hgeometry : q.geometry = p.geometry) (hsent : q.sent = p.sent)
    (hsize : q.backlog.size ≠ 0 → p.backlog.size ≠ 0) : q.Sound where
  unconfigured_iff := by rw [hphase, hgeometry, h.unconfigured_iff]
  waiting hq := hphase.trans (h.waiting (hsize hq))
  sent hq := hphase.trans (h.sent (hsent ▸ hq))
  layout hq := hgeometry ▸ h.layout (hsize hq)

end Packetizer

/-! ## One packet at most -/

namespace Effect

/-- **The receiver alone decides.**  Work that does nothing, or offers one packet of what waits and
fails if and only if that is refused. -/
def Answered (sink : Sink σ Packet) (p : Packetizer) (s : σ) (e : Effect σ α) : Prop :=
  (e.offers = [] ∧ (∃ a, e.result = .ok a) ∧ e.packetizer.backlog = p.backlog) ∨
  ∃ packet, e.offers = [⟨packet, (sink.offer packet s).1⟩] ∧
    (∀ fault, e.result = .error fault ↔ (sink.offer packet s).1 = .error fault) ∧
    packet.payload ++ e.packetizer.backlog.contents = p.backlog.contents

variable {sink : Sink σ Packet} {p : Packetizer} {s : σ} {e : Effect σ α}

lemma Answered.marked (h : e.Answered sink p s) : e.marked.Answered sink p s := h

lemma Answered.give {β : Type} (h : e.Answered sink p s) (b : β) :
    (e.give b).Answered sink p s := by
  rcases h with ⟨hoffers, ⟨a, ha⟩, hbacklog⟩ | ⟨packet, hoffers, hresult, hbytes⟩
  · exact .inl ⟨hoffers, ⟨b, by rw [Effect.give, ha]; rfl⟩, hbacklog⟩
  · refine .inr ⟨packet, hoffers, fun fault => ?_, hbytes⟩
    rw [← hresult fault, Effect.give]
    cases e.result with
    | ok a => simp [Except.map]
    | error other => simp [Except.map]

end Effect

namespace Packetizer

variable {sink : Sink σ Packet} {p : Packetizer} {s : σ} {g : Geometry} {chunk : Chunk}

/-! ## The steps -/

/-- **A flush**, whatever it is asked for. -/
lemma flush_sound (h : p.Sound) (which : Portion) (stamp : Option UInt64) (sink : Sink σ Packet)
    (s : σ) :
    let e := (flush which stamp sink p s).effect
    e.packetizer.Sound ∧ p.SameSetup e.packetizer ∧ e.Answered sink p s := by
  intro e
  by_cases hempty : p.backlog.portion which = []
  · have he : e = .idle () p s := effect_flush_of_isEmpty hempty stamp
    rw [he]
    exact ⟨h, ⟨rfl, rfl⟩, .inl ⟨rfl, ⟨(), rfl⟩, rfl⟩⟩
  · have hsize := Backlog.size_ne_zero_of_portion hempty
    obtain ⟨g, hg⟩ := h.ready hsize
    have he : e = _ := effect_flush hg hempty stamp
    rw [he]
    refine ⟨sound_of_active (h.waiting hsize) (g := g) hg, ⟨rfl, rfl⟩, .inr ⟨_, rfl, ?_, ?_⟩⟩
    · exact fun fault => Iff.rfl
    · exact Backlog.portion_append_advance which p.backlog

/-- In front of the point where a chunk is taken, only a break can change anything. -/
lemma entry_sound (h : p.Sound) (chunk : Chunk) (sink : Sink σ Packet) (s : σ) :
    let e := (entry chunk sink p s).effect
    e.packetizer.Sound ∧ p.SameSetup e.packetizer ∧
      ∀ l, e.result = .ok l → ∃ g, e.packetizer.layout = .ok g := by
  intro e
  cases hg : p.layout with
  | error why =>
      have he : e = .failed (.setup why) p s := effect_entry_of_error hg
      rw [he]
      exact ⟨h, ⟨rfl, rfl⟩, fun l hl => by cases hl⟩
  | ok g =>
      cases hgap : chunk.gap with
      | false =>
          have he : e = _ := effect_entry_plain hg hgap
          rw [he]
          exact ⟨h, ⟨rfl, rfl⟩, fun l _ => ⟨g, hg⟩⟩
      | true =>
          have he : e = _ := effect_entry_gap hg hgap
          have hflush : (flush .all none sink p s).effect = .carving sink g p.remainder p s :=
            effect_flush_all fun _ => hg
          obtain ⟨hsound, hsame, -⟩ := flush_sound h .all none sink s
          rw [hflush] at hsound hsame
          rw [he]
          refine ⟨hsound.of_waiting_less rfl rfl rfl id, hsame, fun l _ => ⟨g, ?_⟩⟩
          exact (hsame.layout_eq).trans hg

/-- Behind it there is a layout, and data has come. -/
lemma accept_sound (hg : p.layout = .ok g) (chunk : Chunk) (l : Lengths) :
    ((accept chunk l sink p s).effect.packetizer).Sound := by
  by_cases hpass : p.Passes chunk l
  · rw [effect_accept_through hg hpass]
    exact sound_of_active (g := g) rfl hg
  · rw [effect_accept_enqueue hg hpass]
    refine sound_of_active (g := g) (departedAll_setup _ (p.joined chunk)).2.2.2 ?_
    exact (layout_departedAll _ (p.joined chunk)).trans hg

/-- **A chunk comes in.** -/
lemma handle_sound (h : p.Sound) (chunk : Chunk) (sink : Sink σ Packet) (s : σ) :
    let e := (handle chunk sink p s).effect
    e.packetizer.Sound ∧ p.SameSetup e.packetizer := by
  obtain ⟨hsound, hsame, hlayout⟩ := entry_sound h chunk sink s
  rw [handle_eq_entry_accept]
  rcases hentry : (entry chunk sink p s).effect with ⟨_ | l, q, t, offers⟩
  · rw [hentry] at hsound hsame
    rw [Work.effect_bind_of_error hentry]
    exact ⟨hsound, hsame⟩
  · rw [hentry] at hsame hlayout
    obtain ⟨g, hg⟩ := hlayout l rfl
    rw [Work.effect_bind_of_ok hentry]
    exact ⟨accept_sound hg chunk l, hsame.trans (accept_setup hg)⟩

/-- **Another layout** of the same family takes over, and nothing waits. -/
lemma geometry_sound (h : p.Sound) (hclash : p.clash? g = none) :
    (p.withGeometry g).Sound ∧ p.KeepsMode (p.withGeometry g) := by
  refine ⟨⟨?_, fun hsize => absurd rfl hsize, fun hsent => ?_, fun hsize => absurd rfl hsize⟩, ?_⟩
  · simp only [withGeometry, reduceCtorEq, iff_false]
    split
    · simp
    · next hphase => exact hphase
  · have hphase : p.phase = .active := h.sent hsent
    simp [withGeometry, hphase]
  · intro old hold
    refine ⟨g, rfl, ?_⟩
    simp only [clash?, hold] at hclash
    split at hclash
    · next hmode => exact hmode.symm
    · cases hclash

/-! ## Requests and runs -/

/-- **Requests that only make bytes leave** come down to a flush. -/
lemma perform_flushes (h : p.Sound) {op : Operation} (hop : op.flushes) (sink : Sink σ Packet)
    (s : σ) :
    let e := (op.perform sink p s).effect
    e.packetizer.Sound ∧ p.SameSetup e.packetizer ∧ e.Answered sink p s := by
  intro e
  cases op with
  | flush which stamp =>
      have he : e = _ := Operation.effect_perform_flush which stamp
      obtain ⟨hsound, hsame, hanswered⟩ := flush_sound h which stamp sink s
      rw [he]
      exact ⟨hsound, hsame, hanswered.give []⟩
  | discontinuity =>
      have he : e = _ := Operation.effect_perform_discontinuity
      obtain ⟨hsound, hsame, hanswered⟩ := flush_sound h .all none sink s
      rw [he]
      exact ⟨hsound.of_waiting_less rfl rfl rfl id, hsame, hanswered.marked.give []⟩
  | endOfStream =>
      have he : e = _ := Operation.effect_perform_endOfStream
      obtain ⟨hsound, hsame, hanswered⟩ := flush_sound h .all none sink s
      rw [he]
      exact ⟨hsound, hsame, hanswered.give []⟩
  | _ => cases hop

/-- A session starts in order, whatever the last one was like. -/
lemma sound_restarted (p : Packetizer) : p.restarted.Sound := by
  refine ⟨?_, fun hsize => absurd rfl hsize, fun hsent => absurd rfl hsent,
    fun hsize => absurd rfl hsize⟩
  cases hset : p.geometry with
  | none => simp [Packetizer.restarted, hset]
  | some g => simp [Packetizer.restarted, hset]

/-- **One request.**  Only a layout changes the layout, and only limits change the limits. -/
lemma perform_sound (h : p.Sound) (op : Operation) (sink : Sink σ Packet) (s : σ) :
    let e := (op.perform sink p s).effect
    e.packetizer.Sound ∧ p.KeepsMode e.packetizer ∧
      e.packetizer.limits = op.limits?.getD p.limits := by
  intro e
  have hkeeps {q : Packetizer} (hsound : q.Sound) (hsame : p.SameSetup q) :
      q.Sound ∧ p.KeepsMode q ∧ q.limits = p.limits :=
    ⟨hsound, hsame.keepsMode, hsame.2⟩
  have hempty : ({ p with backlog := .empty } : Packetizer).Sound :=
    h.of_waiting_less rfl rfl rfl fun hsize => absurd rfl hsize
  have hflushes (hop : op.flushes) : e.packetizer.Sound ∧ p.SameSetup e.packetizer :=
    (perform_flushes h hop sink s).imp_right And.left
  cases hlayout : op.layout? with
  | some g =>
      have he : e = _ := Operation.effect_perform_geometry hlayout
      have hlimits : op.limits? = none := by cases op <;> first | rfl | cases hlayout
      rw [he, hlimits]
      cases hclash : p.clash? g with
      | some why => exact hkeeps h ⟨rfl, rfl⟩
      | none =>
          obtain ⟨hsound, hmode⟩ := geometry_sound h hclash
          exact ⟨hsound, hmode, rfl⟩
  | none =>
      cases op with
      | setFrames size millis => cases hlayout
      | setSamples bits => cases hlayout
      | setSampleBytes bytes => cases hlayout
      | setLimits limits => exact ⟨h.of_waiting_less rfl rfl rfl id, .refl p, rfl⟩
      | handle chunk =>
          have he : e = _ := Operation.effect_perform_handle chunk
          obtain ⟨hsound, hsame⟩ := handle_sound h chunk sink s
          rw [he]
          exact hkeeps hsound hsame
      | flush which stamp => exact hkeeps (hflushes rfl).1 (hflushes rfl).2
      | discontinuity => exact hkeeps (hflushes rfl).1 (hflushes rfl).2
      | endOfStream => exact hkeeps (hflushes rfl).1 (hflushes rfl).2
      | flushStop => exact hkeeps hempty ⟨rfl, rfl⟩
      | clear => exact hkeeps hempty ⟨rfl, rfl⟩
      | drain => exact hkeeps hempty ⟨rfl, rfl⟩
      | reset =>
          have he : e = .idle [] p.restarted s := Operation.effect_perform_reset
          rw [he]
          exact hkeeps (sound_restarted p) ⟨rfl, rfl⟩

/-- **Many requests.** -/
lemma performAll_sound (h : p.Sound) (ops : List Operation) :
    (Operation.performAll sink ops p s).1.Sound ∧
      p.KeepsMode (Operation.performAll sink ops p s).1 := by
  induction ops generalizing p s with
  | nil => exact ⟨h, .refl p⟩
  | cons op ops ih =>
      obtain ⟨hsound, hmode, -⟩ := perform_sound h op sink s
      obtain ⟨hlast, hmodes⟩ := ih (s := (op.perform sink p s).sink) hsound
      exact ⟨hlast, hmode.trans hmodes⟩

end Packetizer

open Operation Packetizer in
/-- **The life of a packetizer.**  Whatever it has been asked, and whatever the receiver has
answered: it is unconfigured as long as it has no layout; a layout is followed only by layouts of
the same family; data has come if any byte waits or has been sent; and what waits has a proper
layout.  So a request to make bytes leave fails only if the receiver refuses the one packet that is
offered to it, and neither that nor a chunk makes a byte that waited disappear. -/
theorem lifecycle (limits : Limits) (logger : Log.Logger) (sink : Sink σ Packet)
    (ops : List Operation) (s : σ) :
    let p := (performAll sink ops (fresh limits logger) s).1
    p.Sound ∧
      (∀ later t, p.KeepsMode (performAll sink later p t).1) ∧
      (∀ op : Operation, op.flushes → ∀ t, ((op.perform sink p t).effect).Answered sink p t) ∧
      ∀ chunk t, ∃ came, (came = [] ∨ came = chunk.data) ∧
        ((perform (.handle chunk) sink p t).effect).Conserves p came := by
  intro p
  have hsound : p.Sound := (performAll_sound (sound_fresh limits logger) ops).1
  refine ⟨hsound, fun later t => (performAll_sound hsound later).2,
    fun op hop t => (perform_flushes hsound hop sink t).2.2, fun chunk t => ?_⟩
  have hconserves : (((handle chunk sink p t).effect).give ([] : List UInt8)).Conserves p _ :=
    (handle_conserves hsound.ready chunk).give []
  rw [effect_perform_handle]
  refine ⟨_, ?_, hconserves⟩
  cases (entry chunk sink p t).result with
  | ok l => exact .inr rfl
  | error fault => exact .inl rfl

open Operation Packetizer in
/-- A refusal leaves 30 bytes waiting.  They are there for the end of the stream, which may be
refused as well, and the family of the layout is settled. -/
theorem lifecycle_reluctant :
    let p := (performAll Sink.reluctant [.setFrames 20 20, .handle { data := List.replicate 50 7 }]
      (fresh { mtu := 32 } .silent) 0).1
    p.backlog.size = 30 ∧ p.phase = .active ∧ p.geometry = some (.frame 20 20) ∧
      (∃ g, (performAll Sink.reluctant [.setFrames 40 20, .setSamples 8] p 1).1.geometry = some g ∧
        g.mode = .frame) ∧
      ((perform .endOfStream Sink.reluctant p 0).effect).Answered Sink.reluctant p 0 := by
  intro p
  have hsize : p.backlog.size = 30 := by decide +kernel
  have hset : p.geometry = some (.frame 20 20) := by decide +kernel
  obtain ⟨hsound, hmode, hanswered, -⟩ := lifecycle { mtu := 32 } .silent Sink.reluctant
    [.setFrames 20 20, .handle { data := List.replicate 50 7 }] 0
  exact ⟨hsize, hsound.waiting (by rw [hsize]; decide), hset, hmode _ 1 _ hset,
    hanswered .endOfStream rfl 0⟩

end CbrAudio
