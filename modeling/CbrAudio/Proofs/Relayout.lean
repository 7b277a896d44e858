import CbrAudio.Proofs.Lifecycle
import CbrAudio.Proofs.Offsets
import Mathlib.Data.List.Chain

/-!
# Offsets under another layout

A session counts its bytes and keeps the count when the layout changes.  The offset of a packet is
the time of all of them under the layout that the packet is made for, also of those that were sent
under another one.

* `Geometry.span` — the ticks of some bytes before they are cut to 32 bits.  `span_mono`: under one
  layout more bytes take longer.
* `Event.offsets`, `Event.InRow` — the offsets of a run, and two packets with none between them.
  `pairwise_offsets`: it is enough to look at those.
* `Operation.trace_under` — without a reset and at one clock rate, a run is one session and all its
  packets are made under that rate.
* **`offsets_ordered_iff`** — so the offsets of a session are in order unless a layout takes less
  time for all bytes than the one before it took for those in front of its last packet.
* **`offsets_fall`** — and it happens.
-/

namespace CbrAudio

variable {σ : Type}

namespace Geometry

open Word

/-- The ticks that `bytes` span, before they are cut to 32 bits. -/
def span (bytes : Nat) (clockRate : UInt32) : Geometry → Nat
  | .frame size millis =>
    mulDiv (duration bytes clockRate (.frame size millis)) clockRate.toNat nanosPerSecond
  | .sample bits _ => clamp (8 * bytes) / max bits.toNat 1

variable {g : Geometry} {bytes : Nat} {clockRate : UInt32}

lemma toNat_ticks (h : g.span bytes clockRate < 2 ^ 32) :
    (g.ticks bytes clockRate).toNat = g.span bytes clockRate := by
  have hofNat : g.ticks bytes clockRate = UInt32.ofNat (g.span bytes clockRate) := by
    cases g <;> rfl
  rw [hofNat, UInt32.toNat_ofNat']
  exact Nat.mod_eq_of_lt h

/-- **Under one layout** more bytes take longer. -/
lemma span_mono (g : Geometry) (clockRate : UInt32) {m n : Nat} (h : m ≤ n) :
    g.span m clockRate ≤ g.span n clockRate := by
  rcases g with ⟨size, millis⟩ | ⟨bits, fragment⟩
  · refine mulDiv_le_mulDiv (clamp_le_clamp ?_) _ _
    exact Nat.mul_le_mul_right _ (Nat.div_le_div_right h)
  · exact Nat.div_le_div_right (clamp_le_clamp (Nat.mul_le_mul_left 8 h))

end Geometry

namespace Sending

/-- The ticks of some bytes under the setup that a packet was made under. -/
def span (bytes : Nat) (x : Sending) : Nat :=
  match x.geometry with
  | some g => g.span bytes x.clockRate
  | none => 0

lemma span_mono (x : Sending) {m n : Nat} (h : m ≤ n) : x.span m ≤ x.span n := by
  rw [span, span]
  split
  · exact Geometry.span_mono _ _ h
  · exact Nat.le_refl _

end Sending

/-! ## From packet to packet -/

namespace Event

/-- The packet that is offered, with what it was made under. -/
def sending? : Event → Option Sending
  | .offered x => some x
  | _ => none

/-- The offsets of the packets that are offered. -/
def offsets (es : List Event) : List UInt32 :=
  (es.filterMap sending?).map fun x => x.offer.packet.offset

lemma eq_offered_of_sending? {e : Event} {x : Sending} (h : e.sending? = some x) :
    e = .offered x := by
  cases e with
  | offered y => exact congrArg Event.offered (Option.some.inj h)
  | _ => cases h

/-- **Two packets in a row**: nothing was offered between them. -/
def InRow (es a b c : List Event) (x y : Sending) : Prop :=
  es = a ++ .offered x :: (b ++ .offered y :: c) ∧ ∀ e ∈ b, e.sending? = none

/-- Offsets that are in order from each packet to the next are in order. -/
lemma pairwise_offsets {es : List Event}
    (h : ∀ a b c x y, InRow es a b c x y → x.offer.packet.offset ≤ y.offer.packet.offset) :
    (offsets es).Pairwise (· ≤ ·) := by
  rw [← List.isChain_iff_pairwise, offsets, List.isChain_map,
    List.isChain_iff_forall_rel_of_append_cons_cons]
  intro x y front back hsplit
  obtain ⟨a, rest, rfl, -, hrest⟩ := List.filterMap_eq_append_iff.mp hsplit
  obtain ⟨a', e, rest', rfl, -, he, hrest'⟩ := List.filterMap_eq_cons_iff.mp hrest
  obtain ⟨b, e', c, rfl, hb, he', -⟩ := List.filterMap_eq_cons_iff.mp hrest'
  obtain rfl := eq_offered_of_sending? he
  obtain rfl := eq_offered_of_sending? he'
  exact h (a ++ a') b c x y ⟨(List.append_assoc ..).symm, hb⟩

lemma InRow.le_of_pairwise {es a b c : List Event} {x y : Sending} (h : InRow es a b c x y)
    (hes : (offsets es).Pairwise (· ≤ ·)) : x.offer.packet.offset ≤ y.offer.packet.offset := by
  have hb : b.filterMap sending? = [] := List.filterMap_eq_nil_iff.mpr h.2
  have hoffsets : offsets es =
      offsets a ++ x.offer.packet.offset :: y.offer.packet.offset :: offsets c := by
    rw [h.1]
    simp [offsets, List.filterMap_append, hb, sending?]
  rw [hoffsets, List.pairwise_append] at hes
  exact List.rel_of_pairwise_cons hes.2.1 (List.mem_cons_self ..)

/-- Between the two only the first was offered. -/
lemma InRow.sent_eq {es a b c : List Event} {x y : Sending} (h : InRow es a b c x y) :
    sent (a ++ .offered x :: b) = sent a + x.offer.packet.payload.length := by
  have hb : b.filterMap offer? = [] := List.filterMap_eq_nil_iff.mpr fun e he => by
    have hnone := h.2 e he
    cases e with
    | offered y => cases hnone
    | _ => rfl
  rw [sent_append, sent, sent, List.filterMap_cons_some (show offer? (.offered x) = _ from rfl), hb]
  simp [Offer.bytes]

/-- The time of all bytes bounds that of the bytes in front of a packet. -/
lemma span_lt_of_sent {es : List Event} {bound : Nat}
    (h : ∀ x ∈ es.filterMap sending?, x.span (sent es) < bound) (session later : List Event)
    (x : Sending) (hes : es = session ++ .offered x :: later) : x.span (sent session) < bound := by
  have hx : x ∈ es.filterMap sending? :=
    List.mem_filterMap.mpr ⟨.offered x, by simp [hes], rfl⟩
  have hle : sent session ≤ sent es := by
    rw [hes, sent_append]
    exact Nat.le_add_right _ _
  exact Nat.lt_of_le_of_lt (x.span_mono hle) (h x hx)

/-- What an event of a session is like under a clock rate. -/
def Under (clockRate : UInt32) : Event → Prop
  | .offered x => x.clockRate = clockRate
  | .restarted _ => False
  | _ => True

lemma Under.isRestart {clockRate : UInt32} {e : Event} (h : e.Under clockRate) :
    e.isRestart = false := by
  cases e with
  | restarted bytes => exact absurd h id
  | _ => rfl

end Event

/-! ## What the requests say about the events -/

namespace Step

open Event

lemma sending_under (p : Packetizer) (asked : Option UInt64) (offers : List Offer) :
    ∀ e ∈ offers.map (p.sending asked), e.Under p.limits.clockRate := by
  intro e he
  obtain ⟨offer, -, rfl⟩ := List.mem_map.mp he
  rfl

lemma arrival_under (chunk : Chunk) (p : Packetizer) (entered : Outcome σ Lengths)
    (offers : List Offer) :
    ∀ e ∈ p.arrival chunk entered offers, e.Under p.limits.clockRate := by
  simp only [Packetizer.arrival, List.forall_mem_append]
  refine ⟨⟨⟨sending_under p none _, ?_⟩, ?_⟩, sending_under p none _⟩
  · split <;> simp [Under]
  · split <;> simp [Under]

/-- Packets are made under the clock rate that the request meets. -/
lemma events_under (sink : Sink σ Packet) {step : Step σ} (h : step.operation ≠ .reset) :
    ∀ e ∈ step.events sink, e.Under step.before.limits.clockRate := by
  obtain ⟨op, p, s, o⟩ := step
  have hcleared : ∀ e ∈ [cleared p.backlog.contents], e.Under p.limits.clockRate := by
    simp [Under]
  cases op with
  | setFrames | setSamples | setSampleBytes =>
      simp only [events]
      split
      · exact hcleared
      · simp
  | setLimits limits => simp [events]
  | handle chunk => exact arrival_under chunk p _ o.offers
  | flush which asked => exact sending_under p asked o.offers
  | discontinuity => exact List.forall_mem_append.mpr ⟨sending_under p none o.offers, by simp [Under]⟩
  | endOfStream => exact sending_under p none o.offers
  | flushStop => exact hcleared
  | clear => exact hcleared
  | drain => exact hcleared
  | reset => exact absurd rfl h

end Step

namespace Operation

/-- **In a run without a reset and with one clock rate** all packets are made under it, and no other
session begins. -/
lemma trace_under {limits : Limits} {ops : List Operation} (hreset : .reset ∉ ops)
    (hclock : ∀ l, .setLimits l ∈ ops → l.clockRate = limits.clockRate) (logger : Log.Logger)
    (sink : Sink σ Packet) (s : σ) :
    ∀ e ∈ trace sink ops (.fresh limits logger) s, e.Under limits.clockRate := by
  have hkeep : ∀ (op : Operation) (p : Packetizer) (s : σ), op ∈ ops →
      p.Sound ∧ p.limits.clockRate = limits.clockRate →
      (op.perform sink p s).packetizer.Sound ∧
        (op.perform sink p s).packetizer.limits.clockRate = limits.clockRate := by
    rintro op p s hop ⟨hsound, hrate⟩
    obtain ⟨hnext, -, hlimits⟩ := Packetizer.perform_sound hsound op sink s
    refine ⟨hnext, ?_⟩
    have hafter : (op.perform sink p s).packetizer.limits = op.limits?.getD p.limits := hlimits
    rw [hafter]
    cases op with
    | setLimits l => exact hclock l hop
    | _ => exact hrate
  intro e he
  obtain ⟨step, hstep, hevent⟩ := List.mem_flatMap.mp he
  obtain ⟨hop, ⟨-, hrate⟩, -⟩ := forall_mem_history hkeep (fun op hop => hop)
    ⟨Packetizer.sound_fresh limits logger, rfl⟩ step hstep
  rw [← hrate]
  exact Step.events_under sink (fun h => hreset (h ▸ hop)) e hevent

end Operation

namespace Moves

open Event

/-- The offset of a packet is the time of the bytes before it, if 32 bits hold that. -/
lemma toNat_offset {p q : Packetizer} {session later : List Event} {x : Sending}
    (h : Moves p (session ++ .offered x :: later) q) (hp : p.sent = 0)
    (hsession : ∀ e ∈ session, e.isRestart = false) (hshort : x.span (sent session) < 2 ^ 32) :
    x.offer.packet.offset.toNat = x.span (sent session) := by
  have hfirst : Moves p ([] ++ session ++ .offered x :: later) q := h
  obtain ⟨g, hset, -, hoffset⟩ := hfirst.offset_eq hp (.inl rfl) hsession
  have hspan : x.span (sent session) = g.span (sent session) x.clockRate := by
    rw [Sending.span, hset]
  rw [hspan] at hshort ⊢
  rw [hoffset, Geometry.toNat_ticks hshort]

end Moves

/-! ## Runs -/

open Event in
/-- **Only another layout sets a session back.**  A session goes on without a reset, at one clock
rate, and as long as 31 bits hold the time of every packet.  The offset of a packet then is the time
of all bytes offered before it, under the layout it is made for.  Under one layout that never falls;
so the offsets of the session are in order exactly if, wherever the layout changes between a packet
and the next, all bytes together take no less time under the new one than those in front of the
last packet took under the old one. -/
theorem offsets_ordered_iff {limits : Limits} {ops : List Operation} (hreset : .reset ∉ ops)
    (hclock : ∀ l, .setLimits l ∈ ops → l.clockRate = limits.clockRate) (logger : Log.Logger)
    (sink : Sink σ Packet) (s : σ)
    (hshort : ∀ session later x, Operation.trace sink ops (.fresh limits logger) s =
      session ++ .offered x :: later → x.span (sent session) < 2 ^ 31) :
    let es := Operation.trace sink ops (.fresh limits logger) s
    (∀ session later x, es = session ++ .offered x :: later →
        x.offer.packet.offset.toNat = x.span (sent session)) ∧
      ((offsets es).Pairwise (· ≤ ·) ↔
        ∀ a b c x y, InRow es a b c x y → x.geometry ≠ y.geometry →
          x.span (sent a) ≤ y.span (sent a + x.offer.packet.payload.length)) := by
  intro es
  have hunder : ∀ e ∈ es, e.Under limits.clockRate :=
    Operation.trace_under hreset hclock logger sink s
  have hoffset : ∀ session later x, es = session ++ .offered x :: later →
      x.offer.packet.offset.toNat = x.span (sent session) := by
    intro session later x hes
    have hmoves : Moves (.fresh limits logger) es _ := Operation.trace_fresh limits logger sink ops s
    have hlt := hshort session later x hes
    rw [hes] at hmoves hunder
    refine hmoves.toNat_offset rfl (fun e he => ?_) (by omega)
    exact (hunder e (List.mem_append_left _ he)).isRestart
  -- What two packets in a row come to.
  have hrow : ∀ {a b c x y}, InRow es a b c x y →
      (x.offer.packet.offset ≤ y.offer.packet.offset ↔
        x.span (sent a) ≤ y.span (sent a + x.offer.packet.payload.length)) := by
    intro a b c x y hxy
    have hy : es = (a ++ .offered x :: b) ++ .offered y :: c := by
      rw [hxy.1, List.append_assoc, List.cons_append]
    rw [UInt32.le_iff_toNat_le, hoffset _ _ x hxy.1, hoffset _ _ y hy, hxy.sent_eq]
  refine ⟨hoffset, ?_, ?_⟩
  · intro hes a b c x y hxy _
    exact (hrow hxy).mp (hxy.le_of_pairwise hes)
  · intro hchange
    refine pairwise_offsets fun a b c x y hxy => (hrow hxy).mpr ?_
    by_cases hgeometry : x.geometry = y.geometry
    · -- Nothing has changed but the count of bytes.
      have hx : x.clockRate = limits.clockRate := hunder (.offered x) (by simp [hxy.1])
      have hy : y.clockRate = limits.clockRate := hunder (.offered y) (by simp [hxy.1])
      have hsame : x.span (sent a) = y.span (sent a) := by
        rw [Sending.span, Sending.span, hgeometry, hx, hy]
      rw [hsame]
      exact y.span_mono (Nat.le_add_right _ _)
    · exact hchange a b c x y hxy hgeometry

/-- **It happens.**  Four frames of 20 bytes last 80 milliseconds; under a layout of 40 bytes in the
same time they are two frames and have lasted 40, so the next packet is behind the last one. -/
theorem offsets_fall :
    let limits : Limits := {}
    let chunk (n : Nat) : Chunk := { data := List.replicate n 7 }
    let ops : List Operation :=
      [.setFrames 20 20, .handle (chunk 60), .handle (chunk 20), .setFrames 40 20,
        .handle (chunk 40)]
    let es := Operation.trace Sink.collect ops (.fresh limits .silent) #[]
    .reset ∉ ops ∧ (∀ l, .setLimits l ∈ ops → l.clockRate = limits.clockRate) ∧
      (∀ session later x, es = session ++ .offered x :: later →
        x.span (Event.sent session) < 2 ^ 31) ∧
      Event.offsets es = [0, 480, 320] ∧ ¬ (Event.offsets es).Pairwise (· ≤ ·) := by
  intro limits chunk ops es
  have hshort : ∀ x ∈ es.filterMap Event.sending?, x.span (Event.sent es) < 2 ^ 31 := by
    decide +kernel
  have hoffsets : Event.offsets es = [0, 480, 320] := by decide +kernel
  refine ⟨by simp [ops], by simp [ops], Event.span_lt_of_sent hshort, hoffsets, ?_⟩
  rw [hoffsets]
  decide

/-- The other way round nothing falls: what was two frames is four, and lasts longer. -/
theorem offsets_ordered_iff_longer :
    let limits : Limits := {}
    let chunk (n : Nat) : Chunk := { data := List.replicate n 7 }
    let ops : List Operation :=
      [.setFrames 40 20, .handle (chunk 80), .setFrames 20 20, .handle (chunk 20),
        .handle (chunk 20)]
    let es := Operation.trace Sink.collect ops (.fresh limits .silent) #[]
    .reset ∉ ops ∧ (∀ l, .setLimits l ∈ ops → l.clockRate = limits.clockRate) ∧
      (∀ session later x, es = session ++ .offered x :: later →
        x.span (Event.sent session) < 2 ^ 31) ∧
      Event.offsets es = [0, 640, 800] ∧
      ∀ a b c x y, Event.InRow es a b c x y → x.geometry ≠ y.geometry →
        x.span (Event.sent a) ≤ y.span (Event.sent a + x.offer.packet.payload.length) := by
  intro limits chunk ops es
  have hreset : .reset ∉ ops := by simp [ops]
  have hclock : ∀ l, .setLimits l ∈ ops → l.clockRate = limits.clockRate := by simp [ops]
  have hshort : ∀ x ∈ es.filterMap Event.sending?, x.span (Event.sent es) < 2 ^ 31 := by
    decide +kernel
  have hoffsets : Event.offsets es = [0, 640, 800] := by decide +kernel
  obtain ⟨-, hiff⟩ := offsets_ordered_iff hreset hclock .silent Sink.collect #[]
    (Event.span_lt_of_sent hshort)
  refine ⟨hreset, hclock, Event.span_lt_of_sent hshort, hoffsets, hiff.mp ?_⟩
  show (Event.offsets es).Pairwise (· ≤ ·)
  rw [hoffsets]
  decide

end CbrAudio
