import CbrAudio.Proofs.Effect
import Mathlib.Algebra.GroupWithZero.Nat

/-!
# Deliveries

Which packets a request sends does not depend on the receiver; how many of them it gets to send
does, because the first refusal ends it.  This file separates the two.

* `Sink.deliver` — packets offered in a row, up to the first refusal.
* `Packetizer.packets`, `Packetizer.departedAll` — the packets that waiting bytes make when they
  are cut at given lengths, and the state behind them.
* `Effect.carving` — **a delivery of cuts**: the effect of `carve` (`effect_carve`) and of a flush
  of everything (`effect_flush_all`), whatever the receiver answers.
-/

namespace CbrAudio

variable {σ : Type}

/-! ## Packets in a row -/

/-- What has come of packets that were offered in a row. -/
structure Delivery (σ : Type) where
  result : Except Fault Unit
  sink : σ
  offers : List Offer

/-- An offer that was not refused. -/
def Offer.taken (packet : Packet) : Offer := ⟨packet, .ok ()⟩

/-- The bytes of some packets that were offered, in order. -/
def Offer.bytes (offers : List Offer) : List UInt8 := offers.flatMap fun o => o.packet.payload

namespace Sink

/-- The receiver takes whatever it is offered. -/
def Accepts {α : Type} (sink : Sink σ α) : Prop := ∀ a s, (sink.offer a s).1 = .ok ()

lemma accepts_collect {α : Type} : (collect : Sink (Array α) α).Accepts := fun _ _ => rfl

/-- The receiver after some offers. -/
def seen {α : Type} (sink : Sink σ α) (offered : List α) (s : σ) : σ :=
  offered.foldl (fun s a => (sink.offer a s).2) s

/-- **Packets in a row.**  The first refusal ends it. -/
def deliver (sink : Sink σ Packet) : List Packet → σ → Delivery σ
  | [], s => ⟨.ok (), s, []⟩
  | packet :: rest, s =>
    match (sink.offer packet s).1 with
    | .error fault => ⟨.error fault, (sink.offer packet s).2, [⟨packet, .error fault⟩]⟩
    | .ok () =>
      let d := sink.deliver rest (sink.offer packet s).2
      ⟨d.result, d.sink, .taken packet :: d.offers⟩

variable {sink : Sink σ Packet} {packet : Packet} {s : σ}

lemma deliver_cons_of_ok (h : (sink.offer packet s).1 = .ok ()) (rest : List Packet) :
    sink.deliver (packet :: rest) s =
      ⟨(sink.deliver rest (sink.offer packet s).2).result,
        (sink.deliver rest (sink.offer packet s).2).sink,
        .taken packet :: (sink.deliver rest (sink.offer packet s).2).offers⟩ := by
  simp only [deliver, h]

lemma deliver_cons_of_error {fault : Fault} (h : (sink.offer packet s).1 = .error fault)
    (rest : List Packet) :
    sink.deliver (packet :: rest) s =
      ⟨.error fault, (sink.offer packet s).2, [⟨packet, .error fault⟩]⟩ := by
  simp only [deliver, h]

lemma map_packet_deliver (sink : Sink σ Packet) (packets : List Packet) (s : σ) :
    (sink.deliver packets s).offers.map Offer.packet =
      packets.take (sink.deliver packets s).offers.length := by
  induction packets generalizing s with
  | nil => rfl
  | cons packet rest ih =>
      cases h : (sink.offer packet s).1 with
      | error fault => rw [deliver_cons_of_error h]; rfl
      | ok u =>
          rw [deliver_cons_of_ok h, List.map_cons, ih, List.length_cons, List.take_succ_cons]
          rfl

/-- **All or up to a refusal.**  Where nothing was refused everything was offered; otherwise the
last offer is the one that was refused, and its fault is the result. -/
lemma deliver_cases (sink : Sink σ Packet) (packets : List Packet) (s : σ) :
    ((sink.deliver packets s).result = .ok () ∧
      (sink.deliver packets s).offers = packets.map Offer.taken) ∨
    ∃ fault packet, ∃ front : List Packet, (sink.deliver packets s).result = .error fault ∧
      (sink.deliver packets s).offers = front.map Offer.taken ++ [⟨packet, .error fault⟩] := by
  induction packets generalizing s with
  | nil => exact Or.inl ⟨rfl, rfl⟩
  | cons packet rest ih =>
      cases h : (sink.offer packet s).1 with
      | error fault =>
          rw [deliver_cons_of_error h]
          exact Or.inr ⟨fault, packet, [], rfl, rfl⟩
      | ok u =>
          rw [deliver_cons_of_ok h]
          rcases ih (sink.offer packet s).2 with ⟨hr, ho⟩ | ⟨fault, last, front, hr, ho⟩
          · exact Or.inl ⟨hr, by rw [ho, List.map_cons]⟩
          · exact Or.inr ⟨fault, last, packet :: front, hr, by rw [ho]; rfl⟩

/-- A receiver that takes everything is offered everything. -/
lemma deliver_of_accepts (h : sink.Accepts) (packets : List Packet) (s : σ) :
    sink.deliver packets s =
      ⟨.ok (), sink.seen packets s, packets.map Offer.taken⟩ := by
  induction packets generalizing s with
  | nil => rfl
  | cons packet rest ih => rw [deliver_cons_of_ok (h packet s), ih]; rfl

end Sink

/-! ## Cuts of the waiting bytes -/

namespace Backlog

lemma length_front (n : Nat) (b : Backlog) : (b.front n).length = min n b.size := by
  rw [front_eq_take, List.length_take, size_eq_length]

lemma contents_eq_nil_iff (b : Backlog) : b.contents = [] ↔ b.size = 0 := by
  rw [size_eq_length, List.length_eq_zero_iff]

lemma size_advance (n : Nat) (b : Backlog) : (b.advance n).size = b.size - n := by
  rw [size_eq_length, contents_advance, List.length_drop, size_eq_length]

end Backlog

namespace Packetizer

/-- The packets that the waiting bytes make when they are cut at some lengths. -/
def packets (g : Geometry) : List Nat → Packetizer → List Packet
  | [], _ => []
  | n :: plan, p => p.packet g (p.backlog.front n) (p.headTime g) :: packets g plan (p.departed n)

/-- The state when they have left. -/
def departedAll (plan : List Nat) (p : Packetizer) : Packetizer :=
  plan.foldl (fun p n => p.departed n) p

@[simp] lemma layout_departed (n : Nat) (p : Packetizer) : (p.departed n).layout = p.layout := rfl

@[simp] lemma size_departed (n : Nat) (p : Packetizer) :
    (p.departed n).backlog.size = p.backlog.size - n := Backlog.size_advance n p.backlog

/-- A cut leaves everything but the waiting bytes and the position in the stream as it is. -/
lemma departedAll_setup (plan : List Nat) (p : Packetizer) :
    (p.departedAll plan).geometry = p.geometry ∧ (p.departedAll plan).limits = p.limits ∧
      (p.departedAll plan).logger = p.logger ∧ (p.departedAll plan).phase = p.phase := by
  induction plan generalizing p with
  | nil => exact ⟨rfl, rfl, rfl, rfl⟩
  | cons n plan ih => exact ih (p.departed n)

lemma layout_departedAll (plan : List Nat) (p : Packetizer) :
    (p.departedAll plan).layout = p.layout := by
  rw [layout, (departedAll_setup plan p).1, layout]

lemma size_departedAll (plan : List Nat) (p : Packetizer) :
    (p.departedAll plan).backlog.size = p.backlog.size - plan.sum := by
  induction plan generalizing p with
  | nil => rfl
  | cons n plan ih =>
      rw [departedAll, List.foldl_cons, ← departedAll, ih, size_departed, List.sum_cons]
      omega

lemma length_packets (g : Geometry) (plan : List Nat) (p : Packetizer) :
    (p.packets g plan).length = plan.length := by
  induction plan generalizing p with
  | nil => rfl
  | cons n plan ih => simp only [packets, List.length_cons, ih]

lemma take_packets (g : Geometry) (k : Nat) (plan : List Nat) (p : Packetizer) :
    (p.packets g plan).take k = p.packets g (plan.take k) := by
  induction plan generalizing p k with
  | nil => simp [packets]
  | cons n plan ih =>
      cases k with
      | zero => rfl
      | succ k => simp only [packets, List.take_succ_cons, ih]

/-- The packets have the lengths of the cuts, as long as there are bytes to cut. -/
lemma map_length_packets (g : Geometry) {plan : List Nat} {p : Packetizer}
    (h : plan.sum ≤ p.backlog.size) :
    (p.packets g plan).map (fun packet => packet.payload.length) = plan := by
  induction plan generalizing p with
  | nil => rfl
  | cons n plan ih =>
      rw [List.sum_cons] at h
      have hrest : plan.sum ≤ (p.departed n).backlog.size := by
        rw [size_departed]
        omega
      simp only [packets, packet, List.map_cons, ih hrest, Backlog.length_front,
        Nat.min_eq_left (show n ≤ p.backlog.size by omega)]

lemma bytes_packets (g : Geometry) (plan : List Nat) (p : Packetizer) :
    Offer.bytes ((p.packets g plan).map Offer.taken) =
      (p.packets g plan).flatMap Packet.payload := by
  rw [Offer.bytes, List.flatMap_map]
  rfl

/-- No packet is longer than its cut. -/
lemma length_le_of_mem_packets {g : Geometry} {plan : List Nat} {n : Nat}
    (h : ∀ k ∈ plan, k ≤ n) (p : Packetizer) :
    ∀ packet ∈ p.packets g plan, packet.payload.length ≤ n := by
  induction plan generalizing p with
  | nil => simp [packets]
  | cons k plan ih =>
      intro made hmade
      rcases List.mem_cons.mp hmade with rfl | hmade
      · have hk : k ≤ n := h k (by simp)
        show (p.backlog.front k).length ≤ n
        rw [Backlog.length_front]
        exact Nat.le_trans (Nat.min_le_left ..) hk
      · exact ih (fun m hm => h m (by simp [hm])) (p.departed k) made hmade

/-- **Cutting neither loses nor invents a byte.** -/
lemma packets_append_departedAll (g : Geometry) (plan : List Nat) (p : Packetizer) :
    (p.packets g plan).flatMap Packet.payload ++ (p.departedAll plan).backlog.contents =
      p.backlog.contents := by
  induction plan generalizing p with
  | nil => rfl
  | cons n plan ih =>
      have h := ih (p.departed n)
      simp only [packets, List.flatMap_cons, List.append_assoc]
      rw [departedAll, List.foldl_cons, ← departedAll, h]
      exact Backlog.front_append_advance n p.backlog

end Packetizer

namespace Effect

variable {sink : Sink σ Packet} {g : Geometry} {plan : List Nat} {p : Packetizer} {s : σ}

/-- **A delivery of cuts.**  Every packet that is offered takes its bytes along, also the one that
is refused. -/
def carving (sink : Sink σ Packet) (g : Geometry) (plan : List Nat) (p : Packetizer) (s : σ) :
    Effect σ Unit :=
  ⟨(sink.deliver (p.packets g plan) s).result,
    p.departedAll (plan.take (sink.deliver (p.packets g plan) s).offers.length),
    (sink.deliver (p.packets g plan) s).sink, (sink.deliver (p.packets g plan) s).offers⟩

lemma carving_nil : carving sink g [] p s = idle () p s := rfl

/-- No packet is offered that is not one of the cuts. -/
lemma packet_mem_of_mem_carving {offer : Offer} (h : offer ∈ (carving sink g plan p s).offers) :
    offer.packet ∈ p.packets g plan := by
  have hmem : offer.packet ∈ (carving sink g plan p s).offers.map Offer.packet :=
    List.mem_map_of_mem h
  simp only [carving, Sink.map_packet_deliver] at hmem
  exact List.mem_of_mem_take hmem

/-- A receiver that takes everything gets the whole plan. -/
lemma carving_of_accepts (h : sink.Accepts) :
    carving sink g plan p s =
      ⟨.ok (), p.departedAll plan, sink.seen (p.packets g plan) s,
        (p.packets g plan).map Offer.taken⟩ := by
  simp only [carving, Sink.deliver_of_accepts h, List.length_map, Packetizer.length_packets,
    List.take_length]

/-- The rest of a plan goes on where the first cut has left off. -/
lemma carving_cons_of_ok {n : Nat}
    (h : (sink.offer (p.packet g (p.backlog.front n) (p.headTime g)) s).1 = .ok ()) :
    carving sink g (n :: plan) p s =
      (carving sink g plan (p.departed n)
        (sink.offer (p.packet g (p.backlog.front n) (p.headTime g)) s).2).after
        [.taken (p.packet g (p.backlog.front n) (p.headTime g))] := by
  simp only [carving, Packetizer.packets, Sink.deliver_cons_of_ok h, List.length_cons,
    List.take_succ_cons]
  rfl

lemma carving_cons_of_error {n : Nat} {fault : Fault}
    (h : (sink.offer (p.packet g (p.backlog.front n) (p.headTime g)) s).1 = .error fault) :
    carving sink g (n :: plan) p s =
      offering sink (p.packet g (p.backlog.front n) (p.headTime g)) (p.departed n) s := by
  simp only [carving, Packetizer.packets, Sink.deliver_cons_of_error h, offering, h]
  rfl

lemma carving_singleton (n : Nat) :
    carving sink g [n] p s =
      offering sink (p.packet g (p.backlog.front n) (p.headTime g)) (p.departed n) s := by
  cases h : (sink.offer (p.packet g (p.backlog.front n) (p.headTime g)) s).1 with
  | error fault => exact carving_cons_of_error h
  | ok u =>
      rw [carving_cons_of_ok h, carving_nil]
      simp only [offering, h, after, idle]
      rfl

end Effect

namespace Packetizer

variable {sink : Sink σ Packet} {g : Geometry} {plan : List Nat} {p : Packetizer} {s : σ}

/-! ## Deliveries of cuts -/

lemma effect_flush_upTo {n : Nat} (hg : p.layout = .ok g) (hpos : 0 < n)
    (hfit : n ≤ p.backlog.size) :
    (flush (.upTo n) none sink p s).effect =
      .offering sink (p.packet g (p.backlog.front n) (p.headTime g)) (p.departed n) s := by
  have hlen : (p.backlog.front n).length = n := by
    rw [Backlog.length_front, Nat.min_eq_left hfit]
  have hne : p.backlog.portion (.upTo n) ≠ [] := by
    intro h
    have := congrArg List.length h
    simp only [Backlog.portion, hlen, List.length_nil] at this
    omega
  rw [effect_flush hg hne, Backlog.portion, hlen]
  rfl

/-- **Carving is a delivery of its cuts**, as long as there are bytes to cut. -/
theorem effect_carve (hg : p.layout = .ok g) (hpos : ∀ n ∈ plan, 0 < n)
    (hfit : plan.sum ≤ p.backlog.size) :
    (carve plan sink p s).effect = .carving sink g plan p s := by
  induction plan generalizing p s with
  | nil => rfl
  | cons n plan ih =>
      rw [List.sum_cons] at hfit
      have hfirst : (flush (.upTo n) none sink p s).effect =
          .offering sink (p.packet g (p.backlog.front n) (p.headTime g)) (p.departed n) s :=
        effect_flush_upTo hg (hpos n (by simp)) (by omega)
      have hrest : plan.sum ≤ (p.departed n).backlog.size := by
        rw [size_departed]
        omega
      -- A refusal ends both sides here; otherwise the rest is carved from the state behind the cut.
      show ((flush (.upTo n) none >>= fun _ => carve plan) sink p s).effect = _
      cases h : (sink.offer (p.packet g (p.backlog.front n) (p.headTime g)) s).1 with
      | error fault =>
          rw [Effect.carving_cons_of_error h]
          rw [Effect.offering, h] at hfirst
          rw [Work.effect_bind_of_error hfirst, Effect.offering, h]
      | ok u =>
          rw [Effect.carving_cons_of_ok h]
          rw [Effect.offering, h] at hfirst
          rw [Work.effect_bind_of_ok hfirst]
          rw [ih (p := p.departed n) hg (fun m hm => hpos m (by simp [hm])) hrest]
          rfl

/-- Everything that waits, as one cut if there is anything. -/
def remainder (p : Packetizer) : List Nat := if p.backlog.size = 0 then [] else [p.backlog.size]

lemma sum_remainder (p : Packetizer) : p.remainder.sum ≤ p.backlog.size := by
  rw [remainder]
  split <;> simp

/-- **A flush of everything** is a delivery of one cut, or of none.  Where nothing waits no layout
is needed. -/
theorem effect_flush_all (hg : p.backlog.size ≠ 0 → p.layout = .ok g) :
    (flush .all none sink p s).effect = .carving sink g p.remainder p s := by
  by_cases h : p.backlog.size = 0
  · have hempty : p.backlog.portion .all = [] := by
      rwa [Backlog.portion, Backlog.contents_eq_nil_iff]
    rw [remainder, if_pos h, effect_flush_of_isEmpty hempty, Effect.carving_nil]
  · have hne : p.backlog.portion .all ≠ [] := by
      rwa [Backlog.portion, Ne, Backlog.contents_eq_nil_iff]
    have hall : p.backlog.front p.backlog.size = p.backlog.contents := by
      rw [Backlog.front_eq_take, Backlog.size_eq_length, List.take_length]
    rw [remainder, if_neg h, effect_flush (hg h) hne, Effect.carving_singleton, hall]
    simp only [Backlog.portion, ← Backlog.size_eq_length]
    rfl

/-- Nothing waits behind a flush of everything, whatever the receiver answers. -/
lemma size_carving_remainder (g : Geometry) (p : Packetizer) (s : σ) :
    (Effect.carving sink g p.remainder p s).packetizer.backlog.size = 0 := by
  by_cases h : p.backlog.size = 0
  · rw [remainder, if_pos h, Effect.carving_nil]
    exact h
  · rw [remainder, if_neg h, Effect.carving_singleton]
    simp only [Effect.offering, size_departed, Nat.sub_self]

end Packetizer

end CbrAudio
