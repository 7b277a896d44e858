import CbrAudio.Proofs.History

/-!
# No byte is lost

Bytes come in with chunks that are taken.  They go in packets, taken or refused; or they are dropped
with the layout they were to be cut by, by a clear or at the end of a session; or they are handed
over.  Nothing else happens to a byte, and the order is kept.

* `Departure`, `Step.departures` — the ways in which bytes go.
* `Step.taken` — the bytes that come in: those of a chunk that gets past `entry`.
* `Packetizer.Ready` — **the invariant**: what waits has a proper layout under which it can leave.
  Without it a flush would take bytes out of the backlog and then fail for want of a layout.
* **`bytes_conserved`** — over every run, whatever the receiver answers: what has gone and what
  waits is what was taken.  In particular what was in a refused packet does not come again.
-/

namespace CbrAudio

variable {σ α : Type}

/-- Bytes that are gone. -/
inductive Departure where
  /-- In a packet, whether it was taken or refused. -/
  | offered (offer : Offer)
  | dropped (bytes : List UInt8)
  | handedOver (bytes : List UInt8)

namespace Departure

def bytes : Departure → List UInt8
  | .offered offer => offer.packet.payload
  | .dropped bytes => bytes
  | .handedOver bytes => bytes

end Departure

namespace Step

/-- Waiting bytes that go without a packet. -/
def withdrawn (step : Step σ) : List Departure :=
  match step.operation, step.outcome.result with
  | .setFrames .., .ok _ => [.dropped step.before.backlog.contents]
  | .setSamples _, .ok _ => [.dropped step.before.backlog.contents]
  | .setSampleBytes _, .ok _ => [.dropped step.before.backlog.contents]
  | .flushStop, _ => [.dropped step.before.backlog.contents]
  | .clear, _ => [.dropped step.before.backlog.contents]
  | .reset, _ => [.dropped step.before.backlog.contents]
  | .drain, .ok bytes => [.handedOver bytes]
  | _, _ => []

/-- All bytes that go with a request, in order. -/
def departures (step : Step σ) : List Departure :=
  step.outcome.offers.map .offered ++ step.withdrawn

/-- The bytes that come in with a request: those of a chunk that is not held up. -/
def taken (sink : Sink σ Packet) (step : Step σ) : List UInt8 :=
  match step.operation with
  | .handle chunk =>
    match (Packetizer.entry chunk sink step.before step.receiver).result with
    | .ok _ => chunk.data
    | .error _ => []
  | _ => []

end Step

namespace Packetizer

/-- **What waits can leave**: it has a proper layout. -/
def Ready (p : Packetizer) : Prop := p.backlog.size ≠ 0 → ∃ g, p.layout = .ok g

lemma ready_of_layout {p : Packetizer} {g : Geometry} (h : p.layout = .ok g) : p.Ready :=
  fun _ => ⟨g, h⟩

lemma ready_of_empty {p : Packetizer} (h : p.backlog = .empty) : p.Ready := by
  intro hsize
  rw [h] at hsize
  exact absurd rfl hsize

end Packetizer

namespace Effect

/-- The bytes that waited and those that `came` are in packets or waiting, and can leave. -/
structure Conserves (e : Effect σ α) (p : Packetizer) (came : List UInt8) : Prop where
  ready : e.packetizer.Ready
  bytes : Offer.bytes e.offers ++ e.packetizer.backlog.contents = p.backlog.contents ++ came

variable {sink : Sink σ Packet} {g : Geometry} {p : Packetizer} {s : σ} {came : List UInt8}

lemma bytes_eq (offers : List Offer) :
    Offer.bytes offers = (offers.map Offer.packet).flatMap Packet.payload := by
  rw [Offer.bytes, List.flatMap_map]

lemma idle_conserves (a : α) (h : p.Ready) : (idle a p s).Conserves p [] :=
  ⟨h, by simp [idle, Offer.bytes]⟩

/-- However far a delivery gets, it is a beginning of the cuts. -/
lemma carving_conserves (hg : p.layout = .ok g) (plan : List Nat) :
    (carving sink g plan p s).Conserves p [] := by
  refine ⟨Packetizer.ready_of_layout (g := g) ?_, ?_⟩
  · rw [← hg]
    exact Packetizer.layout_departedAll _ p
  · rw [bytes_eq, carving]
    simp only [Sink.map_packet_deliver, Packetizer.take_packets, List.append_nil]
    exact Packetizer.packets_append_departedAll g _ p

lemma offering_conserves {packet : Packet} {q : Packetizer} (h : q.Ready)
    (hbytes : packet.payload ++ q.backlog.contents = p.backlog.contents ++ came) :
    (offering sink packet q s).Conserves p came := by
  refine ⟨h, ?_⟩
  rw [← hbytes]
  simp [offering, Offer.bytes]

lemma Conserves.marked {e : Effect σ α} (h : e.Conserves p came) : e.marked.Conserves p came :=
  ⟨h.ready, h.bytes⟩

/-- One thing after the other. -/
lemma Conserves.after {β : Type} {e : Effect σ α} {e' : Effect σ β} {came' : List UInt8}
    (h : e.Conserves p came) (h' : e'.Conserves e.packetizer came') :
    (e'.after e.offers).Conserves p (came ++ came') := by
  refine ⟨h'.ready, ?_⟩
  rw [after_offers, after_packetizer, Offer.bytes, List.flatMap_append, List.append_assoc]
  rw [← Offer.bytes, ← Offer.bytes, h'.bytes, ← List.append_assoc, h.bytes, List.append_assoc]

lemma Conserves.give {e : Effect σ α} {β : Type} (h : e.Conserves p came) (b : β) :
    (e.give b).Conserves p came :=
  ⟨h.ready, h.bytes⟩

end Effect

/-- A portion and what is left when it has gone are all that waited. -/
lemma Backlog.portion_append_advance (which : Portion) (b : Backlog) :
    b.portion which ++ (b.advance (b.portion which).length).contents = b.contents := by
  rw [contents_advance]
  cases which with
  | all => simp [portion]
  | upTo n =>
      rw [portion, front_eq_take, List.length_take]
      rcases Nat.le_total n b.contents.length with h | h
      · rw [Nat.min_eq_left h, List.take_append_drop]
      · rw [Nat.min_eq_right h, List.take_of_length_le h, List.drop_length, List.append_nil]

/-- Where a portion is not empty something waits. -/
lemma Backlog.size_ne_zero_of_portion {which : Portion} {b : Backlog} (h : b.portion which ≠ []) :
    b.size ≠ 0 := by
  intro hz
  refine h (List.eq_nil_of_length_eq_zero ?_)
  cases which with
  | all => rw [portion, ← size_eq_length, hz]
  | upTo n => rw [portion, length_front, hz, Nat.min_zero]

namespace Packetizer

variable {sink : Sink σ Packet} {g : Geometry} {p : Packetizer} {s : σ} {chunk : Chunk}

/-! ## Packets, chunks -/

/-- **A flush** moves bytes from the backlog into a packet. -/
lemma flush_conserves (h : p.Ready) (which : Portion) (stamp : Option UInt64) :
    ((flush which stamp sink p s).effect).Conserves p [] := by
  by_cases hempty : p.backlog.portion which = []
  · rw [effect_flush_of_isEmpty hempty]
    exact Effect.idle_conserves () h
  · -- Something leaves, so something waits, and what waits has a layout.
    obtain ⟨g, hg⟩ := h (Backlog.size_ne_zero_of_portion hempty)
    rw [effect_flush hg hempty]
    refine Effect.offering_conserves (ready_of_layout (g := g) hg) ?_
    rw [List.append_nil]
    exact Backlog.portion_append_advance which p.backlog

/-- In front of the point where a chunk is taken, bytes only leave; behind it there is a layout. -/
lemma entry_conserves (h : p.Ready) (chunk : Chunk) (sink : Sink σ Packet) (s : σ) :
    ((entry chunk sink p s).effect).Conserves p [] ∧
      ∀ l, (entry chunk sink p s).effect.result = .ok l →
        ∃ g, (entry chunk sink p s).effect.packetizer.layout = .ok g := by
  cases hg : p.layout with
  | error why =>
      rw [effect_entry_of_error hg]
      exact ⟨⟨h, by simp [Effect.failed, Offer.bytes]⟩, fun l hl => by cases hl⟩
  | ok g =>
      cases hgap : chunk.gap with
      | false =>
          rw [effect_entry_plain hg hgap]
          exact ⟨⟨h, by simp [Offer.bytes]⟩, fun l _ => ⟨g, hg⟩⟩
      | true =>
          have hbreak : (Effect.breaking sink g p s).Conserves p [] :=
            (Effect.carving_conserves hg p.remainder).marked
          rw [effect_entry_gap hg hgap]
          refine ⟨⟨hbreak.ready, hbreak.bytes⟩, fun l _ => ⟨g, ?_⟩⟩
          rw [← hg]
          exact layout_departedAll _ p

/-- Behind it the bytes of the chunk are in packets or waiting. -/
lemma accept_conserves (hg : p.layout = .ok g) (chunk : Chunk) (l : Lengths) :
    ((accept chunk l sink p s).effect).Conserves p chunk.data := by
  by_cases hpass : p.Passes chunk l
  · have hempty : p.backlog.contents = [] := by
      exact p.backlog.contents_eq_nil_iff.mpr hpass.1
    rw [effect_accept_through hg hpass]
    refine Effect.offering_conserves (ready_of_layout (g := g) hg) ?_
    show chunk.data ++ p.backlog.contents = p.backlog.contents ++ chunk.data
    rw [hempty, List.append_nil, List.nil_append]
  · have hcarve : (Effect.carving sink g (l.cuts (p.backlog.size + chunk.data.length))
        (p.joined chunk) s).Conserves (p.joined chunk) [] :=
      Effect.carving_conserves (p := p.joined chunk) hg _
    rw [effect_accept_enqueue hg hpass]
    refine ⟨hcarve.ready, ?_⟩
    rw [hcarve.bytes, List.append_nil, contents_joined]

/-- **A chunk comes in** with its bytes, or with none of them. -/
lemma handle_conserves (h : p.Ready) (chunk : Chunk) :
    ((handle chunk sink p s).effect).Conserves p
      (match (entry chunk sink p s).result with
        | .ok _ => chunk.data
        | .error _ => []) := by
  obtain ⟨hentry, hlayout⟩ := entry_conserves h chunk sink s
  rw [handle_eq_entry_accept]
  cases hr : (entry chunk sink p s).result with
  | error fault =>
      rw [Work.bind_of_error hr]
      exact ⟨hentry.ready, hentry.bytes⟩
  | ok l =>
      -- The break may have changed the state, but not the layout that was asked for.
      obtain ⟨g, hg⟩ := hlayout l hr
      have haccept : ((accept chunk l sink (entry chunk sink p s).packetizer
          (entry chunk sink p s).sink).effect).Conserves (entry chunk sink p s).packetizer
          chunk.data :=
        accept_conserves hg chunk l
      rw [Work.bind_of_ok hr]
      exact hentry.after haccept

end Packetizer

/-! ## Requests and runs -/

namespace Step

/-- **The balance of a request**: what goes and what waits then is what waited and what came, and
it can leave. -/
structure Balanced (sink : Sink σ Packet) (step : Step σ) : Prop where
  ready : step.outcome.packetizer.Ready
  bytes : step.departures.flatMap Departure.bytes ++ step.outcome.packetizer.backlog.contents =
    step.before.backlog.contents ++ step.taken sink

variable {sink : Sink σ Packet} {step : Step σ}

/-- A request that only sends packets is balanced if its effect is. -/
lemma balanced_of_conserves (hw : step.withdrawn = [])
    (h : step.outcome.effect.Conserves step.before (step.taken sink)) : step.Balanced sink := by
  refine ⟨h.ready, ?_⟩
  have hbytes := h.bytes
  rw [departures, hw, List.append_nil, List.flatMap_map]
  exact hbytes

/-- A request that sends none and leaves nothing waiting is balanced if all that waited is
accounted for. -/
lemma balanced_of_emptied {bytes : List UInt8} {q : Packetizer} (hq : q.backlog = .empty)
    (h : step.outcome.effect = .idle bytes q step.receiver) (ht : step.taken sink = [])
    (hw : step.withdrawn.flatMap Departure.bytes = step.before.backlog.contents) :
    step.Balanced sink := by
  simp only [Outcome.effect, Effect.idle, Effect.mk.injEq] at h
  obtain ⟨-, hstate, -, hoffers⟩ := h
  refine ⟨?_, ?_⟩
  · rw [hstate]
    exact Packetizer.ready_of_empty hq
  · rw [departures, hoffers, hstate, hq, ht, List.append_nil, Backlog.contents_empty,
      List.append_nil]
    exact hw

/-- What waits is dropped with the old layout, if the new one is set. -/
lemma withdrawn_of_geometry {g : Geometry} (hg : step.operation.layout? = some g) :
    step.withdrawn = match step.outcome.result with
      | .ok _ => [.dropped step.before.backlog.contents]
      | .error _ => [] := by
  obtain ⟨op, p, s, o⟩ := step
  cases op with
  | setFrames size millis => cases hr : o.result <;> simp [withdrawn, hr]
  | setSamples bits => cases hr : o.result <;> simp [withdrawn, hr]
  | setSampleBytes bytes => cases hr : o.result <;> simp [withdrawn, hr]
  | _ => cases hg

lemma taken_of_geometry {g : Geometry} (hg : step.operation.layout? = some g) :
    step.taken sink = [] := by
  obtain ⟨op, p, s, o⟩ := step
  cases op with
  | handle chunk => cases hg
  | _ => rfl

variable {p : Packetizer} {s : σ}

/-- A layout that is refused changes nothing; one that is set empties the backlog. -/
lemma balanced_of_geometry {op : Operation} {g : Geometry} (hg : op.layout? = some g)
    (h : p.Ready) : Balanced sink ⟨op, p, s, op.perform sink p s⟩ := by
  have heffect : (op.perform sink p s).effect = _ := Operation.effect_perform_geometry hg
  have hwithdrawn : withdrawn ⟨op, p, s, op.perform sink p s⟩ = _ := withdrawn_of_geometry hg
  have htaken : taken sink ⟨op, p, s, op.perform sink p s⟩ = [] := taken_of_geometry hg
  cases hc : p.clash? g with
  | some why =>
      simp only [hc] at heffect
      have hresult : (op.perform sink p s).result = .error (.setup why) :=
        congrArg Effect.result heffect
      simp only [hresult] at hwithdrawn
      refine balanced_of_conserves hwithdrawn ?_
      rw [htaken, heffect]
      exact ⟨h, by simp [Effect.failed, Offer.bytes]⟩
  | none =>
      simp only [hc] at heffect
      have hresult : (op.perform sink p s).result = .ok [] := congrArg Effect.result heffect
      simp only [hresult] at hwithdrawn
      refine balanced_of_emptied rfl heffect htaken ?_
      rw [hwithdrawn]
      simp [Departure.bytes]

/-- **Every request is balanced.** -/
theorem balanced (h : p.Ready) (sink : Sink σ Packet) (s : σ) (op : Operation) :
    Balanced sink ⟨op, p, s, op.perform sink p s⟩ := by
  cases op with
  | setFrames size millis => exact balanced_of_geometry rfl h
  | setSamples bits => exact balanced_of_geometry rfl h
  | setSampleBytes bytes => exact balanced_of_geometry rfl h
  | setLimits limits =>
      refine balanced_of_conserves rfl ?_
      exact ⟨h, by simp [Operation.effect_perform_setLimits, Effect.idle, Offer.bytes, taken]⟩
  | handle chunk =>
      refine balanced_of_conserves rfl ?_
      rw [Operation.effect_perform_handle]
      exact (Packetizer.handle_conserves h chunk).give []
  | flush which stamp =>
      refine balanced_of_conserves rfl ?_
      rw [Operation.effect_perform_flush]
      exact (Packetizer.flush_conserves h which stamp).give []
  | discontinuity =>
      refine balanced_of_conserves rfl ?_
      rw [Operation.effect_perform_discontinuity]
      exact ((Packetizer.flush_conserves h .all none).marked).give []
  | endOfStream =>
      refine balanced_of_conserves rfl ?_
      rw [Operation.effect_perform_endOfStream]
      exact (Packetizer.flush_conserves h .all none).give []
  | flushStop =>
      exact balanced_of_emptied rfl Operation.effect_perform_flushStop rfl
        (by simp [withdrawn, Departure.bytes])
  | clear =>
      exact balanced_of_emptied rfl Operation.effect_perform_clear rfl
        (by simp [withdrawn, Departure.bytes])
  | drain =>
      have hwithdrawn : withdrawn ⟨.drain, p, s, Operation.perform .drain sink p s⟩ =
          [.handedOver p.backlog.contents] := rfl
      exact balanced_of_emptied rfl Operation.effect_perform_drain rfl
        (by simp [hwithdrawn, Departure.bytes])
  | reset =>
      exact balanced_of_emptied rfl Operation.effect_perform_reset rfl
        (by simp [withdrawn, Departure.bytes])

end Step

/-- The balance of a run, from any state in which what waits can leave. -/
lemma history_balanced {p : Packetizer} (h : p.Ready) (sink : Sink σ Packet) (s : σ)
    (ops : List Operation) :
    ((Operation.history sink ops p s).flatMap Step.departures).flatMap Departure.bytes ++
        (Operation.performAll sink ops p s).1.backlog.contents =
      p.backlog.contents ++ (Operation.history sink ops p s).flatMap (Step.taken sink) := by
  induction ops generalizing p s with
  | nil => simp [Operation.history, Operation.performAll]
  | cons op ops ih =>
      have hstep := Step.balanced h sink s op
      simp only [Operation.history, Operation.performAll, List.flatMap_cons, List.flatMap_append,
        List.append_assoc]
      rw [ih hstep.ready, ← List.append_assoc, hstep.bytes, List.append_assoc]

/-- **No byte is lost, and none comes twice.**  What has gone, in the order in which it went, and
what waits at the end are the bytes of the chunks that were taken.  What goes after some departure,
be it a refused packet, is behind its bytes in the stream. -/
theorem bytes_conserved (limits : Limits) (logger : Log.Logger) (sink : Sink σ Packet) (s : σ)
    (ops : List Operation) :
    let p := Packetizer.fresh limits logger
    let steps := Operation.history sink ops p s
    let waiting := (Operation.performAll sink ops p s).1.backlog.contents
    let stream := steps.flatMap (Step.taken sink)
    (steps.flatMap Step.departures).flatMap Departure.bytes ++ waiting = stream ∧
      ∀ earlier departure later, steps.flatMap Step.departures = earlier ++ departure :: later →
        later.flatMap Departure.bytes ++ waiting =
          stream.drop (earlier.flatMap Departure.bytes ++ departure.bytes).length := by
  intro p steps waiting stream
  have hbalance : (steps.flatMap Step.departures).flatMap Departure.bytes ++ waiting = stream :=
    history_balanced (Packetizer.ready_of_empty rfl) sink s ops
  refine ⟨hbalance, ?_⟩
  intro earlier departure later hsplit
  rw [← hbalance, hsplit, List.flatMap_append, List.flatMap_cons, ← List.append_assoc,
    List.append_assoc _ _ waiting, List.drop_left]

end CbrAudio
