import CbrAudio.Packetizer.Operation
import Mathlib.Tactic.Lemma

/-!
# Effects

No step of any work reads a record back, so what happens to a stream can be told without the log.
What is left of an outcome is its *effect*: the result, the state, the receiver and the offers.

* `Effect`, `Outcome.effect` — an outcome without its records.
* **One thing after the other.**  `effect_bind_of_ok` and `effect_bind_of_error` carry a sequence
  of steps from effect to effect, and a step that does not fail needs no case of its own:
  `effect_current_bind`, `effect_update_bind`, `effect_log_bind`.
* **Packets leave.**  `effect_push` and `effect_flush` say that under a proper layout work comes
  down to one offer, `Effect.offering`.
-/

namespace CbrAudio

/-- What has come of some work, but for the records. -/
structure Effect (σ α : Type) where
  result : Except Fault α
  packetizer : Packetizer
  sink : σ
  /-- The packets offered, the first one first. -/
  offers : List Offer

variable {σ α β : Type}

namespace Effect

/-- The same effect with earlier offers in front. -/
def after (offers : List Offer) (e : Effect σ α) : Effect σ α :=
  { e with offers := offers ++ e.offers }

/-- Nothing has happened. -/
def idle (a : α) (p : Packetizer) (s : σ) : Effect σ α := ⟨.ok a, p, s, []⟩

/-- Nothing has happened, and nothing will. -/
def failed (fault : Fault) (p : Packetizer) (s : σ) : Effect σ α := ⟨.error fault, p, s, []⟩

/-- **One packet has been offered**, and the answer is the result. -/
def offering (sink : Sink σ Packet) (packet : Packet) (p : Packetizer) (s : σ) : Effect σ Unit :=
  ⟨(sink.offer packet s).1, p, (sink.offer packet s).2, [⟨packet, (sink.offer packet s).1⟩]⟩

lemma eta (e : Effect σ α) : e = ⟨e.result, e.packetizer, e.sink, e.offers⟩ := rfl

@[simp] lemma after_nil (e : Effect σ α) : e.after [] = e := rfl

@[simp] lemma after_result (offers : List Offer) (e : Effect σ α) :
    (e.after offers).result = e.result := rfl

@[simp] lemma after_packetizer (offers : List Offer) (e : Effect σ α) :
    (e.after offers).packetizer = e.packetizer := rfl

@[simp] lemma after_sink (offers : List Offer) (e : Effect σ α) :
    (e.after offers).sink = e.sink := rfl

@[simp] lemma after_offers (offers : List Offer) (e : Effect σ α) :
    (e.after offers).offers = offers ++ e.offers := rfl

end Effect

/-- The outcome without its records. -/
def Outcome.effect (o : Outcome σ α) : Effect σ α := ⟨o.result, o.packetizer, o.sink, o.offers⟩

namespace Work

variable {sink : Sink σ Packet} {p p' : Packetizer} {s s' : σ} {offers : List Offer}

/-! ## One thing after the other -/

lemma effect_bind_of_ok {first : Work σ α} {a : α}
    (h : (first sink p s).effect = ⟨.ok a, p', s', offers⟩) (next : α → Work σ β) :
    ((first >>= next) sink p s).effect = ((next a sink p' s').effect).after offers := by
  simp only [Outcome.effect, Effect.mk.injEq] at h
  obtain ⟨hr, rfl, rfl, rfl⟩ := h
  rw [bind_of_ok hr]
  rfl

lemma effect_bind_of_error {first : Work σ α} {fault : Fault}
    (h : (first sink p s).effect = ⟨.error fault, p', s', offers⟩) (next : α → Work σ β) :
    ((first >>= next) sink p s).effect = ⟨.error fault, p', s', offers⟩ := by
  simp only [Outcome.effect, Effect.mk.injEq] at h
  obtain ⟨hr, rfl, rfl, rfl⟩ := h
  rw [bind_of_error hr]
  rfl

@[simp] lemma effect_pure (a : α) :
    ((pure a : Work σ α) sink p s).effect = .idle a p s := rfl

@[simp] lemma effect_fail (fault : Fault) :
    ((fail fault : Work σ α) sink p s).effect = .failed fault p s := rfl

@[simp] lemma effect_ofExcept (result : Except Fault α) :
    ((ofExcept result : Work σ α) sink p s).effect = ⟨result, p, s, []⟩ := rfl

@[simp] lemma effect_update (f : Packetizer → Packetizer) :
    ((update f : Work σ Unit) sink p s).effect = .idle () (f p) s := rfl

@[simp] lemma effect_log (level : Log.Level) (message : String) :
    ((log level message : Work σ Unit) sink p s).effect = .idle () p s := rfl

@[simp] lemma effect_offer (packet : Packet) :
    (offer packet sink p s).effect = .offering sink packet p s := rfl

/-- Work that goes on after a fault hides nothing but the fault. -/
@[simp] lemma effect_attempt (work : Work σ α) :
    (work.attempt sink p s).effect =
      { (work sink p s).effect with result := .ok (work sink p s).effect.result } := rfl

@[simp] lemma effect_current_bind (next : Packetizer → Work σ β) :
    ((current >>= next) sink p s).effect = (next p sink p s).effect := rfl

@[simp] lemma effect_update_bind (f : Packetizer → Packetizer) (next : Unit → Work σ β) :
    ((update f >>= next) sink p s).effect = (next () sink (f p) s).effect := rfl

@[simp] lemma effect_log_bind (level : Log.Level) (message : String) (next : Unit → Work σ β) :
    ((log level message >>= next) sink p s).effect = (next () sink p s).effect := rfl

@[simp] lemma effect_pure_bind (a : α) (next : α → Work σ β) :
    (((pure a : Work σ α) >>= next) sink p s).effect = (next a sink p s).effect := rfl

@[simp] lemma effect_require_ok_bind (a : α) (next : α → Work σ β) :
    ((require (.ok a) >>= next) sink p s).effect = (next a sink p s).effect := rfl

/-- Work that only looks on afterwards adds nothing. -/
lemma effect_bind_idle {first : Work σ Unit} {next : Unit → Work σ Unit}
    (h : ∀ q t, (next () sink q t).effect = .idle () q t) :
    ((first >>= next) sink p s).effect = (first sink p s).effect := by
  cases hr : (first sink p s).result with
  | error fault =>
      rw [bind_of_error hr]
      simp only [Outcome.effect, Outcome.withResult, hr]
  | ok u =>
      have hfirst : (first sink p s).effect = ⟨.ok (), (first sink p s).packetizer,
          (first sink p s).sink, (first sink p s).offers⟩ := by
        simp only [Outcome.effect, hr]
      rw [effect_bind_of_ok hfirst, h, hfirst]
      simp only [Effect.after, Effect.idle, List.append_nil]

end Work

/-! ## Packets leave -/

namespace Packetizer

variable {sink : Sink σ Packet} {p : Packetizer} {s : σ} {g : Geometry}

/-- The presentation time of the first waiting byte. -/
def headTime (g : Geometry) (p : Packetizer) : Option UInt64 :=
  p.backlog.anchor.stamp.map fun t =>
    if p.backlog.anchor.distance = 0 then t
    else UInt64.ofNatClamp (t.toNat + g.duration p.backlog.anchor.distance p.limits.clockRate)

/-- The state when a packet of `n` bytes has left that did not wait. -/
def emitted (n : Nat) (p : Packetizer) : Packetizer := { p with gap := false, sent := p.sent + n }

/-- The state when the first `n` waiting bytes have left in a packet. -/
def departed (n : Nat) (p : Packetizer) : Packetizer :=
  { p with backlog := p.backlog.advance n, gap := false, sent := p.sent + n }

lemma effect_headStamp (hg : p.layout = .ok g) :
    (headStamp sink p s).effect = .idle (p.headTime g) p s := by
  simp only [headStamp, Work.effect_current_bind, Work.effect_log_bind, headTime]
  cases p.backlog.anchor.stamp with
  | none => rfl
  | some t =>
      by_cases hd : p.backlog.anchor.distance = 0
      · simp [hd]
      · simp only [hd, if_false, hg, Work.effect_require_ok_bind, Work.effect_pure, Option.map_some]

lemma effect_stampOr (hg : p.layout = .ok g) (stamp : Option UInt64) :
    (stampOr stamp sink p s).effect = .idle (stamp.or (p.headTime g)) p s := by
  cases stamp with
  | none => exact effect_headStamp hg
  | some t => rfl

/-- Whether a refusal is logged or not, it is the result. -/
lemma effect_deliver (packet : Packet) :
    (deliver packet sink p s).effect = .offering sink packet p s := by
  rw [deliver, Work.effect_bind_of_ok (Work.effect_attempt (Work.offer packet))]
  simp only [Work.effect_offer, Effect.offering]
  cases (sink.offer packet s).1 with
  | ok u => rfl
  | error fault => simp [Effect.failed, Effect.after]

/-- **A packet leaves.**  Under a proper layout nothing stands between a payload and the
receiver. -/
lemma effect_push (hg : p.layout = .ok g) (payload : List UInt8) (stamp : Option UInt64) :
    (push payload stamp sink p s).effect =
      .offering sink (p.packet g payload stamp) (p.emitted payload.length) s := by
  simp only [push, Work.effect_current_bind, hg, Work.effect_require_ok_bind]
  split
  all_goals
    simp only [Work.effect_log_bind, Work.effect_update_bind]
    exact effect_deliver _

/-- Where no bytes wait a flush does nothing. -/
lemma effect_flush_of_isEmpty {which : Portion} (h : p.backlog.portion which = [])
    (stamp : Option UInt64) : (flush which stamp sink p s).effect = .idle () p s := by
  simp [flush, h]

/-- **A flush** is one packet of the bytes it is asked for. -/
lemma effect_flush {which : Portion} (hg : p.layout = .ok g) (h : p.backlog.portion which ≠ [])
    (stamp : Option UInt64) :
    (flush which stamp sink p s).effect =
      .offering sink (p.packet g (p.backlog.portion which) (stamp.or (p.headTime g)))
        (p.departed (p.backlog.portion which).length) s := by
  simp only [flush, Work.effect_current_bind, List.isEmpty_eq_false_iff.mpr h]
  rw [if_neg Bool.false_ne_true, Work.effect_bind_of_ok (effect_stampOr hg stamp)]
  rw [Effect.after_nil, Work.effect_update_bind]
  exact effect_push (p := { p with backlog := p.backlog.advance (p.backlog.portion which).length })
    hg _ _

end Packetizer

end CbrAudio
