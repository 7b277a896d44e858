import CbrAudio.Packetizer.Operation
import Mathlib.Tactic.Choose
import Mathlib.Tactic.Lemma

/-!
# Dialogues

An effect is what has come of some work with one receiver and one logger.  Where two of them are
compared, the work has to be told without either.

A packetizer meets the world in two places: it offers packets, and is answered; and it says things,
to which nobody answers.  So all that a request comes to in some state can be written down
beforehand, as a tree that branches only where an answer is waited for.

* `Dialogue` — such a tree, and `Dialogue.run`, which holds it with a receiver and a logger.
* `Dialogue.andThen` — one after the other; `run_andThen` says what that comes to.
* `Work.Told` — **work that is a dialogue in every state**.  The tree is there before receiver and
  logger are, so answers are all that gets into the work from outside.
* `Told.bind`, `Told.attempt`, `told_log` and so on — the steps that work is made of.
* **`perform_told`** — every request is told, function by function.
-/

namespace CbrAudio

variable {σ α β : Type}

lemma Outcome.after_after (offers offers' : List Offer) (records records' : List Log.Record)
    (o : Outcome σ α) :
    (o.after offers' records').after offers records =
      o.after (offers ++ offers') (records ++ records') := by
  simp only [Outcome.after, List.append_assoc]

namespace Packetizer

/-- The state with another logger. -/
def withLogger (logger : Log.Logger) (p : Packetizer) : Packetizer := { p with logger := logger }

end Packetizer

/-! ## Trees of answers -/

/-- What work comes to, answer by answer. -/
inductive Dialogue (α : Type) where
  /-- There is a result, and the state has become this one. -/
  | done (result : Except Fault α) (state : Packetizer)
  /-- A packet is offered, and the answer says how it goes on. -/
  | offer (packet : Packet) (next : Except Fault Unit → Dialogue α)
  /-- Something is said, and it goes on. -/
  | say (level : Log.Level) (message : String) (next : Dialogue α)

namespace Dialogue

/-- **Holds a dialogue** with a receiver and a logger. -/
def run (sink : Sink σ Packet) (logger : Log.Logger) : Dialogue α → σ → Outcome σ α
  | .done result state, s => ⟨result, state.withLogger logger, s, [], []⟩
  | .offer packet next, s =>
    (run sink logger (next (sink.offer packet s).1) (sink.offer packet s).2).after
      [⟨packet, (sink.offer packet s).1⟩] []
  | .say level message next, s => (run sink logger next s).after [] (logger.log level message)

/-- One dialogue, and another one behind it. -/
def andThen (next : Except Fault α → Packetizer → Dialogue β) : Dialogue α → Dialogue β
  | .done result state => next result state
  | .offer packet rest => .offer packet fun answer => (rest answer).andThen next
  | .say level message rest => .say level message (rest.andThen next)

/-- What is behind a result: nothing if it is a fault. -/
def goOn (next : α → Packetizer → Dialogue β) : Except Fault α → Packetizer → Dialogue β
  | .error fault, p => .done (.error fault) p
  | .ok a, p => next a p

/-- What is behind a result that is caught: nothing, whether it is a fault or not. -/
def caught (result : Except Fault α) (p : Packetizer) : Dialogue (Except Fault α) :=
  .done (.ok result) p

/-- **One after the other**: the second begins where the first has come to. -/
lemma run_andThen (sink : Sink σ Packet) (logger : Log.Logger)
    (next : Except Fault α → Packetizer → Dialogue β) (d : Dialogue α) (s : σ) :
    let o := d.run sink logger s
    ∃ p : Packetizer, o.packetizer = p.withLogger logger ∧
      (d.andThen next).run sink logger s =
        ((next o.result p).run sink logger o.sink).after o.offers o.records := by
  induction d generalizing s with
  | done result state => exact ⟨state, rfl, rfl⟩
  | offer packet rest ih =>
      obtain ⟨p, hstate, hrun⟩ := ih (sink.offer packet s).1 (sink.offer packet s).2
      refine ⟨p, hstate, ?_⟩
      rw [andThen, run, hrun, Outcome.after_after]
      rfl
  | say level message rest ih =>
      obtain ⟨p, hstate, hrun⟩ := ih s
      refine ⟨p, hstate, ?_⟩
      rw [andThen, run, hrun, Outcome.after_after]
      rfl

end Dialogue

/-! ## Work that is told -/

namespace Work

/-- **Work that is told**: in every state there is one dialogue, whatever receiver and logger it is
held with. -/
def Told (work : (σ : Type) → Work σ α) : Prop :=
  ∀ p : Packetizer, ∃ d : Dialogue α,
    ∀ (σ : Type) (sink : Sink σ Packet) (logger : Log.Logger) (s : σ),
      work σ sink (p.withLogger logger) s = d.run sink logger s

variable {work : (σ : Type) → Work σ α}

lemma told_ofExcept (result : Except Fault α) : Told fun σ => (ofExcept result : Work σ α) :=
  fun p => ⟨.done result p, fun _ _ _ _ => rfl⟩

lemma told_pure (a : α) : Told fun σ => (pure a : Work σ α) := told_ofExcept (.ok a)

lemma told_fail (fault : Fault) : Told fun σ => (fail fault : Work σ α) :=
  told_ofExcept (.error fault)

lemma told_require (result : Except SetupFault α) : Told fun σ => (require result : Work σ α) :=
  told_ofExcept (result.mapError .setup)

/-- A change of the state that does not look at the logger. -/
lemma told_update {f : Packetizer → Packetizer}
    (h : ∀ p logger, f (p.withLogger logger) = (f p).withLogger logger) :
    Told fun σ => (update f : Work σ Unit) :=
  fun p => ⟨.done (.ok ()) (f p), fun σ sink logger s => by
    simp only [update, Dialogue.run, h]⟩

lemma told_log (level : Log.Level) (message : String) :
    Told fun σ => (log level message : Work σ Unit) :=
  fun p => ⟨.say level message (.done (.ok ()) p), fun σ sink logger s => by
    simp only [log, Dialogue.run, Outcome.after, List.append_nil]
    rfl⟩

lemma told_offer (packet : Packet) : Told fun σ => (offer packet : Work σ Unit) :=
  fun p => ⟨.offer packet fun answer => .done answer p, fun _ _ _ _ => rfl⟩

/-- **One told thing after the other.** -/
lemma Told.bind {next : (σ : Type) → α → Work σ β} (h : Told work)
    (hnext : ∀ a, Told fun σ => next σ a) : Told fun σ => work σ >>= next σ := by
  intro p
  obtain ⟨first, hfirst⟩ := h p
  choose second hsecond using hnext
  refine ⟨first.andThen (.goOn second), fun σ sink logger s => ?_⟩
  obtain ⟨q, hstate, hrun⟩ := Dialogue.run_andThen sink logger (.goOn second) first s
  rw [← hfirst σ sink logger s] at hstate hrun
  show (work σ >>= next σ) sink (p.withLogger logger) s = _
  rw [hrun]
  cases hr : (work σ sink (p.withLogger logger) s).result with
  | error fault =>
      rw [bind_of_error hr]
      simp only [Dialogue.goOn, Dialogue.run, Outcome.withResult, Outcome.after, List.append_nil,
        hstate]
  | ok a =>
      have hbehind : next σ a sink (q.withLogger logger) _ = (second a q).run sink logger _ :=
        hsecond a q σ sink logger (work σ sink (p.withLogger logger) s).sink
      rw [bind_of_ok hr, hstate, hbehind]
      rfl

/-- A fault that is caught is told as a result. -/
lemma Told.attempt (h : Told work) : Told fun σ => (work σ).attempt := by
  intro p
  obtain ⟨d, hd⟩ := h p
  refine ⟨d.andThen .caught, fun σ sink logger s => ?_⟩
  obtain ⟨q, hstate, hrun⟩ := Dialogue.run_andThen sink logger .caught d s
  rw [← hd σ sink logger s] at hstate hrun
  rw [hrun]
  simp only [Dialogue.caught, Dialogue.run, Work.attempt, Outcome.withResult, Outcome.after,
    List.append_nil, hstate]

/-- Work that looks at the state, but not at the logger. -/
lemma told_current_bind {next : (σ : Type) → Packetizer → Work σ α}
    (h : ∀ p, Told fun σ => next σ p)
    (hsame : ∀ σ p logger, next σ (Packetizer.withLogger logger p) = next σ p) :
    Told fun σ => current >>= next σ := by
  intro p
  obtain ⟨d, hd⟩ := h p p
  refine ⟨d, fun σ sink logger s => ?_⟩
  have hnext : next σ p sink (p.withLogger logger) s = d.run sink logger s := hd σ sink logger s
  rw [← hnext, ← hsame σ p logger]
  rfl

lemma Told.ite {condition : Prop} [Decidable condition] {work' : (σ : Type) → Work σ α}
    (h : Told work) (h' : Told work') :
    Told fun σ => if condition then work σ else work' σ := by
  by_cases hc : condition
  · simpa only [if_pos hc] using h
  · simpa only [if_neg hc] using h'

end Work

/-! ## Every request is told -/

namespace Packetizer

open Work

lemma told_deliver (packet : Packet) : Told fun σ => (deliver packet : Work σ Unit) := by
  refine (told_offer packet).attempt.bind fun answer => ?_
  cases answer with
  | ok u => exact told_pure ()
  | error fault => exact (told_log _ _).bind fun _ => told_fail fault

lemma told_push (payload : List UInt8) (stamp : Option UInt64) :
    Told fun σ => (push payload stamp : Work σ Unit) := by
  refine told_current_bind (fun p => ?_) fun _ _ _ => rfl
  refine (told_require p.layout).bind fun g => ?_
  have hsend : Told fun σ => (do
      Work.update fun p => { p with gap := false, sent := p.sent + payload.length }
      Work.log .trace ("pushing " ++ toString payload.length ++ " bytes ts " ++ stampText stamp
        ++ " rtp offset " ++ toString (p.packet g payload stamp).offset.toNat)
      deliver (p.packet g payload stamp) : Work σ Unit) :=
    (told_update fun _ _ => rfl).bind fun _ => (told_log _ _).bind fun _ => told_deliver _
  exact .ite ((told_log _ _).bind fun _ => hsend) hsend

lemma told_headStamp : Told fun σ => (headStamp : Work σ (Option UInt64)) := by
  refine told_current_bind (fun p => ?_) fun _ _ _ => rfl
  refine (told_log _ _).bind fun _ => ?_
  cases p.backlog.anchor.stamp with
  | none => exact told_pure none
  | some t => exact .ite (told_pure _) ((told_require p.layout).bind fun g => told_pure _)

lemma told_stampOr (stamp : Option UInt64) :
    Told fun σ => (stampOr stamp : Work σ (Option UInt64)) := by
  cases stamp with
  | none => exact told_headStamp
  | some t => exact told_pure _

lemma told_flush (which : Portion) (stamp : Option UInt64) :
    Told fun σ => (flush which stamp : Work σ Unit) := by
  refine told_current_bind (fun p => ?_) fun _ _ _ => rfl
  refine .ite (told_pure ()) ?_
  refine (told_stampOr stamp).bind fun stamp => ?_
  exact (told_update fun _ _ => rfl).bind fun _ => told_push _ stamp

lemma told_setGeometry (geometry : Geometry) :
    Told fun σ => (setGeometry geometry : Work σ Unit) := by
  refine told_current_bind (fun p => ?_) fun _ _ _ => rfl
  cases p.clash? geometry with
  | some why => exact (told_log _ _).bind fun _ => told_fail _
  | none =>
      have hset : Told fun σ => (do
          Work.update (withGeometry geometry)
          Work.log .debug (announcement geometry) : Work σ Unit) :=
        (told_update fun _ _ => rfl).bind fun _ => told_log _ _
      exact .ite ((told_log _ _).bind fun _ => hset) hset

lemma told_demand (chunk : Chunk) (result : Except SetupFault α) :
    Told fun σ => (demand chunk result : Work σ α) := by
  cases result with
  | ok a => exact told_pure a
  | error why => exact (told_log _ _).bind fun _ => told_fail _

lemma told_breakOff : Told fun σ => (breakOff : Work σ Unit) := by
  refine (told_flush .all none).attempt.bind fun flushed => ?_
  exact (told_update fun _ _ => rfl).bind fun _ => told_ofExcept flushed

/-- The plan is known beforehand, so carving is told cut by cut. -/
lemma told_carve (plan : List Nat) : Told fun σ => (carve plan : Work σ Unit) := by
  induction plan with
  | nil => exact told_pure ()
  | cons n plan ih => exact (told_flush (.upTo n) none).bind fun _ => ih

lemma told_enqueue (chunk : Chunk) (l : Lengths) :
    Told fun σ => (enqueue chunk l : Work σ Unit) := by
  refine (told_update fun _ _ => rfl).bind fun _ => ?_
  refine told_current_bind (fun p => ?_) fun _ _ _ => rfl
  refine (told_carve _).bind fun _ => ?_
  exact told_current_bind (fun left => told_log _ _) fun _ _ _ => rfl

lemma told_accept (chunk : Chunk) (l : Lengths) :
    Told fun σ => (accept chunk l : Work σ Unit) := by
  refine (told_update fun _ _ => rfl).bind fun _ => ?_
  refine told_current_bind (fun p => ?_) fun _ _ _ => rfl
  refine (told_log _ _).bind fun _ => ?_
  exact .ite ((told_log _ _).bind fun _ => told_push _ _) (told_enqueue chunk l)

lemma told_handle (chunk : Chunk) : Told fun σ => (handle chunk : Work σ Unit) := by
  refine told_current_bind (fun p => ?_) fun _ _ _ => rfl
  refine (told_demand chunk p.layout).bind fun _ => ?_
  have htake : Told fun σ => (do
      let p ← Work.current
      let l ← demand chunk p.lengths
      accept chunk l : Work σ Unit) := by
    refine told_current_bind (fun p => ?_) fun _ _ _ => rfl
    exact (told_demand chunk p.lengths).bind fun l => told_accept chunk l
  refine .ite ?_ htake
  exact (told_log _ _).bind fun _ => told_breakOff.bind fun _ => htake

lemma told_discontinuity : Told fun σ => (discontinuity : Work σ Unit) :=
  (told_log _ _).bind fun _ => told_breakOff

lemma told_endOfStream : Told fun σ => (endOfStream : Work σ Unit) := by
  refine told_current_bind (fun p => ?_) fun _ _ _ => rfl
  exact (told_log _ _).bind fun _ => told_flush _ _

lemma told_clear : Told fun σ => (clear : Work σ Unit) := told_update fun _ _ => rfl

lemma told_drain : Told fun σ => (drain : Work σ (List UInt8)) := by
  refine told_current_bind (fun p => ?_) fun _ _ _ => rfl
  exact (told_update fun _ _ => rfl).bind fun _ => told_pure _

lemma told_reset : Told fun σ => (reset : Work σ Unit) :=
  (told_update fun _ _ => rfl).bind fun _ => told_log _ _

end Packetizer

open Packetizer Work in
/-- **Every request is told.** -/
theorem Operation.perform_told (op : Operation) :
    Told fun σ => (op.perform : Work σ (List UInt8)) := by
  cases op with
  | setFrames size millis => exact (told_setGeometry _).bind fun _ => told_pure []
  | setSamples bits => exact (told_setGeometry _).bind fun _ => told_pure []
  | setSampleBytes bytes => exact (told_setGeometry _).bind fun _ => told_pure []
  | setLimits limits => exact (told_update fun _ _ => rfl).bind fun _ => told_pure []
  | handle chunk => exact (told_handle chunk).bind fun _ => told_pure []
  | flush which stamp => exact (told_flush which stamp).bind fun _ => told_pure []
  | discontinuity => exact told_discontinuity.bind fun _ => told_pure []
  | endOfStream => exact told_endOfStream.bind fun _ => told_pure []
  | flushStop => exact told_clear.bind fun _ => told_pure []
  | clear => exact told_clear.bind fun _ => told_pure []
  | drain => exact told_drain
  | reset => exact told_reset.bind fun _ => told_pure []

end CbrAudio
