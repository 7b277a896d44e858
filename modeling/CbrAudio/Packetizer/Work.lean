import CbrAudio.Packet
import CbrAudio.Packetizer
import CbrAudio.Sink

/-!
# Work of a packetizer

Everything a packetizer does leads from a state to an outcome: a result or a fault, the state
after it, the packets that were offered on the way and the records that were logged.

* `Offer`, `Outcome` — an offered packet with the answer, and what has come of some work.
* `Work` — work that may offer packets to a receiver with states in `σ`.
* `Work.pure`, `Work.bind` — nothing to do, and **one thing after the other**: a fault ends the
  work and undoes nothing.
* `Work.current`, `Work.update`, `Work.offer`, `Work.log` — the steps that work is made of.
* `Work.attempt` — work that goes on after a fault.

Offers and records only ever grow: no step can read or withdraw them.  Work is a lawful monad
(`bind_pure`, `bind_assoc`), so what it comes to depends on the order of its steps alone.
-/

namespace CbrAudio

/-- A packet that was offered, and the answer to it. -/
structure Offer where
  packet : Packet
  answer : Except Fault Unit

/-- What has come of some work. -/
structure Outcome (σ α : Type) where
  result : Except Fault α
  packetizer : Packetizer
  sink : σ
  /-- The packets offered, the first one first. -/
  offers : List Offer
  /-- The records logged, the first one first. -/
  records : List Log.Record

namespace Outcome

variable {σ α β : Type}

/-- The same outcome with earlier offers and records in front. -/
def after (offers : List Offer) (records : List Log.Record) (o : Outcome σ α) : Outcome σ α :=
  { o with offers := offers ++ o.offers, records := records ++ o.records }

/-- The same outcome with another result. -/
def withResult (result : Except Fault β) (o : Outcome σ α) : Outcome σ β :=
  ⟨result, o.packetizer, o.sink, o.offers, o.records⟩

end Outcome

/-- Work that offers packets to a receiver with states in `σ` and results in an `α`. -/
def Work (σ α : Type) : Type := Sink σ Packet → Packetizer → σ → Outcome σ α

namespace Work

variable {σ α β γ : Type}

/-- Nothing to do. -/
protected def pure (a : α) : Work σ α := fun _ p s => ⟨.ok a, p, s, [], []⟩

/-- **One thing after the other.**  A fault of the first is the fault of the whole. -/
protected def bind (first : Work σ α) (next : α → Work σ β) : Work σ β := fun sink p s =>
  let o := first sink p s
  match o.result with
  | .error fault => o.withResult (.error fault)
  | .ok a => (next a sink o.packetizer o.sink).after o.offers o.records

instance : Monad (Work σ) where
  pure := Work.pure
  bind := Work.bind

/-- The state as it is. -/
def current : Work σ Packetizer := fun _ p s => ⟨.ok p, p, s, [], []⟩

/-- A change of the state. -/
def update (f : Packetizer → Packetizer) : Work σ Unit := fun _ p s => ⟨.ok (), f p, s, [], []⟩

/-- The end of the work. -/
def fail (fault : Fault) : Work σ α := fun _ p s => ⟨.error fault, p, s, [], []⟩

/-- A result that is there already. -/
def ofExcept (result : Except Fault α) : Work σ α := fun _ p s => ⟨result, p, s, [], []⟩

/-- What the setup gives, or the end of the work. -/
def require (result : Except SetupFault α) : Work σ α := ofExcept (result.mapError .setup)

/-- The records that a message leaves. -/
def log (level : Log.Level) (message : String) : Work σ Unit := fun _ p s =>
  ⟨.ok (), p, s, [], p.logger.log level message⟩

/-- One packet is offered to the receiver. -/
def offer (packet : Packet) : Work σ Unit := fun sink p s =>
  let answer := sink.offer packet s
  ⟨answer.1, p, answer.2, [⟨packet, answer.1⟩], []⟩

/-- Work that goes on after a fault, with the fault as its result. -/
def attempt (work : Work σ α) : Work σ (Except Fault α) := fun sink p s =>
  let o := work sink p s
  o.withResult (.ok o.result)

/-! ## One thing after the other -/

theorem bind_of_ok {first : Work σ α} {sink : Sink σ Packet} {p : Packetizer} {s : σ} {a : α}
    (h : (first sink p s).result = .ok a) (next : α → Work σ β) :
    (first >>= next) sink p s =
      (next a sink (first sink p s).packetizer (first sink p s).sink).after
        (first sink p s).offers (first sink p s).records := by
  simp only [bind, Work.bind, h]

theorem bind_of_error {first : Work σ α} {sink : Sink σ Packet} {p : Packetizer} {s : σ}
    {fault : Fault} (h : (first sink p s).result = .error fault) (next : α → Work σ β) :
    (first >>= next) sink p s = (first sink p s).withResult (.error fault) := by
  simp only [bind, Work.bind, h]

theorem bind_pure (work : Work σ α) : work >>= pure = work := by
  funext sink p s
  cases h : (work sink p s).result with
  | error fault => rw [bind_of_error h, ← h]; rfl
  | ok a =>
    rw [bind_of_ok h]
    simp only [pure, Work.pure, Outcome.after, List.append_nil, ← h]

theorem bind_assoc (first : Work σ α) (next : α → Work σ β) (last : β → Work σ γ) :
    first >>= next >>= last = first >>= fun a => next a >>= last := by
  funext sink p s
  cases h : (first sink p s).result with
  | error fault =>
    rw [bind_of_error h, bind_of_error (by rw [bind_of_error h]; rfl), bind_of_error h]
    rfl
  | ok a =>
    rw [bind_of_ok h]
    cases h' : (next a sink (first sink p s).packetizer (first sink p s).sink).result with
    | error fault =>
      have hboth : ((first >>= next) sink p s).result = .error fault := by
        rw [bind_of_ok h]
        exact h'
      rw [bind_of_error hboth, bind_of_error h', bind_of_ok h]
      rfl
    | ok b =>
      have hboth : ((first >>= next) sink p s).result = .ok b := by
        rw [bind_of_ok h]
        exact h'
      rw [bind_of_ok hboth, bind_of_ok h', bind_of_ok h]
      simp only [Outcome.after, List.append_assoc]

/-- Work can be put in brackets at will: what matters is the order of its steps. -/
instance : LawfulMonad (Work σ) :=
  LawfulMonad.mk' (Work σ) (fun work => bind_pure work) (fun _ _ => rfl) bind_assoc

end Work

end CbrAudio
