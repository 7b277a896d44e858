import CbrAudio.Fault

/-!
# Receivers

Finished packets are offered to a receiver one by one.  It takes each of them or says why it does
not.

* `Sink` — a receiver with states in `σ` of things in `α`.
* `Sink.collect` — the receiver that takes everything and keeps it in order.
* `Sink.contramap` — a receiver of other things, each of which is made ready on the way, by a step
  that has a state of its own.
-/

namespace CbrAudio

/-- A receiver with states in `σ` of things in `α`. -/
structure Sink (σ α : Type) where
  /-- The answer to an offer, and the state after it. -/
  offer : α → σ → Except Fault Unit × σ

namespace Sink

variable {σ τ α β : Type}

/-- Takes everything and keeps it in order. -/
def collect : Sink (Array α) α where
  offer a kept := (.ok (), kept.push a)

/-- Makes each thing ready before it is offered.  The state of that step moves on whatever the
answer is. -/
def contramap (ready : β → τ → α × τ) (sink : Sink σ α) : Sink (τ × σ) β where
  offer b s :=
    let made := ready b s.1
    let answer := sink.offer made.1 s.2
    (answer.1, made.2, answer.2)

end Sink

end CbrAudio
