import CbrAudio.Proofs.Arrival

/-!
# Histories

Requests come one after the other, and a fault of one does not keep the next from being carried
out.  The history of a packetizer is what each of them met and what has come of it.

* `Step`, `Operation.history`, `Operation.performAll` — the steps of a run, and where it ends.
* `Operation.forall_mem_history` — **the induction over a run**: what every request keeps, every
  request meets.  `before_eq_of_history` says how two requests in a row hang together.
* `Operation.layout?`, `Operation.feeds`, `Operation.breaks` — requests by what they do to setup and
  stream.
* **What a request does** — one effect for each: `effect_perform_geometry`, `effect_perform_handle`,
  `effect_perform_discontinuity` and so on.  `history_setup` puts the first of them in front of a
  run.
-/

namespace CbrAudio

variable {σ : Type}

/-- A request that has been carried out. -/
structure Step (σ : Type) where
  operation : Operation
  /-- The state that the request met. -/
  before : Packetizer
  /-- The receiver that it met. -/
  receiver : σ
  outcome : Outcome σ (List UInt8)

/-- The packets that a request has sent, whether they were taken or refused. -/
def Step.packets (step : Step σ) : List Packet := step.outcome.offers.map Offer.packet

namespace Effect

/-- The same effect, with another result where there is one. -/
def give {α β : Type} (b : β) (e : Effect σ α) : Effect σ β :=
  ⟨e.result.map fun _ => b, e.packetizer, e.sink, e.offers⟩

end Effect

namespace Operation

/-- **Requests one after the other.** -/
def history (sink : Sink σ Packet) : List Operation → Packetizer → σ → List (Step σ)
  | [], _, _ => []
  | op :: ops, p, s =>
    ⟨op, p, s, op.perform sink p s⟩ ::
      history sink ops (op.perform sink p s).packetizer (op.perform sink p s).sink

/-- State and receiver at the end of the run. -/
def performAll (sink : Sink σ Packet) : List Operation → Packetizer → σ → Packetizer × σ
  | [], p, s => (p, s)
  | op :: ops, p, s =>
    performAll sink ops (op.perform sink p s).packetizer (op.perform sink p s).sink

/-- The layout that a request asks for. -/
def layout? : Operation → Option Geometry
  | .setFrames size millis => some (.frame size millis)
  | .setSamples bits => some (.ofSampleBits bits)
  | .setSampleBytes bytes => some (.ofSampleBytes bytes)
  | _ => none

/-- Requests that bring bytes or make them leave, and keep to the setup. -/
def feeds : Operation → Bool
  | .handle _ | .discontinuity | .endOfStream => true
  | _ => false

/-- Requests at which everything that waits has to leave. -/
def breaks : Operation → Bool
  | .handle chunk => chunk.gap
  | .discontinuity | .endOfStream => true
  | _ => false

variable {sink : Sink σ Packet} {p : Packetizer} {s : σ}

/-! ## Runs in parts -/

lemma performAll_append (sink : Sink σ Packet) (first second : List Operation) (p : Packetizer)
    (s : σ) :
    performAll sink (first ++ second) p s =
      performAll sink second (performAll sink first p s).1 (performAll sink first p s).2 := by
  induction first generalizing p s with
  | nil => rfl
  | cons op ops ih => exact ih _ _

/-- **What every request keeps, every request meets.** -/
lemma forall_mem_history {I : Packetizer → Prop} {P : Operation → Prop}
    (hkeep : ∀ op p s, P op → I p → I (op.perform sink p s).packetizer) {ops : List Operation}
    (hops : ∀ op ∈ ops, P op) (hp : I p) :
    ∀ step ∈ history sink ops p s, P step.operation ∧ I step.before ∧
      step.outcome = step.operation.perform sink step.before step.receiver := by
  induction ops generalizing p s with
  | nil => simp [history]
  | cons op ops ih =>
      have hop : P op := hops op (by simp)
      intro step hstep
      rcases List.mem_cons.mp hstep with rfl | hstep
      · exact ⟨hop, hp, rfl⟩
      · exact ih (fun o ho => hops o (by simp [ho])) (hkeep op p s hop hp) step hstep

/-- A request meets the state that the one before it has left. -/
lemma before_eq_of_history {ops : List Operation} {earlier later : List (Step σ)} {a b : Step σ}
    (h : history sink ops p s = earlier ++ a :: b :: later) :
    b.before = a.outcome.packetizer := by
  induction earlier generalizing ops p s with
  | nil =>
      match ops, h with
      | _ :: _ :: _, h =>
        simp only [history, List.nil_append, List.cons.injEq] at h
        obtain ⟨rfl, rfl, -⟩ := h
        rfl
  | cons step earlier ih =>
      cases ops with
      | nil => simp [history] at h
      | cons op ops =>
          simp only [history, List.cons_append, List.cons.injEq] at h
          exact ih h.2

/-! ## What a request does -/

/-- The result of a request that hands nothing over says only that nothing went wrong. -/
lemma effect_give (work : Work σ Unit) :
    ((do work; pure ([] : List UInt8)) sink p s).effect = ((work sink p s).effect).give [] := by
  cases hr : (work sink p s).result with
  | error fault =>
      rw [Work.bind_of_error hr]
      simp only [Outcome.effect, Effect.give, hr]
      rfl
  | ok u =>
      rw [Work.bind_of_ok hr]
      simp only [Outcome.effect, Effect.give, hr, Outcome.after]
      simp [pure, Work.pure, Except.map]

open Packetizer in
/-- A layout of the other family is refused; any other one takes over, and what waits is gone. -/
lemma effect_setGeometry (geometry : Geometry) :
    (setGeometry geometry sink p s).effect =
      match p.clash? geometry with
      | some why => .failed (.setup why) p s
      | none => .idle () (p.withGeometry geometry) s := by
  rw [setGeometry, Work.effect_current_bind]
  cases p.clash? geometry with
  | some why => simp only [Work.effect_log_bind, Work.effect_fail]
  | none =>
      dsimp only
      split
      · simp only [Work.effect_log_bind, Work.effect_update_bind, Work.effect_log]
      · simp only [Work.effect_update_bind, Work.effect_log]

/-- The three requests for a layout differ only in the layout they ask for. -/
lemma effect_perform_geometry {op : Operation} {g : Geometry} (h : op.layout? = some g) :
    (op.perform sink p s).effect =
      match p.clash? g with
      | some why => .failed (.setup why) p s
      | none => .idle [] (p.withGeometry g) s := by
  have hset : (op.perform sink p s).effect =
      ((Packetizer.setGeometry g sink p s).effect).give [] := by
    cases op with
    | setFrames size millis => cases h; exact effect_give _
    | setSamples bits => cases h; exact effect_give _
    | setSampleBytes bytes => cases h; exact effect_give _
    | _ => cases h
  rw [hset, effect_setGeometry]
  cases p.clash? g <;> rfl

/-- A run that begins with a layout goes on under it. -/
lemma history_setup {op : Operation} {g : Geometry} (h : op.layout? = some g) (limits : Limits)
    (logger : Log.Logger) (ops : List Operation) :
    let p := Packetizer.fresh limits logger
    (op.perform sink p s).effect = .idle [] (p.withGeometry g) s ∧
      history sink (op :: ops) p s =
        ⟨op, p, s, op.perform sink p s⟩ :: history sink ops (p.withGeometry g) s ∧
      performAll sink (op :: ops) p s = performAll sink ops (p.withGeometry g) s := by
  intro p
  have heffect : (op.perform sink p s).effect = .idle [] (p.withGeometry g) s :=
    effect_perform_geometry h
  have hstate : (op.perform sink p s).packetizer = p.withGeometry g :=
    congrArg Effect.packetizer heffect
  have hsink : (op.perform sink p s).sink = s := congrArg Effect.sink heffect
  refine ⟨heffect, ?_, ?_⟩
  · rw [history, hstate, hsink]
  · rw [performAll, hstate, hsink]

lemma effect_perform_setLimits (limits : Limits) :
    (perform (.setLimits limits) sink p s).effect = .idle [] { p with limits := limits } s := rfl

lemma effect_perform_handle (chunk : Chunk) :
    (perform (.handle chunk) sink p s).effect =
      ((Packetizer.handle chunk sink p s).effect).give [] :=
  effect_give _

lemma effect_perform_flush (which : Portion) (stamp : Option UInt64) :
    (perform (.flush which stamp) sink p s).effect =
      ((Packetizer.flush which stamp sink p s).effect).give [] :=
  effect_give _

/-- What waits leaves, and the next packet is marked whether it was taken or not. -/
lemma effect_perform_discontinuity :
    (perform .discontinuity sink p s).effect =
      (((Packetizer.flush .all none sink p s).effect).marked).give [] := by
  rw [perform, effect_give, Packetizer.discontinuity, Work.effect_log_bind,
    Packetizer.effect_breakOff]

lemma effect_perform_endOfStream :
    (perform .endOfStream sink p s).effect =
      ((Packetizer.flush .all none sink p s).effect).give [] := by
  rw [perform, effect_give, Packetizer.endOfStream, Work.effect_current_bind, Work.effect_log_bind]

lemma effect_perform_clear :
    (perform .clear sink p s).effect = .idle [] { p with backlog := .empty } s := rfl

lemma effect_perform_flushStop :
    (perform .flushStop sink p s).effect = .idle [] { p with backlog := .empty } s := rfl

lemma effect_perform_drain :
    (perform .drain sink p s).effect =
      .idle p.backlog.contents { p with backlog := .empty } s := rfl

lemma effect_perform_reset :
    (perform .reset sink p s).effect = .idle [] p.restarted s := by
  rw [perform, effect_give, Packetizer.reset, Work.effect_update_bind, Work.effect_log]
  rfl

end Operation

end CbrAudio
