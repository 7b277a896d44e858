import CbrAudio.Proofs.Dialogue
import CbrAudio.Proofs.Lifecycle

/-!
# A session starts anew

Nothing of an earlier session is left when another one begins.  What shows in the new one is shown
by a new packetizer as well, and depends on the receiver by its answers alone.

* `Offer.Agree` — two rows of offers that are answered in the same way.
* `Dialogue.run_agree` — **a dialogue with the same answers is the same**, whatever receivers gave
  them; `history_agree` carries this through a run.
* `Step.shown` — what a request shows to the outside.
* `Packetizer.renewed` — a reset leads to the state that a layout leads to which is set once, in a
  packetizer without a past; `exists_setup` — some request sets it.
* **`reset_begins_anew`** — both together, over every past and every future.
-/

namespace CbrAudio

variable {ρ σ τ α : Type}

/-! ## The same answers -/

namespace Offer

/-- **The same answers**, as far as both rows go. -/
def Agree (xs ys : List Offer) : Prop :=
  ∀ (k : Nat) x y, xs[k]? = some x → ys[k]? = some y → x.answer = y.answer

variable {x y : Offer} {xs xs' ys ys' zs : List Offer}

lemma agree_cons : Agree (x :: xs) (y :: ys) ↔ x.answer = y.answer ∧ Agree xs ys := by
  constructor
  · exact fun h => ⟨h 0 x y rfl rfl, fun k => h (k + 1)⟩
  · rintro ⟨hhead, htail⟩ k x' y' hx hy
    cases k with
    | zero =>
        obtain rfl : x = x' := by simpa using hx
        obtain rfl : y = y' := by simpa using hy
        exact hhead
    | succ k => exact htail k x' y' hx hy

lemma Agree.of_append (h : Agree (xs ++ xs') (ys ++ ys')) : Agree xs ys := by
  intro k x y hx hy
  obtain ⟨hltx, -⟩ := List.getElem?_eq_some_iff.mp hx
  obtain ⟨hlty, -⟩ := List.getElem?_eq_some_iff.mp hy
  refine h k x y ?_ ?_
  · rwa [List.getElem?_append_left hltx]
  · rwa [List.getElem?_append_left hlty]

/-- Behind the same offers the rest agrees. -/
lemma Agree.of_append_left (h : Agree (zs ++ xs) (zs ++ ys)) : Agree xs ys := by
  induction zs with
  | nil => exact h
  | cons z zs ih => exact ih (agree_cons.mp h).2

lemma agree_of_taken (hx : ∀ offer ∈ xs, offer.answer = .ok ())
    (hy : ∀ offer ∈ ys, offer.answer = .ok ()) : Agree xs ys := by
  intro k x y hkx hky
  rw [hx x (List.mem_of_getElem? hkx), hy y (List.mem_of_getElem? hky)]

end Offer

/-- **Outcomes that are the same** but for receiver, logger and records. -/
structure Outcome.Same (logger logger' : Log.Logger) (o : Outcome σ α) (o' : Outcome τ α) :
    Prop where
  result : o'.result = o.result
  offers : o'.offers = o.offers
  state : ∃ p : Packetizer, o.packetizer = p.withLogger logger ∧
    o'.packetizer = p.withLogger logger'

section Agreement

variable {sink : Sink σ Packet} {sink' : Sink τ Packet} {logger logger' : Log.Logger} {s : σ}
  {t : τ}

/-- **A dialogue with the same answers is the same.**  At an offer both receivers have been told the
same so far, and the common answer selects what is behind it. -/
lemma Dialogue.run_agree (d : Dialogue α)
    (h : Offer.Agree (d.run sink logger s).offers (d.run sink' logger' t).offers) :
    (d.run sink logger s).Same logger logger' (d.run sink' logger' t) := by
  induction d generalizing s t with
  | done result state => exact ⟨rfl, rfl, state, rfl, rfl⟩
  | say level message next ih =>
      obtain ⟨hresult, hoffers, hstate⟩ := ih h
      exact ⟨hresult, hoffers, hstate⟩
  | offer packet next ih =>
      obtain ⟨hanswer, hrest⟩ := Offer.agree_cons.mp h
      have hanswer' : (sink.offer packet s).1 = (sink'.offer packet t).1 := hanswer
      simp only [run] at hrest ⊢
      rw [← hanswer'] at hrest ⊢
      obtain ⟨hresult, hoffers, hstate⟩ := ih _ hrest
      exact ⟨hresult, congrArg _ hoffers, hstate⟩

/-- So is a request. -/
lemma Operation.perform_agree (op : Operation) (p : Packetizer)
    (h : Offer.Agree (op.perform sink (p.withLogger logger) s).offers
      (op.perform sink' (p.withLogger logger') t).offers) :
    (op.perform sink (p.withLogger logger) s).Same logger logger'
      (op.perform sink' (p.withLogger logger') t) := by
  obtain ⟨d, hd⟩ := op.perform_told p
  have hhere : op.perform sink (p.withLogger logger) s = d.run sink logger s := hd σ sink logger s
  have hthere : op.perform sink' (p.withLogger logger') t = d.run sink' logger' t :=
    hd τ sink' logger' t
  rw [hhere, hthere] at h ⊢
  exact d.run_agree h

/-! ## What shows -/

/-- What a request shows to the outside. -/
structure Shown where
  result : Except Fault (List UInt8)
  /-- The packets offered, with the answers. -/
  offers : List Offer
  waiting : List UInt8
  nextOffset : Option UInt32
  phase : Phase

/-- What a request has shown when it is over. -/
def Step.shown (step : Step σ) : Shown where
  result := step.outcome.result
  offers := step.outcome.offers
  waiting := step.outcome.packetizer.backlog.contents
  nextOffset := step.outcome.packetizer.nextOffset
  phase := step.outcome.packetizer.phase

/-- **Requests with the same answers show the same.**  The induction carries that the states differ
at most in their loggers. -/
lemma Operation.history_agree (ops : List Operation) (p : Packetizer)
    (h : Offer.Agree
      ((history sink ops (p.withLogger logger) s).flatMap fun step => step.outcome.offers)
      ((history sink' ops (p.withLogger logger') t).flatMap fun step => step.outcome.offers)) :
    (history sink' ops (p.withLogger logger') t).map Step.shown =
      (history sink ops (p.withLogger logger) s).map Step.shown := by
  induction ops generalizing p s t with
  | nil => rfl
  | cons op ops ih =>
      obtain ⟨hresult, hoffers, q, hq, hq'⟩ := op.perform_agree p h.of_append
      have hshown :
          Step.shown ⟨op, p.withLogger logger', t, op.perform sink' (p.withLogger logger') t⟩ =
            Step.shown ⟨op, p.withLogger logger, s, op.perform sink (p.withLogger logger) s⟩ := by
        simp only [Step.shown, hresult, hoffers, hq, hq']
        rfl
      simp only [history, List.flatMap_cons, hoffers, hq, hq'] at h
      simp only [history, List.map_cons, hshown, hq, hq', ih q h.of_append_left]

end Agreement

/-! ## Without a past -/

namespace Packetizer

variable {p : Packetizer}

/-- **The state of a packetizer without a past**, with the layout and the limits of another one. -/
def renewed (logger : Log.Logger) (p : Packetizer) : Packetizer :=
  match p.geometry with
  | none => fresh p.limits logger
  | some g => (fresh p.limits logger).withGeometry g

/-- A reset forgets everything but layout and limits. -/
lemma withLogger_restarted (logger : Log.Logger) (p : Packetizer) :
    p.restarted.withLogger logger = p.restarted.renewed logger := by
  obtain ⟨old, limits, geometry, backlog, sent, gap, phase⟩ := p
  cases geometry <;> rfl

/-- A layout that is set once, if at all. -/
lemma performAll_setup {setup : List Operation}
    (h : setup.map Operation.layout? = p.geometry.toList.map some) (logger : Log.Logger)
    (sink : Sink σ Packet) (s : σ) :
    (Operation.performAll sink setup (fresh p.limits logger) s).1 = p.renewed logger := by
  cases hset : p.geometry with
  | none =>
      rw [hset] at h
      obtain rfl : setup = [] := by simpa using h
      rw [renewed, hset]
      rfl
  | some g =>
      rw [hset] at h
      obtain ⟨op, rest, rfl, hop, hrest⟩ := List.map_eq_cons_iff.mp h
      obtain rfl : rest = [] := by simpa using hrest
      obtain ⟨-, -, hstate⟩ :
          _ ∧ _ ∧ Operation.performAll sink [op] (fresh p.limits logger) s = _ :=
        Operation.history_setup hop p.limits logger []
      rw [hstate, renewed, hset]
      rfl

/-- The layout of a state is one that can be set. -/
def Settable (p : Packetizer) : Prop :=
  ∀ g, p.geometry = some g → ∃ op : Operation, op.layout? = some g

lemma Settable.of_eq {q : Packetizer} (h : p.Settable) (hq : q.geometry = p.geometry) :
    q.Settable :=
  fun g hg => h g (hq ▸ hg)

/-- **One request**: the layout is kept, or it is the one that was asked for. -/
lemma perform_settable (h : p.Sound) (hp : p.Settable) (op : Operation) (sink : Sink σ Packet)
    (s : σ) : ((op.perform sink p s).packetizer).Settable := by
  rcases op.perform_kinds sink p s with ⟨g, hop⟩ | hop | ⟨chunk, rfl⟩ | ⟨data, q, he, hq⟩
  · have hstate : (op.perform sink p s).packetizer = _ :=
      congrArg Effect.packetizer (Operation.effect_perform_geometry hop)
    rw [hstate]
    cases p.clash? g with
    | some why => exact hp
    | none =>
        intro g' hg'
        obtain rfl : g = g' := by simpa [Effect.idle, withGeometry] using hg'
        exact ⟨op, hop⟩
  · exact hp.of_eq (perform_flushes h hop sink s).2.1.1
  · have hstate : (Operation.perform (.handle chunk) sink p s).packetizer = _ :=
      congrArg Effect.packetizer (Operation.effect_perform_handle chunk)
    rw [hstate]
    exact hp.of_eq (handle_sound h chunk sink s).2.1
  · have hstate : (op.perform sink p s).packetizer = q := congrArg Effect.packetizer he
    rw [hstate]
    exact hp.of_eq hq

lemma performAll_settable (h : p.Sound) (hp : p.Settable) (ops : List Operation)
    (sink : Sink σ Packet) (s : σ) : (Operation.performAll sink ops p s).1.Settable := by
  induction ops generalizing p s with
  | nil => exact hp
  | cons op ops ih => exact ih (perform_sound h op sink s).1 (perform_settable h hp op sink s) _

lemma Settable.exists_setup (h : p.Settable) :
    ∃ setup : List Operation, setup.map Operation.layout? = p.geometry.toList.map some := by
  cases hset : p.geometry with
  | none => exact ⟨[], rfl⟩
  | some g =>
      obtain ⟨op, hop⟩ := h g hset
      exact ⟨[op], by simp [hop]⟩

end Packetizer

open Operation Packetizer in
/-- **A reset is where a session begins.**  Take a packetizer with any past, in front of any
receiver, that has been reset; and a new one with the same limits, in which the same layout has been
set once, if there is one.  But for the logger they are in the same state.  Whatever they are asked
from then on: as long as their receivers give the same answers, they give the same results, send
the same packets, and show the same waiting bytes, the same next offset and the same phase. -/
theorem reset_begins_anew (limits : Limits) (logger logger' : Log.Logger) (past : Sink ρ Packet)
    (ops : List Operation) (r : ρ) (here : Sink σ Packet) (there : Sink τ Packet) :
    let old := (performAll past (ops ++ [.reset]) (fresh limits logger) r).1
    (∃ setup : List Operation, setup.map layout? = old.geometry.toList.map some) ∧
      ∀ setup : List Operation, setup.map layout? = old.geometry.toList.map some → ∀ t₀,
        let new := (performAll there setup (fresh old.limits logger') t₀).1
        new = old.withLogger logger' ∧
          ∀ later s t,
            let steps := history here later old s
            let steps' := history there later new t
            Offer.Agree (steps.flatMap fun step => step.outcome.offers)
              (steps'.flatMap fun step => step.outcome.offers) →
            steps'.map Step.shown = steps.map Step.shown := by
  intro old
  have hreset : old = (performAll past ops (fresh limits logger) r).1.restarted := by
    show (performAll past (ops ++ [.reset]) (fresh limits logger) r).1 = _
    rw [performAll_append]
    exact congrArg Effect.packetizer effect_perform_reset
  have hsettable : old.Settable :=
    performAll_settable (sound_fresh limits logger) (by simp [Settable, fresh]) _ past r
  refine ⟨hsettable.exists_setup, fun setup hsetup t₀ => ?_⟩
  intro new
  have hnew : new = old.withLogger logger' := by
    have hstate : new = old.renewed logger' := performAll_setup hsetup logger' there t₀
    rw [hstate, hreset, withLogger_restarted]
  refine ⟨hnew, fun later s t => ?_⟩
  intro steps steps' hagree
  have hthere : steps' = history there later (old.withLogger logger') t := by rw [← hnew]
  rw [hthere] at hagree ⊢
  exact history_agree later old hagree

open Operation Packetizer in
/-- A past with a refusal, a time stamp, bytes that wait and a gap.  Behind the reset a packet has
neither a mark nor a time, since its first chunk has none, and it is the first one again. -/
theorem reset_begins_anew_reluctant :
    let ops : List Operation := [.setFrames 20 20,
      .handle { data := List.replicate 50 7, stamp := some 9 }, .discontinuity]
    let later : List Operation := [.handle { data := List.replicate 5 1 },
      .handle { data := List.replicate 20 2, stamp := some 3 }]
    let old := (performAll Sink.reluctant (ops ++ [.reset]) (fresh { mtu := 32 } .silent) 0).1
    let new := (performAll Sink.collect [.setFrames 20 20] (fresh old.limits .silent) #[]).1
    let steps := history Sink.reluctant later old 1
    let steps' := history Sink.collect later new #[]
    [Operation.setFrames 20 20].map layout? = old.geometry.toList.map some ∧
      Offer.Agree (steps.flatMap fun step => step.outcome.offers)
        (steps'.flatMap fun step => step.outcome.offers) ∧
      steps'.map Step.shown = steps.map Step.shown ∧
      (steps'.flatMap Step.packets).map (fun packet =>
        (packet.marker, packet.stamp, packet.offset, packet.payload.length)) =
          [(false, none, 0, 20)] := by
  intro ops later old new steps steps'
  have hsetup : [Operation.setFrames 20 20].map layout? = old.geometry.toList.map some := by
    decide +kernel
  have hagree : Offer.Agree (steps.flatMap fun step => step.outcome.offers)
      (steps'.flatMap fun step => step.outcome.offers) :=
    Offer.agree_of_taken (by decide +kernel) (by decide +kernel)
  obtain ⟨-, hnew⟩ := reset_begins_anew { mtu := 32 } .silent .silent Sink.reluctant ops 0
    Sink.reluctant Sink.collect
  exact ⟨hsetup, hagree, (hnew _ hsetup #[]).2 later 1 #[] hagree, by decide +kernel⟩

end CbrAudio
