import CbrAudio.Proofs.Events
import Mathlib.Tactic.Tauto

/-!
# Marks

A gap marks the next packet, and nothing else does.

* `Event.pending` — whether a mark is owed, as the events go by.  `Moves.gap_eq` and
  `Origin.marker`: the state knows it, and a packet carries it.
* `Event.Owed` — **when a mark is owed**: a gap was registered, and since then no packet has left
  and no session has begun.  `foldl_pending` shows that this is what the events come to.
* `Event.countP_isMarked_le` — a stretch of events has at most one mark more than it has gaps.
* `Moves.settled` — a gap is only registered when all that came before it has gone.
* **`gap_marks_next`** — over every run, whatever the receiver answers.
-/

namespace CbrAudio

variable {σ : Type}

namespace Event

/-- Whether a mark is owed behind an event. -/
def pending (owed : Bool) : Event → Bool
  | .gap => true
  | .offered _ | .restarted _ => false
  | _ => owed

/-- Whether no mark is owed behind an event: a packet has carried it, or the session is over. -/
def settles : Event → Bool
  | .offered _ | .restarted _ => true
  | _ => false

/-- **A mark is owed** behind some events. -/
def Owed (es : List Event) : Prop :=
  ∃ before since, es = before ++ .gap :: since ∧ ∀ e ∈ since, e.settles = false

/-- A packet with a mark is offered. -/
def isMarked : Event → Bool
  | .offered x => x.offer.packet.marker
  | _ => false

/-- A gap is registered. -/
def isGap : Event → Bool
  | .gap => true
  | _ => false

/-! ## When a mark is owed -/

lemma pending_eq_true_iff (owed : Bool) (e : Event) :
    pending owed e = true ↔ e = .gap ∨ (owed = true ∧ e.settles = false) := by
  cases e <;> simp [pending, settles]

lemma isGap_eq_true_iff (e : Event) : e.isGap = true ↔ e = .gap := by
  cases e <;> simp [isGap]

lemma owed_cons_iff (e : Event) (es : List Event) :
    Owed (e :: es) ↔ Owed es ∨ (e = .gap ∧ ∀ e' ∈ es, e'.settles = false) := by
  constructor
  · rintro ⟨before, since, hsplit, hsince⟩
    rcases List.cons_eq_append_iff.mp hsplit with ⟨rfl, hes⟩ | ⟨before, rfl, rfl⟩
    · obtain ⟨rfl, rfl⟩ := List.cons.inj hes
      exact .inr ⟨rfl, hsince⟩
    · exact .inl ⟨before, since, rfl, hsince⟩
  · rintro (⟨before, since, rfl, hsince⟩ | ⟨rfl, hsince⟩)
    · exact ⟨e :: before, since, rfl, hsince⟩
    · exact ⟨[], es, rfl, hsince⟩

/-- What the events come to, one after the other. -/
lemma foldl_pending (owed : Bool) (es : List Event) :
    es.foldl pending owed = true ↔
      Owed es ∨ (owed = true ∧ ∀ e ∈ es, e.settles = false) := by
  induction es generalizing owed with
  | nil => simp [Owed]
  | cons e es ih =>
      rw [List.foldl_cons, ih, pending_eq_true_iff, owed_cons_iff]
      simp only [List.forall_mem_cons]
      tauto

/-- Packets that carry what is owed when they leave. -/
def Marking (owed : Bool) (es : List Event) : Prop :=
  ∀ earlier x later, es = earlier ++ .offered x :: later →
    x.offer.packet.marker = earlier.foldl pending owed

lemma Marking.part {owed : Bool} {front part back : List Event}
    (h : Marking owed (front ++ part ++ back)) : Marking (front.foldl pending owed) part := by
  rintro earlier x later rfl
  rw [← List.foldl_append]
  refine h (front ++ earlier) x (later ++ back) ?_
  simp only [List.append_assoc, List.cons_append]

/-- **Marks and gaps.**  In front of the first gap one mark can be owed already. -/
lemma countP_isMarked_le {owed : Bool} {es : List Event} (h : Marking owed es) :
    es.countP isMarked ≤ es.countP isGap + owed.toNat := by
  induction es generalizing owed with
  | nil => simp
  | cons e es ih =>
      have hrest : es.countP isMarked ≤ es.countP isGap + (pending owed e).toNat := by
        have hpart : Marking owed ([e] ++ es ++ []) := by rwa [List.append_nil]
        exact ih hpart.part
      rw [List.countP_cons, List.countP_cons]
      cases e with
      | offered x =>
          have hmarker : x.offer.packet.marker = owed := h [] x es rfl
          simp only [isMarked, isGap, pending, hmarker] at hrest ⊢
          cases owed <;> simpa using hrest
      | gap =>
          simp only [isMarked, isGap, pending, Bool.toNat_true] at hrest ⊢
          simp
          omega
      | restarted bytes =>
          simp only [isMarked, isGap, pending, Bool.toNat_false] at hrest ⊢
          simp
          omega
      | taken chunk => simpa [isMarked, isGap, pending] using hrest
      | cleared bytes => simpa [isMarked, isGap, pending] using hrest

end Event

/-! ## What moves do -/

lemma Move.gap_eq {p q : Packetizer} {es : List Event} (h : Move p es q) :
    q.gap = es.foldl Event.pending p.gap := by
  cases h <;> rfl

namespace Moves

open Event

variable {p q : Packetizer} {es : List Event}

/-- **The state knows** whether a mark is owed. -/
lemma gap_eq (h : Moves p es q) : q.gap = es.foldl pending p.gap :=
  foldl_eq Move.gap_eq h

/-- **A packet carries it.** -/
lemma Origin.marker {earlier : List Event} {x : Sending} (h : Origin p earlier x) :
    x.offer.packet.marker = earlier.foldl pending p.gap ∧
      x.offer.packet.discont = earlier.foldl pending p.gap := by
  rcases h with ⟨before, -, -, -, -, -⟩ | ⟨before, -, -, -, -⟩
  · exact ⟨before.gap_eq, before.gap_eq⟩
  · rw [List.foldl_append, ← before.gap_eq]
    exact ⟨rfl, rfl⟩

lemma marking (h : Moves p es q) : Marking p.gap es := by
  rintro earlier x later rfl
  exact h.origin.marker.1

/-- **What came before a gap has gone** when it is registered. -/
lemma settled {earlier later : List Event} (h : Moves p (earlier ++ .gap :: later) q)
    (hp : p.backlog.size = 0) : earlier.flatMap gone = earlier.flatMap came := by
  obtain ⟨r, front, inner, outer, t, rfl, hfront, hmove⟩ := h.split
  have hbytes := hfront.bytes
  rw [(p.backlog.contents_eq_nil_iff).mpr hp, List.nil_append] at hbytes
  obtain ⟨hone, hempty⟩ := hmove.of_gap (by simp)
  rcases List.append_eq_singleton_iff.mp hone with ⟨rfl, -⟩ | ⟨-, hnil⟩
  · rw [(r.backlog.contents_eq_nil_iff).mpr hempty, List.append_nil] at hbytes
    rwa [List.append_nil]
  · cases hnil

/-- **Since a chunk was taken**, no more than one of the packets that start before its end has a
mark. -/
lemma countP_isMarked_of_taken {earlier cut later : List Event} {chunk : Chunk} {x : Sending}
    (h : Moves p (earlier ++ Event.taken chunk :: cut ++ .offered x :: later) q)
    (hp : p.backlog.size = 0)
    (hstart : ((earlier ++ Event.taken chunk :: cut).flatMap gone).length <
      (earlier.flatMap came ++ chunk.data).length) :
    (cut ++ [Event.offered x]).countP isMarked ≤ 1 := by
  -- A gap since then would have found the chunk gone, but `x` starts before its end.
  have hnone : .gap ∉ cut := by
    intro hgap
    obtain ⟨inner, outer, rfl⟩ := List.append_of_mem hgap
    have hsplit : Moves p ((earlier ++ .taken chunk :: inner) ++
        .gap :: (outer ++ .offered x :: later)) q := by
      simpa only [List.append_assoc, List.cons_append] using h
    have hlength := congrArg List.length (hsplit.settled hp)
    simp only [List.flatMap_append, List.flatMap_cons, List.length_append, gone, came,
      List.nil_append] at hlength hstart
    omega
  have hall : Marking p.gap
      ((earlier ++ [.taken chunk]) ++ (cut ++ [.offered x]) ++ later) := by
    simpa only [List.append_assoc, List.cons_append, List.nil_append] using h.marking
  have hgaps : (cut ++ [Event.offered x]).countP isGap = 0 := by
    rw [List.countP_eq_zero]
    intro e he hgap
    obtain rfl : e = .gap := (isGap_eq_true_iff e).mp hgap
    rcases List.mem_append.mp he with he | he
    · exact hnone he
    · simp at he
  have hmarks := countP_isMarked_le hall.part
  have hone := Bool.toNat_le ((earlier ++ [Event.taken chunk]).foldl pending p.gap)
  omega

end Moves

/-! ## Runs -/

namespace Operation

/-- Requests that send nothing and register no gap, while the session goes on. -/
def silent : Operation → Bool
  | .setFrames .. | .setSamples _ | .setSampleBytes _ | .setLimits _ => true
  | .flushStop | .clear | .drain => true
  | _ => false

variable {sink : Sink σ Packet} {p : Packetizer} {s : σ}

lemma perform_geometry_gap {op : Operation} {g : Geometry} (hg : op.layout? = some g) :
    (op.perform sink p s).offers = [] ∧ (op.perform sink p s).packetizer.gap = p.gap := by
  have heffect : (op.perform sink p s).effect = _ := effect_perform_geometry hg
  cases hc : p.clash? g with
  | some why =>
      rw [hc] at heffect
      exact ⟨congrArg Effect.offers heffect, congrArg (fun e => e.packetizer.gap) heffect⟩
  | none =>
      rw [hc] at heffect
      exact ⟨congrArg Effect.offers heffect, congrArg (fun e => e.packetizer.gap) heffect⟩

/-- **They neither lose nor make a mark.** -/
lemma perform_silent {op : Operation} (h : op.silent = true) (sink : Sink σ Packet)
    (p : Packetizer) (s : σ) :
    (op.perform sink p s).offers = [] ∧ (op.perform sink p s).packetizer.gap = p.gap := by
  cases op with
  | setFrames size millis => exact perform_geometry_gap rfl
  | setSamples bits => exact perform_geometry_gap rfl
  | setSampleBytes bytes => exact perform_geometry_gap rfl
  | setLimits limits => exact ⟨rfl, rfl⟩
  | flushStop => exact ⟨rfl, rfl⟩
  | clear => exact ⟨rfl, rfl⟩
  | drain => exact ⟨rfl, rfl⟩
  | _ => cases h

end Operation

/-- **A gap marks the next packet, and nothing else does.**  A packet is marked exactly if a mark is
owed.  What came before a gap has gone by then, so it is not marked on its account; a chunk is in
packets of which at most one is marked; requests that only set up or clear leave what is owed as it
is; and there are no more marks than gaps. -/
theorem gap_marks_next (limits : Limits) (logger : Log.Logger) (sink : Sink σ Packet) (s : σ)
    (ops : List Operation) :
    let p := Packetizer.fresh limits logger
    let es := Operation.trace sink ops p s
    (∀ (earlier later : List Event) (x : Sending), es = earlier ++ .offered x :: later →
        x.offer.packet.discont = x.offer.packet.marker ∧
          (x.offer.packet.marker = true ↔ Event.Owed earlier)) ∧
      (∀ earlier later : List Event, es = earlier ++ .gap :: later →
        earlier.flatMap Event.gone = earlier.flatMap Event.came) ∧
      (∀ (earlier cut later : List Event) (chunk : Chunk) (x : Sending),
        es = earlier ++ .taken chunk :: cut ++ .offered x :: later →
        ((earlier ++ Event.taken chunk :: cut).flatMap Event.gone).length <
          (earlier.flatMap Event.came ++ chunk.data).length →
        (cut ++ [Event.offered x]).countP Event.isMarked ≤ 1) ∧
      (∀ step ∈ Operation.history sink ops p s, step.operation.silent = true →
        step.outcome.offers = [] ∧ step.outcome.packetizer.gap = step.before.gap) ∧
      es.countP Event.isMarked ≤ es.countP Event.isGap := by
  intro p es
  have hmoves : Moves p es _ := Operation.trace_fresh limits logger sink ops s
  have hempty : p.backlog.size = 0 := rfl
  refine ⟨?_, ?_, ?_, ?_, ?_⟩
  · intro earlier later x hsplit
    rw [hsplit] at hmoves
    obtain ⟨hmarker, hdiscont⟩ := hmoves.origin.marker
    refine ⟨hdiscont.trans hmarker.symm, ?_⟩
    rw [hmarker, Event.foldl_pending]
    simp [p, Packetizer.fresh]
  · intro earlier later hsplit
    rw [hsplit] at hmoves
    exact hmoves.settled hempty
  · intro earlier cut later chunk x hsplit hstart
    rw [hsplit] at hmoves
    exact hmoves.countP_isMarked_of_taken hempty hstart
  · rintro ⟨op, before, receiver, outcome⟩ hstep hsilent
    obtain ⟨-, -, houtcome⟩ := Operation.forall_mem_history (I := fun _ => True)
      (P := fun _ => True) (fun _ _ _ _ _ => trivial) (fun _ _ => trivial) trivial _ hstep
    obtain rfl : outcome = op.perform sink before receiver := houtcome
    exact Operation.perform_silent hsilent sink before receiver
  · exact Event.countP_isMarked_le hmoves.marking

/-- The first packet is refused and leaves a byte behind, which goes in front of the gap.  The chunk
behind it makes two packets, of which the first is marked. -/
theorem gap_marks_next_four :
    let p := Packetizer.fresh { maxPtime := some 20000000 } .silent
    let ops : List Operation := [.setFrames 2 20, .handle { data := [1, 2, 3] },
      .handle { data := [4, 5, 6, 7], gap := true }]
    let es := Operation.trace Sink.reluctant ops p 0
    let sent (gap : Bool) (offset : UInt32) (payload : List UInt8) (answer : Except Fault Unit) :
        Sending :=
      ⟨some (.frame 2 20), 8000, none, ⟨⟨0, gap, gap, none, offset, payload⟩, answer⟩⟩
    let early : List Event := [.cleared [], .taken { data := [1, 2, 3] },
      .offered (sent false 0 [1, 2] (.error (.rejected "busy"))),
      .offered (sent false 160 [3] (.ok ()))]
    let x := sent true 160 [4, 5] (.ok ())
    let y := sent false 320 [6, 7] (.ok ())
    es = early ++ .gap :: [.taken { data := [4, 5, 6, 7], gap := true }, .offered x, .offered y] ∧
      Event.Owed (early ++ [.gap, .taken { data := [4, 5, 6, 7], gap := true }]) ∧
      early.flatMap Event.gone = early.flatMap Event.came ∧
      [Event.offered x, .offered y].countP Event.isMarked ≤ 1 ∧
      ((Operation.setFrames 2 20).perform Sink.reluctant p 0).offers = [] ∧
      es.countP Event.isMarked ≤ es.countP Event.isGap := by
  intro p ops es sent early x y
  obtain ⟨howed, hsettled, hcut, hsilent, hcount⟩ :=
    gap_marks_next { maxPtime := some 20000000 } .silent Sink.reluctant 0 ops
  have hes : es = early ++ .gap ::
      [.taken { data := [4, 5, 6, 7], gap := true }, .offered x, .offered y] := by
    decide +kernel
  refine ⟨hes, ?_, hsettled early _ hes, ?_, (hsilent _ List.mem_cons_self rfl).1, hcount⟩
  · exact (howed (early ++ [.gap, .taken { data := [4, 5, 6, 7], gap := true }]) _ x hes).2.mp rfl
  · exact hcut (early ++ [.gap]) [.offered x] [] { data := [4, 5, 6, 7], gap := true } y hes
      (by decide)

end CbrAudio
