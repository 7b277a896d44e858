import CbrAudio.Proofs.Bounds
import CbrAudio.Proofs.Conservation
import Mathlib.Data.List.Basic

/-!
# Events

One request can do several things to a stream, and it is their order that says which packet marks a
gap and which chunk the first byte of a packet is from.

* `Event`, `Step.events`, `Operation.trace` — what happens to a stream, one thing at a time, read
  off the requests of a run.  `offers_trace`: no packet is left out.
* `Move` — **all that a state can do**: a cut leaves, a chunk leaves as it is or joins what waits, a
  gap is registered, what waits is cleared, the setup changes, the session starts again.
* **`Step.moves`** — every request is a row of moves, and so is a run: `Operation.trace_moves`.
  What a run keeps is shown of the moves from here on, not of the requests.
* **`Moves.origin`** — where a packet comes from: the state that made it, and what had happened.
* `Moves.bytes` — what has gone and what waits is what came, at every moment of a run.
-/

namespace CbrAudio

variable {σ : Type}

deriving instance DecidableEq for Offer

/-- A packet that was offered, and what it was made under. -/
structure Sending where
  /-- The layout in force. -/
  geometry : Option Geometry
  /-- The clock rate in force. -/
  clockRate : UInt32
  /-- The time stamp that the packet was asked to carry. -/
  asked : Option UInt64
  offer : Offer
  deriving DecidableEq

/-- What happens to a stream. -/
inductive Event where
  /-- A chunk gets past everything that could have held it up. -/
  | taken (chunk : Chunk)
  /-- A packet is offered. -/
  | offered (sending : Sending)
  /-- A gap is registered. -/
  | gap
  /-- What waits goes without a packet. -/
  | cleared (bytes : List UInt8)
  /-- The session ends with what waits, and another one begins. -/
  | restarted (bytes : List UInt8)
  deriving DecidableEq

namespace Event

/-- The offer, if a packet is offered. -/
def offer? : Event → Option Offer
  | .offered x => some x.offer
  | _ => none

/-- The chunk, if one is taken. -/
def chunk? : Event → Option Chunk
  | .taken chunk => some chunk
  | _ => none

/-- The bytes that come in. -/
def came : Event → List UInt8
  | .taken chunk => chunk.data
  | _ => []

/-- The bytes that go. -/
def gone : Event → List UInt8
  | .offered x => x.offer.packet.payload
  | .cleared bytes => bytes
  | .restarted bytes => bytes
  | _ => []

end Event

/-- An offered packet as an event under the setup of a state. -/
def Packetizer.sending (p : Packetizer) (asked : Option UInt64) (offer : Offer) : Event :=
  .offered ⟨p.geometry, p.limits.clockRate, asked, offer⟩

/-- What happens when a chunk comes in and `offers` are made on the way.  What `entry` has sent
comes first, then the gap is registered, whether the chunk is taken behind it or not. -/
def Packetizer.arrival (chunk : Chunk) (p : Packetizer) (entered : Outcome σ Lengths)
    (offers : List Offer) : List Event :=
  let early := entered.offers.length
  (offers.take early).map (p.sending none) ++
    (if chunk.gap && p.layout.isOk then [.gap] else []) ++
    (match entered.result with
      | .ok _ => [.taken chunk]
      | .error _ => []) ++
    (offers.drop early).map (p.sending none)

namespace Step

/-- What a request has done, in order. -/
def events (sink : Sink σ Packet) (step : Step σ) : List Event :=
  let offers := step.outcome.offers
  match step.operation with
  | .setFrames .. | .setSamples _ | .setSampleBytes _ =>
    match step.outcome.result with
    | .ok _ => [.cleared step.before.backlog.contents]
    | .error _ => []
  | .setLimits _ => []
  | .handle chunk =>
    step.before.arrival chunk (Packetizer.entry chunk sink step.before step.receiver) offers
  | .flush _ asked => offers.map (step.before.sending asked)
  | .discontinuity => offers.map (step.before.sending none) ++ [.gap]
  | .endOfStream => offers.map (step.before.sending none)
  | .flushStop | .clear | .drain => [.cleared step.before.backlog.contents]
  | .reset => [.restarted step.before.backlog.contents]

end Step

namespace Step

lemma offers_map (p : Packetizer) (asked : Option UInt64) (offers : List Offer) :
    (offers.map (p.sending asked)).filterMap Event.offer? = offers := by
  rw [List.filterMap_map]
  exact List.filterMap_some

/-- A chunk that comes in makes no offer that is not among the events, and none twice. -/
lemma offers_arrival (chunk : Chunk) (p : Packetizer) (entered : Outcome σ Lengths)
    (offers : List Offer) : (p.arrival chunk entered offers).filterMap Event.offer? = offers := by
  have hgap : (if chunk.gap && p.layout.isOk then [Event.gap] else []).filterMap Event.offer? =
      [] := by
    split <;> rfl
  have htaken : (match entered.result with
      | .ok _ => [Event.taken chunk]
      | .error _ => []).filterMap Event.offer? = [] := by
    split <;> rfl
  simp only [Packetizer.arrival, List.filterMap_append, offers_map, hgap, htaken, List.append_nil,
    List.take_append_drop]

/-- What waits is cleared with the old layout, if the new one is set. -/
lemma events_of_geometry {op : Operation} {g : Geometry} (hg : op.layout? = some g)
    (sink : Sink σ Packet) (p : Packetizer) (s : σ) :
    events sink ⟨op, p, s, op.perform sink p s⟩ =
      match p.clash? g with
      | some _ => []
      | none => [.cleared p.backlog.contents] := by
  have hevents : events sink ⟨op, p, s, op.perform sink p s⟩ =
      match (op.perform sink p s).result with
      | .ok _ => [.cleared p.backlog.contents]
      | .error _ => [] := by
    cases op with
    | setFrames size millis => rfl
    | setSamples bits => rfl
    | setSampleBytes bytes => rfl
    | _ => cases hg
  have hresult : (op.perform sink p s).result = _ :=
    congrArg Effect.result (Operation.effect_perform_geometry hg)
  rw [hevents, hresult]
  cases p.clash? g <;> rfl

/-- Setting a layout offers nothing. -/
lemma offers_of_geometry {op : Operation} {g : Geometry} (hg : op.layout? = some g)
    (sink : Sink σ Packet) (p : Packetizer) (s : σ) :
    (events sink ⟨op, p, s, op.perform sink p s⟩).filterMap Event.offer? =
      (op.perform sink p s).offers := by
  have hoffers : (op.perform sink p s).offers = _ :=
    congrArg Effect.offers (Operation.effect_perform_geometry hg)
  rw [events_of_geometry hg, hoffers]
  cases p.clash? g <;> rfl

/-- **The offers among the events** are those of the request. -/
lemma offers_events (sink : Sink σ Packet) (p : Packetizer) (s : σ) (op : Operation) :
    (events sink ⟨op, p, s, op.perform sink p s⟩).filterMap Event.offer? =
      (op.perform sink p s).offers := by
  cases op with
  | setFrames size millis => exact offers_of_geometry rfl sink p s
  | setSamples bits => exact offers_of_geometry rfl sink p s
  | setSampleBytes bytes => exact offers_of_geometry rfl sink p s
  | handle chunk => exact offers_arrival ..
  | flush which asked => exact offers_map ..
  | discontinuity =>
      rw [events, List.filterMap_append, offers_map]
      exact List.append_nil _
  | endOfStream => exact offers_map ..
  | _ => rfl

end Step

namespace Operation

/-- **What happens in a run.** -/
def trace (sink : Sink σ Packet) (ops : List Operation) (p : Packetizer) (s : σ) : List Event :=
  (history sink ops p s).flatMap (Step.events sink)

/-- No offer of a run is left out, and none comes twice. -/
theorem offers_trace (sink : Sink σ Packet) (ops : List Operation) (p : Packetizer) (s : σ) :
    (trace sink ops p s).filterMap Event.offer? =
      (history sink ops p s).flatMap fun step => step.outcome.offers := by
  induction ops generalizing p s with
  | nil => rfl
  | cons op ops ih =>
      rw [trace, history, List.flatMap_cons, List.filterMap_append, Step.offers_events]
      exact congrArg _ (ih _ _)

end Operation

/-! ## Moves -/

/-- **All that a state can do**, and what happens then. -/
inductive Move : Packetizer → List Event → Packetizer → Prop
  /-- The first `n` waiting bytes leave. -/
  | cut {p : Packetizer} {g : Geometry} {n : Nat} (hg : p.layout = .ok g) (hpos : 0 < n)
      (hfit : n ≤ p.backlog.size) (asked : Option UInt64) (answer : Except Fault Unit) :
      Move p
        [p.sending asked
          ⟨p.packet g (p.backlog.front n) (asked.or (p.headTime g)), answer⟩]
        (p.departed n)
  /-- A chunk leaves as it is. -/
  | whole {p : Packetizer} {g : Geometry} {chunk : Chunk} (hg : p.layout = .ok g)
      (hempty : p.backlog.size = 0) (hdata : chunk.data ≠ []) (answer : Except Fault Unit) :
      Move p
        [.taken chunk, p.sending none ⟨p.packet g chunk.data chunk.stamp, answer⟩]
        ({ p with phase := .active }.emitted chunk.data.length)
  /-- A chunk joins what waits. -/
  | join (p : Packetizer) (chunk : Chunk) : Move p [.taken chunk] (p.joined chunk)
  /-- A gap is registered where nothing waits. -/
  | gap {p : Packetizer} (hempty : p.backlog.size = 0) : Move p [.gap] { p with gap := true }
  | clear (p : Packetizer) :
      Move p [.cleared p.backlog.contents] { p with backlog := .empty }
  | relayout (p : Packetizer) (g : Geometry) :
      Move p [.cleared p.backlog.contents] (p.withGeometry g)
  | relimit (p : Packetizer) (limits : Limits) : Move p [] { p with limits := limits }
  | restart (p : Packetizer) : Move p [.restarted p.backlog.contents] p.restarted

/-- No move loses a byte, and none invents one. -/
lemma Move.bytes {p q : Packetizer} {es : List Event} (h : Move p es q) :
    es.flatMap Event.gone ++ q.backlog.contents = p.backlog.contents ++ es.flatMap Event.came := by
  cases h with
  | @cut g n hg hpos hfit asked answer =>
      have hcut := p.backlog.front_append_advance n
      simpa [Packetizer.sending, Event.gone, Event.came, Packetizer.packet, Packetizer.departed]
        using hcut
  | @whole g chunk hg hempty hdata answer =>
      have hnil : p.backlog.contents = [] := p.backlog.contents_eq_nil_iff.mpr hempty
      simp [Packetizer.sending, Event.gone, Event.came, Packetizer.packet, Packetizer.emitted, hnil]
  | join chunk => simp [Event.gone, Event.came, Packetizer.contents_joined]
  | gap hempty => simp [Event.gone, Event.came]
  | clear => simp [Event.gone, Event.came]
  | relayout g => simp [Event.gone, Event.came, Packetizer.withGeometry]
  | relimit limits => simp
  | restart => simp [Event.gone, Event.came, Packetizer.restarted]

/-- A gap is a move of its own. -/
lemma Move.of_gap {p q : Packetizer} {es : List Event} (h : Move p es q) (hgap : .gap ∈ es) :
    es = [.gap] ∧ p.backlog.size = 0 := by
  cases h with
  | gap hempty => exact ⟨rfl, hempty⟩
  | _ => simp [Packetizer.sending] at hgap

/-- Moves one after the other. -/
inductive Moves : Packetizer → List Event → Packetizer → Prop
  | refl (p : Packetizer) : Moves p [] p
  | cons {p q r : Packetizer} {es es' : List Event} (first : Move p es q) (rest : Moves q es' r) :
      Moves p (es ++ es') r

namespace Moves

variable {p q r : Packetizer} {es es' : List Event}

lemma single (h : Move p es q) : Moves p es q := by
  have hone : Moves p (es ++ []) q := .cons h (.refl q)
  rwa [List.append_nil] at hone

lemma trans (h : Moves p es q) (h' : Moves q es' r) : Moves p (es ++ es') r := by
  induction h with
  | refl p => exact h'
  | cons first _ ih =>
      rw [List.append_assoc]
      exact .cons first (ih h')

/-- **What every move adds up, a row of moves adds up.** -/
lemma foldl_eq {α : Type} {f : α → Event → α} {view : Packetizer → α}
    (hmove : ∀ {p q : Packetizer} {es : List Event}, Move p es q →
      view q = es.foldl f (view p)) (h : Moves p es q) : view q = es.foldl f (view p) := by
  induction h with
  | refl p => rfl
  | cons first _ ih => rw [ih, List.foldl_append, ← hmove first]

/-- An element of a list in two parts is in one of them. -/
lemma mem_part {α : Type} {first second front back : List α} {a : α}
    (h : front ++ a :: back = first ++ second) :
    (∃ inner, front = first ++ inner ∧ inner ++ a :: back = second) ∨
      ∃ outer, front ++ a :: outer = first := by
  rcases List.append_eq_append_iff.mp h with ⟨rest, hfirst, hback⟩ | ⟨inner, hfront, hsecond⟩
  · rcases List.append_eq_cons_iff.mp hback.symm with ⟨rfl, hsecond⟩ | ⟨outer, rfl, -⟩
    · exact .inl ⟨[], by simpa using hfirst.symm, hsecond.symm⟩
    · exact .inr ⟨outer, hfirst.symm⟩
  · exact .inl ⟨inner, hfront, hsecond.symm⟩

/-- The move in which an event happens, and the row of moves in front of it. -/
lemma split {earlier later : List Event} {e : Event} (h : Moves p (earlier ++ e :: later) r) :
    ∃ q front inner outer t, earlier = front ++ inner ∧ Moves p front q ∧
      Move q (inner ++ e :: outer) t := by
  generalize hes : earlier ++ e :: later = es at h
  induction h generalizing earlier with
  | refl p => simp at hes
  | @cons p q r first second hfirst hrest ih =>
      rcases mem_part hes with ⟨front, rfl, hback⟩ | ⟨outer, rfl⟩
      · obtain ⟨q', front', inner, outer, t, rfl, hmoves, hmove⟩ := ih hback
        exact ⟨q', first ++ front', inner, outer, t, (List.append_assoc ..).symm,
          .cons hfirst hmoves, hmove⟩
      · exact ⟨p, [], earlier, outer, q, rfl, .refl p, hfirst⟩

/-- **Where a packet comes from**: it is cut from what waits in the state that the events before it
have led to, or it is the chunk that has just been taken. -/
inductive Origin (p : Packetizer) : List Event → Sending → Prop
  | cut {q : Packetizer} {g : Geometry} {n : Nat} {earlier : List Event}
      (before : Moves p earlier q) (hg : q.layout = .ok g) (hpos : 0 < n)
      (hfit : n ≤ q.backlog.size) (asked : Option UInt64) (answer : Except Fault Unit) :
      Origin p earlier ⟨q.geometry, q.limits.clockRate, asked,
        ⟨q.packet g (q.backlog.front n) (asked.or (q.headTime g)), answer⟩⟩
  | whole {q : Packetizer} {g : Geometry} {chunk : Chunk} {earlier : List Event}
      (before : Moves p earlier q) (hg : q.layout = .ok g) (hempty : q.backlog.size = 0)
      (hdata : chunk.data ≠ []) (answer : Except Fault Unit) :
      Origin p (earlier ++ [.taken chunk]) ⟨q.geometry, q.limits.clockRate, none,
        ⟨q.packet g chunk.data chunk.stamp, answer⟩⟩

/-- Every packet has an origin. -/
theorem origin {earlier later : List Event} {x : Sending}
    (h : Moves p (earlier ++ .offered x :: later) r) : Origin p earlier x := by
  obtain ⟨q, front, inner, outer, t, rfl, hfront, hmove⟩ := h.split
  generalize hes : inner ++ .offered x :: outer = es at hmove
  cases hmove with
  | cut hg hpos hfit asked answer =>
      obtain ⟨rfl, hes⟩ | ⟨-, hnil⟩ := List.append_eq_singleton_iff.mp hes
      · obtain ⟨rfl⟩ := Event.offered.inj (List.cons.inj hes).1
        rw [List.append_nil]
        exact .cut hfront hg hpos hfit asked answer
      · cases hnil
  | whole hg hempty hdata answer =>
      rcases List.append_eq_cons_iff.mp hes with ⟨-, hfirst⟩ | ⟨inner, rfl, hrest⟩
      · cases hfirst
      · obtain ⟨rfl, hlast⟩ | ⟨-, hnil⟩ := List.append_eq_singleton_iff.mp hrest.symm
        · obtain ⟨rfl⟩ := Event.offered.inj (List.cons.inj hlast).1
          exact .whole hfront hg hempty hdata answer
        · cases hnil
  | relimit limits => simp at hes
  | _ =>
      obtain ⟨-, hes⟩ | ⟨-, hnil⟩ := List.append_eq_singleton_iff.mp hes
      · cases hes
      · cases hnil

/-- **At every moment of a run**, what has gone and what waits is what waited and what came. -/
lemma bytes (h : Moves p es q) :
    es.flatMap Event.gone ++ q.backlog.contents = p.backlog.contents ++ es.flatMap Event.came := by
  induction h with
  | refl p => simp
  | @cons p q r es es' first rest ih =>
      rw [List.flatMap_append, List.flatMap_append, List.append_assoc, ih, ← List.append_assoc,
        first.bytes, List.append_assoc]

end Moves

namespace Backlog

lemma front_length_portion (which : Portion) (b : Backlog) :
    b.front (b.portion which).length = b.portion which := by
  rw [front_eq_take]
  cases which with
  | all => simp [portion]
  | upTo n => simp [portion, front_eq_take]

lemma length_portion_le (which : Portion) (b : Backlog) : (b.portion which).length ≤ b.size := by
  rw [← front_length_portion which b, length_front]
  exact Nat.min_le_right _ _

end Backlog

namespace Packetizer

variable {sink : Sink σ Packet} {g : Geometry} {plan : List Nat} {p q : Packetizer} {s : σ}
  {chunk : Chunk} {l : Lengths}

/-- A layout that is in force was set, and no quantity of it is zero. -/
lemma layout_ok (h : p.layout = .ok g) : p.geometry = some g ∧ g.check = .ok () := by
  rw [layout] at h
  cases hset : p.geometry with
  | none => simp [hset] at h
  | some set =>
      cases hcheck : set.check with
      | error why => simp [hset, hcheck] at h
      | ok u =>
          obtain rfl : set = g := by simpa [hset, hcheck] using h
          exact ⟨rfl, hcheck⟩

lemma sending_eq (h : p.SameSetup q) : q.sending = p.sending := by
  funext asked offer
  simp only [sending, h.1, h.2]

/-- **A delivery of cuts** is a row of moves, however far it gets. -/
lemma carving_moves (hg : p.layout = .ok g) (hpos : ∀ n ∈ plan, 0 < n)
    (hfit : plan.sum ≤ p.backlog.size) :
    Moves p ((Effect.carving sink g plan p s).offers.map (p.sending none))
      (Effect.carving sink g plan p s).packetizer := by
  induction plan generalizing p s with
  | nil => exact .refl p
  | cons n plan ih =>
      rw [List.sum_cons] at hfit
      have hn : 0 < n := hpos n (by simp)
      have hcut (answer : Except Fault Unit) : Moves p _ (p.departed n) :=
        .single (.cut hg hn (by omega) none answer)
      have hrest : plan.sum ≤ (p.departed n).backlog.size := by
        rw [size_departed]
        omega
      cases h : (sink.offer (p.packet g (p.backlog.front n) (p.headTime g)) s).1 with
      | error fault =>
          rw [Effect.carving_cons_of_error h]
          exact hcut _
      | ok u =>
          rw [Effect.carving_cons_of_ok h]
          exact (hcut (.ok ())).trans
            (ih (p := p.departed n) hg (fun m hm => hpos m (by simp [hm])) hrest)

lemma pos_of_mem_remainder (p : Packetizer) : ∀ n ∈ p.remainder, 0 < n := by
  intro n hn
  rw [remainder] at hn
  split at hn
  · simp at hn
  · obtain rfl : n = p.backlog.size := by simpa using hn
    omega

/-- **A flush** is one cut, or none. -/
lemma flush_moves (h : p.Ready) (which : Portion) (asked : Option UInt64) :
    Moves p ((flush which asked sink p s).effect.offers.map (p.sending asked))
      (flush which asked sink p s).effect.packetizer := by
  by_cases hempty : p.backlog.portion which = []
  · rw [effect_flush_of_isEmpty hempty]
    exact .refl p
  · have hpos : 0 < (p.backlog.portion which).length := List.length_pos_iff.mpr hempty
    have hfit : (p.backlog.portion which).length ≤ p.backlog.size :=
      Backlog.length_portion_le which p.backlog
    obtain ⟨g, hg⟩ := h (by omega)
    rw [effect_flush hg hempty]
    have hcut := Move.cut hg hpos hfit asked
      (sink.offer (p.packet g (p.backlog.portion which) (asked.or (p.headTime g))) s).1
    rw [Backlog.front_length_portion] at hcut
    exact .single hcut

/-- Nothing waits behind a flush of everything. -/
lemma size_flush_all (h : p.Ready) :
    (flush .all none sink p s).effect.packetizer.backlog.size = 0 := by
  by_cases hsize : p.backlog.size = 0
  · have hnone : p.backlog.portion .all = [] := p.backlog.contents_eq_nil_iff.mpr hsize
    rw [effect_flush_of_isEmpty hnone]
    exact hsize
  · obtain ⟨g, hg⟩ := h hsize
    rw [effect_flush_all fun _ => hg]
    exact size_carving_remainder g p s

/-- **A break**: what waits leaves, and behind it the gap is registered. -/
lemma marked_moves (h : p.Ready) :
    Moves p ((flush .all none sink p s).effect.marked.offers.map (p.sending none) ++ [.gap])
      (flush .all none sink p s).effect.marked.packetizer :=
  (flush_moves h .all none).trans (.single (.gap (size_flush_all h)))

/-- In front of the point where a chunk is taken at most a break has happened. -/
lemma entry_moves (h : p.Ready) (chunk : Chunk) (sink : Sink σ Packet) (s : σ) :
    let e := (entry chunk sink p s).effect
    Moves p
        (e.offers.map (p.sending none) ++ (if chunk.gap && p.layout.isOk then [.gap] else []))
        e.packetizer ∧
      p.SameSetup e.packetizer ∧
      ∀ l, e.result = .ok l → ∃ g, p.layout = .ok g := by
  intro e
  cases hg : p.layout with
  | error why =>
      have he : e = .failed (.setup why) p s := effect_entry_of_error hg
      rw [he]
      refine ⟨?_, ⟨rfl, rfl⟩, fun l hl => by cases hl⟩
      simp only [Except.isOk, Except.toBool, Bool.and_false, Bool.false_eq_true, if_false]
      exact .refl p
  | ok g =>
      refine ⟨?_, ?_, fun _ _ => ⟨g, rfl⟩⟩
      all_goals cases hgap : chunk.gap
      · have he : e = ⟨p.lengths.mapError .setup, p, s, []⟩ := effect_entry_plain hg hgap
        rw [he]
        exact .refl p
      · have he : e = _ := effect_entry_gap hg hgap
        have hbreak : Moves p ((flush .all none sink p s).effect.marked.offers.map
            (p.sending none) ++ [.gap]) _ := marked_moves h
        rw [effect_flush_all fun _ => hg] at hbreak
        rw [he]
        exact hbreak
      · have he : e = ⟨p.lengths.mapError .setup, p, s, []⟩ := effect_entry_plain hg hgap
        rw [he]
        exact ⟨rfl, rfl⟩
      · have he : e = _ := effect_entry_gap hg hgap
        rw [he]
        exact ⟨(departedAll_setup _ p).1, (departedAll_setup _ p).2.1⟩

/-- Behind it the chunk is in packets or waiting. -/
lemma accept_moves (hg : p.layout = .ok g) (chunk : Chunk) (l : Lengths) (sink : Sink σ Packet)
    (s : σ) :
    let e := (accept chunk l sink p s).effect
    Moves p (.taken chunk :: e.offers.map (p.sending none)) e.packetizer := by
  intro e
  by_cases hpass : p.Passes chunk l
  · have he : e = _ := effect_accept_through hg hpass
    rw [he]
    exact .single (.whole hg hpass.1 hpass.ne_nil _)
  · have he : e = _ := effect_accept_enqueue hg hpass
    rw [he]
    exact (Moves.single (.join p chunk)).trans
      (carving_moves (p := p.joined chunk) hg (l.pos_of_mem_cuts _) (sum_cuts_joined_le chunk l p))

/-- **A chunk comes in**: what `entry` does, and then, if it is taken, what `accept` does. -/
lemma handle_moves (h : p.Ready) (chunk : Chunk) (sink : Sink σ Packet) (s : σ) :
    let entered := entry chunk sink p s
    let e := (handle chunk sink p s).effect
    Moves p (p.arrival chunk entered e.offers) e.packetizer := by
  intro entered e
  obtain ⟨hentry, hsetup, hlayout⟩ := entry_moves h chunk sink s
  have he : e = ((entry chunk >>= accept chunk) sink p s).effect := by
    rw [← handle_eq_entry_accept]
  cases hr : entered.result with
  | error fault =>
      have hend : e = (entered.withResult (.error fault)).effect := by
        rw [he, Work.bind_of_error hr]
      simp only [hend, Outcome.effect, Outcome.withResult, arrival, hr, List.take_length,
        List.drop_length, List.map_nil, List.append_nil]
      exact hentry
  | ok l =>
      -- The break may have changed the state, but not the setup that packets are made under.
      obtain ⟨g, hg⟩ := hlayout l hr
      have hthen := accept_moves (hsetup.layout_eq.trans hg) chunk l sink entered.sink
      have hend : e = ((accept chunk l sink entered.packetizer entered.sink).effect).after
          entered.offers := by
        rw [he, Work.bind_of_ok hr]
        rfl
      rw [sending_eq hsetup] at hthen
      simp only [hend, Effect.after, arrival, hr, List.take_left, List.drop_left]
      have hboth := hentry.trans hthen
      rw [List.append_cons] at hboth
      exact hboth

end Packetizer

namespace Step

variable {p : Packetizer} {s : σ}

/-- A layout that is refused changes nothing; one that is set clears the backlog. -/
lemma geometry_moves {op : Operation} {g : Geometry} (hg : op.layout? = some g)
    (sink : Sink σ Packet) (s : σ) :
    Moves p (events sink ⟨op, p, s, op.perform sink p s⟩) (op.perform sink p s).packetizer := by
  have hstate : (op.perform sink p s).packetizer = _ :=
    congrArg Effect.packetizer (Operation.effect_perform_geometry hg)
  rw [events_of_geometry hg, hstate]
  cases p.clash? g with
  | some why => exact .refl p
  | none => exact .single (.relayout p g)

/-- Nothing happens when a result is given. -/
lemma moves_of_give {o : Outcome σ (List UInt8)} {e : Effect σ Unit} (he : o.effect = e.give [])
    (f : List Offer → List Event) (h : Moves p (f e.offers) e.packetizer) :
    Moves p (f o.offers) o.packetizer := by
  have hoffers : o.offers = e.offers := congrArg Effect.offers he
  have hstate : o.packetizer = e.packetizer := congrArg Effect.packetizer he
  rw [hoffers, hstate]
  exact h

/-- **Every request is a row of moves.** -/
theorem moves (h : p.Ready) (sink : Sink σ Packet) (s : σ) (op : Operation) :
    Moves p (events sink ⟨op, p, s, op.perform sink p s⟩) (op.perform sink p s).packetizer := by
  cases op with
  | setFrames size millis => exact geometry_moves rfl sink s
  | setSamples bits => exact geometry_moves rfl sink s
  | setSampleBytes bytes => exact geometry_moves rfl sink s
  | setLimits limits => exact .single (.relimit p limits)
  | handle chunk =>
      exact moves_of_give (Operation.effect_perform_handle chunk)
        (p.arrival chunk (Packetizer.entry chunk sink p s)) (Packetizer.handle_moves h chunk sink s)
  | flush which asked =>
      exact moves_of_give (Operation.effect_perform_flush which asked)
        (fun offers => offers.map (p.sending asked)) (Packetizer.flush_moves h which asked)
  | discontinuity =>
      exact moves_of_give Operation.effect_perform_discontinuity
        (fun offers => offers.map (p.sending none) ++ [.gap]) (Packetizer.marked_moves h)
  | endOfStream =>
      exact moves_of_give Operation.effect_perform_endOfStream
        (fun offers => offers.map (p.sending none)) (Packetizer.flush_moves h .all none)
  | flushStop => exact .single (.clear p)
  | clear => exact .single (.clear p)
  | drain => exact .single (.clear p)
  | reset => exact .single (.restart p)

end Step

namespace Operation

variable {p : Packetizer}

/-- So is a run. -/
theorem trace_moves (h : p.Ready) (sink : Sink σ Packet) (ops : List Operation) (s : σ) :
    Moves p (trace sink ops p s) (performAll sink ops p s).1 := by
  induction ops generalizing p s with
  | nil => exact .refl p
  | cons op ops ih =>
      have hnext : (op.perform sink p s).packetizer.Ready := (Step.balanced h sink s op).ready
      exact (Step.moves h sink s op).trans (ih hnext (op.perform sink p s).sink)

/-- Nothing waits at first, so every run of a fresh packetizer is one. -/
lemma trace_fresh (limits : Limits) (logger : Log.Logger) (sink : Sink σ Packet)
    (ops : List Operation) (s : σ) :
    Moves (.fresh limits logger) (trace sink ops (.fresh limits logger) s)
      (performAll sink ops (.fresh limits logger) s).1 :=
  trace_moves (Packetizer.ready_of_empty rfl) sink ops s

end Operation

end CbrAudio
