import CbrAudio.Proofs.Twins

/-!
# The short way and the detour

A chunk of legal length that finds nothing waiting leaves as it is.  It could as well join the
backlog and be cut off again: that is a detour, and this file says what it changes.

* `Packetizer.handleVia`, `Operation.performVia` — requests with the short way open or closed.
* `Operation.abreast` — **two runs side by side**: the ordinary one, and one in which the short way
  is closed now and then.
* `Packetizer.Timely` — a chunk that has the same time on both ways.  A chunk without a time stamp
  is sent without one on the short way, while the detour reckons its time from what is remembered.
* **`detour_agrees`** — the packets are the same but for their time stamps, whatever happens later,
  and the time stamps are the same as long as all chunks are timely.
* **`detour_reckons`** — and where one is not they differ.
-/

namespace CbrAudio

variable {σ τ : Type} {timed : Prop}

namespace Packetizer

/-- A chunk comes in and waits, whatever its length. -/
def queue (chunk : Chunk) (l : Lengths) : Work σ Unit := do
  Work.update fun p => { p with phase := .active }
  let p ← Work.current
  let size := chunk.data.length
  let waiting := p.backlog.size
  Work.log .debug (s!"got chunk size {size}, available {waiting}, "
    ++ s!"min {l.min} max {l.max} align {l.align}")
  enqueue chunk l

/-- A chunk comes in, with the short way open or closed. -/
def acceptVia (direct : Bool) (chunk : Chunk) (l : Lengths) : Work σ Unit :=
  if direct then accept chunk l else queue chunk l

/-- The same in front of it. -/
def handleVia (direct : Bool) (chunk : Chunk) : Work σ Unit :=
  entry chunk >>= acceptVia direct chunk

/-- **A chunk that has the same time on both ways**, where it meets one state or the other: it has
a time of its own, or joins bytes that wait, or nothing that is remembered makes a difference. -/
def Timely (direct : Bool) (chunk : Chunk) (l : Lengths) (p q : Packetizer) : Prop :=
  chunk.data ≠ [] → chunk.stamp = none → p.backlog.size = 0 →
    (p.Passes chunk l → direct = false → q.backlog.anchor.stamp = none) ∧
      (¬ p.Passes chunk l → p.backlog.anchor.Alike q.backlog.anchor)

variable {sink : Sink σ Packet} {sink' : Sink τ Packet} {p q : Packetizer} {s : σ} {t : τ}
  {g : Geometry} {l : Lengths} {chunk : Chunk}

lemma effect_queue (hg : p.layout = .ok g) (chunk : Chunk) (l : Lengths) :
    (queue chunk l sink p s).effect =
      .carving sink g (l.cuts (p.backlog.size + chunk.data.length)) (p.joined chunk) s := by
  rw [queue, Work.effect_update_bind, Work.effect_current_bind, Work.effect_log_bind]
  exact effect_enqueue hg chunk l

/-- **The detour of a legal payload** is one cut. -/
lemma effect_queue_legal (hg : p.layout = .ok g) (h : p.Passes chunk l)
    (hd : l.align ∣ chunk.data.length) :
    (queue chunk l sink p s).effect =
      .offering sink (p.packet g chunk.data ((p.joined chunk).headTime g))
        ((p.joined chunk).departed chunk.data.length) s := by
  obtain ⟨hsize, hmin, hmax⟩ := h
  have hfront : (p.joined chunk).backlog.front chunk.data.length = chunk.data := by
    rw [Backlog.front_eq_take, contents_joined, (p.backlog.contents_eq_nil_iff).mpr hsize,
      List.nil_append, List.take_length]
  rw [effect_queue hg, hsize, Nat.zero_add, Lengths.cuts_of_legal hmin hmax hd,
    Effect.carving_singleton, hfront]
  rfl

/-- Its time is that of the chunk, or else what is remembered. -/
lemma headTime_joined (hsize : p.backlog.size = 0) (hdata : chunk.data ≠ []) (g : Geometry) :
    (p.joined chunk).headTime g = chunk.stamp.or (p.headTime g) := by
  have hanchor : (p.joined chunk).backlog.anchor = p.backlog.anchor.renew chunk.stamp := by
    rw [joined, Backlog.anchor_push hdata, if_pos hsize]
  rw [headTime, hanchor]
  cases chunk.stamp <;> rfl

/-- Both ways leave the same behind, but for what is remembered. -/
lemma Twin.through (h : p.Twin timed q) (hsize : p.backlog.size = 0) (chunk : Chunk) :
    ({ p with phase := .active }.emitted chunk.data.length).Twin timed
      ((q.joined chunk).departed chunk.data.length) := by
  obtain ⟨a, rfl, -⟩ := h
  let anchor := (((p.withAnchor a).joined chunk).departed chunk.data.length).backlog.anchor
  refine ⟨anchor, ?_, fun _ hne => absurd hsize hne⟩
  have hsegments : (((p.withAnchor a).joined chunk).backlog.advance chunk.data.length).segments =
      p.backlog.segments := by
    have hgone : (((p.withAnchor a).joined chunk).departed chunk.data.length).backlog.size = 0 := by
      have hall : (p.withAnchor a).backlog.size = 0 := hsize
      rw [size_departed, size_joined, hall]
      omega
    rw [Backlog.segments_of_size hsize]
    exact Backlog.segments_of_size hgone
  exact congrArg (fun segments => { p with
    phase := .active
    gap := false
    sent := p.sent + chunk.data.length
    backlog := ⟨segments, anchor⟩ }) hsegments

/-- **A chunk is taken**, on the same way or on different ones. -/
lemma accept_twin (hsink : sink.Accepts) (hsink' : sink'.Accepts) (hg : p.layout = .ok g)
    (h : p.Twin timed q) {direct : Bool}
    (hfits : p.Passes chunk l → direct = false → l.align ∣ chunk.data.length)
    (htimely : timed → Timely direct chunk l p q) :
    (accept chunk l sink p s).effect.Twin timed
      (acceptVia direct chunk l sink' q t).effect := by
  have hgq : q.layout = .ok g := h.setup.layout_eq.trans hg
  have hpass : q.Passes chunk l ↔ p.Passes chunk l := by
    rw [Passes, Passes, h.size_eq]
  by_cases hp : p.Passes chunk l
  · have hsize : p.backlog.size = 0 := hp.1
    rw [effect_accept_through hg hp]
    cases direct with
    | true =>
        rw [acceptVia, if_pos rfl, effect_accept_through hgq (hpass.mpr hp)]
        refine Effect.offering_twin hsink hsink' ?_ ?_ ?_
        · obtain ⟨a, rfl, -⟩ := h
          exact ⟨a, rfl, fun _ hne => absurd hsize hne⟩
        · rw [h.packet_eq]
        · intro _
          rw [h.packet_eq]
    | false =>
        have hdata : chunk.data ≠ [] := hp.ne_nil
        rw [acceptVia, if_neg Bool.false_ne_true,
          effect_queue_legal hgq (hpass.mpr hp) (hfits hp rfl)]
        refine Effect.offering_twin hsink hsink' (h.through hsize chunk) ?_ ?_
        · rw [bare_packet, bare_packet, h.packet_eq]
        · intro htimed
          rw [h.packet_eq, headTime_joined (h.size_eq.trans hsize) hdata]
          cases hstamp : chunk.stamp with
          | some time => rfl
          | none =>
              have hnone := (htimely htimed hdata hstamp hsize).1 hp rfl
              rw [Option.none_or, headTime, hnone, Option.map_none]
  · have hqueue : (acceptVia direct chunk l sink' q t).effect =
        .carving sink' g (l.cuts (p.backlog.size + chunk.data.length)) (q.joined chunk) t := by
      rw [← h.size_eq]
      cases direct with
      | true => exact effect_accept_enqueue hgq (hpass.not.mpr hp)
      | false => exact effect_queue hgq chunk l
    have hjoined : (p.joined chunk).Twin timed (q.joined chunk) :=
      h.joined fun htimed hdata hstamp hsize => (htimely htimed hdata hstamp hsize).2 hp
    rw [effect_accept_enqueue hg hp, hqueue]
    exact carving_twin hsink hsink' g hjoined (l.pos_of_mem_cuts _) (sum_cuts_joined_le chunk l p)

/-- A chunk that is taken has legal lengths. -/
lemma lengths_of_entry (h : (entry chunk sink p s).result = .ok l) : p.lengths = .ok l := by
  have hmap {result : Except SetupFault Lengths} (hr : result.mapError Fault.setup = .ok l) :
      result = .ok l := by
    cases result with
    | error why => cases hr
    | ok l' => cases hr; rfl
  cases hg : p.layout with
  | error why =>
      have hentry : (entry chunk sink p s).result = _ :=
        congrArg Effect.result (effect_entry_of_error hg)
      rw [hentry] at h
      cases h
  | ok g =>
      cases hgap : chunk.gap with
      | false =>
          have hentry : (entry chunk sink p s).result = _ :=
            congrArg Effect.result (effect_entry_plain hg hgap)
          exact hmap (hentry.symm.trans h)
      | true =>
          have hentry : (entry chunk sink p s).result = _ :=
            congrArg Effect.result (effect_entry_gap hg hgap)
          rw [hentry] at h
          cases hr : (Effect.breaking sink g p s).result with
          | error fault => rw [hr] at h; cases h
          | ok u => rw [hr] at h; exact hmap h

/-- **A chunk comes in.**  Where it is taken the ways part. -/
lemma handle_twin (hsink : sink.Accepts) (hsink' : sink'.Accepts) (h : p.Twin timed q)
    (hready : p.Ready) {direct : Bool} {chunk : Chunk}
    (hfits : direct = false → ∀ l, p.lengths = .ok l → l.min ≤ chunk.data.length →
      chunk.data.length ≤ l.max → l.align ∣ chunk.data.length)
    (htimely : timed → ∀ l, (entry chunk sink p s).result = .ok l →
      Timely direct chunk l (entry chunk sink p s).packetizer (entry chunk sink' q t).packetizer) :
    (handle chunk sink p s).effect.Twin timed (handleVia direct chunk sink' q t).effect := by
  have hentry := entry_twin (s := s) (t := t) hsink hsink' h chunk
  rw [handle_eq_entry_accept, handleVia]
  cases hr : (entry chunk sink p s).result with
  | error fault =>
      have hr' : (entry chunk sink' q t).result = .error fault := hentry.result.trans hr
      rw [Work.bind_of_error hr, Work.bind_of_error hr']
      exact ⟨rfl, hentry.state, hentry.bare, hentry.packets⟩
  | ok l =>
      obtain ⟨-, hsetup, hlayout⟩ := entry_moves hready chunk sink s
      obtain ⟨g, hg⟩ := hlayout l hr
      have hr' : (entry chunk sink' q t).result = .ok l := hentry.result.trans hr
      have haccept := accept_twin (s := (entry chunk sink p s).sink)
        (t := (entry chunk sink' q t).sink) hsink hsink' (hsetup.layout_eq.trans hg) hentry.state
        (fun hp hclosed => hfits hclosed l (lengths_of_entry hr) hp.2.1 hp.2.2)
        (fun htimed => htimely htimed l hr)
      rw [Work.bind_of_ok hr, Work.bind_of_ok hr']
      exact hentry.after haccept

end Packetizer

/-! ## Two runs -/

/-- A request that is carried out in two runs. -/
structure Pair (σ : Type) where
  /-- Whether the short way is open in the second run as well. -/
  direct : Bool
  here : Step σ
  there : Step σ

namespace Operation

/-- Carries out a request with the short way open or closed. -/
def performVia (direct : Bool) : Operation → Work σ (List UInt8)
  | .handle chunk => do Packetizer.handleVia direct chunk; pure []
  | op => op.perform

/-- **Two runs side by side**, the second with the short way open or closed as it comes. -/
def abreast (sink : Sink σ Packet) :
    List (Bool × Operation) → Packetizer → σ → Packetizer → σ → List (Pair σ)
  | [], _, _, _, _ => []
  | (direct, op) :: ops, p, s, q, t =>
    ⟨direct, ⟨op, p, s, op.perform sink p s⟩, ⟨op, q, t, op.performVia direct sink q t⟩⟩ ::
      abreast sink ops (op.perform sink p s).packetizer (op.perform sink p s).sink
        (op.performVia direct sink q t).packetizer (op.performVia direct sink q t).sink

/-- With the short way open nothing is different. -/
lemma performVia_true (op : Operation) :
    (op.performVia true : Work σ (List UInt8)) = op.perform := by
  cases op with
  | handle chunk =>
      have hsame : (Packetizer.acceptVia true chunk : Lengths → Work σ Unit) =
          Packetizer.accept chunk := rfl
      rw [performVia, perform, Packetizer.handleVia, hsame, ← Packetizer.handle_eq_entry_accept]
  | _ => rfl

/-- The first run is the ordinary one. -/
lemma map_here_abreast (sink : Sink σ Packet) (ops : List (Bool × Operation)) (p q : Packetizer)
    (s t : σ) :
    (abreast sink ops p s q t).map Pair.here = history sink (ops.map Prod.snd) p s := by
  induction ops generalizing p q s t with
  | nil => rfl
  | cons op ops ih =>
      rw [abreast, List.map_cons, List.map_cons, history, ih]

/-- So is the second one, if the short way is never closed. -/
lemma map_there_abreast (sink : Sink σ Packet) {ops : List (Bool × Operation)}
    (h : ∀ op ∈ ops, op.1 = true) (p q : Packetizer) (s t : σ) :
    (abreast sink ops p s q t).map Pair.there = history sink (ops.map Prod.snd) q t := by
  induction ops generalizing p q s t with
  | nil => rfl
  | cons op ops ih =>
      obtain ⟨direct, op⟩ := op
      rw [List.forall_mem_cons] at h
      obtain rfl : direct = true := h.1
      rw [abreast, List.map_cons, List.map_cons, history, ih h.2, performVia_true]

end Operation

namespace Pair

/-- A chunk that leaves as it is in one run, but has to wait in the other, is of whole units. -/
def Fits (pair : Pair σ) : Prop :=
  pair.direct = false → ∀ chunk l, pair.here.operation = .handle chunk →
    pair.here.before.lengths = .ok l → l.min ≤ chunk.data.length → chunk.data.length ≤ l.max →
    l.align ∣ chunk.data.length

/-- A chunk that is taken is timely where it is. -/
def Timely (sink : Sink σ Packet) (pair : Pair σ) : Prop :=
  ∀ chunk l, pair.here.operation = .handle chunk →
    (Packetizer.entry chunk sink pair.here.before pair.here.receiver).result = .ok l →
    Packetizer.Timely pair.direct chunk l
      (Packetizer.entry chunk sink pair.here.before pair.here.receiver).packetizer
      (Packetizer.entry chunk sink pair.there.before pair.there.receiver).packetizer

end Pair

namespace Operation

variable {sink : Sink σ Packet}

/-- **One request in two runs.** -/
theorem performVia_twin (hsink : sink.Accepts) {p q : Packetizer} (h : p.Twin timed q)
    (hready : p.Ready) (direct : Bool) (op : Operation) (s t : σ)
    (hfits : Pair.Fits (σ := σ) ⟨direct, ⟨op, p, s, op.perform sink p s⟩,
      ⟨op, q, t, op.performVia direct sink q t⟩⟩)
    (htimely : timed → Pair.Timely sink ⟨direct, ⟨op, p, s, op.perform sink p s⟩,
      ⟨op, q, t, op.performVia direct sink q t⟩⟩) :
    (op.perform sink p s).effect.Twin timed (op.performVia direct sink q t).effect := by
  by_cases hop : ∃ chunk, op = .handle chunk
  · obtain ⟨chunk, rfl⟩ := hop
    rw [effect_perform_handle, performVia, effect_give]
    refine Effect.Twin.give (Packetizer.handle_twin hsink hsink h hready ?_ ?_) []
    · exact fun hclosed l => hfits hclosed chunk l rfl
    · exact fun htimed l => htimely htimed chunk l rfl
  · have hsame : (op.performVia direct : Work σ (List UInt8)) = op.perform := by
      cases op with
      | handle chunk => exact absurd ⟨chunk, rfl⟩ hop
      | _ => rfl
    rw [hsame]
    exact perform_twin hsink hsink h hready (fun chunk heq => hop ⟨chunk, heq⟩) s t

/-- **And all later requests.** -/
theorem abreast_twin (hsink : sink.Accepts) {ops : List (Bool × Operation)} {p q : Packetizer}
    {s t : σ} (h : p.Twin timed q) (hready : p.Ready)
    (hfits : ∀ pair ∈ abreast sink ops p s q t, pair.Fits)
    (htimely : timed → ∀ pair ∈ abreast sink ops p s q t, pair.Timely sink) :
    ∀ pair ∈ abreast sink ops p s q t,
      pair.here.outcome.effect.Twin timed pair.there.outcome.effect := by
  induction ops generalizing p q s t with
  | nil => simp [abreast]
  | cons op ops ih =>
      obtain ⟨direct, op⟩ := op
      simp only [abreast, List.forall_mem_cons] at hfits htimely ⊢
      have hstep := performVia_twin hsink h hready direct op s t hfits.1
        fun htimed => (htimely htimed).1
      have hnext : (op.perform sink p s).packetizer.Ready := (Step.balanced hready sink s op).ready
      exact ⟨hstep, ih hstep.state hnext hfits.2 fun htimed => (htimely htimed).2⟩

end Operation

/-! ## One detour -/

section Detour

open Packetizer

variable {sink : Sink σ Packet} {p : Packetizer} {g : Geometry} {l : Lengths} {chunk : Chunk}

/-- What is remembered makes no difference to a chunk with a time stamp, nor does nothing. -/
lemma stamp_or_headTime_iff (chunk : Chunk) (g : Geometry) (p : Packetizer) :
    chunk.stamp.or (p.headTime g) = chunk.stamp ↔
      (chunk.stamp = none → p.backlog.anchor.stamp = none) := by
  cases chunk.stamp with
  | none => simp [headTime]
  | some t => simp

/-- A legal payload that finds nothing waiting, on the short way and on the detour. -/
lemma detour_effects (hl : p.lengths = .ok l) (hg : p.layout = .ok g) (hgap : chunk.gap = false)
    (hpass : p.Passes chunk l) (hd : l.align ∣ chunk.data.length) (s : σ) :
    (handle chunk sink p s).effect =
        .offering sink (p.packet g chunk.data chunk.stamp)
          ({ p with phase := .active }.emitted chunk.data.length) s ∧
      (handleVia false chunk sink p s).effect =
        .offering sink (p.packet g chunk.data ((p.joined chunk).headTime g))
          ((p.joined chunk).departed chunk.data.length) s := by
  have hentry : (entry chunk sink p s).effect = ⟨.ok l, p, s, []⟩ := by
    rw [effect_entry_plain hg hgap, hl]
    rfl
  refine ⟨?_, ?_⟩
  · rw [effect_handle_plain hl hgap, effect_accept_through hg hpass]
  · rw [handleVia, Work.effect_bind_of_ok hentry, Effect.after_nil]
    exact effect_queue_legal hg hpass hd

/-- **The detour makes the same packets but for their time stamps**, now and in all that comes
later.  The packet at hand has the same time stamp exactly if the chunk has one or the state
remembers none; later packets do if every chunk that is taken is timely. -/
theorem detour_agrees (hsink : sink.Accepts) (hl : p.lengths = .ok l)
    (hempty : p.backlog.size = 0) (hgap : chunk.gap = false) (hmin : l.min ≤ chunk.data.length)
    (hmax : chunk.data.length ≤ l.max) (hd : l.align ∣ chunk.data.length) (s : σ) :
    let here := handle chunk sink p s
    let there := handleVia false chunk sink p s
    here.result = .ok () ∧ there.result = .ok () ∧
      there.offers.map (fun offer => offer.packet.bare) =
        here.offers.map (fun offer => offer.packet.bare) ∧
      (there.offers.map Offer.packet = here.offers.map Offer.packet ↔
        (chunk.stamp = none → p.backlog.anchor.stamp = none)) ∧
      ∀ later : List (Bool × Operation),
        let pairs := Operation.abreast sink later here.packetizer here.sink there.packetizer
          there.sink
        pairs.map Pair.here =
            Operation.history sink (later.map Prod.snd) here.packetizer here.sink ∧
          ((∀ op ∈ later, op.1 = true) → pairs.map Pair.there =
            Operation.history sink (later.map Prod.snd) there.packetizer there.sink) ∧
          ((∀ pair ∈ pairs, pair.Fits) →
            (∀ pair ∈ pairs, pair.there.outcome.result = pair.here.outcome.result ∧
              pair.there.packets.map Packet.bare = pair.here.packets.map Packet.bare) ∧
            ((∀ pair ∈ pairs, pair.Timely sink) →
              ∀ pair ∈ pairs, pair.there.packets = pair.here.packets)) := by
  intro here there
  obtain ⟨g, hg, -⟩ := layout_of_lengths hl
  have hpass : p.Passes chunk l := ⟨hempty, hmin, hmax⟩
  obtain ⟨hhere, hthere⟩ : here.effect = _ ∧ there.effect = _ :=
    detour_effects hl hg hgap hpass hd s
  rw [headTime_joined hempty hpass.ne_nil] at hthere
  have htwin : here.effect.Twin (chunk.stamp = none → p.backlog.anchor.stamp = none)
      there.effect := by
    rw [hhere, hthere]
    refine Effect.offering_twin hsink hsink ((Twin.refl _ p).through hempty chunk) ?_ ?_
    · rw [bare_packet, bare_packet]
    · intro htimed
      rw [(stamp_or_headTime_iff chunk g p).mpr htimed]
  have hresult : here.result = .ok () := (congrArg Effect.result hhere).trans (hsink _ s)
  have hleft : here.packetizer.backlog.size = 0 :=
    (congrArg (fun e => e.packetizer.backlog.size) hhere).trans hempty
  refine ⟨hresult, htwin.result.trans hresult, htwin.bare, ⟨?_, htwin.packets⟩, ?_⟩
  · intro hpackets
    have hoffers : here.offers = _ := congrArg Effect.offers hhere
    have hoffers' : there.offers = _ := congrArg Effect.offers hthere
    rw [hoffers, hoffers'] at hpackets
    simp only [Effect.offering, List.map_cons, List.map_nil, List.cons.injEq, and_true] at hpackets
    exact (stamp_or_headTime_iff chunk g p).mp (congrArg Packet.stamp hpackets)
  · -- Nothing waits behind either way, so from here on the runs are twins.
    intro later pairs
    refine ⟨Operation.map_here_abreast sink later _ _ _ _,
      fun hopen => Operation.map_there_abreast sink hopen _ _ _ _, ?_⟩
    intro hfits
    have hready : here.packetizer.Ready := fun hne => absurd hleft hne
    have hall : ∀ pair ∈ pairs, pair.here.outcome.effect.Twin (∀ pair ∈ pairs, pair.Timely sink)
        pair.there.outcome.effect :=
      Operation.abreast_twin hsink (htwin.state.of_size hleft) hready hfits id
    refine ⟨?_, ?_⟩
    · intro pair hpair
      refine ⟨(hall pair hpair).result, ?_⟩
      simp only [Step.packets, List.map_map]
      exact (hall pair hpair).bare
    · intro htimely pair hpair
      exact (hall pair hpair).packets htimely

/-- Two packets have left, of bytes that came at 0 ms.  A chunk comes at 500 ms, then one and a half
payloads at 520 ms, half a payload without a time stamp that joins the other half, and a payload
that the second run makes wait. -/
theorem detour_agrees_later :
    let frames (n : Nat) (stamp : Option UInt64) : Chunk :=
      { data := List.replicate n 7, stamp := stamp }
    let p := (Operation.performAll Sink.collect [.setFrames 20 20, .handle (frames 40 (some 0))]
      (.fresh { maxPtime := some 20000000 } .silent) #[]).1
    let l : Lengths := ⟨20, 20, 20, by decide, by decide, by decide⟩
    let chunk := frames 20 (some 500000000)
    let here := handle chunk Sink.collect p #[]
    let there := handleVia false chunk Sink.collect p #[]
    let later : List (Bool × Operation) := [(true, .handle (frames 30 (some 520000000))),
      (true, .handle (frames 10 none)), (false, .handle (frames 20 (some 600000000))),
      (true, .endOfStream)]
    let pairs := Operation.abreast Sink.collect later here.packetizer here.sink there.packetizer
      there.sink
    p.lengths = .ok l ∧ p.backlog.size = 0 ∧ p.backlog.anchor.stamp = some 0 ∧
      l.align ∣ chunk.data.length ∧
      there.offers.map Offer.packet = here.offers.map Offer.packet ∧
      (∀ pair ∈ pairs, pair.Fits) ∧ (∀ pair ∈ pairs, pair.Timely Sink.collect) ∧
      ∀ pair ∈ pairs, pair.there.packets = pair.here.packets := by
  intro frames p l chunk here there later pairs
  have hl : p.lengths = .ok l := by decide +kernel
  have hempty : p.backlog.size = 0 := by decide +kernel
  have hremembered : p.backlog.anchor.stamp = some 0 := by decide +kernel
  have hd : l.align ∣ chunk.data.length := by decide
  have hgap : chunk.gap = false := rfl
  obtain ⟨-, -, -, hiff, hlater⟩ := detour_agrees Sink.accepts_collect hl hempty hgap (by decide)
    (by decide) hd #[]
  have hfits : ∀ pair ∈ pairs, pair.Fits := by
    simp only [pairs, later, Operation.abreast, List.forall_mem_cons]
    refine ⟨?_, ?_, ?_, ?_, ?_⟩
    · intro h
      cases h
    · intro h
      cases h
    · rintro - _ l' ⟨rfl⟩ hl' - -
      obtain rfl : l = l' := Except.ok.inj (Eq.trans (by decide +kernel) hl')
      exact hd
    · intro h
      cases h
    · simp
  have htimely : ∀ pair ∈ pairs, pair.Timely Sink.collect := by
    simp only [pairs, later, Operation.abreast, List.forall_mem_cons]
    refine ⟨?_, ?_, ?_, ?_, ?_⟩
    · rintro _ l' ⟨rfl⟩ - - hstamp
      cases hstamp
    · rintro _ l' ⟨rfl⟩ - - - hsize
      exact absurd hsize (by decide +kernel)
    · rintro _ l' ⟨rfl⟩ - - hstamp
      cases hstamp
    · rintro _ l' ⟨⟩
    · simp
  exact ⟨hl, hempty, hremembered, hd, hiff.mpr (fun h => by cases h), hfits, htimely,
    ((hlater later).2.2 hfits).2 htimely⟩

/-- **A chunk without a time stamp**, when 40 ms of audio have left by way of the backlog: on the
short way its packet has no time, on the detour it is reckoned to be at 40 ms. -/
theorem detour_reckons :
    let p := (Operation.performAll Sink.collect [.setFrames 20 20,
        .handle { data := (List.range 40).map UInt8.ofNat, stamp := some 0 }]
      (.fresh { maxPtime := some 20000000 } .silent) #[]).1
    let l : Lengths := ⟨20, 20, 20, by decide, by decide, by decide⟩
    let chunk : Chunk := { data := (List.range' 40 20).map UInt8.ofNat }
    let here := handle chunk Sink.collect p #[]
    let there := handleVia false chunk Sink.collect p #[]
    p.lengths = .ok l ∧ p.backlog.size = 0 ∧ chunk.gap = false ∧
      (l.min ≤ chunk.data.length ∧ chunk.data.length ≤ l.max ∧ l.align ∣ chunk.data.length) ∧
      here.offers.map (fun offer => offer.packet.stamp) = [none] ∧
      there.offers.map (fun offer => offer.packet.stamp) = [some 40000000] ∧
      there.offers.map Offer.packet ≠ here.offers.map Offer.packet := by
  decide +kernel

end Detour

end CbrAudio
