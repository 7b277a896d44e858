import CbrAudio.Proofs.Bounds

/-!
# Slicing goes on where a refusal has ended it

A refusal ends the slicing of a chunk between two cuts, and the state says all about the cuts that
are still to be made.  An empty chunk is enough to have them made.

* `Packetizer.due`, `Packetizer.settled` — the packets that the waiting bytes will make, and the
  state behind them.
* `Lengths.cuts_rest` — behind some cuts of a plan the plan for the rest is the rest of the plan.
* `Effect.Passed`, `Effect.Stopped` — the two ways in which slicing ends.
* **`Effect.Leg`** — part of the way: what has been offered and what is due are the same in all, and
  so is the state at the end, whatever the receiver answers.  `handle_leg` for the chunk,
  `retry_leg` for an empty chunk behind it.
* **`handle_resumes`** — over every receiver and every number of empty chunks.
-/

namespace CbrAudio

variable {σ τ α : Type}

/-! ## The rest of a plan -/

/-- **The plan for the rest is the rest of the plan.** -/
lemma Lengths.cuts_rest (l : Lengths) (k available : Nat) :
    l.cuts (available - ((l.cuts available).take k).sum) = (l.cuts available).drop k := by
  induction k generalizing available with
  | zero => simp
  | succ k ih =>
      by_cases h : l.min ≤ available
      · rw [cuts_of_le h, List.take_succ_cons, List.sum_cons, List.drop_succ_cons, ← ih,
          Nat.sub_sub]
      · simp [cuts_of_lt (Nat.not_le.mp h)]

namespace Packetizer

variable {p q : Packetizer} {g : Geometry} {l : Lengths} {chunk : Chunk}

lemma packets_append (g : Geometry) (first second : List Nat) (p : Packetizer) :
    p.packets g (first ++ second) =
      p.packets g first ++ (p.departedAll first).packets g second := by
  induction first generalizing p with
  | nil => rfl
  | cons n first ih =>
      simp only [List.cons_append, packets, ih]
      rfl

lemma departedAll_append (first second : List Nat) (p : Packetizer) :
    p.departedAll (first ++ second) = (p.departedAll first).departedAll second :=
  List.foldl_append

/-- The packets that the waiting bytes will make. -/
def due (g : Geometry) (l : Lengths) (p : Packetizer) : List Packet :=
  p.packets g (l.cuts p.backlog.size)

/-- The state when they have left. -/
def settled (l : Lengths) (p : Packetizer) : Packetizer := p.departedAll (l.cuts p.backlog.size)

/-- Where less than the smallest payload waits nothing is due. -/
lemma due_eq_nil (g : Geometry) (h : p.backlog.size < l.min) : p.due g l = [] := by
  rw [due, l.cuts_of_lt h]
  rfl

lemma settled_eq_self (h : p.backlog.size < l.min) : p.settled l = p := by
  rw [settled, l.cuts_of_lt h]
  rfl

lemma cuts_departedAll (l : Lengths) (k : Nat) (p : Packetizer) :
    l.cuts (p.departedAll ((l.cuts p.backlog.size).take k)).backlog.size =
      (l.cuts p.backlog.size).drop k := by
  rw [size_departedAll, l.cuts_rest]

/-- **Between two cuts**: the packets in front and those that are due are all. -/
lemma packets_append_due (g : Geometry) (l : Lengths) (k : Nat) (p : Packetizer) :
    p.packets g ((l.cuts p.backlog.size).take k) ++
      (p.departedAll ((l.cuts p.backlog.size).take k)).due g l = p.due g l := by
  rw [due, cuts_departedAll, ← packets_append, List.take_append_drop, due]

lemma settled_departedAll (l : Lengths) (k : Nat) (p : Packetizer) :
    (p.departedAll ((l.cuts p.backlog.size).take k)).settled l = p.settled l := by
  rw [settled, cuts_departedAll, ← departedAll_append, List.take_append_drop, settled]

/-- Then nothing is due. -/
lemma due_settled (g : Geometry) (l : Lengths) (p : Packetizer) : (p.settled l).due g l = [] := by
  have hrest := cuts_departedAll l (l.cuts p.backlog.size).length p
  rw [List.take_length, List.drop_length] at hrest
  rw [due, settled, hrest]
  rfl

/-- Data comes, and there are a layout and legal lengths for it. -/
structure Ongoing (g : Geometry) (l : Lengths) (p : Packetizer) : Prop where
  layout : p.layout = .ok g
  lengths : p.lengths = .ok l
  phase : p.phase = .active

lemma Ongoing.departedAll (h : p.Ongoing g l) (plan : List Nat) :
    (p.departedAll plan).Ongoing g l := by
  obtain ⟨hgeometry, hlimits, -, hphase⟩ := departedAll_setup plan p
  exact ⟨(layout_departedAll plan p).trans h.layout, (lengths_eq hgeometry hlimits).trans h.lengths,
    hphase.trans h.phase⟩

end Packetizer

/-! ## Part of the way -/

namespace Effect

/-- Everything was taken. -/
def Passed (e : Effect σ α) : Prop :=
  ∃ packets : List Packet, e.offers = packets.map Offer.taken ∧ ∃ a, e.result = .ok a

/-- **The first refusal was the end**, and its fault is the result. -/
def Stopped (e : Effect σ α) : Prop :=
  ∃ (front : List Packet) (packet : Packet) (fault : Fault),
    e.offers = front.map Offer.taken ++ [⟨packet, .error fault⟩] ∧ e.result = .error fault

/-- **Part of the way** to some packets and to the state behind them: what was offered and what is
due are these packets, and what is due leads to that state.  Only a refusal leaves anything due. -/
structure Leg (g : Geometry) (l : Lengths) (packets : List Packet) (last : Packetizer)
    (e : Effect σ α) : Prop where
  ongoing : e.packetizer.Ongoing g l
  due : e.offers.map Offer.packet ++ e.packetizer.due g l = packets
  settled : e.packetizer.settled l = last
  ended : (e.Passed ∧ e.packetizer.due g l = [] ∧ e.packetizer = last) ∨ e.Stopped

variable {g : Geometry} {l : Lengths} {packets : List Packet} {last p : Packetizer}
  {e : Effect σ α} {sink : Sink σ Packet} {s : σ}

lemma Passed.give {β : Type} (h : e.Passed) (b : β) : (e.give b).Passed := by
  obtain ⟨packets, hoffers, a, ha⟩ := h
  exact ⟨packets, hoffers, b, by rw [Effect.give, ha]; rfl⟩

lemma Stopped.give {β : Type} (h : e.Stopped) (b : β) : (e.give b).Stopped := by
  obtain ⟨front, packet, fault, hoffers, hresult⟩ := h
  exact ⟨front, packet, fault, hoffers, by rw [Effect.give, hresult]; rfl⟩

lemma Stopped.offers_ne_nil (h : e.Stopped) : e.offers ≠ [] := by
  obtain ⟨front, packet, fault, hoffers, -⟩ := h
  simp [hoffers]

lemma Leg.give {β : Type} (h : e.Leg g l packets last) (b : β) :
    (e.give b).Leg g l packets last where
  ongoing := h.ongoing
  due := h.due
  settled := h.settled
  ended := h.ended.imp (fun h => ⟨h.1.give b, h.2⟩) fun h => h.give b

/-- Where there was no fault the end is reached. -/
lemma Leg.passed (h : e.Leg g l packets last) {a : α} (ha : e.result = .ok a) :
    e.offers.map Offer.packet = packets ∧ e.packetizer = last := by
  rcases h.ended with ⟨-, hdue, hlast⟩ | ⟨_, _, fault, -, hfault⟩
  · have hpackets := h.due
    rw [hdue, List.append_nil] at hpackets
    exact ⟨hpackets, hlast⟩
  · rw [ha] at hfault
    cases hfault

/-- **A delivery of cuts** is part of the way, however far it gets. -/
lemma carving_leg (h : p.Ongoing g l) (sink : Sink σ Packet) (s : σ) :
    (carving sink g (l.cuts p.backlog.size) p s).Leg g l (p.due g l) (p.settled l) := by
  refine ⟨h.departedAll _, ?_, ?_, ?_⟩
  · simp only [carving, Sink.map_packet_deliver, Packetizer.take_packets]
    exact Packetizer.packets_append_due g l _ p
  · exact Packetizer.settled_departedAll l _ p
  · rcases sink.deliver_cases (p.packets g (l.cuts p.backlog.size)) s with
      ⟨hr, ho⟩ | ⟨fault, packet, front, hr, ho⟩
    · have hlast : (carving sink g (l.cuts p.backlog.size) p s).packetizer = p.settled l := by
        simp only [carving, ho, List.length_map, Packetizer.length_packets, List.take_length,
          Packetizer.settled]
      exact .inl ⟨⟨_, ho, (), hr⟩, hlast ▸ Packetizer.due_settled g l p, hlast⟩
    · exact .inr ⟨front, packet, fault, ho, hr⟩

/-- A packet that does not wait is all the way, whatever the answer is. -/
lemma offering_leg (h : p.Ongoing g l) (hsize : p.backlog.size < l.min) (packet : Packet)
    (sink : Sink σ Packet) (s : σ) : (offering sink packet p s).Leg g l [packet] p := by
  have hdue : p.due g l = [] := Packetizer.due_eq_nil g hsize
  refine ⟨h, ?_, Packetizer.settled_eq_self hsize, ?_⟩
  · show [packet] ++ p.due g l = [packet]
    rw [hdue, List.append_nil]
  · cases hanswer : (sink.offer packet s).1 with
    | ok u => exact .inl ⟨⟨[packet], by rw [offering, hanswer]; rfl, (), hanswer⟩, hdue, rfl⟩
    | error fault => exact .inr ⟨[], packet, fault, by rw [offering, hanswer]; rfl, hanswer⟩

end Effect

namespace Packetizer

variable {p : Packetizer} {g : Geometry} {l : Lengths} {chunk : Chunk}

/-- **A chunk** sets out for the same packets and the same state with every receiver. -/
lemma handle_leg (hl : p.lengths = .ok l) (hg : p.layout = .ok g) (hgap : chunk.gap = false) :
    ∃ packets last, ∀ {σ : Type} (sink : Sink σ Packet) (s : σ),
      ((handle chunk sink p s).effect).Leg g l packets last := by
  by_cases hpass : p.Passes chunk l
  · let packet := p.packet g chunk.data chunk.stamp
    let last := { p with phase := .active }.emitted chunk.data.length
    have hongoing : last.Ongoing g l := ⟨hg, hl, rfl⟩
    have hsize : last.backlog.size < l.min := hpass.1.symm ▸ l.min_pos
    refine ⟨[packet], last, fun sink s => ?_⟩
    rw [effect_handle_plain hl hgap, effect_accept_through hg hpass]
    exact Effect.offering_leg hongoing hsize packet sink s
  · have hongoing : (p.joined chunk).Ongoing g l := ⟨hg, hl, rfl⟩
    refine ⟨(p.joined chunk).due g l, (p.joined chunk).settled l, fun sink s => ?_⟩
    rw [effect_handle_plain hl hgap, effect_accept_enqueue hg hpass, ← size_joined]
    exact Effect.carving_leg hongoing sink s

/-- Where nothing is refused there is no fault. -/
lemma result_handle_of_accepts {σ : Type} {sink : Sink σ Packet} (hsink : sink.Accepts)
    (hl : p.lengths = .ok l) (hgap : chunk.gap = false) (s : σ) :
    (handle chunk sink p s).result = .ok () := by
  obtain ⟨g, hg, -⟩ := layout_of_lengths hl
  show (handle chunk sink p s).effect.result = .ok ()
  rw [effect_handle_plain hl hgap]
  by_cases hpass : p.Passes chunk l
  · rw [effect_accept_through hg hpass]
    exact hsink _ s
  · rw [effect_accept_enqueue hg hpass, Effect.carving_of_accepts hsink]

/-- **An empty chunk** joins nothing, so it goes on where the slicing has ended. -/
lemma retry_leg {σ : Type} (h : p.Ongoing g l) (sink : Sink σ Packet) (s : σ) :
    ((handle { data := [] } sink p s).effect).Leg g l (p.due g l) (p.settled l) := by
  have hwait : ¬ p.Passes { data := [] } l := fun hpass => hpass.ne_nil rfl
  have hjoined : p.joined { data := [] } = p := by
    obtain ⟨_, _, _, _, _, _, phase⟩ := p
    obtain rfl : phase = .active := h.phase
    rfl
  rw [effect_handle_plain h.lengths rfl, effect_accept_enqueue h.layout hwait, hjoined]
  exact Effect.carving_leg h sink s

end Packetizer

/-! ## Again and again -/

namespace Operation

/-- An empty chunk without a time stamp. -/
def retry : Operation := .handle { data := [] }

variable {sink : Sink σ Packet} {p last : Packetizer} {s : σ} {g : Geometry} {l : Lengths}
  {packets : List Packet} {op : Operation}

lemma perform_retry_leg (h : p.Ongoing g l) (sink : Sink σ Packet) (s : σ) :
    ((retry.perform sink p s).effect).Leg g l (p.due g l) (p.settled l) := by
  rw [retry, effect_perform_handle]
  exact (Packetizer.retry_leg h sink s).give []

/-- In each of the requests the first refusal is the end. -/
lemma ended_of_leg (h : ((op.perform sink p s).effect).Leg g l packets last) (n : Nat) :
    ∀ step ∈ history sink (op :: List.replicate n retry) p s,
      step.outcome.effect.Passed ∨ step.outcome.effect.Stopped := by
  induction n generalizing op p s packets last with
  | zero =>
      intro step hstep
      obtain rfl := List.mem_singleton.mp hstep
      exact h.ended.imp And.left id
  | succ n ih =>
      intro step hstep
      rcases List.mem_cons.mp hstep with rfl | hstep
      · exact h.ended.imp And.left id
      · exact ih (perform_retry_leg h.ongoing sink _) step hstep

/-- **Together** they have offered what there was to offer, as soon as one of them is not refused
anything. -/
lemma packets_of_leg (h : ((op.perform sink p s).effect).Leg g l packets last) {n : Nat}
    {front : List (Step σ)} {step : Step σ}
    (hsteps : history sink (op :: List.replicate n retry) p s = front ++ [step])
    {bytes : List UInt8} (hok : step.outcome.result = .ok bytes) :
    (front ++ [step]).flatMap Step.packets = packets ∧ step.outcome.packetizer = last := by
  induction n generalizing op p s packets last front with
  | zero =>
      rcases front with _ | ⟨first, front⟩
      · obtain rfl : ⟨op, p, s, op.perform sink p s⟩ = step := by simpa [history] using hsteps
        obtain ⟨hpackets, hlast⟩ := h.passed hok
        exact ⟨(List.append_nil _).trans hpackets, hlast⟩
      · simp [history] at hsteps
  | succ n ih =>
      rcases front with _ | ⟨first, front⟩
      · simp [history, List.replicate_succ] at hsteps
      · obtain ⟨hfirst, hrest⟩ := List.cons.inj hsteps
        obtain ⟨hpackets, hlast⟩ := ih (perform_retry_leg h.ongoing sink _) hrest
        refine ⟨?_, hlast.trans h.settled⟩
        rw [List.cons_append, List.flatMap_cons, hpackets, ← hfirst]
        exact h.due

/-- No more of them are refused a packet than there are packets to offer. -/
lemma exists_passed_of_leg (h : ((op.perform sink p s).effect).Leg g l packets last) :
    ∃ n ≤ packets.length, ∃ front step,
      history sink (op :: List.replicate n retry) p s = front ++ [step] ∧
        (∀ earlier ∈ front, earlier.outcome.effect.Stopped) ∧ step.outcome.effect.Passed := by
  induction hlength : packets.length using Nat.strongRecOn
    generalizing op p s packets last with
  | ind m ih =>
      rcases h.ended with ⟨hpassed, -⟩ | hstopped
      · exact ⟨0, Nat.zero_le _, [], _, rfl, by simp, hpassed⟩
      · -- A packet has been offered, so fewer are due.
        have hpos := List.length_pos_iff.mpr hstopped.offers_ne_nil
        have hdue := congrArg List.length h.due
        rw [List.length_append, List.length_map, hlength] at hdue
        obtain ⟨n, hn, front, step, hsteps, hfront, hstep⟩ :=
          ih _ (by omega) (perform_retry_leg h.ongoing sink (op.perform sink p s).sink) rfl
        refine ⟨n + 1, by omega, _ :: front, step, congrArg (List.cons _) hsteps, ?_, hstep⟩
        intro earlier hearlier
        rcases List.mem_cons.mp hearlier with rfl | hearlier
        · exact hstopped
        · exact hfront earlier hearlier

/-- **Slicing goes on where a refusal has ended it.**  A chunk without a gap comes in, and then
empty chunks do.  Each of them ends with the first packet that is refused, and with its fault.  No
more of them fail than the chunk makes packets, and with the first one that does not the receiver
has been offered what a receiver that takes everything is offered with the chunk alone; and the
state is the same. -/
theorem handle_resumes (hl : p.lengths = .ok l) {chunk : Chunk} (hgap : chunk.gap = false)
    {full : Sink τ Packet} (hfull : full.Accepts) (sink : Sink σ Packet) (s : σ) (t : τ) :
    let whole := perform (.handle chunk) full p t
    let steps n := history sink (.handle chunk :: List.replicate n (.handle { data := [] })) p s
    whole.result = .ok [] ∧
      (∀ n, ∀ step ∈ steps n, step.outcome.effect.Passed ∨ step.outcome.effect.Stopped) ∧
      (∃ n ≤ whole.offers.length, ∃ front step, steps n = front ++ [step] ∧
        (∀ earlier ∈ front, earlier.outcome.effect.Stopped) ∧ step.outcome.effect.Passed) ∧
      ∀ n front step bytes, steps n = front ++ [step] → step.outcome.result = .ok bytes →
        (steps n).flatMap Step.packets = whole.offers.map Offer.packet ∧
          step.outcome.packetizer = whole.packetizer := by
  intro whole steps
  obtain ⟨g, hg, -⟩ := Packetizer.layout_of_lengths hl
  obtain ⟨packets, last, hleg⟩ := Packetizer.handle_leg hl hg hgap
  have hchunk : ((perform (.handle chunk) sink p s).effect).Leg g l packets last := by
    rw [effect_perform_handle]
    exact (hleg sink s).give []
  have hwhole : (whole.effect).Leg g l packets last := by
    show ((perform (.handle chunk) full p t).effect).Leg g l packets last
    rw [effect_perform_handle]
    exact (hleg full t).give []
  have hresult : whole.effect.result = .ok [] := by
    show ((perform (.handle chunk) full p t).effect).result = .ok []
    rw [effect_perform_handle, Effect.give]
    exact congrArg (Except.map _) (Packetizer.result_handle_of_accepts hfull hl hgap t)
  obtain ⟨hpackets, hlast⟩ :
      whole.offers.map Offer.packet = packets ∧ whole.packetizer = last := hwhole.passed hresult
  refine ⟨hresult, fun n => ended_of_leg hchunk n, ?_, ?_⟩
  · have hexists := exists_passed_of_leg hchunk
    rwa [← hpackets, List.length_map] at hexists
  · intro n front step bytes hsteps hok
    rw [hsteps, hpackets, hlast]
    exact packets_of_leg hchunk hsteps hok

/-- Three packets are due, and the first one is refused: the empty chunk brings the other two. -/
theorem handle_resumes_reluctant :
    let p := (Packetizer.fresh { mtu := 32 } .silent).withGeometry (.frame 20 20)
    let l : Lengths := ⟨20, 20, 20, by decide, by decide, by decide⟩
    let chunk : Chunk := { data := (List.range 60).map UInt8.ofNat }
    let steps := history Sink.reluctant [.handle chunk, .handle { data := [] }] p 0
    p.lengths = .ok l ∧ (steps.map fun step => step.packets.length) = [1, 2] ∧
      steps.flatMap Step.packets =
        (perform (.handle chunk) Sink.collect p #[]).offers.map Offer.packet := by
  intro p l chunk steps
  have hl : p.lengths = .ok l := by cbv
  have hgap : chunk.gap = false := rfl
  have hcounts : (steps.map fun step => step.packets.length) = [1, 2] := by decide +kernel
  obtain ⟨-, -, -, hsame⟩ :=
    handle_resumes hl hgap Sink.accepts_collect Sink.reluctant 0 #[]
  let first : Step Nat := ⟨.handle chunk, p, 0, perform (.handle chunk) Sink.reluctant p 0⟩
  let second : Step Nat := ⟨retry, first.outcome.packetizer, first.outcome.sink,
    retry.perform Sink.reluctant first.outcome.packetizer first.outcome.sink⟩
  have hpassed : second.outcome.result.toBool = true := by decide +kernel
  cases hok : second.outcome.result with
  | ok bytes => exact ⟨hl, hcounts, (hsame 1 [first] second bytes rfl hok).1⟩
  | error fault =>
      rw [hok] at hpassed
      cases hpassed

end Operation

end CbrAudio
