import CbrAudio.Proofs.Cuts
import CbrAudio.Proofs.Delivery

/-!
# The arrival of a chunk

A chunk is taken at one point: in front of it the setup may refuse the chunk, or the receiver what
waits in front of a gap; behind it nothing can go wrong but that the receiver refuses a packet.

* `entry` — what a chunk has to get past; **`handle_eq_entry_accept`** splits the arrival there.
* **In front of that point** — `effect_breakOff`, `effect_entry_plain`, `effect_entry_gap`: at most
  one packet leaves, of bytes that waited already, and a fault of the setup changes nothing else.
* **Behind it** — `effect_accept_through`, `effect_accept_enqueue`: one packet or a delivery of
  cuts.
* **Both together** — `effect_handle_plain`, and behind a gap `effect_handle_gap_of_ok` and
  `effect_handle_gap_of_error`, by what has come of the break (`Effect.breaking`).
-/

namespace CbrAudio

variable {σ : Type}

namespace Effect

/-- The same effect, and a gap that the next packet will mark. -/
def marked {α : Type} (e : Effect σ α) : Effect σ α :=
  { e with packetizer := { e.packetizer with gap := true } }

/-- **A break**: everything that waits leaves in one packet, and the next one will be marked. -/
def breaking (sink : Sink σ Packet) (g : Geometry) (p : Packetizer) (s : σ) : Effect σ Unit :=
  (carving sink g p.remainder p s).marked

end Effect

namespace Packetizer

variable {sink : Sink σ Packet} {g : Geometry} {p : Packetizer} {s : σ} {chunk : Chunk}
  {l : Lengths}

/-- What a chunk has to get past before it is taken: a layout, the flush of what waits in front of
a gap, and legal lengths. -/
def entry (chunk : Chunk) : Work σ Lengths := do
  let p ← Work.current
  let _ ← demand chunk p.layout
  if chunk.gap then
    Work.log .debug "got discontinuity"
    breakOff
  let p ← Work.current
  demand chunk p.lengths

/-- **A chunk that is not held up is taken.** -/
lemma handle_eq_entry_accept (chunk : Chunk) :
    (handle chunk : Work σ Unit) = entry chunk >>= accept chunk := by
  simp only [handle, entry, bind_assoc]
  congr 1
  funext p
  congr 1
  funext g
  split <;> simp only [bind_assoc]

/-- Where there are legal lengths there is a proper layout they belong to. -/
lemma layout_of_lengths (h : p.lengths = .ok l) :
    ∃ g, p.layout = .ok g ∧ g.lengths p.limits = .ok l := by
  simp only [lengths] at h
  cases hg : p.layout with
  | error why => simp [hg] at h
  | ok g => exact ⟨g, rfl, by simpa [hg] using h⟩

/-! ## In front of that point -/

/-- The flush in front of a gap, and the mark whatever has come of it. -/
lemma effect_breakOff :
    (breakOff sink p s).effect = ((flush .all none sink p s).effect).marked := by
  rw [breakOff, Work.effect_bind_of_ok (Work.effect_attempt (flush .all none)),
    Work.effect_update_bind, Work.effect_ofExcept]
  simp only [Effect.after, List.append_nil]
  rfl

lemma effect_demand {α : Type} (result : Except SetupFault α) :
    (demand chunk result sink p s).effect = ⟨result.mapError .setup, p, s, []⟩ := by
  cases result with
  | ok a => rfl
  | error why => rw [demand, Work.effect_log_bind, Work.effect_fail]; rfl

/-- Without a proper layout a chunk is dropped. -/
lemma effect_entry_of_error {why : SetupFault} (h : p.layout = .error why) :
    (entry chunk sink p s).effect = .failed (.setup why) p s := by
  rw [entry, Work.effect_current_bind, h]
  rw [Work.effect_bind_of_error (effect_demand (.error why))]
  rfl

/-- A chunk without a gap is held up by the setup alone. -/
lemma effect_entry_plain (hg : p.layout = .ok g) (hgap : chunk.gap = false) :
    (entry chunk sink p s).effect = ⟨p.lengths.mapError .setup, p, s, []⟩ := by
  rw [entry, Work.effect_current_bind, hg]
  rw [Work.effect_bind_of_ok (effect_demand (.ok g)), Effect.after_nil]
  simp only [hgap, Bool.false_eq_true, if_false]
  rw [Work.effect_current_bind, effect_demand]

/-- The legal lengths hang on layout and limits alone. -/
lemma lengths_eq {q : Packetizer} (hgeo : q.geometry = p.geometry) (hlim : q.limits = p.limits) :
    q.lengths = p.lengths := by
  simp only [lengths, layout, hgeo, hlim]

/-- **A chunk behind a gap** waits until what is in front of it has left in one packet.  The gap is
marked even if that packet was refused, or if there are no legal lengths for the chunk. -/
lemma effect_entry_gap (hg : p.layout = .ok g) (hgap : chunk.gap = true) :
    (entry chunk sink p s).effect =
      ⟨(Effect.breaking sink g p s).result >>= fun _ => p.lengths.mapError .setup,
        (Effect.breaking sink g p s).packetizer, (Effect.breaking sink g p s).sink,
        (Effect.breaking sink g p s).offers⟩ := by
  have hbreak : (breakOff sink p s).effect = .breaking sink g p s := by
    rw [effect_breakOff, effect_flush_all fun _ => hg, Effect.breaking]
  have hsame : (Effect.breaking sink g p s).packetizer.lengths = p.lengths :=
    lengths_eq (departedAll_setup _ p).1 (departedAll_setup _ p).2.1
  rw [entry, Work.effect_current_bind, hg]
  rw [Work.effect_bind_of_ok (effect_demand (.ok g)), Effect.after_nil]
  simp only [hgap, if_true, Work.effect_log_bind]
  cases hr : (Effect.breaking sink g p s).result with
  | error fault =>
      rw [Effect.eta (.breaking sink g p s), hr] at hbreak
      rw [Work.effect_bind_of_error hbreak]
      rfl
  | ok u =>
      rw [Effect.eta (.breaking sink g p s), hr] at hbreak
      rw [Work.effect_bind_of_ok hbreak, Work.effect_current_bind, effect_demand, hsame]
      simp only [Effect.after, List.append_nil]
      rfl

/-! ## Behind it -/

/-- The state when a chunk has joined the waiting bytes. -/
def joined (chunk : Chunk) (p : Packetizer) : Packetizer :=
  { p with phase := .active, backlog := p.backlog.push chunk.data chunk.stamp }

/-- A chunk of legal length that finds nothing waiting leaves as it is. -/
def Passes (chunk : Chunk) (l : Lengths) (p : Packetizer) : Prop :=
  p.backlog.size = 0 ∧ l.min ≤ chunk.data.length ∧ chunk.data.length ≤ l.max

/-- No empty chunk does. -/
lemma Passes.ne_nil (h : p.Passes chunk l) : chunk.data ≠ [] := by
  intro hnil
  have hmin := h.2.1
  rw [hnil, List.length_nil] at hmin
  exact absurd hmin (Nat.not_le.mpr l.min_pos)

lemma size_joined (chunk : Chunk) (p : Packetizer) :
    (p.joined chunk).backlog.size = p.backlog.size + chunk.data.length := by
  rw [joined, Backlog.size_eq_length, Backlog.contents_push, List.length_append,
    ← Backlog.size_eq_length]

lemma contents_joined (chunk : Chunk) (p : Packetizer) :
    (p.joined chunk).backlog.contents = p.backlog.contents ++ chunk.data :=
  Backlog.contents_push chunk.data chunk.stamp p.backlog

/-- The plan for a chunk that joins promises no byte twice. -/
lemma sum_cuts_joined_le (chunk : Chunk) (l : Lengths) (p : Packetizer) :
    (l.cuts (p.backlog.size + chunk.data.length)).sum ≤ (p.joined chunk).backlog.size := by
  rw [size_joined]
  exact l.sum_cuts_le _

lemma effect_accept_through (hg : p.layout = .ok g) (h : p.Passes chunk l) :
    (accept chunk l sink p s).effect =
      .offering sink (p.packet g chunk.data chunk.stamp)
        ({ p with phase := .active }.emitted chunk.data.length) s := by
  have hpass : p.backlog.size = 0 ∧ l.min ≤ chunk.data.length ∧ chunk.data.length ≤ l.max := h
  rw [accept, Work.effect_update_bind, Work.effect_current_bind, Work.effect_log_bind,
    if_pos hpass, passThrough, Work.effect_log_bind]
  exact effect_push (p := { p with phase := .active }) hg chunk.data chunk.stamp

/-- A chunk joins the waiting bytes, and they are cut as planned. -/
lemma effect_enqueue (hg : p.layout = .ok g) (chunk : Chunk) (l : Lengths) :
    (enqueue chunk l sink { p with phase := .active } s).effect =
      .carving sink g (l.cuts (p.backlog.size + chunk.data.length)) (p.joined chunk) s := by
  rw [enqueue, Work.effect_update_bind, Work.effect_current_bind]
  rw [Work.effect_bind_idle fun q t => by rw [Work.effect_current_bind, Work.effect_log]]
  show (carve (l.cuts (p.joined chunk).backlog.size) sink (p.joined chunk) s).effect = _
  have hjoined : (p.joined chunk).layout = .ok g := hg
  rw [effect_carve hjoined (l.pos_of_mem_cuts _) (l.sum_cuts_le _), size_joined]

/-- **All other chunks wait**, and the waiting bytes are cut as planned. -/
lemma effect_accept_enqueue (hg : p.layout = .ok g) (h : ¬ p.Passes chunk l) :
    (accept chunk l sink p s).effect =
      .carving sink g (l.cuts (p.backlog.size + chunk.data.length)) (p.joined chunk) s := by
  have hwait : ¬ (p.backlog.size = 0 ∧ l.min ≤ chunk.data.length ∧ chunk.data.length ≤ l.max) := h
  rw [accept, Work.effect_update_bind, Work.effect_current_bind, Work.effect_log_bind,
    if_neg hwait]
  exact effect_enqueue hg chunk l

/-- A chunk without a gap is taken as soon as there are legal lengths. -/
lemma effect_handle_plain (hl : p.lengths = .ok l) (hgap : chunk.gap = false) :
    (handle chunk sink p s).effect = (accept chunk l sink p s).effect := by
  obtain ⟨g, hg, -⟩ := layout_of_lengths hl
  have hentry : (entry chunk sink p s).effect = ⟨.ok l, p, s, []⟩ := by
    rw [effect_entry_plain hg hgap, hl]
    rfl
  rw [handle_eq_entry_accept, Work.effect_bind_of_ok hentry, Effect.after_nil]

/-- A chunk behind a gap is taken once what waited in front of it has left. -/
lemma effect_handle_gap_of_ok (hl : p.lengths = .ok l) (hg : p.layout = .ok g)
    (hgap : chunk.gap = true) (hr : (Effect.breaking sink g p s).result = .ok ()) :
    (handle chunk sink p s).effect =
      ((accept chunk l sink (Effect.breaking sink g p s).packetizer
          (Effect.breaking sink g p s).sink).effect).after (Effect.breaking sink g p s).offers := by
  have hentry : (entry chunk sink p s).effect = _ := effect_entry_gap hg hgap
  rw [hr, hl] at hentry
  rw [handle_eq_entry_accept, Work.effect_bind_of_ok hentry]

/-- Where that packet is refused the chunk is not taken. -/
lemma effect_handle_gap_of_error {fault : Fault} (hg : p.layout = .ok g) (hgap : chunk.gap = true)
    (hr : (Effect.breaking sink g p s).result = .error fault) :
    (handle chunk sink p s).effect =
      ⟨.error fault, (Effect.breaking sink g p s).packetizer, (Effect.breaking sink g p s).sink,
        (Effect.breaking sink g p s).offers⟩ := by
  have hentry : (entry chunk sink p s).effect = _ := effect_entry_gap hg hgap
  rw [hr] at hentry
  rw [handle_eq_entry_accept, Work.effect_bind_of_error hentry]

end Packetizer

end CbrAudio
