import CbrAudio.Proofs.Reports

/-!
# A chunk behind a gap

A gap can be signalled on its own or come with the chunk behind it.  It makes no difference.

* `Chunk.plain` — the chunk without its gap.
* **`handle_gap_eq`** — behind a gap a chunk is a break and then the plain chunk, record for record:
  the break has left layout and limits as they were, so all that is asked of the setup has the same
  answer again.
* `effect_handle_plain_nil` — an empty chunk changes nothing but that there has been a chunk.
* **`gap_splits`** — a chunk behind a gap against a signalled gap and the plain chunk, and a
  signalled gap against an empty chunk behind one.
-/

namespace CbrAudio

variable {σ : Type}

/-- The chunk without its gap. -/
def Chunk.plain (chunk : Chunk) : Chunk := { chunk with gap := false }

namespace Packetizer

variable {sink : Sink σ Packet} {g : Geometry} {p : Packetizer} {s : σ} {chunk : Chunk}
  {l : Lengths}

lemma effect_breaking (hg : p.layout = .ok g) :
    (breakOff sink p s).effect = .breaking sink g p s := by
  rw [effect_breakOff, effect_flush_all fun _ => hg, Effect.breaking]

lemma effect_signalled (hg : p.layout = .ok g) :
    (discontinuity sink p s).effect = .breaking sink g p s := by
  rw [discontinuity, Work.effect_log_bind, effect_breaking hg]

/-- A break leaves the layout as it is. -/
lemma layout_breakOff (hg : p.layout = .ok g) : (breakOff sink p s).packetizer.layout = .ok g := by
  have hstate : (breakOff sink p s).packetizer = (Effect.breaking sink g p s).packetizer :=
    congrArg Effect.packetizer (effect_breaking hg)
  rw [hstate]
  exact (layout_departedAll _ p).trans hg

/-- Under a layout a plain chunk goes right on to be taken. -/
lemma handle_plain_eq (hg : p.layout = .ok g) :
    handle chunk.plain sink p s = take chunk sink p s := by
  rw [handle_eq_demand_proceed, hg]
  rfl

/-- **Behind a gap a chunk is a break and then the plain chunk.** -/
lemma handle_gap_eq (hg : p.layout = .ok g) (hgap : chunk.gap = true) :
    handle chunk sink p s =
      (do Work.log .debug "got discontinuity"; breakOff; handle chunk.plain) sink p s := by
  have hrest : (breakOff >>= fun _ => take chunk) sink p s =
      (breakOff >>= fun _ => handle chunk.plain) sink p s := by
    cases hr : (breakOff sink p s).result with
    | error fault => rw [Work.bind_of_error hr, Work.bind_of_error hr]
    | ok u => rw [Work.bind_of_ok hr, Work.bind_of_ok hr, handle_plain_eq (layout_breakOff hg)]
  have hlog (work : Work σ Unit) :
      (do Work.log .debug "got discontinuity"; work) sink p s =
        (work sink p s).after [] (p.logger.log .debug "got discontinuity") := rfl
  have hwhole : handle chunk sink p s =
      (do Work.log .debug "got discontinuity"; breakOff; take chunk) sink p s := by
    rw [handle_eq_demand_proceed, hg, proceed, if_pos hgap, bind_assoc]
    rfl
  rw [hwhole, hlog, hrest, ← hlog]

/-- An empty chunk that finds nothing waiting changes nothing but that there has been a chunk. -/
lemma effect_handle_plain_nil {stamp : Option UInt64} (hl : p.lengths = .ok l)
    (hempty : p.backlog.size = 0) :
    (handle ⟨[], stamp, false⟩ sink p s).effect = .idle () { p with phase := .active } s := by
  obtain ⟨g, hg, -⟩ := layout_of_lengths hl
  have hwait : ¬ p.Passes ⟨[], stamp, false⟩ l := fun hpass => hpass.ne_nil rfl
  have hplan : l.cuts (p.backlog.size + ([] : List UInt8).length) = [] := by
    rw [hempty]
    exact l.cuts_of_lt l.min_pos
  rw [effect_handle_plain hl rfl, effect_accept_enqueue hg hwait, hplan, Effect.carving_nil]
  simp only [joined, Backlog.push, dif_pos]

end Packetizer

open Packetizer in
/-- **A chunk behind a gap** under a proper layout, in any state and whatever the limits and the
receiver are: its result, its packets and the state it leaves are those of a signalled gap and, if
that has not failed, the chunk without its gap.  Even the records are the same but for the first
one, which says how the gap became known.  Where there are legal lengths a signalled gap is in its
turn an empty chunk behind one, except that only a chunk that was taken makes the session active. -/
theorem gap_splits (sink : Sink σ Packet) (p : Packetizer) (s : σ) (g : Geometry)
    (hg : p.layout = .ok g) :
    (∀ chunk : Chunk, chunk.gap = true →
      let whole := handle chunk sink p s
      let parts := (do discontinuity; handle chunk.plain) sink p s
      whole.effect = parts.effect ∧
      ∃ rest, whole.records = p.logger.log .debug "got discontinuity" ++ rest ∧
        parts.records = p.logger.log .debug "discontinuity signalled" ++ rest) ∧
    ∀ stamp l, p.lengths = .ok l →
      let signal := (discontinuity sink p s).effect
      let empty := (handle ⟨[], stamp, true⟩ sink p s).effect
      empty = match signal.result with
        | .ok () => { signal with packetizer := { signal.packetizer with phase := .active } }
        | .error _ => signal := by
  have hsplit (chunk : Chunk) (hgap : chunk.gap = true) :
      (handle chunk sink p s).effect =
        ((do discontinuity; handle chunk.plain : Work σ Unit) sink p s).effect := by
    rw [handle_gap_eq hg hgap, discontinuity, bind_assoc]
    rfl
  refine ⟨fun chunk hgap => ⟨hsplit chunk hgap, ?_⟩, ?_⟩
  · refine ⟨((do breakOff; handle chunk.plain : Work σ Unit) sink p s).records, ?_, ?_⟩
    · rw [handle_gap_eq hg hgap]
      rfl
    · rw [discontinuity, bind_assoc]
      rfl
  · intro stamp l hl signal empty
    have hsignal : signal = .breaking sink g p s := effect_signalled hg
    have hempty : empty =
        ((do discontinuity; handle ⟨[], stamp, false⟩ : Work σ Unit) sink p s).effect :=
      hsplit ⟨[], stamp, true⟩ rfl
    rw [hempty]
    cases hr : signal.result with
    | error fault =>
        have hrefused : signal = ⟨.error fault, signal.packetizer, signal.sink, signal.offers⟩ := by
          rw [← hr]
        rw [Work.effect_bind_of_error hrefused]
        exact hrefused.symm
    | ok u =>
        have htaken : signal = ⟨.ok (), signal.packetizer, signal.sink, signal.offers⟩ := by
          rw [← hr]
        have hlengths : signal.packetizer.lengths = .ok l := by
          rw [hsignal, ← hl]
          exact lengths_eq (departedAll_setup _ p).1 (departedAll_setup _ p).2.1
        have hwaiting : signal.packetizer.backlog.size = 0 := by
          rw [hsignal]
          exact size_carving_remainder g p s
        rw [Work.effect_bind_of_ok htaken, effect_handle_plain_nil hlengths hwaiting]
        simp only [Effect.after, Effect.idle, List.append_nil]

open Operation Packetizer in
/-- Five bytes wait when a chunk of legal length comes in behind a gap.  The first time the bytes are
refused and the chunk is dropped, with the gap still to be marked; the second time nothing waits
any more, and the chunk leaves at once and marks it. -/
theorem gap_splits_twice :
    let chunk : Chunk := { data := List.replicate 20 7, gap := true }
    let ops := [.setFrames 20 20, .handle { data := [1, 2, 3, 4, 5] }]
    let p := (performAll Sink.reluctant ops (fresh { mtu := 32 } .silent) 0).1
    let once := handle chunk Sink.reluctant p 0
    let twice := handle chunk Sink.reluctant once.packetizer once.sink
    once.effect = ((do discontinuity; handle chunk.plain) Sink.reluctant p 0).effect ∧
      once.result = .error (.rejected "busy") ∧ once.packetizer.gap = true ∧
      twice.effect =
        ((do discontinuity; handle chunk.plain) Sink.reluctant once.packetizer once.sink).effect ∧
      twice.result = .ok () ∧ twice.offers.map (fun o => o.packet.marker) = [true] := by
  intro chunk ops p once twice
  have hlayout : p.layout = .ok (.frame 20 20) := by decide +kernel
  have hlater : once.packetizer.layout = .ok (.frame 20 20) := by decide +kernel
  have hfirst := ((gap_splits Sink.reluctant p 0 _ hlayout).1 chunk rfl).1
  have hsecond := ((gap_splits Sink.reluctant once.packetizer once.sink _ hlater).1 chunk rfl).1
  exact ⟨hfirst, by decide +kernel, by decide +kernel, hsecond, by decide +kernel,
    by decide +kernel⟩

end CbrAudio
