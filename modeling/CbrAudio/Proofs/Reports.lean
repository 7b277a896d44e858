import CbrAudio.Proofs.Atomicity
import CbrAudio.Proofs.Bounds
import CbrAudio.Proofs.Dialogue

/-!
# What a log says

A packetizer tells its logger what it does, and is not answered.  So the logger cannot matter to
anything but the records; the records that a logger keeps are those that a more detailed one would
keep, less the ones that are not severe enough; and the most severe ones can be counted.

* **Nobody answers** — `Dialogue.run_effect`, `Dialogue.run_records`, and over a run
  `Operation.map_history_congr`: what holds of every request under two loggers holds of every step.
* `refusals` — the faults of the receiver.  `Effect.raised?` — the fault of the setup that the
  packetizer has found itself.
* `Outcome.Reports` — **what a log has to say**: a warning for every refusal and an error for every
  complaint.  `Work.Quiet` — work that warns and has nothing to complain about, function by
  function.
* `Outcome.Candid` — work that complains exactly if it has found a fault itself.  Only a layout
  (`candid_setGeometry`) and a chunk (`candid_handle`) can give reason to.
* **`logger_only_records`** — all of it, for every run.
-/

namespace CbrAudio

variable {σ α β : Type}

/-! ## Loggers -/

namespace Log

/-- The records of one level. -/
def ofLevel (level : Level) (records : List Record) : List Record :=
  records.filter fun record => record.level = level

lemma ofLevel_append (level : Level) (records records' : List Record) :
    ofLevel level (records ++ records') = ofLevel level records ++ ofLevel level records' :=
  List.filter_append ..

namespace Logger

variable {logger : Logger} {level other : Level}

/-- The logger with the same outputs that finds nothing too trivial. -/
def detailed (logger : Logger) : Logger := { logger with level := .trace }

/-- Whether a record is severe enough for a logger. -/
def keeps (logger : Logger) (record : Record) : Bool :=
  logger.level.severity ≤ record.level.severity

/-- The record that a message makes. -/
def record (logger : Logger) (level : Level) (message : String) : Record :=
  ⟨level, logger.component, message⟩

/-- **Less detail is fewer records**, and they are the same ones. -/
lemma log_eq_filter (logger : Logger) (level : Level) (message : String) :
    logger.log level message = (logger.detailed.log level message).filter logger.keeps := by
  have hdetailed : logger.detailed.enabled level = (logger.toConsole || logger.toFile) := by
    simp [enabled, detailed, Level.severity]
  rw [log, log, hdetailed, enabled]
  cases logger.toConsole || logger.toFile with
  | false => simp
  | true =>
      by_cases hkept : logger.level.severity ≤ level.severity
      · simp [hkept, keeps, detailed]
      · simp [hkept, keeps]

lemma log_of_enabled (h : logger.enabled level = true) (message : String) :
    logger.log level message = [logger.record level message] := if_pos h

/-- Nothing is more severe than an error. -/
lemma enabled_error (h : logger.enabled level = true) : logger.enabled .error = true := by
  simp only [enabled, Bool.and_eq_true] at h ⊢
  refine ⟨?_, h.2⟩
  cases logger.level <;> decide

lemma ofLevel_log (h : other ≠ level) (message : String) :
    ofLevel level (logger.log other message) = [] := by
  rw [log]
  split
  · simp [ofLevel, h]
  · rfl

lemma ofLevel_record (logger : Logger) (level : Level) (message : String) :
    ofLevel level [logger.record level message] = [logger.record level message] := by
  simp [ofLevel, record]

end Logger

end Log

/-! ## Nobody answers -/

lemma Outcome.effect_after (offers : List Offer) (records : List Log.Record) (o : Outcome σ α) :
    (o.after offers records).effect = o.effect.after offers := rfl

/-- The same effect, with another logger in the state. -/
def Effect.withLogger (logger : Log.Logger) (e : Effect σ α) : Effect σ α :=
  { e with packetizer := e.packetizer.withLogger logger }

namespace Dialogue

variable (sink : Sink σ Packet) (logger other : Log.Logger)

/-- **The logger is in the state**, and nothing else depends on it. -/
lemma run_effect (d : Dialogue α) (s : σ) :
    (d.run sink logger s).effect = ((d.run sink other s).effect).withLogger logger := by
  induction d generalizing s with
  | done result state => rfl
  | offer packet next ih =>
      rw [run, run, Outcome.effect_after, Outcome.effect_after, ih]
      rfl
  | say level message next ih =>
      rw [run, run, Outcome.effect_after, Outcome.effect_after, ih]
      rfl

/-- **What a logger keeps** it would keep of a more detailed log. -/
lemma run_records (d : Dialogue α) (s : σ) :
    (d.run sink logger s).records =
      (d.run sink logger.detailed s).records.filter logger.keeps := by
  induction d generalizing s with
  | done result state => rfl
  | offer packet next ih => exact ih _ _
  | say level message next ih =>
      show logger.log level message ++ (run sink logger next s).records = _
      rw [logger.log_eq_filter, ih, ← List.filter_append]
      rfl

end Dialogue

namespace Step

/-- What has come of a request, but for the records. -/
def effect (step : Step σ) : Effect σ (List UInt8) := step.outcome.effect

def records (step : Step σ) : List Log.Record := step.outcome.records

end Step

namespace Operation

variable {sink : Sink σ Packet} (logger other : Log.Logger)

lemma perform_eq_run (op : Operation) (p : Packetizer) :
    ∃ d : Dialogue (List UInt8), ∀ (sink : Sink σ Packet) (logger : Log.Logger) (s : σ),
      op.perform sink (p.withLogger logger) s = d.run sink logger s := by
  obtain ⟨d, hd⟩ := op.perform_told p
  exact ⟨d, fun sink logger s => hd σ sink logger s⟩

lemma perform_effect (op : Operation) (p : Packetizer) (s : σ) :
    (op.perform sink (p.withLogger logger) s).effect =
      ((op.perform sink (p.withLogger other) s).effect).withLogger logger := by
  obtain ⟨d, hd⟩ := op.perform_eq_run p
  rw [hd, hd]
  exact d.run_effect sink logger other s

lemma perform_records (op : Operation) (p : Packetizer) (s : σ) :
    (op.perform sink (p.withLogger logger) s).records =
      (op.perform sink (p.withLogger logger.detailed) s).records.filter logger.keeps := by
  obtain ⟨d, hd⟩ := op.perform_eq_run p
  rw [hd, hd]
  exact d.run_records sink logger s

/-- **One run under two loggers.**  The states differ in the logger all the way, so what is the same
for single requests is the same step by step. -/
lemma map_history_congr {γ : Type} {f g : Step σ → γ}
    (h : ∀ (op : Operation) (p : Packetizer) (s : σ),
      f ⟨op, p.withLogger logger, s, op.perform sink (p.withLogger logger) s⟩ =
        g ⟨op, p.withLogger other, s, op.perform sink (p.withLogger other) s⟩)
    (ops : List Operation) (p : Packetizer) (s : σ) :
    (history sink ops (p.withLogger logger) s).map f =
      (history sink ops (p.withLogger other) s).map g := by
  induction ops generalizing p s with
  | nil => rfl
  | cons op ops ih =>
      have hsame : (op.perform sink (p.withLogger logger) s).effect = _ :=
        perform_effect logger other op p s
      have hown : (op.perform sink (p.withLogger other) s).effect = _ :=
        perform_effect other other op p s
      have hsink : (op.perform sink (p.withLogger logger) s).sink =
          (op.perform sink (p.withLogger other) s).sink := congrArg Effect.sink hsame
      have hstate : (op.perform sink (p.withLogger logger) s).packetizer =
          (op.perform sink (p.withLogger other) s).packetizer.withLogger logger :=
        congrArg Effect.packetizer hsame
      have hother : (op.perform sink (p.withLogger other) s).packetizer =
          (op.perform sink (p.withLogger other) s).packetizer.withLogger other :=
        congrArg Effect.packetizer hown
      rw [history, history, List.map_cons, List.map_cons, h, hsink, hstate, ih, ← hother]

end Operation

/-! ## Faults by their origin -/

/-- The fault with which a packet was refused. -/
def Offer.refusal? (offer : Offer) : Option Fault :=
  match offer.answer with
  | .ok _ => none
  | .error fault => some fault

/-- **The faults of the receiver**, the first one first. -/
def refusals (offers : List Offer) : List Fault := offers.filterMap Offer.refusal?

lemma refusals_append (offers offers' : List Offer) :
    refusals (offers ++ offers') = refusals offers ++ refusals offers' :=
  List.filterMap_append ..

lemma mem_refusals {offers : List Offer} {fault : Fault} :
    fault ∈ refusals offers ↔ ∃ offer ∈ offers, offer.answer = .error fault := by
  rw [refusals, List.mem_filterMap]
  refine exists_congr fun offer => and_congr_right fun _ => ?_
  rw [Offer.refusal?]
  cases offer.answer <;> simp

lemma refusals_map_taken (packets : List Packet) : refusals (packets.map Offer.taken) = [] := by
  simp [refusals, Offer.refusal?, Offer.taken]

namespace Effect

variable {e : Effect σ α} {fault : Fault} {why : SetupFault}

lemma ownFault_iff : e.OwnFault fault ↔ e.result = .error fault ∧ fault ∉ refusals e.offers := by
  rw [OwnFault, mem_refusals]
  push Not
  rfl

/-- **The fault of the setup** that the packetizer has found itself. -/
def raised? (e : Effect σ α) : Option SetupFault :=
  match e.result with
  | .error (.setup why) => if .setup why ∈ refusals e.offers then none else some why
  | _ => none

lemma raised?_eq_some_iff : e.raised? = some why ↔ e.OwnFault (.setup why) := by
  rw [ownFault_iff, raised?]
  split
  · next other hr =>
    by_cases hsame : other = why
    · rw [hr, hsame]
      simp
    · simp [hr, hsame]
  · next hr => exact ⟨fun h => (by cases h), fun h => absurd h.1 (hr why)⟩

/-- Where nothing was offered nobody else has said anything. -/
lemma ownFault_failed (fault : Fault) (p : Packetizer) (s : σ) :
    (failed fault p s : Effect σ α).OwnFault fault := ⟨rfl, by simp [failed]⟩

lemma OwnFault.after_taken {offers : List Offer} (h : e.OwnFault fault)
    (hoffers : refusals offers = []) : (e.after offers).OwnFault fault := by
  rw [ownFault_iff] at h ⊢
  rw [after_offers, refusals_append, hoffers]
  exact h

lemma Blameless.after (h : e.Blameless) (offers : List Offer) : (e.after offers).Blameless :=
  fun fault hfault => h fault hfault.of_after

/-- Where a break has gone through every packet of it was taken. -/
lemma refusals_breaking {sink : Sink σ Packet} {g : Geometry} {p : Packetizer} {s : σ}
    (h : (breaking sink g p s).result = .ok ()) :
    refusals (breaking sink g p s).offers = [] := by
  have hresult : (sink.deliver (p.packets g p.remainder) s).result = .ok () := h
  show refusals (sink.deliver (p.packets g p.remainder) s).offers = []
  rcases sink.deliver_cases (p.packets g p.remainder) s with ⟨-, ho⟩ | ⟨_, _, _, hr, -⟩
  · rw [ho]
    exact refusals_map_taken _
  · rw [hresult] at hr
    cases hr

end Effect

/-! ## What a log has to say -/

/-- How a refusal is logged. -/
def warning (fault : Fault) : String := "sink rejected packet: " ++ fault.message

/-- **What a log has to say** about an outcome: a warning for every refusal, and every complaint as
an error. -/
structure Outcome.Reports (logger : Log.Logger) (complaints : List String) (o : Outcome σ α) :
    Prop where
  same : o.packetizer.logger = logger
  warnings : Log.ofLevel .warn o.records =
    (refusals o.offers).map fun fault => logger.record .warn (warning fault)
  errors : Log.ofLevel .error o.records = complaints.map (logger.record .error)

/-- **Work that has nothing to complain about**, but warns of every refusal. -/
def Work.Quiet (work : Work σ α) : Prop :=
  ∀ sink p s, p.logger.enabled .warn = true → (work sink p s).Reports p.logger []

namespace Work

open Outcome (Reports)

variable {sink : Sink σ Packet} {p : Packetizer} {s : σ} {logger : Log.Logger}
  {complaints complaints' : List String}

lemma Quiet.reports {work : Work σ α} (h : work.Quiet) (hwarn : logger.enabled .warn = true)
    (hp : p.logger = logger) (sink : Sink σ Packet) (s : σ) :
    (work sink p s).Reports logger [] := by
  subst hp
  exact h sink p s hwarn

section Bind

variable {first : Work σ α} {next : α → Work σ β}

lemma reports_bind_of_error {fault : Fault} (h : (first sink p s).Reports logger complaints)
    (hr : (first sink p s).result = .error fault) (next : α → Work σ β) :
    ((first >>= next) sink p s).Reports logger complaints := by
  rw [bind_of_error hr]
  exact ⟨h.same, h.warnings, h.errors⟩

/-- **One thing after the other**: so are the reports. -/
lemma reports_bind_of_ok {a : α} (h : (first sink p s).Reports logger complaints)
    (hr : (first sink p s).result = .ok a)
    (hnext : (next a sink (first sink p s).packetizer (first sink p s).sink).Reports logger
      complaints') :
    ((first >>= next) sink p s).Reports logger (complaints ++ complaints') := by
  rw [bind_of_ok hr]
  refine ⟨hnext.same, ?_, ?_⟩
  · simp only [Outcome.after, Log.ofLevel_append, refusals_append, List.map_append, h.warnings,
      hnext.warnings]
  · simp only [Outcome.after, Log.ofLevel_append, List.map_append, h.errors, hnext.errors]

lemma Quiet.bind (h : first.Quiet) (hnext : ∀ a, (next a).Quiet) : (first >>= next).Quiet := by
  intro sink p s hwarn
  have hfirst := h sink p s hwarn
  cases hr : (first sink p s).result with
  | error fault => exact reports_bind_of_error hfirst hr next
  | ok a => exact reports_bind_of_ok hfirst hr ((hnext a).reports hwarn hfirst.same _ _)

end Bind

lemma quiet_ofExcept (result : Except Fault α) : (ofExcept result : Work σ α).Quiet :=
  fun _ _ _ _ => ⟨rfl, rfl, rfl⟩

lemma quiet_pure (a : α) : (pure a : Work σ α).Quiet := quiet_ofExcept (.ok a)

lemma quiet_update {f : Packetizer → Packetizer} (h : ∀ p, (f p).logger = p.logger) :
    (update f : Work σ Unit).Quiet :=
  fun _ p _ _ => ⟨h p, rfl, rfl⟩

lemma quiet_log {level : Log.Level} (h : level.severity < Log.Level.warn.severity)
    (message : String) : (log level message : Work σ Unit).Quiet := by
  have hwarn : level ≠ .warn := fun hlevel => by simp [hlevel] at h
  have herror : level ≠ .error := fun hlevel => by simp [hlevel, Log.Level.severity] at h
  exact fun _ p _ _ =>
    ⟨rfl, p.logger.ofLevel_log hwarn message, p.logger.ofLevel_log herror message⟩

lemma quiet_current : (current : Work σ Packetizer).Quiet := fun _ _ _ _ => ⟨rfl, rfl, rfl⟩

lemma quiet_current_bind {next : Packetizer → Work σ α} (h : ∀ p, (next p).Quiet) :
    (current >>= next).Quiet :=
  quiet_current.bind h

lemma quiet_update_bind {f : Packetizer → Packetizer} {next : Unit → Work σ α}
    (hf : ∀ p, (f p).logger = p.logger) (h : ∀ u, (next u).Quiet) :
    (update f >>= next).Quiet :=
  (quiet_update hf).bind h

lemma quiet_log_bind {level : Log.Level} {message : String} {next : Unit → Work σ α}
    (hlevel : level.severity < Log.Level.warn.severity) (h : ∀ u, (next u).Quiet) :
    (log level message >>= next).Quiet :=
  (quiet_log hlevel message).bind h

lemma Quiet.attempt {work : Work σ α} (h : work.Quiet) : work.attempt.Quiet := by
  intro sink p s hwarn
  obtain ⟨hsame, hwarnings, herrors⟩ := h sink p s hwarn
  exact ⟨hsame, hwarnings, herrors⟩

lemma Quiet.ite {condition : Prop} [Decidable condition] {work work' : Work σ α} (h : work.Quiet)
    (h' : work'.Quiet) : (if condition then work else work').Quiet := by
  split
  · exact h
  · exact h'

/-- A message that is an error is the complaint. -/
lemma reports_complain (h : p.logger.enabled .warn = true) (message : String) (fault : Fault) :
    ((log .error message >>= fun _ => (fail fault : Work σ α)) sink p s).Reports p.logger
      [message] := by
  have herror := p.logger.log_of_enabled (Log.Logger.enabled_error h) message
  have hlog : ((log .error message : Work σ Unit) sink p s).Reports p.logger [message] :=
    ⟨rfl, p.logger.ofLevel_log (by decide) message,
      (congrArg _ herror).trans (p.logger.ofLevel_record .error message)⟩
  exact reports_bind_of_ok hlog rfl (quiet_ofExcept (.error fault) sink p s h)

end Work

/-! ## Work that has nothing to complain about -/

namespace Packetizer

open Work

/-- **Where packets leave** refusals are warned of. -/
lemma quiet_deliver (packet : Packet) : (deliver packet : Work σ Unit).Quiet := by
  intro sink p s hwarn
  have hoffer : ((offer packet : Work σ Unit).attempt sink p s).result =
      .ok (sink.offer packet s).1 := rfl
  rw [deliver, bind_of_ok hoffer]
  cases hanswer : (sink.offer packet s).1 with
  | ok u =>
      refine ⟨rfl, ?_, rfl⟩
      show [] = (refusals [⟨packet, (sink.offer packet s).1⟩]).map _
      rw [hanswer]
      rfl
  | error fault =>
      have hlog : p.logger.log .warn (warning fault) = [p.logger.record .warn (warning fault)] :=
        p.logger.log_of_enabled hwarn (warning fault)
      refine ⟨rfl, ?_, ?_⟩
      · show Log.ofLevel .warn (p.logger.log .warn (warning fault) ++ []) =
          (refusals [⟨packet, (sink.offer packet s).1⟩]).map _
        rw [hanswer, List.append_nil, hlog]
        exact p.logger.ofLevel_record .warn (warning fault)
      · show Log.ofLevel .error (p.logger.log .warn (warning fault) ++ []) = []
        rw [List.append_nil]
        exact p.logger.ofLevel_log (by decide) (warning fault)

lemma quiet_push (payload : List UInt8) (stamp : Option UInt64) :
    (push payload stamp : Work σ Unit).Quiet := by
  refine quiet_current_bind fun p => (quiet_ofExcept _).bind fun g => ?_
  have hsend : (do
      Work.update fun p => { p with gap := false, sent := p.sent + payload.length }
      Work.log .trace ("pushing " ++ toString payload.length ++ " bytes ts " ++ stampText stamp
        ++ " rtp offset " ++ toString (p.packet g payload stamp).offset.toNat)
      deliver (p.packet g payload stamp) : Work σ Unit).Quiet :=
    quiet_update_bind (fun _ => rfl) fun _ => quiet_log_bind (by decide) fun _ => quiet_deliver _
  exact .ite (quiet_log_bind (by decide) fun _ => hsend) hsend

lemma quiet_headStamp : (headStamp : Work σ (Option UInt64)).Quiet := by
  refine quiet_current_bind fun p => quiet_log_bind (by decide) fun _ => ?_
  cases p.backlog.anchor.stamp with
  | none => exact quiet_pure none
  | some t => exact .ite (quiet_pure _) ((quiet_ofExcept _).bind fun g => quiet_pure _)

lemma quiet_stampOr (stamp : Option UInt64) : (stampOr stamp : Work σ (Option UInt64)).Quiet := by
  cases stamp with
  | none => exact quiet_headStamp
  | some t => exact quiet_pure _

lemma quiet_flush (which : Portion) (stamp : Option UInt64) :
    (flush which stamp : Work σ Unit).Quiet := by
  refine quiet_current_bind fun p => .ite (quiet_pure ()) ?_
  refine (quiet_stampOr stamp).bind fun stamp => ?_
  exact quiet_update_bind (fun _ => rfl) fun _ => quiet_push _ stamp

lemma quiet_breakOff : (breakOff : Work σ Unit).Quiet := by
  refine (quiet_flush .all none).attempt.bind fun flushed => ?_
  exact quiet_update_bind (fun _ => rfl) fun _ => quiet_ofExcept flushed

lemma quiet_carve (plan : List Nat) : (carve plan : Work σ Unit).Quiet := by
  induction plan with
  | nil => exact quiet_pure ()
  | cons n plan ih => exact (quiet_flush (.upTo n) none).bind fun _ => ih

lemma quiet_enqueue (chunk : Chunk) (l : Lengths) : (enqueue chunk l : Work σ Unit).Quiet := by
  refine quiet_update_bind (fun _ => rfl) fun _ => quiet_current_bind fun p => ?_
  refine (quiet_carve _).bind fun _ => quiet_current_bind fun left => ?_
  exact quiet_log (by decide) _

lemma quiet_accept (chunk : Chunk) (l : Lengths) : (accept chunk l : Work σ Unit).Quiet := by
  refine quiet_update_bind (fun _ => rfl) fun _ => quiet_current_bind fun p => ?_
  refine quiet_log_bind (by decide) fun _ => .ite ?_ (quiet_enqueue chunk l)
  exact quiet_log_bind (by decide) fun _ => quiet_push _ _

lemma quiet_discontinuity : (discontinuity : Work σ Unit).Quiet :=
  quiet_log_bind (by decide) fun _ => quiet_breakOff

lemma quiet_endOfStream : (endOfStream : Work σ Unit).Quiet :=
  quiet_current_bind fun _ => quiet_log_bind (by decide) fun _ => quiet_flush _ _

lemma quiet_clear : (clear : Work σ Unit).Quiet := quiet_update fun _ => rfl

lemma quiet_drain : (drain : Work σ (List UInt8)).Quiet :=
  quiet_current_bind fun _ => quiet_update_bind (fun _ => rfl) fun _ => quiet_pure _

lemma quiet_reset : (reset : Work σ Unit).Quiet :=
  quiet_update_bind (fun _ => rfl) fun _ => quiet_log (by decide) _

end Packetizer

/-! ## Work that complains -/

/-- How it is logged that a chunk is dropped. -/
def Chunk.dropped (chunk : Chunk) (why : SetupFault) : String :=
  "dropping " ++ toString chunk.data.length ++ "-byte chunk: " ++ why.message

/-- **A complaint for every fault of its own**: there is one complaint if work has found the setup
at fault, and otherwise there is none, because whatever has gone wrong the receiver has said. -/
def Outcome.Candid (logger : Log.Logger) (complaint : SetupFault → String) (o : Outcome σ α) :
    Prop :=
  (∃ why, o.effect.OwnFault (.setup why) ∧ o.Reports logger [complaint why]) ∨
    (o.effect.Blameless ∧ o.Reports logger [])

namespace Packetizer

open Work

variable {sink : Sink σ Packet} {p : Packetizer} {s : σ} {complaint : SetupFault → String}

/-- In front of candid work nothing may go wrong that nobody has said. -/
lemma candid_bind {first : Work σ Unit} {next : Unit → Work σ α} (hquiet : first.Quiet)
    (hwarn : p.logger.enabled .warn = true)
    (htaken : (first sink p s).result = .ok () → refusals (first sink p s).offers = [])
    (hblame : ((first sink p s).effect).Blameless)
    (hnext : ∀ (q : Packetizer) (t : σ), q.logger.enabled .warn = true →
      (next () sink q t).Candid q.logger complaint) :
    ((first >>= next) sink p s).Candid p.logger complaint := by
  have hfirst := hquiet sink p s hwarn
  cases hr : (first sink p s).result with
  | error fault =>
      refine .inr ⟨?_, reports_bind_of_error hfirst hr next⟩
      rw [bind_of_error hr]
      intro other hown
      obtain rfl : fault = other := Except.error.inj hown.1
      exact hblame fault ⟨hr, hown.2⟩
  | ok u =>
      have heffect : ((first >>= next) sink p s).effect = _ := congrArg _ (bind_of_ok hr next)
      rw [Outcome.effect_after] at heffect
      have hsecond := hnext (first sink p s).packetizer (first sink p s).sink
        (hfirst.same.symm ▸ hwarn)
      rw [hfirst.same] at hsecond
      rcases hsecond with ⟨why, hown, hreports⟩ | ⟨hnone, hreports⟩
      · refine .inl ⟨why, ?_, reports_bind_of_ok hfirst hr hreports⟩
        rw [heffect]
        exact hown.after_taken (htaken hr)
      · refine .inr ⟨?_, reports_bind_of_ok hfirst hr hreports⟩
        rw [heffect]
        exact hnone.after _

/-- **A layout of the other family** is complained about. -/
lemma candid_setGeometry (hwarn : p.logger.enabled .warn = true) (g : Geometry) :
    (setGeometry g sink p s).Candid p.logger SetupFault.message := by
  have heffect : (setGeometry g sink p s).effect = _ := Operation.effect_setGeometry g
  cases hclash : p.clash? g with
  | some why =>
      rw [hclash] at heffect
      refine .inl ⟨why, ?_, ?_⟩
      · rw [heffect]
        exact Effect.ownFault_failed _ p s
      · refine reports_bind_of_ok (quiet_current sink p s hwarn) rfl ?_
        simp only [current, hclash]
        exact reports_complain hwarn why.message (.setup why)
  | none =>
      rw [hclash] at heffect
      refine .inr ⟨?_, ?_⟩
      · rw [heffect]
        exact Effect.blameless_of_ok rfl
      · refine reports_bind_of_ok (quiet_current sink p s hwarn) rfl ?_
        have hset : (do
            Work.update (withGeometry g)
            Work.log .debug (announcement g) : Work σ Unit).Quiet :=
          quiet_update_bind (fun _ => rfl) fun _ => quiet_log (by decide) _
        simp only [current, hclash]
        refine Quiet.ite ?_ hset sink p s hwarn
        exact quiet_log_bind (by decide) fun _ => hset

/-- Asks for the legal lengths, and takes the chunk. -/
def take (chunk : Chunk) : Work σ Unit := do
  let p ← Work.current
  let l ← demand chunk p.lengths
  accept chunk l

lemma candid_take (hwarn : p.logger.enabled .warn = true) (chunk : Chunk) :
    (take chunk sink p s).Candid p.logger chunk.dropped := by
  have htake : take chunk sink p s = (demand chunk p.lengths >>= accept chunk) sink p s := rfl
  rw [htake]
  cases hl : p.lengths with
  | error why =>
      refine .inl ⟨why, ?_, ?_⟩
      · rw [effect_bind_of_error (effect_demand (.error why))]
        exact Effect.ownFault_failed _ p s
      · refine reports_bind_of_error ?_ rfl _
        exact reports_complain hwarn (chunk.dropped why) (.setup why)
  | ok l =>
      obtain ⟨g, hg, -⟩ := layout_of_lengths hl
      exact .inr ⟨accept_blameless hg, quiet_accept chunk l sink p s hwarn⟩

/-- The rest of an arrival, behind the question for a layout. -/
def proceed (chunk : Chunk) : Work σ Unit :=
  if chunk.gap then do
    let _ ← (do Work.log .debug "got discontinuity"; breakOff)
    take chunk
  else take chunk

lemma handle_eq_demand_proceed (chunk : Chunk) (p : Packetizer) (s : σ) :
    handle chunk sink p s = (demand chunk p.layout >>= fun _ => proceed chunk) sink p s := by
  simp only [proceed, bind_assoc]
  rfl

lemma candid_proceed {g : Geometry} (hwarn : p.logger.enabled .warn = true)
    (hg : p.layout = .ok g) (chunk : Chunk) :
    (proceed chunk sink p s).Candid p.logger chunk.dropped := by
  rw [proceed]
  split
  · have hquiet : (do Work.log .debug "got discontinuity"; breakOff : Work σ Unit).Quiet :=
      quiet_log_bind (by decide) fun _ => quiet_breakOff
    have heffect : ((do Work.log .debug "got discontinuity"; breakOff : Work σ Unit)
        sink p s).effect = .breaking sink g p s := by
      rw [effect_log_bind, effect_breakOff, effect_flush_all fun _ => hg, Effect.breaking]
    refine candid_bind hquiet hwarn ?_ ?_ fun q t hkept => candid_take hkept chunk
    · intro hr
      have hresult : (Effect.breaking sink g p s).result = .ok () := heffect ▸ hr
      have hoffers := congrArg Effect.offers heffect
      exact (congrArg refusals hoffers).trans (Effect.refusals_breaking hresult)
    · rw [heffect]
      exact Effect.carving_blameless
  · exact candid_take hwarn chunk

/-- **A chunk that is dropped** is complained about, wherever it is found that it has to be. -/
lemma candid_handle (hwarn : p.logger.enabled .warn = true) (chunk : Chunk) :
    (handle chunk sink p s).Candid p.logger chunk.dropped := by
  cases hg : p.layout with
  | error why =>
      have hl : p.lengths = .error why := by simp only [lengths, hg]
      have heffect : (handle chunk sink p s).effect = .failed (.setup why) p s :=
        effect_handle_of_error hl fun _ g hok => by rw [hg] at hok; cases hok
      refine .inl ⟨why, ?_, ?_⟩
      · rw [heffect]
        exact Effect.ownFault_failed _ p s
      · rw [handle_eq_demand_proceed, hg]
        exact reports_bind_of_error (reports_complain hwarn (chunk.dropped why) _) rfl _
  | ok g =>
      have hproceed : handle chunk sink p s = proceed chunk sink p s := by
        rw [handle_eq_demand_proceed, hg]
        rfl
      rw [hproceed]
      exact candid_proceed hwarn hg chunk

end Packetizer

/-! ## Requests -/

namespace Operation

open Packetizer Work

variable {sink : Sink σ Packet} {p : Packetizer} {s : σ}

/-- **What is said about a fault of the setup**: a chunk is dropped, or a layout is refused.  Other
requests say nothing. -/
def complaint? (op : Operation) (why : SetupFault) : Option String :=
  match op with
  | .handle chunk => some (chunk.dropped why)
  | .setFrames .. | .setSamples _ | .setSampleBytes _ => some why.message
  | _ => none

lemma reports_give {logger : Log.Logger} {complaints : List String} {work : Work σ Unit}
    (hwarn : logger.enabled .warn = true) (h : (work sink p s).Reports logger complaints) :
    ((do work; pure ([] : List UInt8)) sink p s).Reports logger complaints := by
  cases hr : (work sink p s).result with
  | error fault => exact reports_bind_of_error h hr _
  | ok u =>
      rw [← List.append_nil complaints]
      exact reports_bind_of_ok h hr ((quiet_pure _).reports hwarn h.same _ _)

/-- The complaints about what a request has come to: at most one. -/
def complaints (op : Operation) (e : Effect σ (List UInt8)) : List String :=
  (e.raised?.bind op.complaint?).toList

lemma reports_of_quiet (op : Operation) (hquiet : (op.perform : Work σ (List UInt8)).Quiet)
    (hnone : ∀ why, op.complaint? why = none) (hwarn : p.logger.enabled .warn = true) :
    (op.perform sink p s).Reports p.logger (op.complaints (op.perform sink p s).effect) := by
  have hno : op.complaints (op.perform sink p s).effect = [] := by
    rw [complaints]
    cases ((op.perform sink p s).effect).raised? with
    | none => rfl
    | some why => simp [hnone why]
  rw [hno]
  exact hquiet sink p s hwarn

lemma reports_of_candid (op : Operation) {work : Work σ Unit} {complaint : SetupFault → String}
    (hop : op.perform = do work; pure []) (hcomplaint : ∀ why, op.complaint? why = complaint why)
    (hwarn : p.logger.enabled .warn = true)
    (hcandid : (work sink p s).Candid p.logger complaint) :
    (op.perform sink p s).Reports p.logger (op.complaints (op.perform sink p s).effect) := by
  rw [hop, effect_give]
  rcases hcandid with ⟨why, hown, hreports⟩ | ⟨hnone, hreports⟩
  · have hraised : (((work sink p s).effect).give ([] : List UInt8)).raised? = some why :=
      Effect.raised?_eq_some_iff.mpr ((Effect.ownFault_give []).mpr hown)
    have hone : op.complaints (((work sink p s).effect).give []) = [complaint why] := by
      rw [complaints, hraised, Option.bind_some, hcomplaint, Option.toList]
    rw [hone]
    exact reports_give hwarn hreports
  · have hraised : (((work sink p s).effect).give ([] : List UInt8)).raised? = none := by
      refine Option.eq_none_iff_forall_ne_some.mpr fun why hwhy => ?_
      exact hnone.give [] (.setup why) (Effect.raised?_eq_some_iff.mp hwhy)
    have hno : op.complaints (((work sink p s).effect).give []) = [] := by
      rw [complaints, hraised]
      rfl
    rw [hno]
    exact reports_give hwarn hreports

/-- **Every request** warns of every refusal, and complains of what it has found itself. -/
lemma perform_reports (op : Operation) (hwarn : p.logger.enabled .warn = true) :
    (op.perform sink p s).Reports p.logger (op.complaints (op.perform sink p s).effect) := by
  cases op with
  | setFrames size millis =>
      exact reports_of_candid _ rfl (fun _ => rfl) hwarn (candid_setGeometry hwarn _)
  | setSamples bits =>
      exact reports_of_candid _ rfl (fun _ => rfl) hwarn (candid_setGeometry hwarn _)
  | setSampleBytes bytes =>
      exact reports_of_candid _ rfl (fun _ => rfl) hwarn (candid_setGeometry hwarn _)
  | handle chunk => exact reports_of_candid _ rfl (fun _ => rfl) hwarn (candid_handle hwarn chunk)
  | setLimits limits =>
      have hset : (perform (.setLimits limits) : Work σ (List UInt8)).Quiet :=
        quiet_update_bind (fun _ => rfl) fun _ => quiet_pure []
      exact reports_of_quiet _ hset (fun _ => rfl) hwarn
  | flush which stamp =>
      exact reports_of_quiet _ ((quiet_flush which stamp).bind fun _ => quiet_pure [])
        (fun _ => rfl) hwarn
  | discontinuity =>
      exact reports_of_quiet _ (quiet_discontinuity.bind fun _ => quiet_pure []) (fun _ => rfl)
        hwarn
  | endOfStream =>
      exact reports_of_quiet _ (quiet_endOfStream.bind fun _ => quiet_pure []) (fun _ => rfl) hwarn
  | flushStop =>
      exact reports_of_quiet _ (quiet_clear.bind fun _ => quiet_pure []) (fun _ => rfl) hwarn
  | clear =>
      exact reports_of_quiet _ (quiet_clear.bind fun _ => quiet_pure []) (fun _ => rfl) hwarn
  | drain => exact reports_of_quiet _ quiet_drain (fun _ => rfl) hwarn
  | reset =>
      exact reports_of_quiet _ (quiet_reset.bind fun _ => quiet_pure []) (fun _ => rfl) hwarn

end Operation

open Operation in
/-- **A logger matters to the records alone.**  Take any run of requests, with any receiver.

* Under every logger each step gives the same result and the same packets and leaves the same state
  and receiver as without one, except that the logger is in the state.
* Each step leaves the records that the same logger would keep if nothing were too trivial for it,
  less those that are not severe enough.
* A logger that keeps warnings gets exactly one for every refused packet, in order.  It gets one
  error from a step that has dropped a chunk or refused a layout for a fault of the setup which the
  receiver has not answered with, and none from any other step. -/
theorem logger_only_records (sink : Sink σ Packet) (ops : List Operation) (p : Packetizer) (s : σ)
    (logger : Log.Logger) :
    let steps := fun logger => history sink ops (p.withLogger logger) s
    ((steps logger).map Step.effect =
      (steps .silent).map fun step => step.effect.withLogger logger) ∧
    ((steps logger).map Step.records =
      (steps logger.detailed).map fun step => step.records.filter logger.keeps) ∧
    (logger.enabled .warn = true → ∀ step ∈ steps logger,
      Log.ofLevel .warn step.records = (refusals step.outcome.offers).map
        (fun fault => logger.record .warn (warning fault)) ∧
      Log.ofLevel .error step.records =
        (step.operation.complaints step.effect).map (logger.record .error)) := by
  intro steps
  refine ⟨?_, ?_, ?_⟩
  · exact map_history_congr logger .silent (perform_effect logger .silent) ops p s
  · exact map_history_congr logger logger.detailed (perform_records logger) ops p s
  · intro hwarn step hstep
    have hkeep : ∀ (op : Operation) (q : Packetizer) (t : σ), True → q.logger = logger →
        (op.perform sink q t).packetizer.logger = logger := by
      rintro op q t - rfl
      exact (op.perform_reports hwarn).same
    obtain ⟨-, hlogger, houtcome⟩ :=
      forall_mem_history hkeep (fun _ _ => trivial) rfl step hstep
    have hreports : (step.operation.perform sink step.before step.receiver).Reports
        step.before.logger _ := step.operation.perform_reports (hlogger.symm ▸ hwarn)
    rw [hlogger, ← houtcome] at hreports
    exact ⟨hreports.warnings, hreports.errors⟩

open Operation Packetizer in
/-- A chunk comes before there is a layout, and a layout of the other family behind one; then the
first packet of a chunk is refused. -/
theorem logger_only_records_reluctant :
    let logger := (Log.Logger.console .trace).forComponent "pay"
    let ops : List Operation := [.handle { data := [1] }, .setFrames 20 20, .setSamples 16,
      .handle { data := List.replicate 60 7 }]
    let steps := history Sink.reluctant ops (fresh { mtu := 32 } logger) 0
    logger.enabled .warn = true ∧
      (steps.map fun step => Log.ofLevel .warn step.records) =
        [[], [], [],
          [⟨.warn, some "pay", "sink rejected packet: sink rejected packet: busy"⟩]] ∧
      (steps.map fun step => Log.ofLevel .error step.records) =
        [[⟨.error, some "pay", "dropping 1-byte chunk: payloader is not configured: no frame or "
            ++ "sample geometry set"⟩],
          [],
          [⟨.error, some "pay", "payloader is frame-based and cannot switch to sample-based "
            ++ "geometry"⟩],
          []] := by
  intro logger ops steps
  have hwarn : logger.enabled .warn = true := by decide
  obtain ⟨-, -, hreports⟩ :=
    logger_only_records Sink.reluctant ops (fresh { mtu := 32 } logger) 0 logger
  have hwarnings : ∀ step ∈ steps, Log.ofLevel .warn step.records =
      (refusals step.outcome.offers).map fun fault => logger.record .warn (warning fault) :=
    fun step hstep => (hreports hwarn step hstep).1
  have herrors : ∀ step ∈ steps, Log.ofLevel .error step.records =
      (step.operation.complaints step.effect).map (logger.record .error) :=
    fun step hstep => (hreports hwarn step hstep).2
  refine ⟨hwarn, ?_, ?_⟩
  · rw [List.map_congr_left hwarnings]
    decide +kernel
  · rw [List.map_congr_left herrors]
    decide +kernel

end CbrAudio
