import CbrAudio.Proofs.Events
import Mathlib.Tactic.Ring

/-!
# Offsets

The offset of a packet is the time of the payload bytes that were offered before it in the session.
It is reckoned anew for every packet, from their number alone, so nothing adds up however the stream
was cut.

* `Geometry.tickParts`, `Geometry.partsPerTick` — the exact time of some bytes, as a fraction of
  ticks: of frames only whole ones count.
* `Geometry.ticks_eq` — `Geometry.ticks` is that time, rounded down once, although it goes by way of
  nanoseconds.  `Geometry.Reckonable` says for how many bytes.
* `Event.tally`, `Moves.sent_eq` — the state knows what was offered, taken or refused, since the
  session began.
* **`offset_of_sent`** — over every run: the offset depends on that number alone, is right to a tick
  as long as 32 bits hold it, and never falls.
-/

namespace CbrAudio

variable {σ : Type}

namespace Geometry

open Word

/-- The time of the whole units in some bytes, in parts of a tick. -/
def tickParts (bytes : Nat) (clockRate : UInt32) : Geometry → Nat
  | .frame size millis => bytes / size.toNat * millis.toNat * clockRate.toNat
  | .sample _ _ => 8 * bytes

/-- How many such parts make a tick. -/
def partsPerTick : Geometry → Nat
  | .frame _ _ => 1000
  | .sample bits _ => bits.toNat

/-- Counts whose time fits the words that it is reckoned in. -/
def Reckonable (bytes : Nat) (clockRate : UInt32) : Geometry → Prop
  | .frame size millis =>
    bytes / size.toNat * (millis.toNat * nanosPerMilli) < 2 ^ 64 ∧ clockRate.toNat ≤ nanosPerSecond
  | .sample _ _ => bytes < 2 ^ 61

variable {g : Geometry} {bytes : Nat} {clockRate : UInt32}

lemma partsPerTick_pos (h : g.check = .ok ()) : 0 < g.partsPerTick := by
  rcases g with ⟨size, millis⟩ | ⟨bits, fragment⟩
  · show 0 < 1000
    omega
  · exact bits_pos_of_check h

/-- Scaling down never leaves the range of a word. -/
lemma mulDiv_of_le {n num den : Nat} (hden : 0 < den) (hnum : num ≤ den) (hn : n ≤ maxWord) :
    mulDiv n num den = n * num / den := by
  have hle : n * num / den ≤ n := by
    rw [Nat.div_le_iff_le_mul hden]
    have := Nat.mul_le_mul_left n hnum
    omega
  rw [mulDiv, if_neg (by omega), clamp_of_le (by omega)]

/-- **Reckoned once.**  The nanoseconds on the way are whole, and cost nothing. -/
theorem ticks_eq (hcheck : g.check = .ok ()) (h : g.Reckonable bytes clockRate) :
    (g.ticks bytes clockRate).toNat = g.tickParts bytes clockRate / g.partsPerTick % 2 ^ 32 := by
  rcases g with ⟨size, millis⟩ | ⟨bits, fragment⟩
  · -- Neither the nanoseconds nor the ticks leave the range of a word, so nothing is clamped.
    obtain ⟨hnanos, hclock⟩ := h
    have hsize : max size.toNat 1 = size.toNat := Nat.max_eq_left (size_pos_of_check hcheck)
    have hfit : bytes / size.toNat * (millis.toNat * nanosPerMilli) ≤ maxWord := by
      simp only [maxWord]
      omega
    have hduration : duration bytes clockRate (.frame size millis) =
        bytes / size.toNat * (millis.toNat * nanosPerMilli) := by
      rw [duration, hsize, clamp_of_le hfit]
    have hticks : mulDiv (bytes / size.toNat * (millis.toNat * nanosPerMilli)) clockRate.toNat
        nanosPerSecond = bytes / size.toNat * millis.toNat * clockRate.toNat / 1000 := by
      rw [mulDiv_of_le (by decide) hclock hfit]
      have hnum : bytes / size.toNat * (millis.toNat * nanosPerMilli) * clockRate.toNat =
          bytes / size.toNat * millis.toNat * clockRate.toNat * nanosPerMilli := by
        ring
      have hden : nanosPerSecond = 1000 * nanosPerMilli := rfl
      rw [hnum, hden, Nat.mul_div_mul_right _ _ (by decide)]
    rw [ticks, hduration, hticks, UInt32.toNat_ofNat']
    rfl
  · have hfit : 8 * bytes ≤ maxWord := by
      simp only [Reckonable] at h
      simp only [maxWord]
      omega
    have hbits : max bits.toNat 1 = bits.toNat := Nat.max_eq_left (bits_pos_of_check hcheck)
    rw [ticks, clamp_of_le hfit, hbits, UInt32.toNat_ofNat']
    rfl

/-- More bytes take longer. -/
lemma tickParts_mono (g : Geometry) (clockRate : UInt32) {m n : Nat} (h : m ≤ n) :
    g.tickParts m clockRate ≤ g.tickParts n clockRate := by
  rcases g with ⟨size, millis⟩ | ⟨bits, fragment⟩
  · exact Nat.mul_le_mul_right _ (Nat.mul_le_mul_right _ (Nat.div_le_div_right h))
  · exact Nat.mul_le_mul_left 8 h

lemma Reckonable.mono {m n : Nat} (h : g.Reckonable n clockRate) (hle : m ≤ n) :
    g.Reckonable m clockRate := by
  rcases g with ⟨size, millis⟩ | ⟨bits, fragment⟩
  · exact ⟨Nat.lt_of_le_of_lt (Nat.mul_le_mul_right _ (Nat.div_le_div_right hle)) h.1, h.2⟩
  · exact Nat.lt_of_le_of_lt hle h

end Geometry

namespace Event

/-- What has been offered since the session began. -/
def tally (sent : Nat) : Event → Nat
  | .offered x => sent + x.offer.packet.payload.length
  | .restarted _ => 0
  | _ => sent

/-- The session ends, and another one begins. -/
def isRestart : Event → Bool
  | .restarted _ => true
  | _ => false

/-- A session begins behind some events. -/
def Opening (es : List Event) : Prop :=
  es = [] ∨ ∃ earlier bytes, es = earlier ++ [.restarted bytes]

/-- The payload bytes of the packets that are offered, taken or refused. -/
def sent (es : List Event) : Nat := (Offer.bytes (es.filterMap offer?)).length

lemma sent_append (es es' : List Event) : sent (es ++ es') = sent es + sent es' := by
  simp only [sent, Offer.bytes, List.filterMap_append, List.flatMap_append, List.length_append]

/-- Within a session nothing that is counted is forgotten. -/
lemma foldl_tally {es : List Event} (h : ∀ e ∈ es, e.isRestart = false) (n : Nat) :
    es.foldl tally n = n + sent es := by
  induction es generalizing n with
  | nil => rfl
  | cons e es ih =>
      rw [List.forall_mem_cons] at h
      have hone : tally n e = n + sent [e] := by
        rcases e with _ | x | _ | _ | _
        · rfl
        · simp [tally, sent, offer?, Offer.bytes]
        · rfl
        · rfl
        · cases h.1
      have hboth : sent (e :: es) = sent [e] + sent es := sent_append [e] es
      rw [List.foldl_cons, ih h.2, hone, hboth, Nat.add_assoc]

lemma Opening.foldl_tally {es : List Event} (h : Opening es) : es.foldl tally 0 = 0 := by
  rcases h with rfl | ⟨earlier, bytes, rfl⟩
  · rfl
  · rw [List.foldl_append]
    rfl

end Event

/-! ## What moves do -/

lemma Move.sent_eq {p q : Packetizer} {es : List Event} (h : Move p es q) :
    q.sent = es.foldl Event.tally p.sent := by
  rcases h with ⟨-, -, hfit, -, -⟩ | _ | _ | _ | _ | _ | _ | _
  · simp [Packetizer.departed, Packetizer.sending, Event.tally, Packetizer.packet,
      Backlog.length_front, Nat.min_eq_left hfit]
  all_goals rfl

namespace Moves

open Event

variable {p q : Packetizer} {es : List Event}

/-- **The state knows** how many bytes were offered. -/
lemma sent_eq (h : Moves p es q) : q.sent = es.foldl tally p.sent :=
  foldl_eq Move.sent_eq h

/-- **A packet carries their time**, under the layout it is made for. -/
lemma Origin.offset {earlier : List Event} {x : Sending} (h : Origin p earlier x) :
    ∃ g, x.geometry = some g ∧ g.check = .ok () ∧
      x.offer.packet.offset = g.ticks (earlier.foldl tally p.sent) x.clockRate := by
  rcases h with ⟨before, hg, -, -, -, -⟩ | ⟨before, hg, -, -, -⟩
  · obtain ⟨hset, hcheck⟩ := Packetizer.layout_ok hg
    rw [← before.sent_eq]
    exact ⟨_, hset, hcheck, rfl⟩
  · obtain ⟨hset, hcheck⟩ := Packetizer.layout_ok hg
    rw [List.foldl_append, ← before.sent_eq]
    exact ⟨_, hset, hcheck, rfl⟩

/-- In terms of its session. -/
lemma offset_eq {before session later : List Event} {x : Sending}
    (h : Moves p (before ++ session ++ .offered x :: later) q) (hp : p.sent = 0)
    (hopen : Opening before) (hsession : ∀ e ∈ session, e.isRestart = false) :
    ∃ g, x.geometry = some g ∧ g.check = .ok () ∧
      x.offer.packet.offset = g.ticks (sent session) x.clockRate := by
  have hsent : (before ++ session).foldl tally p.sent = sent session := by
    rw [hp, List.foldl_append, hopen.foldl_tally, foldl_tally hsession, Nat.zero_add]
  rw [← hsent]
  exact h.origin.offset

/-- A packet that leaves later in a session has no smaller offset, until that does not fit. -/
lemma offset_mono {before session next later : List Event} {x y : Sending}
    (h : Moves p (before ++ (session ++ .offered x :: next) ++ .offered y :: later) q)
    (hp : p.sent = 0) (hopen : Opening before)
    (hsession : ∀ e ∈ session ++ .offered x :: next, e.isRestart = false)
    (hgeometry : x.geometry = y.geometry) (hclock : x.clockRate = y.clockRate) :
    ∃ g, y.geometry = some g ∧
      (g.Reckonable (sent (session ++ .offered x :: next)) y.clockRate →
        g.tickParts (sent (session ++ .offered x :: next)) y.clockRate / g.partsPerTick < 2 ^ 32 →
        x.offer.packet.offset ≤ y.offer.packet.offset) := by
  have hfirst : Moves p (before ++ session ++ .offered x :: (next ++ .offered y :: later)) q := by
    simpa only [List.append_assoc, List.cons_append] using h
  obtain ⟨g, hset, hcheck, hy⟩ := h.offset_eq hp hopen hsession
  obtain ⟨g', hset', -, hx⟩ :=
    hfirst.offset_eq hp hopen fun e he => hsession e (List.mem_append_left _ he)
  obtain rfl : g = g' := by
    rw [hgeometry, hset] at hset'
    exact Option.some.inj hset'
  refine ⟨g, hset, ?_⟩
  intro hreckon hlt
  have hle : sent session ≤ sent (session ++ .offered x :: next) := by
    rw [sent_append]
    exact Nat.le_add_right _ _
  have hparts : g.tickParts (sent session) y.clockRate / g.partsPerTick ≤
      g.tickParts (sent (session ++ .offered x :: next)) y.clockRate / g.partsPerTick :=
    Nat.div_le_div_right (g.tickParts_mono y.clockRate hle)
  rw [hx, hy, hclock, UInt32.le_iff_toNat_le, Geometry.ticks_eq hcheck (hreckon.mono hle),
    Geometry.ticks_eq hcheck hreckon, Nat.mod_eq_of_lt hlt,
    Nat.mod_eq_of_lt (Nat.lt_of_le_of_lt hparts hlt)]
  exact hparts

end Moves

/-! ## Runs -/

/-- **Offsets do not drift.**  A packet's offset is the time of the bytes that were offered before
it in its session, taken or refused, and nothing else that happened plays a part.  As long as 32
bits hold that time the offset is right to a tick, and packets of one session under one layout and
clock have offsets in the order in which they leave. -/
theorem offset_of_sent (limits : Limits) (logger : Log.Logger) (sink : Sink σ Packet) (s : σ)
    (ops : List Operation) :
    let es := Operation.trace sink ops (.fresh limits logger) s
    (∀ (before session later : List Event) (x : Sending),
        es = before ++ session ++ .offered x :: later →
        Event.Opening before → (∀ e ∈ session, e.isRestart = false) →
        ∃ g, x.geometry = some g ∧ (g.Reckonable (Event.sent session) x.clockRate →
          let parts := g.tickParts (Event.sent session) x.clockRate
          let offset := x.offer.packet.offset.toNat
          offset = parts / g.partsPerTick % 2 ^ 32 ∧
            (parts / g.partsPerTick < 2 ^ 32 →
              g.partsPerTick * offset ≤ parts ∧ parts < g.partsPerTick * (offset + 1)))) ∧
      (∀ (before session next later : List Event) (x y : Sending),
        es = before ++ (session ++ .offered x :: next) ++ .offered y :: later →
        Event.Opening before → (∀ e ∈ session ++ .offered x :: next, e.isRestart = false) →
        x.geometry = y.geometry → x.clockRate = y.clockRate →
        ∃ g, y.geometry = some g ∧
          (g.Reckonable (Event.sent (session ++ .offered x :: next)) y.clockRate →
            g.tickParts (Event.sent (session ++ .offered x :: next)) y.clockRate /
              g.partsPerTick < 2 ^ 32 →
            x.offer.packet.offset ≤ y.offer.packet.offset)) := by
  intro es
  have hmoves : Moves (.fresh limits logger) es _ :=
    Operation.trace_fresh limits logger sink ops s
  refine ⟨?_, ?_⟩
  · intro before session later x hsplit hopen hsession
    rw [hsplit] at hmoves
    obtain ⟨g, hset, hcheck, hoffset⟩ := hmoves.offset_eq rfl hopen hsession
    refine ⟨g, hset, ?_⟩
    intro hreckon parts offset
    have heq : offset = parts / g.partsPerTick % 2 ^ 32 := by
      rw [← Geometry.ticks_eq hcheck hreckon, ← hoffset]
    refine ⟨heq, ?_⟩
    intro hlt
    rw [heq, Nat.mod_eq_of_lt hlt]
    exact ⟨Nat.mul_div_le _ _, Nat.lt_mul_div_succ _ (Geometry.partsPerTick_pos hcheck)⟩
  · intro before session next later x y hsplit hopen hsession hgeometry hclock
    rw [hsplit] at hmoves
    exact hmoves.offset_mono rfl hopen hsession hgeometry hclock

/-- Frames of 132.3 ticks, in a session that is not the first one: the fifth packet is at 529 ticks,
although four times 132 are 528. -/
theorem offset_of_sent_fifth :
    let limits : Limits := { maxPtime := some 3000000, clockRate := 44100 }
    let ops : List Operation := [.setFrames 2 3, .handle { data := [1, 2, 3] }, .reset,
      .handle { data := [4, 5, 6, 7, 8, 9, 10, 11, 12, 13] }]
    let es := Operation.trace Sink.collect ops (.fresh limits .silent) #[]
    let packet (offset : UInt32) (payload : List UInt8) : Sending :=
      ⟨some (.frame 2 3), 44100, none, ⟨⟨0, false, false, none, offset, payload⟩, .ok ()⟩⟩
    let before : List Event := [.cleared [], .taken { data := [1, 2, 3] },
      .offered (packet 0 [1, 2]), .restarted [3]]
    let session : List Event := [.taken { data := [4, 5, 6, 7, 8, 9, 10, 11, 12, 13] }]
    let x := packet 0 [4, 5]
    let next : List Event := [.offered (packet 132 [6, 7]), .offered (packet 264 [8, 9]),
      .offered (packet 396 [10, 11])]
    let y := packet 529 [12, 13]
    es = before ++ (session ++ .offered x :: next) ++ .offered y :: [] ∧
      Event.Opening before ∧ (∀ e ∈ session ++ .offered x :: next, e.isRestart = false) ∧
      Event.sent (session ++ .offered x :: next) = 8 ∧
      (y.offer.packet.offset.toNat = 8 / 2 * 3 * 44100 / 1000 % 2 ^ 32 ∧
        1000 * y.offer.packet.offset.toNat ≤ 8 / 2 * 3 * 44100) ∧
      x.offer.packet.offset ≤ y.offer.packet.offset := by
  intro limits ops es packet before session x next y
  obtain ⟨hexact, hmono⟩ := offset_of_sent limits .silent Sink.collect #[] ops
  have hes : es = before ++ (session ++ .offered x :: next) ++ .offered y :: [] := by
    decide +kernel
  have hopen : Event.Opening before := .inr ⟨before.dropLast, [3], rfl⟩
  have hsession : ∀ e ∈ session ++ .offered x :: next, e.isRestart = false := by decide
  have hsent : Event.sent (session ++ .offered x :: next) = 8 := by decide
  have hreckon : (Geometry.frame 2 3).Reckonable 8 44100 := ⟨by decide, by decide⟩
  have hlt : (Geometry.frame 2 3).tickParts 8 44100 / (Geometry.frame 2 3).partsPerTick <
      2 ^ 32 := by
    decide
  refine ⟨hes, hopen, hsession, hsent, ?_, ?_⟩
  · obtain ⟨g, hset, hoffset⟩ := hexact before _ [] y hes hopen hsession
    obtain rfl : .frame 2 3 = g := Option.some.inj hset
    rw [hsent] at hoffset
    obtain ⟨heq, hnear⟩ := hoffset hreckon
    exact ⟨heq, (hnear hlt).1⟩
  · obtain ⟨g, hset, hle⟩ := hmono before session next [] x y hes hopen hsession rfl rfl
    obtain rfl : .frame 2 3 = g := Option.some.inj hset
    rw [hsent] at hle
    exact hle hreckon hlt

end CbrAudio
