import CbrAudio.Proofs.Members
import CbrAudio.Settings.Source

/-!
# What is not written keeps its default

A text may give any part of the settings; it lies over the defaults.

* `TransportOverlay`, `LogOverlay`, `Overlay` — the fields that a text gives, section by section,
  and `settings`, the values in force with them.
* `WrittenAs` — the members of an object give these fields and no others that are known, each of
  them once.  Their order, the blanks and the members with other keys are left open.
* `Document` — a text that is one object.
* `Settings.ReliesOn` — **what is relied on** in the JSON library that reads the text: the basic
  types, the three declared records, and whole texts.  `reliesOn_library`: the one at hand will do.
* `TransportSettings.reads_section`, `LogSettings.reads_section`, `Settings.reads_sections` — each
  record is read as its defaults under what is given.
* **`ofText_partial`** — so is a text, by any such library; every text that gives the same fields is
  read alike, and the limits on packets follow.
-/

namespace CbrAudio

open Json

attribute [ext] TransportSettings LogSettings Settings

/-! ## Fields that are given -/

/-- The fields of the section on the transport that a text gives. -/
structure TransportOverlay where
  payloadType : Option UInt8 := none
  mtu : Option UInt64 := none
  minPtimeMillis : Option UInt64 := none
  /-- The outer option says if the field is given, the inner one if it is not `null`. -/
  maxPtimeMillis : Option (Option UInt64) := none
  clockRate : Option UInt32 := none
  deriving DecidableEq, Repr

/-- The fields of the section on the log that a text gives. -/
structure LogOverlay where
  path : Option String := none
  level : Option String := none
  toConsole : Option Bool := none
  toFile : Option Bool := none
  deriving DecidableEq, Repr

/-- The sections that a text gives. -/
structure Overlay where
  transport : Option TransportOverlay := none
  log : Option LogOverlay := none
  deriving DecidableEq, Repr

def TransportOverlay.settings (o : TransportOverlay) : TransportSettings where
  payloadType := o.payloadType.getD 0
  mtu := o.mtu.getD 1400
  minPtimeMillis := o.minPtimeMillis.getD 0
  maxPtimeMillis := o.maxPtimeMillis.getD none
  clockRate := o.clockRate.getD 8000

def LogOverlay.settings (o : LogOverlay) : LogSettings where
  path := o.path.getD "payloader.log"
  level := o.level.getD "info"
  toConsole := o.toConsole.getD true
  toFile := o.toFile.getD false

/-- A section that is not given is like one without fields. -/
def Overlay.settings (o : Overlay) : Settings where
  transport := (o.transport.getD {}).settings
  log := (o.log.getD {}).settings

/-! ## Members that give them -/

/-- An object whose members give what is said of them. -/
def Section {β : Type} (writtenAs : β → List Entry → Prop) (v : List Char) (b : β) : Prop :=
  ∃ entries pad, v = objectText entries pad ∧ writtenAs b entries

structure TransportOverlay.WrittenAs (o : TransportOverlay) (entries : List Entry) : Prop where
  keyed : Keyed ["payload_type", "mtu", "min_ptime_ms", "max_ptime_ms", "clock_rate"] entries
  payloadType : Holds entries "payload_type" (fun v n => Decimal v n.toNat) o.payloadType
  mtu : Holds entries "mtu" (fun v n => Decimal v n.toNat) o.mtu
  minPtimeMillis : Holds entries "min_ptime_ms" (fun v n => Decimal v n.toNat) o.minPtimeMillis
  maxPtimeMillis :
    Holds entries "max_ptime_ms" (Nullable fun v n => Decimal v n.toNat) o.maxPtimeMillis
  clockRate : Holds entries "clock_rate" (fun v n => Decimal v n.toNat) o.clockRate

structure LogOverlay.WrittenAs (o : LogOverlay) (entries : List Entry) : Prop where
  keyed : Keyed ["log_file_path", "log_level", "enable_console", "enable_file"] entries
  path : Holds entries "log_file_path" Quoted o.path
  level : Holds entries "log_level" Quoted o.level
  toConsole : Holds entries "enable_console" Flag o.toConsole
  toFile : Holds entries "enable_file" Flag o.toFile

structure Overlay.WrittenAs (o : Overlay) (entries : List Entry) : Prop where
  keyed : Keyed ["transport", "logging"] entries
  transport : Holds entries "transport" (Section TransportOverlay.WrittenAs) o.transport
  log : Holds entries "logging" (Section LogOverlay.WrittenAs) o.log

/-- A text that is one object. -/
structure Document where
  before : Blanks
  entries : List Entry
  pad : Blanks
  after : Blanks

def Document.text (d : Document) : String :=
  String.ofList (d.before.chars ++ (objectText d.entries d.pad ++ d.after.chars))

/-! ## The section on the transport -/

namespace TransportSettings

/-- Each field fills its own place. -/
lemma places (lib : Library) :
    (record lib).Place "payload_type" lib.byte payloadType ∧
    (record lib).Place "mtu" lib.size mtu ∧
    (record lib).Place "min_ptime_ms" lib.word64 minPtimeMillis ∧
    (record lib).Place "max_ptime_ms" (lib.optional lib.word64) maxPtimeMillis ∧
    (record lib).Place "clock_rate" lib.word32 clockRate := by
  refine ⟨.at_index 0 rfl (fun _ _ => rfl) ?_, .at_index 1 rfl (fun _ _ => rfl) ?_,
    .at_index 2 rfl (fun _ _ => rfl) ?_, .at_index 3 rfl (fun _ _ => rfl) ?_,
    .at_index 4 rfl (fun _ _ => rfl) ?_⟩
  all_goals
    intro field hfield hne
    simp only [record, List.mem_cons, List.not_mem_nil, or_false] at hfield
    -- A field has this very name, or it puts its value somewhere else.
    rcases hfield with rfl | rfl | rfl | rfl | rfl
    all_goals first
      | exact absurd rfl hne
      | exact Field.keeps_of fun _ _ => rfl

/-- **The section on the transport** is read as its defaults under what it gives. -/
theorem reads_section {lib : Library} (basics : lib.Basics) (derives : lib.Derives (record lib))
    (o : TransportOverlay) (entries : List Entry) (pad : Blanks) (h : o.WrittenAs entries) :
    Reads (lib.derived (record lib)) (objectText entries pad) o.settings := by
  obtain ⟨hpayloadType, hmtu, hmin, hmax, hclock⟩ := places lib
  have gpayloadType := Record.Given.mk hpayloadType (h.payloadType.mono basics.byte)
  have gmtu := Record.Given.mk hmtu (h.mtu.mono basics.size)
  have gmin := Record.Given.mk hmin (h.minPtimeMillis.mono basics.word64)
  have gmax := Record.Given.mk hmax (h.maxPtimeMillis.mono basics.optional)
  have gclock := Record.Given.mk hclock (h.clockRate.mono basics.word32)
  obtain ⟨t, hread, hgiven⟩ := derives.reads_given h.keyed pad (by
    intro name hname
    have hcases : name ∈ ["payload_type", "mtu", "min_ptime_ms", "max_ptime_ms", "clock_rate"] :=
      hname
    simp only [List.mem_cons, List.not_mem_nil, or_false] at hcases
    rcases hcases with rfl | rfl | rfl | rfl | rfl
    · exact ⟨_, _, _, _, gpayloadType⟩
    · exact ⟨_, _, _, _, gmtu⟩
    · exact ⟨_, _, _, _, gmin⟩
    · exact ⟨_, _, _, _, gmax⟩
    · exact ⟨_, _, _, _, gclock⟩)
  have heq : t = o.settings :=
    TransportSettings.ext (hgiven gpayloadType) (hgiven gmtu) (hgiven gmin) (hgiven gmax)
      (hgiven gclock)
  rwa [heq] at hread

end TransportSettings

/-! ## The section on the log -/

namespace LogSettings

/-- Each field fills its own place. -/
lemma places (lib : Library) :
    (record lib).Place "log_file_path" lib.string path ∧
    (record lib).Place "log_level" lib.string level ∧
    (record lib).Place "enable_console" lib.boolean toConsole ∧
    (record lib).Place "enable_file" lib.boolean toFile := by
  refine ⟨.at_index 0 rfl (fun _ _ => rfl) ?_, .at_index 1 rfl (fun _ _ => rfl) ?_,
    .at_index 2 rfl (fun _ _ => rfl) ?_, .at_index 3 rfl (fun _ _ => rfl) ?_⟩
  all_goals
    intro field hfield hne
    simp only [record, List.mem_cons, List.not_mem_nil, or_false] at hfield
    -- A field has this very name, or it puts its value somewhere else.
    rcases hfield with rfl | rfl | rfl | rfl
    all_goals first
      | exact absurd rfl hne
      | exact Field.keeps_of fun _ _ => rfl

/-- **The section on the log** is read as its defaults under what it gives. -/
theorem reads_section {lib : Library} (basics : lib.Basics) (derives : lib.Derives (record lib))
    (o : LogOverlay) (entries : List Entry) (pad : Blanks) (h : o.WrittenAs entries) :
    Reads (lib.derived (record lib)) (objectText entries pad) o.settings := by
  obtain ⟨hpath, hlevel, hconsole, hfile⟩ := places lib
  have gpath := Record.Given.mk hpath (h.path.mono basics.string)
  have glevel := Record.Given.mk hlevel (h.level.mono basics.string)
  have gconsole := Record.Given.mk hconsole (h.toConsole.mono basics.boolean)
  have gfile := Record.Given.mk hfile (h.toFile.mono basics.boolean)
  obtain ⟨l, hread, hgiven⟩ := derives.reads_given h.keyed pad (by
    intro name hname
    have hcases : name ∈ ["log_file_path", "log_level", "enable_console", "enable_file"] := hname
    simp only [List.mem_cons, List.not_mem_nil, or_false] at hcases
    rcases hcases with rfl | rfl | rfl | rfl
    · exact ⟨_, _, _, _, gpath⟩
    · exact ⟨_, _, _, _, glevel⟩
    · exact ⟨_, _, _, _, gconsole⟩
    · exact ⟨_, _, _, _, gfile⟩)
  have heq : l = o.settings :=
    LogSettings.ext (hgiven gpath) (hgiven glevel) (hgiven gconsole) (hgiven gfile)
  rwa [heq] at hread

end LogSettings

/-! ## The whole text -/

namespace Settings

/-- **What the settings rely on** in a JSON library. -/
structure ReliesOn (lib : Library) : Prop where
  basics : lib.Basics
  transport : lib.Derives (TransportSettings.record lib)
  log : lib.Derives (LogSettings.record lib)
  whole : lib.Derives (record lib)
  text : lib.Whole (lib.derived (record lib))

/-- The library that is used where no other is named does all of it. -/
theorem reliesOn_library : ReliesOn library where
  basics := basics_library
  transport := derives_library _
  log := derives_library _
  whole := derives_library _
  text := whole_library _

/-- Each section fills its own place. -/
lemma places (lib : Library) :
    (record lib).Place "transport" (lib.derived (TransportSettings.record lib)) transport ∧
    (record lib).Place "logging" (lib.derived (LogSettings.record lib)) log := by
  refine ⟨.at_index 0 rfl (fun _ _ => rfl) ?_, .at_index 1 rfl (fun _ _ => rfl) ?_⟩
  all_goals
    intro field hfield hne
    simp only [record, List.mem_cons, List.not_mem_nil, or_false] at hfield
    -- A field has this very name, or it puts its value somewhere else.
    rcases hfield with rfl | rfl
    all_goals first
      | exact absurd rfl hne
      | exact Field.keeps_of fun _ _ => rfl

variable {lib : Library}

/-- An object with the two sections is read as the defaults under what they give. -/
theorem reads_sections (relies : ReliesOn lib) (o : Overlay) (entries : List Entry) (pad : Blanks)
    (h : o.WrittenAs entries) :
    Reads (lib.derived (record lib)) (objectText entries pad) o.settings := by
  obtain ⟨htransport, hlog⟩ := places lib
  have gtransport := Record.Given.mk htransport
    (h.transport.map TransportOverlay.settings (by
      rintro _ t ⟨entries, pad, rfl, ht⟩
      exact TransportSettings.reads_section relies.basics relies.transport t entries pad ht))
  have glog := Record.Given.mk hlog
    (h.log.map LogOverlay.settings (by
      rintro _ l ⟨entries, pad, rfl, hl⟩
      exact LogSettings.reads_section relies.basics relies.log l entries pad hl))
  obtain ⟨s, hread, hgiven⟩ := relies.whole.reads_given h.keyed pad (by
    intro name hname
    have hcases : name ∈ ["transport", "logging"] := hname
    simp only [List.mem_cons, List.not_mem_nil, or_false] at hcases
    rcases hcases with rfl | rfl
    · exact ⟨_, _, _, _, gtransport⟩
    · exact ⟨_, _, _, _, glog⟩)
  have heq : s = o.settings :=
    Settings.ext
      ((hgiven gtransport).trans (Option.getD_map TransportOverlay.settings {} o.transport))
      ((hgiven glog).trans (Option.getD_map LogOverlay.settings {} o.log))
  rwa [heq] at hread

/-- **A text** is read as the defaults under what it gives. -/
theorem ofText_document (relies : ReliesOn lib) (d : Document) (o : Overlay)
    (h : o.WrittenAs d.entries) : ofText d.text lib = .ok o.settings := by
  have hread := reads_sections relies o d.entries d.pad h
  rw [ofText, parse, Document.text, relies.text d.before d.after _ _ hread]
  rfl

/-! ## The limits that follow -/

/-- A word holds no more nanoseconds than its largest number. -/
lemma toNat_nanosOfMillis (millis : UInt64) :
    (nanosOfMillis millis).toNat = min (millis.toNat * 1000000) 0xffffffffffffffff := by
  rw [nanosOfMillis, UInt64.ofNatClamp]
  split
  · next h =>
    have hle : millis.toNat * 1000000 ≤ 0xffffffffffffffff := Nat.le_of_lt_succ h
    exact UInt64.toNat_ofNatLT.trans (Nat.min_eq_left hle).symm
  · next h =>
    have hge : 0xffffffffffffffff ≤ millis.toNat * 1000000 :=
      Nat.le_of_succ_le (Nat.le_of_not_lt h)
    exact UInt64.toNat_ofNatLT.trans (Nat.min_eq_right hge).symm

lemma map_maxPtime_limits (s : Settings) :
    s.limits.maxPtime.map UInt64.toNat =
      s.transport.maxPtimeMillis.map fun millis =>
        min (millis.toNat * 1000000) 0xffffffffffffffff := by
  rw [limits, TransportSettings.limits]
  cases s.transport.maxPtimeMillis with
  | none => simp only [Option.map_none]
  | some millis => simp only [Option.map_some, toNat_nanosOfMillis]

/-- **A text that gives part of the settings** is read: what it gives is in force, and the default
where it gives nothing.  Every text that gives the same is read alike, in whatever order and with
whatever else it holds. -/
theorem ofText_partial (lib : Library) (relies : ReliesOn lib) (d : Document) (o : Overlay)
    (h : o.WrittenAs d.entries) :
    ofText d.text lib = .ok o.settings ∧
      (∀ d' : Document, o.WrittenAs d'.entries → ofText d'.text lib = ofText d.text lib) ∧
      o.settings.limits.payloadType = o.settings.transport.payloadType ∧
      o.settings.limits.mtu = o.settings.transport.mtu ∧
      o.settings.limits.clockRate = o.settings.transport.clockRate ∧
      o.settings.limits.minPtime.toNat =
        min (o.settings.transport.minPtimeMillis.toNat * 1000000) 0xffffffffffffffff ∧
      o.settings.limits.maxPtime.map UInt64.toNat =
        o.settings.transport.maxPtimeMillis.map fun millis =>
          min (millis.toNat * 1000000) 0xffffffffffffffff := by
  have hparse := ofText_document relies d o h
  exact ⟨hparse, fun d' h' => (ofText_document relies d' o h').trans hparse.symm, rfl, rfl, rfl,
    toNat_nanosOfMillis _, map_maxPtime_limits _⟩

/-! A text with a member that nobody knows in front of a section that is given in part; an escape
stands in the key of one of its fields. -/

namespace Sample

def note : Entry :=
  ⟨.none, "note".toList, .none, ⟨.space, listText
    [⟨.none, objectText
      [⟨.none, "a".toList, .none, ⟨.space, stringText "\\ud800".toList, .none⟩⟩] .none, .none⟩,
    ⟨.space, "-1.5e+3".toList, .none⟩] .none, .none⟩⟩

def mtu : Entry := ⟨.none, "mtu".toList, .none, ⟨.space, "1200".toList, .none⟩⟩

def maxPtime : Entry :=
  ⟨.space, "max_ptime_m\\u0073".toList, .none, ⟨.space, "null".toList, .none⟩⟩

def transport : Entry :=
  ⟨.space, "transport".toList, .none, ⟨.space, objectText [mtu, maxPtime] .none, .none⟩⟩

def document : Document := ⟨.none, [note, transport], .none, .none⟩

example : document.text =
    "\x7b\"note\": [\x7b\"a\": \"\\ud800\"\x7d, -1.5e+3], \"transport\": " ++
      "\x7b\"mtu\": 1200, \"max_ptime_m\\u0073\": null\x7d\x7d" := by
  decide

lemma note_names : note.Names "note" :=
  Spells.append_plain (s := "note".toList) (by decide) .nil

lemma mtu_names : mtu.Names "mtu" := Spells.append_plain (s := "mtu".toList) (by decide) .nil

lemma maxPtime_names : maxPtime.Names "max_ptime_ms" :=
  Spells.append_plain (s := "max_ptime_m".toList) (by decide)
    (.unit (.four (by decide : ('0', 0) ∈ hexForms) (by decide : ('0', 0) ∈ hexForms)
      (by decide : ('7', 7) ∈ hexForms) (by decide : ('3', 3) ∈ hexForms)) (by decide) .nil)

lemma transport_names : transport.Names "transport" :=
  Spells.append_plain (s := "transport".toList) (by decide) .nil

lemma wellFormed_note : WellFormed note.slot.value := by
  have hstring : WellFormed (stringText "\\ud800".toList) :=
    .string (.unit (.four (by decide : ('d', 13) ∈ hexForms) (by decide : ('8', 8) ∈ hexForms)
      (by decide : ('0', 0) ∈ hexForms) (by decide : ('0', 0) ∈ hexForms)) .nil)
  have hnumber : WellFormed "-1.5e+3".toList :=
    .number (.parts (w := ['1']) (f := ['.', '5']) (e := ['e', '+', '3'])
      (Or.inr rfl : ['-'] = [] ∨ ['-'] = ['-']) (.positive rfl (by decide) (List.forall_mem_nil _))
      (.point ⟨List.cons_ne_nil _ _, List.all_eq_true.mp rfl⟩)
      (.mark (Or.inl rfl) (Or.inr (Or.inl rfl) : ['+'] = [] ∨ ['+'] = ['+'] ∨ ['+'] = ['-'])
        ⟨List.cons_ne_nil _ _, List.all_eq_true.mp rfl⟩))
  refine .list ?_
  simp only [List.forall_mem_cons]
  refine ⟨.object ?_ ?_, hnumber, List.forall_mem_nil _⟩
  · simp only [List.forall_mem_cons]
    exact ⟨.plain (by decide) .nil, List.forall_mem_nil _⟩
  · simp only [List.forall_mem_cons]
    exact ⟨hstring, List.forall_mem_nil _⟩

lemma section_writtenAs :
    TransportOverlay.WrittenAs { mtu := some 1200, maxPtimeMillis := some none }
      [mtu, maxPtime] := by
  have habsent {key : String} (h1 : "mtu" ≠ key) (h2 : "max_ptime_ms" ≠ key) :
      ∀ e ∈ [mtu, maxPtime], ¬e.Names key := by
    simp only [List.forall_mem_cons]
    exact ⟨fun h => h1 (mtu_names.unique h), fun h => h2 (maxPtime_names.unique h),
      List.forall_mem_nil _⟩
  have hnumber : Decimal "1200".toList 1200 :=
    ⟨.positive (d := '1') rfl (by decide) (List.all_eq_true.mp rfl), by decide⟩
  refine ⟨⟨?_, List.pairwise_pair.mpr (.of_names mtu_names maxPtime_names (by decide))⟩,
    ?_, ?_, ?_, ?_, ?_⟩
  · simp only [List.forall_mem_cons]
    exact ⟨⟨_, mtu_names, Or.inl (by decide)⟩, ⟨_, maxPtime_names, Or.inl (by decide)⟩,
      List.forall_mem_nil _⟩
  · exact .absent (habsent (by decide) (by decide))
  · exact .present List.mem_cons_self mtu_names hnumber
  · exact .absent (habsent (by decide) (by decide))
  · exact .present (List.mem_cons_of_mem _ List.mem_cons_self) maxPtime_names .null
  · exact .absent (habsent (by decide) (by decide))

lemma document_writtenAs :
    Overlay.WrittenAs { transport := some { mtu := some 1200, maxPtimeMillis := some none } }
      document.entries := by
  refine ⟨⟨?_, List.pairwise_pair.mpr (.of_names note_names transport_names (by decide))⟩, ?_, ?_⟩
  · simp only [document, List.forall_mem_cons]
    exact ⟨⟨_, note_names, Or.inr wellFormed_note⟩,
      ⟨_, transport_names, Or.inl (by decide)⟩, List.forall_mem_nil _⟩
  · exact .present (List.mem_cons_of_mem _ List.mem_cons_self) transport_names
      ⟨_, _, rfl, section_writtenAs⟩
  · refine .absent ?_
    simp only [document, List.forall_mem_cons]
    exact ⟨fun h => absurd (note_names.unique h) (by decide),
      fun h => absurd (transport_names.unique h) (by decide), List.forall_mem_nil _⟩

end Sample

theorem ofText_partial_sample :
    ReliesOn library ∧
    Overlay.WrittenAs { transport := some { mtu := some 1200, maxPtimeMillis := some none } }
      Sample.document.entries ∧
    ofText Sample.document.text library = .ok { transport := { mtu := 1200 } } :=
  ⟨reliesOn_library, Sample.document_writtenAs,
    (ofText_partial library reliesOn_library Sample.document _ Sample.document_writtenAs).1⟩

end Settings

end CbrAudio
