import CbrAudio.Json.Record
import CbrAudio.Proofs.Promises
import CbrAudio.Proofs.Skipping

/-!
# The promises are kept

The readers of this library do what a library is relied on to do.

* `reads_natural`, `reads_boolean`, `reads_string`, `reads_optional` — the readers of basic types.
* `Record.member_of_does` — **one member** is read as it is written, or skipped;
  `Record.members_following` is the run over the members after the first.
* **`Record.reads_object`** — an object is read as the blank record, changed by its members in turn.
* `basics_library`, `derives_library`, `whole_library` — the promises.
-/

namespace CbrAudio.Json

variable {α β : Type} {s rest v : List Char} {c : Char} {n : Nat}

/-! ## Values of one type -/

lemma reads_natural (expected : Expected) {bound : Nat} (h : Decimal v n) (hn : n ≤ bound)
    (hbound : bound ≤ Word.maxWord) : Reads (Reader.natural expected bound) v n := by
  intro before rest hrest
  obtain ⟨d, ds, rfl, hd⟩ := h.1.first
  have hread := number_of_decimal h (Nat.le_trans hn hbound) hrest
  simp only [Reader.natural, dropBlanks_append, List.cons_append,
    dropBlanks_cons (isBlank_of_isDigit hd), if_neg (ne_of_isDigit hd (d := '-') rfl), if_pos hd]
  rw [← List.cons_append, hread, Reader.natural.fit, if_pos hn]

lemma reads_boolean {b : Bool} (h : Flag v b) : Reads Reader.boolean v b := by
  intro before rest _
  rw [Flag] at h
  subst h
  cases b <;>
    simp [Reader.boolean, dropBlanks_append, dropBlanks_cons, isBlank, word]

lemma reads_string {t : String} (h : Quoted v t) : Reads Reader.string v t := by
  intro before rest _
  obtain ⟨body, rfl, hbody⟩ := h
  have htext := text_of_spells hbody rest
  simp only [Reader.string, dropBlanks_append, stringText, List.cons_append, List.append_assoc,
    List.nil_append]
  rw [dropBlanks_cons rfl]
  simp only [if_true, htext, String.ofList_toList]

lemma reads_optional {reader : Reader β} {form : List Char → β → Prop} {b : Option β}
    (hfirst : ∀ v b, form v b → ∃ c t, v = c :: t ∧ isBlank c = false ∧ c ≠ 'n')
    (hread : ∀ v b, form v b → Reads reader v b) (h : Nullable form v b) :
    Reads reader.optional v b := by
  intro before rest hrest
  cases h with
  | null => simp [Reader.optional, dropBlanks_append, dropBlanks_cons, isBlank, word]
  | @value v b h =>
    have hrun := hread v b h before rest hrest
    obtain ⟨c, t, rfl, hblank, hn⟩ := hfirst v b h
    simp only [Reader.optional, hrun, dropBlanks_append]
    rw [List.cons_append, dropBlanks_cons hblank]
    simp only [if_neg hn]

lemma reads_byte (v : List Char) (n : UInt8) (h : Decimal v n.toNat) :
    Reads library.byte v n := by
  have hle : n.toNat ≤ 0xff := Nat.le_of_lt_succ n.toNat_lt
  have hread := (reads_natural .byte h hle (by decide)).map UInt8.ofNat
  rwa [UInt8.ofNat_toNat] at hread

lemma reads_word32 (v : List Char) (n : UInt32) (h : Decimal v n.toNat) :
    Reads library.word32 v n := by
  have hle : n.toNat ≤ 0xffffffff := Nat.le_of_lt_succ n.toNat_lt
  have hread := (reads_natural .word32 h hle (by decide)).map UInt32.ofNat
  rwa [UInt32.ofNat_toNat] at hread

lemma reads_word64 (expected : Expected) (v : List Char) (n : UInt64) (h : Decimal v n.toNat) :
    Reads ((Reader.natural expected Word.maxWord).map UInt64.ofNat) v n := by
  have hle : n.toNat ≤ Word.maxWord := Nat.le_of_lt_succ n.toNat_lt
  have hread := (reads_natural expected h hle (Nat.le_refl _)).map UInt64.ofNat
  rwa [UInt64.ofNat_toNat] at hread

/-- **The basic types.** -/
theorem basics_library : library.Basics where
  byte := reads_byte
  word32 := reads_word32
  word64 := reads_word64 .word64
  size := reads_word64 .size
  string _ _ := reads_string
  boolean _ _ := reads_boolean
  optional _ _ h := by
    refine reads_optional (fun v n h => ?_) (reads_word64 .word64) h
    obtain ⟨d, ds, rfl, hd⟩ := h.1.first
    exact ⟨d, ds, rfl, isBlank_of_isDigit hd, ne_of_isDigit hd rfl⟩

/-! ## One member -/

namespace Record

variable {record : Record α} {field : Field α} {change : α → α} {m : Member α} {seen : List String}
  {a : α} {entries : List Entry} {key : String} {e : Entry}

lemma find?_eq_none (h : key ∉ record.names) : record.find? key.toList = none := by
  rw [find?, List.find?_eq_none]
  intro field hfield hname
  rw [beq_iff_eq, String.toList_inj] at hname
  exact h (hname ▸ List.mem_map_of_mem hfield)

lemma find?_of_mem (h : field ∈ record.fields) : record.find? field.name.toList = some field := by
  cases hfind : record.find? field.name.toList with
  | none =>
    have hall := List.find?_eq_none.mp hfind field h
    exact absurd (beq_self_eq_true _) hall
  | some field' =>
    have hname := List.find?_some hfind
    rw [beq_iff_eq, String.toList_inj] at hname
    have hmem := List.mem_of_find?_eq_some hfind
    rw [List.inj_on_of_nodup_map record.distinct hmem h hname]

/-- A member is read up to the blanks after its value, if its field has not been seen. -/
theorem member_of_does (h : Does record e change) (hseen : ∀ name ∈ seen, ¬e.Names name)
    (hs : Closes s) :
    ∃ field?, record.member seen (e.key ++ '"' :: (e.between.chars ++ ':' :: (e.slot.text ++ s))) =
        .ok (⟨field?, change⟩, e.slot.after.chars ++ s) ∧
      ∀ name ∈ field?, name ∈ record.names ∧ e.Names name := by
  cases h with
  | skipped names unknown h =>
    refine ⟨none, ?_, fun _ hname => by cases hname⟩
    simp only [member, text_of_spells names, find?_eq_none unknown, colon_append,
      skipValue_slot h hs]
  | @read field _ hfield names h =>
    have hnew : seen.contains field.name = false := by
      simpa using fun hmem => hseen field.name hmem names
    have hrun := h e.slot.before _ (hs.blanks e.slot.after)
    refine ⟨some field.name, ?_, fun name hname => ?_⟩
    · simp only [member, text_of_spells names, find?_of_mem hfield, hnew, colon_append, Slot.text,
        List.append_assoc, hrun, Bool.false_eq_true, if_false]
    · cases hname
      exact ⟨List.mem_map_of_mem hfield, names⟩

lemma members_closer {first : Bool} {t : List Char} (h : dropBlanks s = '\x7d' :: t) :
    record.members first seen a s = .ok (a, t) := by
  rw [members]
  split <;> rename_i h' <;> cases h.symm.trans h'
  rw [if_pos rfl]

lemma members_step {first : Bool} {t start : List Char} (h : dropBlanks s = c :: t)
    (hc : c ≠ '\x7d') (hkey : keyStart first c t = .ok start)
    (hm : record.member seen start = .ok (m, rest)) :
    record.members first seen a s =
      record.members false (m.field?.toList ++ seen) (m.change a) rest := by
  conv_lhs => rw [members]
  split <;> rename_i h' <;> cases h.symm.trans h'
  rw [if_neg hc]
  split <;> rename_i hkey' <;> cases hkey.symm.trans hkey'
  split <;> rename_i hm' <;> cases hm.symm.trans hm'
  rfl

/-! ## All members -/

/-- What stands at a key is its opening quote. -/
lemma dropBlanks_entry (e : Entry) (s : List Char) :
    dropBlanks (e.text ++ s) =
      '"' :: (e.key ++ '"' :: (e.between.chars ++ ':' :: (e.slot.text ++ s))) := by
  simp only [Entry.text, Entry.lead, stringText, List.append_assoc, List.cons_append,
    List.nil_append, dropBlanks_append]
  exact dropBlanks_cons rfl _

variable {does : Entry → α → α}

/-- A member that names another field than those before it names none that has been seen. -/
lemma not_names_of_apart {e' : Entry} {field? : Option String}
    (hseen : ∀ name ∈ seen, ¬e'.Names name)
    (hfield : ∀ name ∈ field?, name ∈ record.names ∧ e.Names name)
    (hapart : Apart record.names e e') : ∀ name ∈ field?.toList ++ seen, ¬e'.Names name := by
  intro name hname names'
  rw [List.mem_append, Option.mem_toList] at hname
  rcases hname with hname | hname
  · obtain ⟨hmem, names⟩ := hfield name hname
    exact hapart name hmem ⟨names, names'⟩
  · exact hseen name hname names'

/-- The members after the first one are read one by one. -/
lemma members_following (hdoes : ∀ e ∈ entries, Does record e (does e))
    (hseen : ∀ e ∈ entries, ∀ name ∈ seen, ¬e.Names name)
    (once : entries.Pairwise (Apart record.names)) (before pad : Blanks) (rest : List Char) :
    record.members false seen a
        (before.chars ++ following pad '\x7d' rest (entries.map Entry.text)) =
      .ok (entries.foldl (fun a e => does e a) a, rest) := by
  -- With every member another field has been seen, which none of the later ones names.
  induction entries generalizing before seen a with
  | nil =>
    apply members_closer
    rw [dropBlanks_append, List.map_nil, following, dropBlanks_append, dropBlanks_cons rfl]
  | cons e entries ih =>
    obtain ⟨hapart, once⟩ := List.pairwise_cons.mp once
    obtain ⟨field?, hmember, hfield⟩ := member_of_does (hdoes e List.mem_cons_self)
      (hseen e List.mem_cons_self) (closes_following .object pad rest (entries.map Entry.text))
    have hstart : keyStart false ',' (e.text ++ following pad '\x7d' rest (entries.map Entry.text))
        = .ok (e.key ++ '"' :: (e.between.chars ++ ':' ::
          (e.slot.text ++ following pad '\x7d' rest (entries.map Entry.text)))) := by
      simp only [keyStart, dropBlanks_entry, Bool.false_eq_true, if_false, if_true]
    rw [List.map_cons, following, members_step (by rw [dropBlanks_append, dropBlanks_cons rfl])
      (by decide) hstart hmember, List.foldl_cons]
    exact ih (fun e he => hdoes e (List.mem_cons_of_mem _ he))
      (fun e' he' => not_names_of_apart (hseen e' (List.mem_cons_of_mem _ he')) hfield
        (hapart e' he')) once _

/-- The members are read from the first one to the end of the object. -/
lemma members_object (hdoes : ∀ e ∈ entries, Does record e (does e))
    (once : entries.Pairwise (Apart record.names)) (pad : Blanks) (rest : List Char) :
    record.members true [] a
        ([','].intercalate (entries.map Entry.text) ++ pad.chars ++ ['\x7d'] ++ rest) =
      .ok (entries.foldl (fun a e => does e a) a, rest) := by
  cases entries with
  | nil =>
    apply members_closer
    rw [List.append_assoc, List.append_assoc]
    exact (dropBlanks_append pad _).trans (dropBlanks_cons rfl _)
  | cons e entries =>
    obtain ⟨hapart, once⟩ := List.pairwise_cons.mp once
    have hseen (e : Entry) : ∀ name ∈ ([] : List String), ¬e.Names name := List.forall_mem_nil _
    obtain ⟨field?, hmember, hfield⟩ := member_of_does (hdoes e List.mem_cons_self) (hseen e)
      (closes_following .object pad rest (entries.map Entry.text))
    rw [List.map_cons, intercalate_append, members_step (dropBlanks_entry e _) (by decide) rfl
      hmember, List.foldl_cons]
    exact members_following (fun e he => hdoes e (List.mem_cons_of_mem _ he))
      (fun e' he' => not_names_of_apart (hseen e') hfield (hapart e' he')) once _ pad rest

/-- **An object** is read as a record: its members change the blank record one after the other. -/
theorem reads_object (hdoes : ∀ e ∈ entries, Does record e (does e))
    (once : entries.Pairwise (Apart record.names)) (pad : Blanks) :
    Reads record.reader (objectText entries pad)
      (entries.foldl (fun a e => does e a) record.blank) := by
  intro before rest _
  have hopen : dropBlanks (before.chars ++ (objectText entries pad ++ rest)) =
      '\x7b' :: ([','].intercalate (entries.map Entry.text) ++ pad.chars ++ ['\x7d'] ++ rest) := by
    rw [dropBlanks_append, objectText]
    exact dropBlanks_cons rfl _
  simp only [reader, hopen]
  rw [if_neg (by decide)]
  exact (if_pos trivial).trans (members_object hdoes once pad rest)

/-- One more member at the end of an object does to the record what it does. -/
lemma reads_append {pad : Blanks} (suits : record.Suits entries)
    (hread : Reads record.reader (objectText entries pad) a) (hchange : Does record e change)
    (hapart : ∀ e' ∈ entries, Apart record.names e' e) :
    Reads record.reader (objectText (entries ++ [e]) pad) (change a) := by
  have both := suits.append hchange hapart
  obtain ⟨does, hdoes⟩ := both.exists_does
  have hfront := reads_object (fun e' he' => hdoes e' (List.mem_append_left _ he')) suits.once pad
  have hlast := hdoes e (List.mem_append_right _ (List.mem_singleton_self e))
  rw [hread.unique hfront, hchange.unique hlast]
  simpa using reads_object hdoes both.once pad

end Record

/-! ## Records and whole texts -/

/-- **Declared records.** -/
theorem derives_library (record : Record α) : library.Derives record where
  missing pad := by
    have hdoes : ∀ e ∈ [], record.Does e ((fun _ => id : Entry → α → α) e) := List.forall_mem_nil _
    exact Record.reads_object hdoes .nil pad
  unknown {entries pad a e key} suits hread names hkey hv := by
    refine Record.reads_append suits hread (.skipped names hkey hv) fun e' _ name hname h => ?_
    exact hkey (names.unique h.2 ▸ hname)
  known {entries pad a e field change} suits hread hfield names hnew hv := by
    refine Record.reads_append suits hread (.read hfield names hv) fun e' he' name _ h => ?_
    exact hnew e' he' (names.unique h.2 ▸ h.1)

/-- **A whole text.** -/
theorem whole_library (reader : Reader α) : library.Whole reader := by
  intro before after v a hread
  have hrun := hread before after.chars (Closes.of_blanks after)
  simp only [library, Reader.parse, String.toList_ofList, hrun, dropBlanks_blanks]

end CbrAudio.Json
