import CbrAudio.Json.Library
import CbrAudio.Proofs.Tokens
import Mathlib.Data.List.Induction
import Mathlib.Data.List.Nodup
import Mathlib.Data.List.Pairwise

/-!
# What a JSON library promises

The behaviour that a library is documented to have, as far as records with named fields rely on it,
and what follows from it for any such library.

* `Reads` — a reader finds a value in a text, with any blanks before it and any text that closes it.
* `Library.Basics` — **the basic types**: whole numbers, strings, truth values, `null`.
* `Record.Does`, `Record.Suits` — what one member of an object does to a record, and members that
  each do something.
* `Library.Derives` — **declared records**: fields that are missing keep what the blank record has,
  members that are not known are skipped, and a field gets what its member holds.
  `Derives.reads_members` is the run over all members, by induction from these three.
* `Library.Whole` — **a whole text**, with blanks around the value.
* `Record.Place` — where a field puts what it reads; no other field touches it.
* **`Derives.reads_given`** — in the end every place of a record has what the object gives for it,
  or what the blank record has; the order of the members is of no account.
-/

namespace CbrAudio.Json

variable {α β γ : Type} {v : List Char}

/-- A reader finds a value in a text, whatever blanks stand before it and whatever closes it.  So
the value may be a whole text, or part of a larger one. -/
def Reads (reader : Reader β) (v : List Char) (b : β) : Prop :=
  ∀ (before : Blanks) (rest : List Char), Closes rest →
    reader.run (before.chars ++ (v ++ rest)) = .ok (b, rest)

lemma Reads.unique {reader : Reader β} {b b' : β} (h : Reads reader v b) (h' : Reads reader v b') :
    b = b' := by
  have hb := (h .none [] closes_nil).symm.trans (h' .none [] closes_nil)
  cases hb
  rfl

lemma Reads.map {reader : Reader β} {b : β} (f : β → γ) (h : Reads reader v b) :
    Reads (reader.map f) v (f b) := by
  intro before rest hrest
  simp only [Reader.map, h before rest hrest]

/-! ## The promises -/

/-- **The basic types** are read from their written forms. -/
structure Library.Basics (lib : Library) : Prop where
  byte : ∀ (v : List Char) (n : UInt8), Decimal v n.toNat → Reads lib.byte v n
  word32 : ∀ (v : List Char) (n : UInt32), Decimal v n.toNat → Reads lib.word32 v n
  word64 : ∀ (v : List Char) (n : UInt64), Decimal v n.toNat → Reads lib.word64 v n
  size : ∀ (v : List Char) (n : UInt64), Decimal v n.toNat → Reads lib.size v n
  string : ∀ (v : List Char) (s : String), Quoted v s → Reads lib.string v s
  boolean : ∀ (v : List Char) (b : Bool), Flag v b → Reads lib.boolean v b
  optional : ∀ (v : List Char) (n : Option UInt64), Nullable (fun v n => Decimal v n.toNat) v n →
    Reads (lib.optional lib.word64) v n

namespace Record

/-- What one member of an object does to a record. -/
inductive Does (record : Record α) (e : Entry) : (α → α) → Prop
  /-- Nothing, if no field has its name. -/
  | skipped {key : String} (names : e.Names key) (unknown : key ∉ record.names)
      (h : WellFormed e.slot.value) : Does record e id
  | read {field : Field α} {change : α → α} (hfield : field ∈ record.fields)
      (names : e.Names field.name) (h : Reads field.change e.slot.value change) :
      Does record e change

/-- The members of an object suit a record: each of them does something, and no field has two. -/
structure Suits (record : Record α) (entries : List Entry) : Prop where
  does : ∀ e ∈ entries, ∃ change, record.Does e change
  once : entries.Pairwise (Apart record.names)

end Record

/-- **A declared record** is read member by member, in whatever order they stand. -/
structure Library.Derives (lib : Library) (record : Record α) : Prop where
  /-- Fields that are missing have what the blank record has. -/
  missing : ∀ pad : Blanks, Reads (lib.derived record) (objectText [] pad) record.blank
  /-- A member that no field has the name of is skipped, whatever its value. -/
  unknown : ∀ {entries : List Entry} {pad : Blanks} {a : α} {e : Entry} {key : String},
    record.Suits entries → Reads (lib.derived record) (objectText entries pad) a →
    e.Names key → key ∉ record.names → WellFormed e.slot.value →
    Reads (lib.derived record) (objectText (entries ++ [e]) pad) a
  /-- A field that has not been given yet takes what the member with its name holds. -/
  known : ∀ {entries : List Entry} {pad : Blanks} {a : α} {e : Entry} {field : Field α}
      {change : α → α},
    record.Suits entries → Reads (lib.derived record) (objectText entries pad) a →
    field ∈ record.fields → e.Names field.name → (∀ e' ∈ entries, ¬e'.Names field.name) →
    Reads field.change e.slot.value change →
    Reads (lib.derived record) (objectText (entries ++ [e]) pad) (change a)

/-- **A whole text** may have blanks around its value. -/
def Library.Whole (lib : Library) (reader : Reader α) : Prop :=
  ∀ (before after : Blanks) (v : List Char) (a : α), Reads reader v a →
    lib.fromText reader (String.ofList (before.chars ++ (v ++ after.chars))) = .ok a

/-! ## Keys -/

variable {entries : List Entry} {known : List String} {key key' : String} {e : Entry}
  {form : List Char → β → Prop} {o : Option β}

lemma Entry.Names.unique (h : e.Names key) (h' : e.Names key') : key = key' :=
  String.toList_inj.mp (Spells.unique h h')

instance : Std.Symm (Apart known) where
  symm _ _ h key hkey := fun ⟨h1, h2⟩ => h key hkey ⟨h2, h1⟩

lemma Apart.of_names {e' : Entry} (h : e.Names key) (h' : e'.Names key') (hne : key ≠ key') :
    Apart known e e' := by
  rintro name - ⟨hname, hname'⟩
  exact hne ((h.unique hname).trans (hname'.unique h'))

/-- What an object holds in one form it holds in another that follows from it. -/
lemma Holds.map {form' : List Char → γ → Prop} (f : β → γ) (h : ∀ v b, form v b → form' v (f b))
    (ho : Holds entries key form o) : Holds entries key form' (o.map f) := by
  cases ho with
  | absent habsent => exact .absent habsent
  | present he names hb => exact .present he names (h _ _ hb)

lemma Holds.mono {form' : List Char → β → Prop} (h : ∀ v b, form v b → form' v b)
    (ho : Holds entries key form o) : Holds entries key form' o := by
  simpa using ho.map id h

/-- The member with a known key has the value that the object holds. -/
lemma Holds.value (ho : Holds entries key form o) (once : entries.Pairwise (Apart known))
    (hkey : key ∈ known) (he : e ∈ entries) (names : e.Names key) :
    ∃ b, form e.slot.value b ∧ o = some b := by
  cases ho with
  | absent h => exact absurd names (h e he)
  | @present e' b he' names' hb =>
    have heq : e = e' := by
      by_contra hne
      exact once.forall he he' hne key hkey ⟨names, names'⟩
    exact ⟨b, heq ▸ hb, rfl⟩

/-! ## All members -/

variable {lib : Library} {record : Record α} {does : Entry → α → α}

/-- A member does one thing only: its key has one meaning, and no two fields have it as name. -/
lemma Record.Does.unique {change change' : α → α} (h : Does record e change)
    (h' : Does record e change') : change = change' := by
  cases h with
  | skipped names unknown _ =>
    cases h' with
    | skipped => rfl
    | read hfield names' _ =>
      rw [names.unique names'] at unknown
      exact absurd (List.mem_map_of_mem hfield) unknown
  | read hfield names hread =>
    cases h' with
    | skipped names' unknown _ =>
      rw [names'.unique names] at unknown
      exact absurd (List.mem_map_of_mem hfield) unknown
    | read hfield' names' hread' =>
      obtain rfl := List.inj_on_of_nodup_map record.distinct hfield hfield' (names.unique names')
      exact hread.unique hread'

/-- What the members do, as a function of the members. -/
lemma Record.Suits.exists_does (suits : record.Suits entries) :
    ∃ does : Entry → α → α, ∀ e ∈ entries, record.Does e (does e) := by
  have hall : ∀ e, ∃ change, e ∈ entries → record.Does e change := by
    intro e
    by_cases he : e ∈ entries
    · obtain ⟨change, hchange⟩ := suits.does e he
      exact ⟨change, fun _ => hchange⟩
    · exact ⟨id, fun h => absurd h he⟩
  choose does hdoes using hall
  exact ⟨does, hdoes⟩

lemma Record.Suits.append {change : α → α} (suits : record.Suits entries)
    (hchange : record.Does e change) (hapart : ∀ e' ∈ entries, Apart record.names e' e) :
    record.Suits (entries ++ [e]) where
  does := by
    rw [List.forall_mem_append, List.forall_mem_singleton]
    exact ⟨suits.does, _, hchange⟩
  once := by
    refine List.pairwise_append.mpr ⟨suits.once, List.pairwise_singleton _ _, fun e' he' => ?_⟩
    rw [List.forall_mem_singleton]
    exact hapart e' he'

namespace Library

/-- **An object** is read as a record: its members change the blank record one after the other. -/
theorem Derives.reads_members (h : lib.Derives record)
    (hdoes : ∀ e ∈ entries, record.Does e (does e))
    (once : entries.Pairwise (Apart record.names)) (pad : Blanks) :
    Reads (lib.derived record) (objectText entries pad)
      (entries.foldl (fun a e => does e a) record.blank) := by
  -- The promises speak of one more member at the end.
  induction entries using List.reverseRecOn with
  | nil => exact h.missing pad
  | append_singleton entries e ih =>
    have hfront : ∀ e' ∈ entries, record.Does e' (does e') := fun e' he' =>
      hdoes e' (List.mem_append_left _ he')
    obtain ⟨honce, -, hapart⟩ := List.pairwise_append.mp once
    have suits : record.Suits entries := ⟨fun e' he' => ⟨_, hfront e' he'⟩, honce⟩
    have hread := ih hfront honce
    have hlast := hdoes e (List.mem_append_right _ (List.mem_singleton_self e))
    rw [List.foldl_append, List.foldl_cons, List.foldl_nil]
    generalize does e = change at hlast
    cases hlast with
    | skipped names unknown hv => exact h.unknown suits hread names unknown hv
    | read hfield names hv =>
      refine h.known suits hread hfield names (fun e' he' names' => ?_) hv
      exact hapart e' he' e (List.mem_singleton_self e) _ (List.mem_map_of_mem hfield)
        ⟨names', names⟩

end Library

/-! ## Places -/

/-- A field leaves a part of the record alone. -/
def Field.Keeps (field : Field α) (get : α → β) : Prop :=
  ∀ (v : List Char) (change : α → α), Reads field.change v change → ∀ a, get (change a) = get a

lemma Field.keeps_of {name : String} {reader : Reader γ} {put : γ → α → α} {get : α → β}
    (h : ∀ c a, get (put c a) = get a) : (Field.of name reader put).Keeps get := by
  intro v change hread a
  have hrun := hread .none [] closes_nil
  simp only [Field.of, Reader.map] at hrun
  split at hrun
  · cases hrun
  · cases hrun
    exact h _ a

namespace Record

variable {name : String} {reader : Reader β} {get : α → β} {change : α → α}

/-- A field of a record, with the place that it fills: no other field touches this place. -/
structure Place (record : Record α) (name : String) (reader : Reader β) (get : α → β) : Prop where
  puts : ∃ put, Field.of name reader put ∈ record.fields ∧ ∀ b a, get (put b a) = b
  keeps : ∀ field ∈ record.fields, field.name ≠ name → field.Keeps get

/-- The field at an index fills a place. -/
lemma Place.at_index {put : β → α → α} (i : ℕ)
    (hfield : record.fields[i]? = some (.of name reader put)) (hput : ∀ b a, get (put b a) = b)
    (keeps : ∀ field ∈ record.fields, field.name ≠ name → field.Keeps get) :
    Place record name reader get :=
  ⟨⟨put, List.mem_of_getElem? hfield, hput⟩, keeps⟩

lemma Place.mem_names (place : Place record name reader get) : name ∈ record.names := by
  obtain ⟨put, hmem, -⟩ := place.puts
  exact List.mem_map_of_mem (f := Field.name) hmem

lemma Place.get_does (place : Place record name reader get) {b : β} (names : e.Names name)
    (h : Reads reader e.slot.value b) (hdoes : Does record e change) (a : α) :
    get (change a) = b := by
  obtain ⟨put, hmem, hput⟩ := place.puts
  rw [hdoes.unique (.read hmem names (h.map put))]
  exact hput b a

lemma Place.get_does_of_ne (place : Place record name reader get) (names : ¬e.Names name)
    (hdoes : Does record e change) (a : α) : get (change a) = get a := by
  cases hdoes with
  | skipped => rfl
  | read hfield names' hread =>
    refine place.keeps _ hfield ?_ _ _ hread a
    rintro rfl
    exact names names'

lemma Place.get_foldl_of_ne (place : Place record name reader get)
    (hdoes : ∀ e ∈ entries, Does record e (does e)) (names : ∀ e ∈ entries, ¬e.Names name) (a : α) :
    get (entries.foldl (fun a e => does e a) a) = get a := by
  induction entries generalizing a with
  | nil => rfl
  | cons e entries ih =>
    rw [List.foldl_cons, ih (fun e he => hdoes e (List.mem_cons_of_mem _ he))
      (fun e he => names e (List.mem_cons_of_mem _ he))]
    exact place.get_does_of_ne (names e List.mem_cons_self) (hdoes e List.mem_cons_self) a

/-- What an object gives for a place of a record, if it gives anything there. -/
structure Given (record : Record α) (entries : List Entry) (name : String) (reader : Reader β)
    (get : α → β) (o : Option β) : Prop where
  place : Place record name reader get
  holds : Holds entries name (Reads reader) o

/-- A place has what the object gives for it, or what was there before. -/
lemma Given.get_foldl (given : Given record entries name reader get o)
    (hdoes : ∀ e ∈ entries, Does record e (does e))
    (once : entries.Pairwise (Apart record.names)) (a : α) :
    get (entries.foldl (fun a e => does e a) a) = o.getD (get a) := by
  obtain ⟨place, holds⟩ := given
  cases holds with
  | absent h => exact place.get_foldl_of_ne hdoes h a
  | present he names hb =>
    obtain ⟨front, back, rfl⟩ := List.append_of_mem he
    -- What comes later has other keys, so the value stays.
    have hback : ∀ e' ∈ back, ¬e'.Names name := by
      intro e' he' names'
      have hapart := (List.pairwise_cons.mp (List.pairwise_append.mp once).2.1).1 e' he'
      exact hapart name place.mem_names ⟨names, names'⟩
    rw [List.foldl_append, List.foldl_cons, place.get_foldl_of_ne
      (fun e' he' => hdoes e' (List.mem_append_right _ (List.mem_cons_of_mem _ he'))) hback]
    exact place.get_does names hb (hdoes _ he) _

/-- A value under the name of a field is read. -/
lemma Given.exists_does (given : Given record entries name reader get o)
    (once : entries.Pairwise (Apart record.names)) (he : e ∈ entries) (names : e.Names name) :
    ∃ change, Does record e change := by
  obtain ⟨put, hmem, -⟩ := given.place.puts
  obtain ⟨b, h, -⟩ := given.holds.value once given.place.mem_names he names
  exact ⟨_, .read hmem names (h.map put)⟩

end Record

/-- **A record from an object.**  If what the object holds under the name of each field can be
read, the object is read as a record, and each place of it has what the object gives for it, or what
the blank record has there. -/
theorem Library.Derives.reads_given (h : lib.Derives record) (keyed : Keyed record.names entries)
    (pad : Blanks)
    (given : ∀ name ∈ record.names, ∃ (β : Type) (reader : Reader β) (get : α → β) (o : Option β),
      record.Given entries name reader get o) :
    ∃ a, Reads (lib.derived record) (objectText entries pad) a ∧
      ∀ {β : Type} {name : String} {reader : Reader β} {get : α → β} {o : Option β},
        record.Given entries name reader get o → get a = o.getD (get record.blank) := by
  have suits : record.Suits entries := by
    refine ⟨fun e he => ?_, keyed.once⟩
    obtain ⟨key, names, hkey⟩ := keyed.valid e he
    by_cases hmem : key ∈ record.names
    · obtain ⟨_, _, _, _, hgiven⟩ := given key hmem
      exact hgiven.exists_does keyed.once he names
    · exact ⟨id, .skipped names hmem (hkey.resolve_left hmem)⟩
  obtain ⟨does, hdoes⟩ := suits.exists_does
  exact ⟨_, h.reads_members hdoes suits.once pad, fun hgiven => hgiven.get_foldl hdoes suits.once _⟩

end CbrAudio.Json
