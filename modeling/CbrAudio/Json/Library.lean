import CbrAudio.Json.Scan

/-!
# What a JSON library offers

The library that reads a text knows nothing of the records in it.  It is told what a record looks
like and makes a reader of that.  What the settings use of such a library is collected here, and
they can be read by any.

* `Reader` — a scanner that never lengthens the text, by type.
* `Field`, `Record` — **a record as it is declared**: the names of its fields, how their types are
  read, and what the fields hold that are not written.
* `Library` — **the library**: readers of the basic types, the reader that is made of a declaration,
  and the reading of a whole text.
-/

namespace CbrAudio.Json

variable {α β : Type}

/-- A scanner that never lengthens the text. -/
structure Reader (α : Type) where
  run : Scan α
  length_le : ∀ {s r : List Char} {a : α}, run s = .ok (a, r) → r.length ≤ s.length

/-- The value of a reader, changed by a function. -/
def Reader.map (f : α → β) (reader : Reader α) : Reader β where
  run s :=
    match reader.run s with
    | .error e => .error e
    | .ok (a, r) => .ok (f a, r)
  length_le {s r b} h := by
    split at h
    · cases h
    · next a t ht =>
      simp only [Except.ok.injEq, Prod.mk.injEq] at h
      obtain ⟨_, rfl⟩ := h
      exact reader.length_le ht

/-- A field of a record: the reader gives the change that its value makes. -/
structure Field (α : Type) where
  name : String
  change : Reader (α → α)

/-- The field `name`, whose value is put into the record by `put`. -/
def Field.of (name : String) (reader : Reader β) (put : β → α → α) : Field α :=
  ⟨name, reader.map put⟩

/-- A record as it is declared. -/
structure Record (α : Type) where
  /-- The name of the whole in messages. -/
  title : String
  /-- The record when nothing is written. -/
  blank : α
  fields : List (Field α)
  distinct : (fields.map Field.name).Nodup

def Record.names (record : Record α) : List String := record.fields.map Field.name

/-- A library, as far as the settings use one. -/
structure Library where
  byte : Reader UInt8
  word32 : Reader UInt32
  word64 : Reader UInt64
  /-- A word of 64 bits that is a size in memory; messages tell the two apart. -/
  size : Reader UInt64
  string : Reader String
  boolean : Reader Bool
  /-- The word `null`, or a value of another reader. -/
  optional : {β : Type} → Reader β → Reader (Option β)
  /-- The reader that is made of a declaration. -/
  derived : {α : Type} → Record α → Reader α
  /-- A whole text that is one value. -/
  fromText : {α : Type} → Reader α → String → Except Fault α

end CbrAudio.Json
