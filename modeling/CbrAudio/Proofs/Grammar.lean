import CbrAudio.Json.Scan
import Mathlib.Data.List.Basic
import Mathlib.Tactic.Conv

/-!
# The written form of JSON values

What a value may look like, said of its characters alone and not of the scanners that step over
them.

* `Blanks` — what may stand between two tokens.  `Closes` — what may stand after a value.
* `Spells` — **a string and its meaning**: the characters between the quotes, and the characters
  that they mean.  Two escapes that form a pair mean one character.
* `StringBody` — the characters between the quotes of a string whose meaning nobody asks for; an
  escape that is half of a pair may stand alone there.
* `Whole`, `Numeral` — whole numbers as digits, and numbers in general.
* `Slot`, `Entry` — a value with the blanks around it, and a member of an object.
* `listText`, `objectText` — lists and objects put together from their parts.
* `WellFormed` — **any value**, of any depth.
* `Decimal`, `Flag`, `Quoted`, `Nullable` — values of one type, with the value that they hold.
* `Keyed`, `Holds` — an object by its keys: every key is a string and none of the known ones stands
  twice; and **what it holds** under one of them, if anything.
-/

namespace CbrAudio.Json

/-- Blanks between two tokens. -/
structure Blanks where
  chars : List Char
  blank : ∀ c ∈ chars, isBlank c = true

namespace Blanks

def none : Blanks := ⟨[], List.forall_mem_nil _⟩

def space : Blanks := ⟨[' '], List.all_eq_true.mp rfl⟩

end Blanks

/-- The text ends here, or goes on with what may stand after a value. -/
def Closes (s : List Char) : Prop :=
  ∀ c ∈ s.head?, isBlank c = true ∨ c = ',' ∨ c = ']' ∨ c = '\x7d'

lemma closes_nil : Closes [] := by
  intro c h
  cases h

lemma closes_cons {c : Char} (s : List Char) (h : c = ',' ∨ c = ']' ∨ c = '\x7d') :
    Closes (c :: s) := by
  intro d hd
  cases hd
  exact Or.inr h

/-- Blanks do not keep a text from closing a value. -/
lemma Closes.blanks {s : List Char} (b : Blanks) (h : Closes s) : Closes (b.chars ++ s) := by
  obtain ⟨chars, blank⟩ := b
  cases chars with
  | nil => exact h
  | cons c chars =>
    intro d hd
    cases hd
    exact Or.inl (blank c List.mem_cons_self)

lemma Closes.of_blanks (b : Blanks) : Closes b.chars := by
  have h := closes_nil.blanks b
  rwa [List.append_nil] at h

/-! ## Strings -/

/-- The letters that make an escape after a backslash, and the characters they mean. -/
def shortForms : List (Char × Char) :=
  [('"', '"'), ('\\', '\\'), ('/', '/'), ('b', '\x08'), ('f', '\x0c'), ('n', '\n'), ('r', '\r'),
    ('t', '\t')]

/-- The hexadecimal digits and their values. -/
def hexForms : List (Char × Nat) :=
  ['0', '1', '2', '3', '4', '5', '6', '7', '8', '9', 'a', 'b', 'c', 'd', 'e', 'f'].zipIdx
    ++ ['A', 'B', 'C', 'D', 'E', 'F'].zipIdx 10

/-- Four hexadecimal digits that write a number. -/
inductive Hex : List Char → Nat → Prop
  | four {a b c d : Char} {x y z w : Nat} (ha : (a, x) ∈ hexForms) (hb : (b, y) ∈ hexForms)
      (hc : (c, z) ∈ hexForms) (hd : (d, w) ∈ hexForms) :
      Hex [a, b, c, d] (x * 0x1000 + y * 0x100 + z * 0x10 + w)

/-- A character that means itself in a string. -/
def Plain (c : Char) : Prop := c ≠ '"' ∧ c ≠ '\\' ∧ 0x20 ≤ c.toNat

/-- What the characters between the quotes of a string mean. -/
inductive Spells : List Char → List Char → Prop
  | nil : Spells [] []
  | plain {c : Char} {w v : List Char} (hc : Plain c) (rest : Spells w v) : Spells (c :: w) (c :: v)
  | short {l c : Char} {w v : List Char} (h : (l, c) ∈ shortForms) (rest : Spells w v) :
      Spells ('\\' :: l :: w) (c :: v)
  /-- A number that is not half of a pair. -/
  | unit {digits w v : List Char} {n : Nat} (h : Hex digits n) (scalar : n < 0xD800 ∨ 0xDFFF < n)
      (rest : Spells w v) : Spells ('\\' :: 'u' :: digits ++ w) (Char.ofNat n :: v)
  /-- A pair: each half carries ten bits of what lies above the first 65536 characters. -/
  | pair {high low w v : List Char} {m n : Nat} (hm : Hex high m) (hn : Hex low n)
      (upper : 0xD800 ≤ m ∧ m ≤ 0xDBFF) (lower : 0xDC00 ≤ n ∧ n ≤ 0xDFFF) (rest : Spells w v) :
      Spells ('\\' :: 'u' :: high ++ '\\' :: 'u' :: low ++ w)
        (Char.ofNat (0x10000 + (m - 0xD800) * 0x400 + (n - 0xDC00)) :: v)

instance : DecidablePred Plain := fun c =>
  inferInstanceAs (Decidable (c ≠ '"' ∧ c ≠ '\\' ∧ 0x20 ≤ c.toNat))

/-- Characters that mean themselves may stand in front of anything. -/
lemma Spells.append_plain {s w v : List Char} (h : s.all (Plain ·)) (rest : Spells w v) :
    Spells (s ++ w) (s ++ v) := by
  induction s with
  | nil => exact rest
  | cons c s ih =>
    rw [List.all_cons, Bool.and_eq_true, decide_eq_true_eq] at h
    exact .plain h.1 (ih h.2)

/-- The characters between the quotes of a string, escape by escape. -/
inductive StringBody : List Char → Prop
  | nil : StringBody []
  | plain {c : Char} {w : List Char} (hc : Plain c) (rest : StringBody w) : StringBody (c :: w)
  | short {l c : Char} {w : List Char} (h : (l, c) ∈ shortForms) (rest : StringBody w) :
      StringBody ('\\' :: l :: w)
  | unit {digits w : List Char} {n : Nat} (h : Hex digits n) (rest : StringBody w) :
      StringBody ('\\' :: 'u' :: digits ++ w)

/-- A string with its quotes. -/
def stringText (body : List Char) : List Char := '"' :: body ++ ['"']

/-! ## Numbers -/

/-- A whole number as digits.  Only zero begins with a zero. -/
inductive Whole : List Char → Prop
  | zero : Whole ['0']
  | positive {d : Char} {ds : List Char} (hd : d.isDigit = true) (h0 : d ≠ '0')
      (hds : ∀ c ∈ ds, c.isDigit = true) : Whole (d :: ds)

/-- Digits in any number but none. -/
def Digits (s : List Char) : Prop := s ≠ [] ∧ ∀ c ∈ s, c.isDigit = true

/-- The part of a number from its point on. -/
inductive Fraction : List Char → Prop
  | none : Fraction []
  | point {ds : List Char} (h : Digits ds) : Fraction ('.' :: ds)

/-- The part of a number from the mark of its exponent on. -/
inductive Exponent : List Char → Prop
  | none : Exponent []
  | mark {e : Char} {sign ds : List Char} (he : e = 'e' ∨ e = 'E')
      (hsign : sign = [] ∨ sign = ['+'] ∨ sign = ['-']) (h : Digits ds) :
      Exponent (e :: sign ++ ds)

/-- A number, of any size. -/
inductive Numeral : List Char → Prop
  | parts {sign w f e : List Char} (hsign : sign = [] ∨ sign = ['-']) (hw : Whole w)
      (hf : Fraction f) (he : Exponent e) : Numeral (sign ++ w ++ f ++ e)

/-! ## Lists and objects -/

/-- A value with the blanks around it. -/
structure Slot where
  before : Blanks
  value : List Char
  after : Blanks

def Slot.text (slot : Slot) : List Char := slot.before.chars ++ slot.value ++ slot.after.chars

/-- A member of an object; `key` is what stands between the quotes of its key. -/
structure Entry where
  before : Blanks
  key : List Char
  between : Blanks
  slot : Slot

/-- What stands in front of the value of a member. -/
def Entry.lead (entry : Entry) : List Char :=
  entry.before.chars ++ stringText entry.key ++ entry.between.chars ++ [':']

def Entry.text (entry : Entry) : List Char := entry.lead ++ entry.slot.text

/-- A list; `pad` stands before its closing bracket. -/
def listText (slots : List Slot) (pad : Blanks) : List Char :=
  '[' :: [','].intercalate (slots.map Slot.text) ++ pad.chars ++ [']']

/-- An object; `pad` stands before its closing bracket. -/
def objectText (entries : List Entry) (pad : Blanks) : List Char :=
  '\x7b' :: [','].intercalate (entries.map Entry.text) ++ pad.chars ++ ['\x7d']

/-- The words that are values. -/
def words : List (List Char) :=
  [['n', 'u', 'l', 'l'], ['t', 'r', 'u', 'e'], ['f', 'a', 'l', 's', 'e']]

/-- **Any value.** -/
inductive WellFormed : List Char → Prop
  | word {w : List Char} (h : w ∈ words) : WellFormed w
  | number {s : List Char} (h : Numeral s) : WellFormed s
  | string {body : List Char} (h : StringBody body) : WellFormed (stringText body)
  | list {slots : List Slot} {pad : Blanks} (h : ∀ slot ∈ slots, WellFormed slot.value) :
      WellFormed (listText slots pad)
  | object {entries : List Entry} {pad : Blanks} (keys : ∀ e ∈ entries, StringBody e.key)
      (h : ∀ e ∈ entries, WellFormed e.slot.value) : WellFormed (objectText entries pad)

/-! ## Values of one type -/

variable {β : Type}

/-- The natural number `n` as digits.  There is no sign, so what `-0` writes is not one. -/
def Decimal (v : List Char) (n : Nat) : Prop := Whole v ∧ Nat.ofDigitChars 10 v 0 = n

/-- One of the words `true` and `false`. -/
def Flag (v : List Char) (b : Bool) : Prop :=
  v = if b then ['t', 'r', 'u', 'e'] else ['f', 'a', 'l', 's', 'e']

/-- A string that means `s`. -/
def Quoted (v : List Char) (s : String) : Prop := ∃ body, v = stringText body ∧ Spells body s.toList

/-- The word `null`, or a value of another form. -/
inductive Nullable (form : List Char → β → Prop) : List Char → Option β → Prop
  | null : Nullable form ['n', 'u', 'l', 'l'] none
  | value {v : List Char} {b : β} (h : form v b) : Nullable form v (some b)

/-! ## Objects by their keys -/

/-- The key of a member means `key`. -/
def Entry.Names (e : Entry) (key : String) : Prop := Spells e.key key.toList

/-- Two members that do not both have the same known key. -/
def Apart (known : List String) (e e' : Entry) : Prop :=
  ∀ key ∈ known, ¬(e.Names key ∧ e'.Names key)

/-- Every key is a string, a value under a key that is not known is any value, and no known key
stands twice. -/
structure Keyed (known : List String) (entries : List Entry) : Prop where
  valid : ∀ e ∈ entries, ∃ key, e.Names key ∧ (key ∈ known ∨ WellFormed e.slot.value)
  once : entries.Pairwise (Apart known)

/-- **What an object holds** under a key: nothing, or a value of a form. -/
inductive Holds (entries : List Entry) (key : String) (form : List Char → β → Prop) :
    Option β → Prop
  | absent (h : ∀ e ∈ entries, ¬e.Names key) : Holds entries key form none
  | present {e : Entry} {b : β} (he : e ∈ entries) (names : e.Names key)
      (h : form e.slot.value b) : Holds entries key form (some b)

end CbrAudio.Json
