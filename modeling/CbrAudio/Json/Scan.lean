import CbrAudio.Json.Fault

/-!
# Stepping over a JSON text

A scanner takes the text that is left and gives back what is left after it, or the first fault.
Every scanner of this library comes with the lemma that it never lengthens the text; that is what
ends the loops built from them.

* `Scan` — the type of a scanner that finds a value.
* `dropBlanks` — blanks stand between any two tokens.
* `word` — the rest of `null`, `true` or `false` after its first letter.
* `colon` — the mark between a key and its value.
-/

namespace CbrAudio.Json

/-- What a scanner finds at the start of a text, and the text after it. -/
abbrev Scan (α : Type) := List Char → Except Fault (α × List Char)

/-- Space, tab, line feed and carriage return may stand between tokens. -/
def isBlank (c : Char) : Bool := c = ' ' || c = '\t' || c = '\n' || c = '\r'

def dropBlanks (s : List Char) : List Char := s.dropWhile isBlank

theorem length_dropBlanks_le (s : List Char) : (dropBlanks s).length ≤ s.length :=
  (List.dropWhile_suffix isBlank).length_le

/-- What follows the blanks is shorter than the text by at least the character in front of it. -/
theorem length_lt_of_dropBlanks {s r : List Char} {c : Char} (h : dropBlanks s = c :: r) :
    r.length < s.length := by
  have := length_dropBlanks_le s
  rw [h] at this
  exact this

/-- The letters that finish a word that has begun. -/
def word : List Char → List Char → Except Fault (List Char)
  | [], s => .ok s
  | _ :: _, [] => .error .endInValue
  | w :: ws, c :: s => if c = w then word ws s else .error .expectedWord

theorem length_word_le {ws s r : List Char} (h : word ws s = .ok r) : r.length ≤ s.length := by
  induction ws generalizing s with
  | nil => cases h; exact Nat.le_refl _
  | cons w ws ih =>
    cases s with
    | nil => cases h
    | cons c s =>
      rw [word] at h
      split at h
      · exact Nat.le_succ_of_le (ih h)
      · cases h

/-- The colon after a key, with the blanks in front of it. -/
def colon (s : List Char) : Except Fault (List Char) :=
  match dropBlanks s with
  | [] => .error .endInObject
  | c :: r => if c = ':' then .ok r else .error .expectedColon

theorem length_colon_lt {s r : List Char} (h : colon s = .ok r) : r.length < s.length := by
  rw [colon] at h
  split at h
  · cases h
  · next c t ht =>
    split at h
    · cases h; exact length_lt_of_dropBlanks ht
    · cases h

end CbrAudio.Json
