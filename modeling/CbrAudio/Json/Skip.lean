import CbrAudio.Json.Text
import CbrAudio.Json.Number

/-!
# Skipping a value

The value of a member nobody asks for must be well formed, but is not kept, so brackets may be
nested to any depth: the open ones stand on a stack, and one loop serves all depths.

* `Bracket` — an open list or object.
* `Stage` — **where skipping stands**: before a value, after an opening bracket, after a value.
* `skipScalar` — the end of a value without brackets.
* `skipFrom` — the loop.
* `skipValue` — the end of one value.
-/

namespace CbrAudio.Json

/-- An open list or object. -/
inductive Bracket where
  | list
  | object
  deriving DecidableEq, Repr

namespace Bracket

def closer : Bracket → Char
  | .list => ']'
  | .object => '\x7d'

/-- The text ends inside the bracket. -/
def endFault : Bracket → Fault
  | .list => .endInList
  | .object => .endInObject

/-- Something else than a comma or the closing bracket stands after a value. -/
def commaFault : Bracket → Fault
  | .list => .expectedCommaOrListEnd
  | .object => .expectedCommaOrObjectEnd

end Bracket

/-- Where skipping stands. -/
inductive Stage where
  /-- A value is due. -/
  | before
  /-- A bracket has been opened. -/
  | opened (bracket : Bracket)
  /-- A value has ended. -/
  | after
  deriving DecidableEq, Repr

/-- The end of a value that begins with `c` and has no brackets. -/
def skipScalar (c : Char) (s : List Char) : Except Fault (List Char) :=
  if c = 'n' then word ['u', 'l', 'l'] s
  else if c = 't' then word ['r', 'u', 'e'] s
  else if c = 'f' then word ['a', 'l', 's', 'e'] s
  else if c = '"' then skipText s
  else if c = '-' then skipNumber s
  else if c.isDigit then skipNumber (c :: s)
  else .error .expectedValue

theorem length_skipScalar_le {c : Char} {s r : List Char} (h : skipScalar c s = .ok r) :
    r.length ≤ s.length := by
  rw [skipScalar] at h
  repeat' split at h
  · exact length_word_le h
  · exact length_word_le h
  · exact length_word_le h
  · exact Nat.le_of_lt (length_skipText_lt h)
  · exact Nat.le_of_lt (length_skipNumber_lt h)
  · exact Nat.le_of_lt_succ (length_skipNumber_lt h)
  · cases h

/-- What stands in front of the next value of a bracket: in an object its key and a colon. -/
def skipKey (bracket : Bracket) (s : List Char) : Except Fault (List Char) :=
  match bracket with
  | .list => .ok s
  | .object =>
    match dropBlanks s with
    | [] => .error .endInObject
    | c :: r =>
      if c = '"' then
        match skipText r with
        | .error f => .error f
        | .ok r => colon r
      else .error .keyNotString

theorem length_skipKey_le {bracket : Bracket} {s r : List Char} (h : skipKey bracket s = .ok r) :
    r.length ≤ s.length := by
  simp only [skipKey] at h
  split at h
  · cases h; exact Nat.le_refl _
  · split at h
    · cases h
    · next c t ht =>
      split at h
      · split at h
        · cases h
        · next u hu =>
          have h1 := length_lt_of_dropBlanks ht
          have h2 := length_skipText_lt hu
          have h3 := length_colon_lt h
          omega
      · cases h

/-- A step that looks again at the same text counts less than one that reads on. -/
def Stage.weight : Stage → Nat
  | .opened _ => 1
  | _ => 0

/-- Skips on until no bracket is open: `open` brackets surround the place. -/
def skipFrom (stage : Stage) (brackets : List Bracket) (s : List Char) :
    Except Fault (List Char) :=
  match stage, brackets with
  | .before, _ =>
    match _hs : dropBlanks s with
    | [] => .error .endInValue
    | c :: r =>
      if c = '[' then skipFrom (.opened .list) brackets r
      else if c = '\x7b' then skipFrom (.opened .object) brackets r
      else
        match _hr : skipScalar c r with
        | .error f => .error f
        | .ok t => skipFrom .after brackets t
  | .opened bracket, _ =>
    match _hs : dropBlanks s with
    | [] => .error bracket.endFault
    | c :: r =>
      if c = bracket.closer then skipFrom .after brackets r
      else
        match _hr : skipKey bracket (c :: r) with
        | .error f => .error f
        | .ok t => skipFrom .before (bracket :: brackets) t
  | .after, [] => .ok s
  | .after, bracket :: outer =>
    match _hs : dropBlanks s with
    | [] => .error bracket.endFault
    | c :: r =>
      if c = bracket.closer then skipFrom .after outer r
      else if c = ',' then
        match _hr : skipKey bracket r with
        | .error f => .error f
        | .ok t => skipFrom .before (bracket :: outer) t
      else .error bracket.commaFault
termination_by 2 * s.length + stage.weight
decreasing_by
  · have := length_lt_of_dropBlanks _hs
    simp only [Stage.weight]; omega
  · have := length_lt_of_dropBlanks _hs
    simp only [Stage.weight]; omega
  · have h1 := length_lt_of_dropBlanks _hs
    have h2 := length_skipScalar_le _hr
    simp only [Stage.weight]; omega
  · have := length_lt_of_dropBlanks _hs
    simp only [Stage.weight]; omega
  · have h1 := length_lt_of_dropBlanks _hs
    have h2 := length_skipKey_le _hr
    simp only [Stage.weight, List.length_cons] at *; omega
  · have := length_lt_of_dropBlanks _hs
    simp only [Stage.weight]; omega
  · have h1 := length_lt_of_dropBlanks _hs
    have h2 := length_skipKey_le _hr
    simp only [Stage.weight]; omega

theorem length_skipFrom_le {stage : Stage} {brackets : List Bracket} {s rest : List Char}
    (h : skipFrom stage brackets s = .ok rest) : rest.length ≤ s.length := by
  fun_induction skipFrom stage brackets s with
  | case1 => cases h
  | case2 _ _ _ hs ih =>
    have := length_lt_of_dropBlanks hs
    have := ih h
    omega
  | case3 _ _ _ hs _ ih =>
    have := length_lt_of_dropBlanks hs
    have := ih h
    omega
  | case4 => cases h
  | case5 _ _ _ _ hs _ _ _ hr ih =>
    have := length_lt_of_dropBlanks hs
    have := length_skipScalar_le hr
    have := ih h
    omega
  | case6 => cases h
  | case7 _ _ _ _ hs ih =>
    have := length_lt_of_dropBlanks hs
    have := ih h
    omega
  | case8 => cases h
  | case9 _ _ _ _ _ hs _ _ hr ih =>
    have := length_lt_of_dropBlanks hs
    have := length_skipKey_le hr
    have := ih h
    simp only [List.length_cons] at *
    omega
  | case10 => cases h; exact Nat.le_refl _
  | case11 => cases h
  | case12 _ _ _ _ hs ih =>
    have := length_lt_of_dropBlanks hs
    have := ih h
    omega
  | case13 => cases h
  | case14 _ _ _ _ _ hr hs _ ih =>
    have := length_lt_of_dropBlanks hs
    have := length_skipKey_le hr
    have := ih h
    omega
  | case15 => cases h

/-- **The end of one value**, whatever it is. -/
def skipValue (s : List Char) : Except Fault (List Char) := skipFrom .before [] s

theorem length_skipValue_le {s rest : List Char} (h : skipValue s = .ok rest) :
    rest.length ≤ s.length := length_skipFrom_le h

end CbrAudio.Json
