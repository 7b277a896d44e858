import CbrAudio.Json.Library
import CbrAudio.Json.Skip

/-!
# Reading typed values

A reader finds a value of one type at the start of a text.  A value of another type is reported as
such only after it has been seen to be well formed, as far as a message shows it.

* `misfit` — **the fault** for a value that is not of the type asked for.
* `Reader.natural`, `Reader.boolean`, `Reader.string`, `Reader.optional` — the basic readers.
* `Reader.parse` — **a whole text** that is one value.
-/

namespace CbrAudio.Json

/-- The fault for the text `c :: r`, which holds no value of the type asked for. -/
def misfit (expected : Expected) (c : Char) (r : List Char) : Fault :=
  let bare (scanned : Except Fault (List Char)) (found : Found) : Fault :=
    match scanned with
    | .error f => f
    | .ok _ => .invalidType found expected
  let numeric (scanned : Except Fault (Number × List Char)) : Fault :=
    match scanned with
    | .error f => f
    | .ok (n, _) => .invalidType n.found expected
  if c = 'n' then bare (word ['u', 'l', 'l'] r) .null
  else if c = 't' then bare (word ['r', 'u', 'e'] r) (.boolean true)
  else if c = 'f' then bare (word ['a', 'l', 's', 'e'] r) (.boolean false)
  else if c = '-' then numeric (number false r)
  else if c.isDigit then numeric (number true (c :: r))
  else if c = '"' then
    match text r with
    | .error f => f
    | .ok (value, _) => .invalidType (.text (String.ofList value)) expected
  else if c = '[' then .invalidType .list expected
  else if c = '\x7b' then .invalidType .object expected
  else .expectedValue

namespace Reader

variable {α : Type}

/-- Accepts a number that is an integer from zero to `bound`. -/
def natural.fit (expected : Expected) (bound : Nat) :
    Except Fault (Number × List Char) → Except Fault (Nat × List Char)
  | .error f => .error f
  | .ok (.natural n, r) =>
    if n ≤ bound then .ok (n, r) else .error (.invalidValue (.integer n) expected)
  | .ok (.negative n, _) => .error (.invalidValue (.integer (-n)) expected)
  | .ok (.float x, _) => .error (.invalidType (.float x) expected)

theorem natural.eq_of_fit {expected : Expected} {bound n : Nat} {r : List Char}
    {scanned : Except Fault (Number × List Char)} (h : fit expected bound scanned = .ok (n, r)) :
    scanned = .ok (.natural n, r) := by
  simp only [fit] at h
  split at h
  · cases h
  · split at h
    · simp only [Except.ok.injEq, Prod.mk.injEq] at h
      obtain ⟨rfl, rfl⟩ := h
      rfl
    · cases h
  · cases h
  · cases h

/-- An integer from zero to `bound`, which the message calls `expected`. -/
def natural (expected : Expected) (bound : Nat) : Reader Nat where
  run s :=
    match dropBlanks s with
    | [] => .error .endInValue
    | c :: r =>
      if c = '-' then natural.fit expected bound (number false r)
      else if c.isDigit then natural.fit expected bound (number true (c :: r))
      else .error (misfit expected c r)
  length_le {s r n} h := by
    split at h
    · cases h
    · next c t ht =>
      have hlt := length_lt_of_dropBlanks ht
      split at h
      · have hnumber := length_number_lt (natural.eq_of_fit h)
        exact Nat.le_of_lt (Nat.lt_trans hnumber hlt)
      · split at h
        · have hnumber := length_number_lt (natural.eq_of_fit h)
          rw [List.length_cons] at hnumber
          exact Nat.le_of_lt (Nat.lt_of_le_of_lt (Nat.le_of_lt_succ hnumber) hlt)
        · cases h

/-- One of the words `true` and `false`. -/
def boolean : Reader Bool where
  run s :=
    match dropBlanks s with
    | [] => .error .endInValue
    | c :: r =>
      if c = 't' then
        match word ['r', 'u', 'e'] r with
        | .error f => .error f
        | .ok t => .ok (true, t)
      else if c = 'f' then
        match word ['a', 'l', 's', 'e'] r with
        | .error f => .error f
        | .ok t => .ok (false, t)
      else .error (misfit .boolean c r)
  length_le {s r b} h := by
    split at h
    · cases h
    · next c t ht =>
      have hlt := length_lt_of_dropBlanks ht
      split at h
      · split at h
        · cases h
        · next u hu => cases h; have := length_word_le hu; omega
      · split at h
        · split at h
          · cases h
          · next u hu => cases h; have := length_word_le hu; omega
        · cases h

/-- A string. -/
def string : Reader String where
  run s :=
    match dropBlanks s with
    | [] => .error .endInValue
    | c :: r =>
      if c = '"' then
        match text r with
        | .error f => .error f
        | .ok (value, t) => .ok (String.ofList value, t)
      else .error (misfit .text c r)
  length_le {s r v} h := by
    split at h
    · cases h
    · next c t ht =>
      have hlt := length_lt_of_dropBlanks ht
      split at h
      · split at h
        · cases h
        · next value u hu =>
          simp only [Except.ok.injEq, Prod.mk.injEq] at h
          obtain ⟨_, rfl⟩ := h
          have htext := length_text_lt hu
          exact Nat.le_of_lt (Nat.lt_trans htext hlt)
      · cases h

/-- The word `null`, or a value of another reader. -/
def optional (reader : Reader α) : Reader (Option α) where
  run s :=
    let value : Except Fault (Option α × List Char) :=
      match reader.run s with
      | .error f => .error f
      | .ok (a, r) => .ok (some a, r)
    match dropBlanks s with
    | [] => value
    | c :: r =>
      if c = 'n' then
        match word ['u', 'l', 'l'] r with
        | .error f => .error f
        | .ok t => .ok (none, t)
      else value
  length_le {s r v} h := by
    have hvalue : ∀ {v : Option α} {r : List Char},
        (match reader.run s with
          | .error f => .error f
          | .ok (a, r) => .ok (some a, r) : Except Fault (Option α × List Char)) = .ok (v, r) →
        r.length ≤ s.length := by
      intro v r h
      split at h
      · cases h
      · next a t ht =>
        simp only [Except.ok.injEq, Prod.mk.injEq] at h
        obtain ⟨_, rfl⟩ := h
        exact reader.length_le ht
    dsimp only at h
    split at h
    · exact hvalue h
    · next c t ht =>
      have hlt := length_lt_of_dropBlanks ht
      split at h
      · split at h
        · cases h
        · next u hu => cases h; have := length_word_le hu; omega
      · exact hvalue h

/-- **A whole text** that is one value, with nothing but blanks around it. -/
def parse (reader : Reader α) (s : String) : Except Fault α :=
  match reader.run s.toList with
  | .error f => .error f
  | .ok (a, r) =>
    match dropBlanks r with
    | [] => .ok a
    | _ :: _ => .error .trailingText

end Reader

end CbrAudio.Json
