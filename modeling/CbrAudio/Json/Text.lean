import CbrAudio.Json.Scan

/-!
# Strings of a JSON text

A string runs from the character after its opening quote to its closing quote.  A string whose
value is asked for must name real characters, so that two escapes that form a pair stand side by
side; a string that is skipped only has to be well formed, escape by escape.

* `escapeUnit` — one escape after its backslash: the 16-bit unit it stands for.
* `escape` — the character that an escape, or a pair of them, stands for.
* `text` — **the value of a string**.
* `skipText` — the end of a string whose value nobody asks for.
-/

namespace CbrAudio.Json

/-- The value of a hexadecimal digit. -/
def hexDigit? (c : Char) : Option Nat :=
  if c.isDigit then some (c.toNat - '0'.toNat)
  else if 'a' ≤ c ∧ c ≤ 'f' then some (c.toNat - 'a'.toNat + 10)
  else if 'A' ≤ c ∧ c ≤ 'F' then some (c.toNat - 'A'.toNat + 10)
  else none

/-- The four hexadecimal digits of an escape.  A text of fewer than four bytes ends too early,
whatever they are. -/
def fourDigits (s : List Char) : Except Fault (Nat × List Char) :=
  match s with
  | a :: b :: c :: d :: r =>
    match hexDigit? a, hexDigit? b, hexDigit? c, hexDigit? d with
    | some a, some b, some c, some d => .ok (((a * 16 + b) * 16 + c) * 16 + d, r)
    | _, _, _, _ => .error .invalidEscape
  | s => if 4 ≤ (String.ofList s).utf8ByteSize then .error .invalidEscape else .error .endInString

/-- The characters that one letter after a backslash stands for. -/
def shortEscape? : Char → Option Nat
  | '"' => some 0x22
  | '\\' => some 0x5C
  | '/' => some 0x2F
  | 'b' => some 0x08
  | 'f' => some 0x0C
  | 'n' => some 0x0A
  | 'r' => some 0x0D
  | 't' => some 0x09
  | _ => none

/-- The unit that the escape after a backslash stands for. -/
def escapeUnit (s : List Char) : Except Fault (Nat × List Char) :=
  match s with
  | [] => .error .endInString
  | c :: r =>
    if c = 'u' then fourDigits r
    else
      match shortEscape? c with
      | some unit => .ok (unit, r)
      | none => .error .invalidEscape

/-- The second escape of a pair, backslash included, after a first one with the value `high`. -/
def pairedWith (high : Nat) (s : List Char) : Except Fault (Char × List Char) :=
  match s with
  | [] => .error .endInString
  | '\\' :: [] => .error .endInString
  | '\\' :: 'u' :: r =>
    match fourDigits r with
    | .error e => .error e
    | .ok (low, r) =>
      if 0xDC00 ≤ low ∧ low ≤ 0xDFFF then
        .ok (Char.ofNat ((high - 0xD800) * 0x400 + (low - 0xDC00) + 0x10000), r)
      else .error .loneSurrogate
  | _ => .error .unpairedEscape

/-- The character that the escape after a backslash stands for. -/
def escape (s : List Char) : Except Fault (Char × List Char) :=
  match escapeUnit s with
  | .error e => .error e
  | .ok (unit, r) =>
    if 0xDC00 ≤ unit ∧ unit ≤ 0xDFFF then .error .loneSurrogate
    else if 0xD800 ≤ unit ∧ unit ≤ 0xDBFF then pairedWith unit r
    else .ok (Char.ofNat unit, r)

theorem length_fourDigits_le {s r : List Char} {n : Nat} (h : fourDigits s = .ok (n, r)) :
    r.length ≤ s.length := by
  simp only [fourDigits] at h
  split at h
  · split at h
    · cases h; simp only [List.length_cons]; omega
    · cases h
  · split at h <;> cases h

theorem length_escapeUnit_le {s r : List Char} {n : Nat} (h : escapeUnit s = .ok (n, r)) :
    r.length ≤ s.length := by
  simp only [escapeUnit] at h
  split at h
  · cases h
  · split at h
    · exact Nat.le_succ_of_le (length_fourDigits_le h)
    · split at h
      · cases h; exact Nat.le_succ _
      · cases h

theorem length_pairedWith_le {high : Nat} {s r : List Char} {c : Char}
    (h : pairedWith high s = .ok (c, r)) : r.length ≤ s.length := by
  simp only [pairedWith] at h
  split at h
  case h_3 =>
    split at h
    · cases h
    · next low t ht =>
      have := length_fourDigits_le ht
      split at h
      · simp only [Except.ok.injEq, Prod.mk.injEq] at h
        obtain ⟨_, rfl⟩ := h
        simp only [List.length_cons]
        omega
      · cases h
  all_goals cases h

theorem length_escape_le {s r : List Char} {c : Char} (h : escape s = .ok (c, r)) :
    r.length ≤ s.length := by
  rw [escape] at h
  split at h
  · cases h
  · next unit t ht =>
    have := length_escapeUnit_le ht
    split at h
    · cases h
    · split at h
      · exact Nat.le_trans (length_pairedWith_le h) this
      · simp only [Except.ok.injEq, Prod.mk.injEq] at h
        obtain ⟨_, rfl⟩ := h
        exact this

/-- **The value of a string** after its opening quote; the text after the closing quote is left. -/
def text (s : List Char) : Except Fault (List Char × List Char) :=
  match s with
  | [] => .error .endInString
  | c :: r =>
    if c = '"' then .ok ([], r)
    else if c = '\\' then
      match _h : escape r with
      | .error e => .error e
      | .ok (d, r') =>
        match text r' with
        | .error e => .error e
        | .ok (value, rest) => .ok (d :: value, rest)
    else if c.toNat < 32 then .error .controlCharacter
    else
      match text r with
      | .error e => .error e
      | .ok (value, rest) => .ok (c :: value, rest)
termination_by s.length
decreasing_by
  · have := length_escape_le _h; simp only [List.length_cons]; omega
  · simp only [List.length_cons]; omega

theorem length_text_lt {s value rest : List Char} (h : text s = .ok (value, rest)) :
    rest.length < s.length := by
  fun_induction text s generalizing value with
  | case1 => cases h
  | case2 => cases h; exact Nat.lt_succ_self _
  | case3 => cases h
  | case4 => cases h
  | case5 r d r' he v t ht _ ih =>
    cases h
    have h1 := length_escape_le he
    have h2 := ih ht
    simp only [List.length_cons]
    omega
  | case6 => cases h
  | case7 => cases h
  | case8 c r _ _ _ v t ht ih =>
    cases h
    exact Nat.lt_succ_of_lt (ih ht)

/-- The text after the closing quote of a string whose value nobody asks for. -/
def skipText (s : List Char) : Except Fault (List Char) :=
  match s with
  | [] => .error .endInString
  | c :: r =>
    if c = '"' then .ok r
    else if c = '\\' then
      match _h : escapeUnit r with
      | .error e => .error e
      | .ok (_, r') => skipText r'
    else if c.toNat < 32 then .error .controlCharacter
    else skipText r
termination_by s.length
decreasing_by
  · have := length_escapeUnit_le _h; simp only [List.length_cons]; omega
  · simp only [List.length_cons]; omega

theorem length_skipText_lt {s rest : List Char} (h : skipText s = .ok rest) :
    rest.length < s.length := by
  fun_induction skipText s with
  | case1 => cases h
  | case2 => cases h; exact Nat.lt_succ_self _
  | case3 => cases h
  | case4 r _ r' he _ ih =>
    have h1 := length_escapeUnit_le he
    have h2 := ih h
    simp only [List.length_cons]
    omega
  | case5 => cases h
  | case6 c r _ _ _ ih => exact Nat.lt_succ_of_lt (ih h)

end CbrAudio.Json
