import CbrAudio.Json.Skip
import CbrAudio.Proofs.Grammar

/-!
# Tokens are read to their ends

Each scanner of a token, on a token in its written form and any text after it: the token's meaning
comes out, and the text after it is left untouched.

* **`text_of_spells`** — a string, with the characters that it means; so a string means one thing
  only, `Spells.unique`.  `skipText_of_body` is the same for a string that is skipped.
* A number ends where something stands that cannot go on with it.  **`number_of_decimal`** and
  `skipNumber_append` read no further than there.
-/

namespace CbrAudio.Json

variable {s rest w v ds : List Char} {c : Char} {n : Nat}

/-! ## Blanks, words and colons -/

@[simp] lemma dropBlanks_append (b : Blanks) (s : List Char) :
    dropBlanks (b.chars ++ s) = dropBlanks s :=
  List.dropWhile_append_of_pos b.blank

lemma dropBlanks_cons (h : isBlank c = false) (s : List Char) : dropBlanks (c :: s) = c :: s := by
  rw [dropBlanks, List.dropWhile_cons, h]
  rfl

lemma dropBlanks_blanks (b : Blanks) : dropBlanks b.chars = [] := by
  rw [← List.append_nil b.chars, dropBlanks_append]
  rfl

@[simp] lemma word_append (ws s : List Char) : word ws (ws ++ s) = .ok s := by
  induction ws with
  | nil => rfl
  | cons w ws ih => rw [List.cons_append, word, if_pos rfl, ih]

@[simp] lemma colon_append (b : Blanks) (s : List Char) : colon (b.chars ++ ':' :: s) = .ok s := by
  rw [colon, dropBlanks_append, dropBlanks_cons rfl]
  rfl

/-! ## Strings -/

lemma hexDigit?_of_mem (h : (c, n) ∈ hexForms) : hexDigit? c = some n := by
  have hall : ∀ p ∈ hexForms, hexDigit? p.1 = some p.2 := by decide
  exact hall _ h

lemma fourDigits_of_hex (h : Hex ds n) (s : List Char) : fourDigits (ds ++ s) = .ok (n, s) := by
  obtain ⟨ha, hb, hc, hd⟩ := h
  simp only [List.cons_append, List.nil_append, fourDigits, hexDigit?_of_mem ha,
    hexDigit?_of_mem hb, hexDigit?_of_mem hc, hexDigit?_of_mem hd]
  congr 2
  omega

/-- An escape of one letter is no number and no half of a pair. -/
lemma shortEscape?_of_mem {l : Char} (h : (l, c) ∈ shortForms) :
    l ≠ 'u' ∧ shortEscape? l = some c.toNat ∧ c.toNat < 0xD800 := by
  have hall : ∀ p ∈ shortForms,
      p.1 ≠ 'u' ∧ shortEscape? p.1 = some p.2.toNat ∧ p.2.toNat < 0xD800 := by decide
  exact hall _ h

lemma escapeUnit_short {l : Char} (h : (l, c) ∈ shortForms) (s : List Char) :
    escapeUnit (l :: s) = .ok (c.toNat, s) := by
  obtain ⟨hu, hl, -⟩ := shortEscape?_of_mem h
  simp only [escapeUnit, if_neg hu, hl]

lemma escapeUnit_hex (h : Hex ds n) (s : List Char) :
    escapeUnit ('u' :: ds ++ s) = .ok (n, s) := by
  rw [List.cons_append, escapeUnit, if_pos rfl, fourDigits_of_hex h]

lemma escape_short {l : Char} (h : (l, c) ∈ shortForms) (s : List Char) :
    escape (l :: s) = .ok (c, s) := by
  obtain ⟨-, -, hc⟩ := shortEscape?_of_mem h
  simp only [escape, escapeUnit_short h]
  rw [if_neg (by omega), if_neg (by omega), Char.ofNat_toNat]

lemma escape_hex (h : Hex ds n) (scalar : n < 0xD800 ∨ 0xDFFF < n) (s : List Char) :
    escape ('u' :: ds ++ s) = .ok (Char.ofNat n, s) := by
  simp only [escape, escapeUnit_hex h]
  rw [if_neg (by omega), if_neg (by omega)]

lemma escape_pair {high low : List Char} {m : Nat} (hm : Hex high m) (hn : Hex low n)
    (upper : 0xD800 ≤ m ∧ m ≤ 0xDBFF) (lower : 0xDC00 ≤ n ∧ n ≤ 0xDFFF) (s : List Char) :
    escape ('u' :: high ++ '\\' :: 'u' :: low ++ s) =
      .ok (Char.ofNat (0x10000 + (m - 0xD800) * 0x400 + (n - 0xDC00)), s) := by
  rw [List.append_assoc, escape, escapeUnit_hex hm]
  have hpair : (m - 0xD800) * 0x400 + (n - 0xDC00) + 0x10000 =
      0x10000 + (m - 0xD800) * 0x400 + (n - 0xDC00) := by omega
  simp only [List.cons_append, pairedWith, fourDigits_of_hex hn, if_pos lower, hpair]
  rw [if_neg (by omega), if_pos upper]

lemma text_plain (hc : Plain c) (h : text s = .ok (v, rest)) :
    text (c :: s) = .ok (c :: v, rest) := by
  obtain ⟨hq, hb, h32⟩ := hc
  rw [text, if_neg hq, if_neg hb, if_neg (Nat.not_lt.mpr h32), h]

lemma text_escape {t : List Char} (he : escape s = .ok (c, t)) (h : text t = .ok (v, rest)) :
    text ('\\' :: s) = .ok (c :: v, rest) := by
  rw [text, if_neg (by decide), if_pos rfl]
  split <;> rename_i he' <;> cases he.symm.trans he'
  rw [h]

/-- **A string** comes out as what it means, and the text after its closing quote is left. -/
theorem text_of_spells (h : Spells w v) (rest : List Char) :
    text (w ++ '"' :: rest) = .ok (v, rest) := by
  induction h with
  | nil => rw [List.nil_append, text, if_pos rfl]
  | plain hc _ ih => exact text_plain hc ih
  | short h _ ih => exact text_escape (escape_short h _) ih
  | unit h scalar _ ih =>
    rw [List.append_assoc]
    exact text_escape (escape_hex h scalar _) ih
  | pair hm hn upper lower _ ih =>
    rw [List.append_assoc]
    exact text_escape (escape_pair hm hn upper lower _) ih

/-- What stands between two quotes means one thing. -/
lemma Spells.unique {v' : List Char} (h : Spells w v) (h' : Spells w v') : v = v' := by
  have hv := (text_of_spells h []).symm.trans (text_of_spells h' [])
  cases hv
  rfl

lemma skipText_escape {t : List Char} (he : escapeUnit s = .ok (n, t))
    (h : skipText t = .ok rest) : skipText ('\\' :: s) = .ok rest := by
  rw [skipText, if_neg (by decide), if_pos rfl]
  split <;> rename_i he' <;> cases he.symm.trans he'
  exact h

lemma skipText_of_body (h : StringBody w) (rest : List Char) :
    skipText (w ++ '"' :: rest) = .ok rest := by
  induction h with
  | nil => rw [List.nil_append, skipText, if_pos rfl]
  | plain hc _ ih =>
    obtain ⟨hq, hb, h32⟩ := hc
    rw [List.cons_append, skipText, if_neg hq, if_neg hb, if_neg (Nat.not_lt.mpr h32), ih]
  | short h _ ih => exact skipText_escape (escapeUnit_short h _) ih
  | unit h _ ih =>
    rw [List.append_assoc]
    exact skipText_escape (escapeUnit_hex h _) ih

/-! ## Numbers -/

/-- What closes a value is no part of a number. -/
lemma Closes.no_number (h : Closes (c :: s)) :
    c.isDigit = false ∧ c ≠ '.' ∧ c ≠ 'e' ∧ c ≠ 'E' := by
  have hc := h c rfl
  simp only [isBlank, Bool.or_eq_true, decide_eq_true_eq] at hc
  rcases hc with (((rfl | rfl) | rfl) | rfl) | rfl | rfl | rfl <;> decide

lemma ne_of_isDigit {d : Char} (h : c.isDigit = true) (hd : d.isDigit = false) : c ≠ d := by
  rintro rfl
  rw [hd] at h
  cases h

lemma Closes.startsWithDigit (h : Closes s) : startsWithDigit s = false := by
  cases s with
  | nil => rfl
  | cons c s => exact h.no_number.1

lemma Whole.first (h : Whole w) : ∃ d ds, w = d :: ds ∧ d.isDigit = true := by
  cases h with
  | zero => exact ⟨'0', [], rfl, rfl⟩
  | positive hd _ _ => exact ⟨_, _, rfl, hd⟩

lemma Digits.startsWithDigit (h : Digits ds) (s : List Char) :
    startsWithDigit (ds ++ s) = true := by
  obtain ⟨hne, hds⟩ := h
  cases ds with
  | nil => exact absurd rfl hne
  | cons d ds => exact hds d List.mem_cons_self

lemma dropDigits_append (hds : ∀ c ∈ ds, c.isDigit = true) (hs : startsWithDigit s = false) :
    dropDigits (ds ++ s) = s := by
  rw [dropDigits, List.dropWhile_append_of_pos hds]
  cases s with
  | nil => rfl
  | cons c s => rw [List.dropWhile_cons, show c.isDigit = false from hs]; rfl

lemma le_ofDigitChars (ds : List Char) (n : Nat) : n ≤ Nat.ofDigitChars 10 ds n := by
  induction ds generalizing n with
  | nil => exact Nat.le_refl _
  | cons d ds ih =>
    rw [Nat.ofDigitChars_cons]
    exact Nat.le_trans (by omega) (ih _)

/-- Digits are read to their end as long as the bound allows their number. -/
lemma digits_append {bound : Nat} (hds : ∀ c ∈ ds, c.isDigit = true)
    (hs : startsWithDigit s = false) (n count : Nat) (hn : Nat.ofDigitChars 10 ds n ≤ bound) :
    digits bound n count (ds ++ s) = (⟨Nat.ofDigitChars 10 ds n, count + ds.length⟩, s) := by
  induction ds generalizing n count with
  | nil =>
    cases s with
    | nil => rfl
    | cons c s =>
      have hc : c.isDigit = false := hs
      simp only [List.nil_append, digits, hc, Bool.false_and, Bool.false_eq_true, if_false]
      rfl
  | cons d ds ih =>
    rw [Nat.ofDigitChars_cons, Nat.mul_comm 10] at hn
    have hd := hds d List.mem_cons_self
    have hnext := Nat.le_trans (le_ofDigitChars ds _) hn
    have htail := ih (fun c hc => hds c (List.mem_cons_of_mem _ hc)) _ (count + 1) hn
    simp only [List.cons_append, digits, hd, hnext, Bool.true_and, decide_true, if_true, htail]
    rw [Nat.ofDigitChars_cons, Nat.mul_comm 10, List.length_cons]
    congr 2
    omega

lemma afterInteger_of_closes (h : Closes s) (n : Nat) :
    afterInteger true n s = .ok (.natural n, s) := by
  cases s with
  | nil => rfl
  | cons c s =>
    obtain ⟨-, hpoint, he, hE⟩ := h.no_number
    simp only [afterInteger, if_neg hpoint, he, hE, decide_false, Bool.or_false,
      Bool.false_eq_true, if_false, if_true]

/-- **A natural number** of 64 bits comes out as it is written. -/
theorem number_of_decimal (h : Decimal w n) (hn : n ≤ Word.maxWord) (hs : Closes s) :
    number true (w ++ s) = .ok (.natural n, s) := by
  obtain ⟨hw, rfl⟩ := h
  cases hw with
  | zero =>
    rw [List.cons_append, number, if_pos rfl, List.nil_append, hs.startsWithDigit]
    exact afterInteger_of_closes hs 0
  | @positive d ds hd h0 hds =>
    rw [Nat.ofDigitChars_cons, Nat.mul_zero, Nat.zero_add] at hn ⊢
    have hread := digits_append hds hs.startsWithDigit (d.toNat - '0'.toNat) 1 hn
    simp only [List.cons_append, number, if_neg h0, if_pos hd, hread, hs.startsWithDigit,
      Bool.false_eq_true, if_false, afterInteger_of_closes hs]

lemma skipExponent_append {sign : List Char} (hsign : sign = [] ∨ sign = ['+'] ∨ sign = ['-'])
    (h : Digits ds) (hs : Closes s) : skipExponent (sign ++ ds ++ s) = .ok s := by
  have ⟨hne, hds⟩ := h
  have hrest : (exponentSign (sign ++ ds ++ s)).2 = ds ++ s := by
    rcases hsign with rfl | rfl | rfl
    · cases ds with
      | nil => exact absurd rfl hne
      | cons d ds =>
        have hd := hds d List.mem_cons_self
        simp only [List.nil_append, List.cons_append, exponentSign,
          if_neg (ne_of_isDigit hd (d := '+') rfl), if_neg (ne_of_isDigit hd (d := '-') rfl)]
    · rfl
    · rfl
  simp only [skipExponent, hrest, h.startsWithDigit, if_true,
    dropDigits_append hds hs.startsWithDigit]

lemma skipFinish_append {e : List Char} (he : Exponent e) (hs : Closes s) :
    skipFinish (e ++ s) = .ok s := by
  cases he with
  | none =>
    cases s with
    | nil => rfl
    | cons c s =>
      obtain ⟨-, -, he, hE⟩ := hs.no_number
      simp only [List.nil_append, skipFinish, he, hE, decide_false, Bool.or_false,
        Bool.false_eq_true, if_false]
  | mark he hsign h =>
    rw [List.cons_append, List.cons_append, skipFinish, if_pos (by simpa using he),
      skipExponent_append hsign h hs]

/-- What stands after a whole number goes on with no digit. -/
lemma startsWithDigit_exponent {e : List Char} (he : Exponent e) (hs : Closes s) :
    startsWithDigit (e ++ s) = false := by
  cases he with
  | none => exact hs.startsWithDigit
  | mark he _ _ => rcases he with rfl | rfl <;> rfl

/-- Without a fraction the text goes on with an exponent or with what closes a number; neither looks
like a point. -/
lemma skipAfterInteger_append {f e : List Char} (hf : Fraction f) (he : Exponent e)
    (hs : Closes s) : skipAfterInteger (f ++ (e ++ s)) = .ok s := by
  cases hf with
  | none =>
    have hfinish := skipFinish_append he hs
    cases h : e ++ s with
    | nil =>
      rw [h] at hfinish
      exact hfinish
    | cons c t =>
      have hpoint : c ≠ '.' := by
        cases he with
        | none =>
          rw [List.nil_append] at h
          rw [h] at hs
          exact hs.no_number.2.1
        | mark he _ _ =>
          rintro rfl
          rcases he with rfl | rfl <;> cases h
      rw [h] at hfinish
      rw [List.nil_append, skipAfterInteger, if_neg hpoint, hfinish]
  | point h =>
    rw [List.cons_append, skipAfterInteger, if_pos rfl, if_pos (h.startsWithDigit _),
      dropDigits_append h.2 (startsWithDigit_exponent he hs), skipFinish_append he hs]

/-- A number of any size is skipped to its end. -/
lemma skipNumber_append {f e : List Char} (hw : Whole w) (hf : Fraction f) (he : Exponent e)
    (hs : Closes s) : skipNumber (w ++ (f ++ (e ++ s))) = .ok s := by
  have hstart : startsWithDigit (f ++ (e ++ s)) = false := by
    cases hf with
    | none =>
      rw [List.nil_append]
      exact startsWithDigit_exponent he hs
    | point _ => rfl
  have hafter := skipAfterInteger_append hf he hs
  cases hw with
  | zero =>
    rw [List.cons_append, List.nil_append, skipNumber, if_pos rfl, hstart]
    exact hafter
  | positive hd h0 hds =>
    rw [List.cons_append, skipNumber, if_neg h0, if_pos hd, dropDigits_append hds hstart]
    exact hafter

end CbrAudio.Json
