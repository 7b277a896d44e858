/-!
# Text in any octets

In UTF-8 a character is one octet below `0x80`, or a first octet and the one to three that it asks
for.  Octets that are no text are read all the same: a character that is begun and not finished
stands as one stand-in, and so does an octet that begins none.

* `Utf8.Begun`, `Utf8.begin?` — a character of which some octets have been read, at first one.
* `Utf8.Begun.finish` — the character if the octets that follow finish it, and those after it.
* `Utf8.characters`, `Utf8.decode` — **the text** of some octets.

`decode_toUTF8` says that the octets of a text are read as that text.
-/

namespace CbrAudio.Text.Utf8

/-- The character in place of octets that are none. -/
def standIn : Char := '\uFFFD'

/-- A character of which some octets have been read. -/
structure Begun where
  /-- The bits of the octets so far. -/
  value : Nat
  /-- How many octets come after the next one. -/
  owed : Nat
  /-- The least that the next octet may be. -/
  least : Nat
  /-- The greatest that the next octet may be. -/
  greatest : Nat
  deriving DecidableEq, Repr

/-- The character that an octet from `0x80` on begins.  The bounds on the next octet leave out
characters that fewer octets would do for, the surrogates, and what lies above the last character. -/
def begin? (octet : Nat) : Option Begun :=
  if octet < 0xC2 then none
  else if octet < 0xE0 then some ⟨octet - 0xC0, 0, 0x80, 0xBF⟩
  else if octet < 0xF0 then
    some ⟨octet - 0xE0, 1, if octet = 0xE0 then 0xA0 else 0x80, if octet = 0xED then 0x9F else 0xBF⟩
  else if octet < 0xF5 then
    some ⟨octet - 0xF0, 2, if octet = 0xF0 then 0x90 else 0x80, if octet = 0xF4 then 0x8F else 0xBF⟩
  else none

/-- The character if the octets that follow finish it, and the octets from the first one on that
does not belong to it. -/
def Begun.finish (b : Begun) : List UInt8 → Option Char × List UInt8
  | [] => (none, [])
  | o :: os =>
    if b.least ≤ o.toNat && o.toNat ≤ b.greatest then
      let value := b.value * 64 + (o.toNat - 0x80)
      match b.owed with
      | 0 => (some (Char.ofNat value), os)
      | owed + 1 => Begun.finish ⟨value, owed, 0x80, 0xBF⟩ os
    else (none, o :: os)

theorem Begun.length_finish_le (b : Begun) (os : List UInt8) :
    (b.finish os).2.length ≤ os.length := by
  induction os generalizing b with
  | nil => exact Nat.le_refl _
  | cons o os ih =>
    rw [finish]
    split
    · split
      · exact Nat.le_succ _
      · exact Nat.le_succ_of_le (ih _)
    · exact Nat.le_refl _

/-- The characters of some octets. -/
def characters : List UInt8 → List Char
  | [] => []
  | o :: os =>
    if o.toNat < 0x80 then Char.ofNat o.toNat :: characters os
    else
      match begin? o.toNat with
      | none => standIn :: characters os
      | some b => (b.finish os).1.getD standIn :: characters (b.finish os).2
termination_by os => os.length
decreasing_by
  · simp
  · simp
  · have := b.length_finish_le os
    simp only [List.length_cons]
    omega

/-- The text of some octets. -/
def decode (octets : ByteArray) : String := String.ofList (characters octets.data.toList)

/-! ## The octets of a text -/

theorem toNat_ofNat_of_lt {n : Nat} (h : n < 256) : (UInt8.ofNat n).toNat = n := by
  rw [UInt8.toNat_ofNat']
  exact Nat.mod_eq_of_lt h

theorem characters_of_lt {n : Nat} {os : List UInt8} (h : n < 0x80) :
    characters (UInt8.ofNat n :: os) = Char.ofNat n :: characters os := by
  rw [characters, toNat_ofNat_of_lt (by omega), if_pos h]

theorem characters_of_begin {n : Nat} {os rest : List UInt8} {b : Begun} {c : Char}
    (h : 0x80 ≤ n) (hn : n < 256) (hb : begin? n = some b) (hf : b.finish os = (some c, rest)) :
    characters (UInt8.ofNat n :: os) = c :: characters rest := by
  rw [characters, toNat_ofNat_of_lt hn, if_neg (Nat.not_lt.2 h), hb]
  simp only [hf, Option.getD_some]

theorem begin?_two {n : Nat} (h : 0xC2 ≤ n) (h' : n < 0xE0) :
    begin? n = some ⟨n - 0xC0, 0, 0x80, 0xBF⟩ := by
  rw [begin?, if_neg (Nat.not_lt.2 h), if_pos h']

theorem begin?_three {n : Nat} (h : 0xE0 ≤ n) (h' : n < 0xF0) :
    begin? n = some ⟨n - 0xE0, 1, if n = 0xE0 then 0xA0 else 0x80,
      if n = 0xED then 0x9F else 0xBF⟩ := by
  rw [begin?, if_neg (by omega), if_neg (Nat.not_lt.2 h), if_pos h']

theorem begin?_four {n : Nat} (h : 0xF0 ≤ n) (h' : n < 0xF5) :
    begin? n = some ⟨n - 0xF0, 2, if n = 0xF0 then 0x90 else 0x80,
      if n = 0xF4 then 0x8F else 0xBF⟩ := by
  rw [begin?, if_neg (by omega), if_neg (by omega), if_neg (Nat.not_lt.2 h), if_pos h']

theorem Begun.finish_last {n value least greatest : Nat} {os : List UInt8}
    (hl : least ≤ n) (hg : n ≤ greatest) (hn : n < 256) :
    Begun.finish ⟨value, 0, least, greatest⟩ (UInt8.ofNat n :: os) =
      (some (Char.ofNat (value * 64 + (n - 0x80))), os) := by
  simp [finish, toNat_ofNat_of_lt hn, hl, hg]

theorem Begun.finish_more {n value owed least greatest : Nat} {os : List UInt8}
    (hl : least ≤ n) (hg : n ≤ greatest) (hn : n < 256) :
    Begun.finish ⟨value, owed + 1, least, greatest⟩ (UInt8.ofNat n :: os) =
      Begun.finish ⟨value * 64 + (n - 0x80), owed, 0x80, 0xBF⟩ os := by
  simp [finish, toNat_ofNat_of_lt hn, hl, hg]

/-- The octets of a character are read as that character. -/
theorem characters_encodeChar (c : Char) (rest : List UInt8) :
    characters (String.utf8EncodeChar c ++ rest) = c :: characters rest := by
  have hvalid : c.val.toNat < 0xD800 ∨ 0xDFFF < c.val.toNat ∧ c.val.toNat < 0x110000 := c.valid
  have hc : Char.ofNat c.val.toNat = c := Char.ofNat_toNat c
  unfold String.utf8EncodeChar
  generalize c.val.toNat = v at hvalid hc
  subst hc
  simp only
  split
  · exact characters_of_lt (by omega)
  split
  · have hv : (v / 64 % 32 + 192 - 192) * 64 + (v % 64 + 128 - 128) = v := by omega
    refine characters_of_begin (by omega) (by omega) (begin?_two (by omega) (by omega)) ?_
    refine (Begun.finish_last (by omega) (by omega) (by omega)).trans ?_
    rw [hv]
    rfl
  split
  · have hv : ((v / 4096 % 16 + 224 - 224) * 64 + (v / 64 % 64 + 128 - 128)) * 64
        + (v % 64 + 128 - 128) = v := by omega
    refine characters_of_begin (by omega) (by omega) (begin?_three (by omega) (by omega)) ?_
    refine (Begun.finish_more (by split <;> omega) (by split <;> omega) (by omega)).trans ?_
    refine (Begun.finish_last (by omega) (by omega) (by omega)).trans ?_
    rw [hv]
    rfl
  · have hv : (((v / 262144 % 8 + 240 - 240) * 64 + (v / 4096 % 64 + 128 - 128)) * 64
        + (v / 64 % 64 + 128 - 128)) * 64 + (v % 64 + 128 - 128) = v := by omega
    refine characters_of_begin (by omega) (by omega) (begin?_four (by omega) (by omega)) ?_
    refine (Begun.finish_more (by split <;> omega) (by split <;> omega) (by omega)).trans ?_
    refine (Begun.finish_more (by omega) (by omega) (by omega)).trans ?_
    refine (Begun.finish_last (by omega) (by omega) (by omega)).trans ?_
    rw [hv]
    rfl

theorem characters_flatMap_encodeChar (cs : List Char) :
    characters (cs.flatMap String.utf8EncodeChar) = cs := by
  induction cs with
  | nil => rw [List.flatMap_nil, characters]
  | cons c cs ih => rw [List.flatMap_cons, characters_encodeChar, ih]

/-- The octets of a text are read as that text. -/
theorem decode_toUTF8 (s : String) : decode s.toUTF8 = s := by
  have h : s.toUTF8 = (s.toList.flatMap String.utf8EncodeChar).toByteArray :=
    String.utf8Encode_toList.symm
  rw [decode, h, List.toList_data_toByteArray, characters_flatMap_encodeChar, String.ofList_toList]

end CbrAudio.Text.Utf8
