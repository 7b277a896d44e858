import CbrAudio.Json.Reader

/-!
# Records

A record is written as an object, or as the list of its values in the order of its fields.  What
is not written keeps the value of the blank record; members with other keys are skipped, and a
field that is written twice is refused before its second value is looked at.

* `Record.elements`, `Record.members` — the two written forms.
* `Record.reader` — **a record** at the start of a text.
* `library` — **the library** that is made up of these readers.
-/

namespace CbrAudio.Json

namespace Record

variable {α : Type}

/-! ## The list of the values -/

/-- The end of a list whose fields have all been read. -/
def listEnd (s : List Char) : Except Fault (List Char) :=
  match dropBlanks s with
  | [] => .error .endInList
  | c :: r =>
    if c = ']' then .ok r
    else if c = ',' then
      match dropBlanks r with
      | [] => .error .trailingText
      | d :: _ => if d = ']' then .error .trailingComma else .error .trailingText
    else .error .trailingText

/-- Where the next value of a list begins, if the text goes on with `c :: r` and not with the end
of the list.  In front of the first value there is no comma. -/
def elementStart (first : Bool) (c : Char) (r : List Char) : Except Fault (List Char) :=
  if first then .ok (c :: r)
  else if c = ',' then
    match dropBlanks r with
    | [] => .error .endInValue
    | d :: t => if d = ']' then .error .trailingComma else .ok (d :: t)
  else .error .expectedCommaOrListEnd

/-- The values of a list, for the fields that are left. -/
def elements (first : Bool) (fields : List (Field α)) (a : α) (s : List Char) :
    Except Fault (α × List Char) :=
  match fields with
  | [] =>
    match listEnd s with
    | .error f => .error f
    | .ok r => .ok (a, r)
  | field :: fields =>
    match dropBlanks s with
    | [] => .error .endInList
    | c :: r =>
      if c = ']' then .ok (a, r)
      else
        match elementStart first c r with
        | .error f => .error f
        | .ok t =>
          match field.change.run t with
          | .error f => .error f
          | .ok (change, rest) => elements false fields (change a) rest

theorem length_listEnd_le {s r : List Char} (h : listEnd s = .ok r) : r.length ≤ s.length := by
  rw [listEnd] at h
  split at h
  · cases h
  · next c t ht =>
    have hlt := length_lt_of_dropBlanks ht
    split at h
    · cases h; omega
    · split at h
      · split at h
        · cases h
        · split at h <;> cases h
      · cases h

theorem length_elementStart_le {first : Bool} {c : Char} {r t : List Char}
    (h : elementStart first c r = .ok t) : t.length ≤ r.length + 1 := by
  rw [elementStart] at h
  split at h
  · cases h; exact Nat.le_refl _
  · split at h
    · have hle := length_dropBlanks_le r
      split at h
      · cases h
      · next d u hu =>
        rw [hu] at hle
        split at h
        · cases h
        · cases h; exact Nat.le_succ_of_le hle
    · cases h

theorem length_elements_le {first : Bool} {fields : List (Field α)} {a b : α} {s r : List Char}
    (h : elements first fields a s = .ok (b, r)) : r.length ≤ s.length := by
  induction fields generalizing first a s with
  | nil =>
    rw [elements] at h
    split at h
    · cases h
    · next t ht => cases h; exact length_listEnd_le ht
  | cons field fields ih =>
    rw [elements] at h
    split at h
    · cases h
    · next c t ht =>
      have hlt := length_lt_of_dropBlanks ht
      split at h
      · cases h; omega
      · split at h
        · cases h
        · next u hu =>
          have hu' := length_elementStart_le hu
          split at h
          · cases h
          · next change v hv =>
            have hv' := field.change.length_le hv
            have hr := ih h
            omega

/-! ## The object -/

/-- What one member does to a record. -/
structure Member (α : Type) where
  /-- The field that the key names, if it names one. -/
  field? : Option String
  change : α → α

/-- The key of the next member after its opening quote, if the text goes on with `c :: r` and not
with the end of the object.  In front of the first member there is no comma. -/
def keyStart (first : Bool) (c : Char) (r : List Char) : Except Fault (List Char) :=
  if first then (if c = '"' then .ok r else .error .keyNotString)
  else if c = ',' then
    match dropBlanks r with
    | [] => .error .endInValue
    | d :: t =>
      if d = '"' then .ok t
      else if d = '\x7d' then .error .trailingComma
      else .error .keyNotString
  else .error .expectedCommaOrObjectEnd

/-- The field that a key names. -/
def find? (record : Record α) (key : List Char) : Option (Field α) :=
  record.fields.find? fun field => field.name.toList == key

/-- One member after the opening quote of its key; `seen` names the fields that came before. -/
def member (record : Record α) (seen : List String) (s : List Char) :
    Except Fault (Member α × List Char) :=
  match text s with
  | .error f => .error f
  | .ok (key, r) =>
    match record.find? key with
    | none =>
      match colon r with
      | .error f => .error f
      | .ok r =>
        match skipValue r with
        | .error f => .error f
        | .ok r => .ok (⟨none, id⟩, r)
    | some field =>
      if seen.contains field.name then .error (.duplicateField field.name)
      else
        match colon r with
        | .error f => .error f
        | .ok r =>
          match field.change.run r with
          | .error f => .error f
          | .ok (change, r) => .ok (⟨some field.name, change⟩, r)

theorem length_keyStart_le {first : Bool} {c : Char} {r t : List Char}
    (h : keyStart first c r = .ok t) : t.length ≤ r.length := by
  rw [keyStart] at h
  split at h
  · split at h
    · cases h; exact Nat.le_refl _
    · cases h
  · split at h
    · split at h
      · cases h
      · next d u hu =>
        have := length_lt_of_dropBlanks hu
        split at h
        · cases h; omega
        · split at h <;> cases h
    · cases h

theorem length_member_lt {record : Record α} {seen : List String} {s r : List Char}
    {m : Member α} (h : record.member seen s = .ok (m, r)) : r.length < s.length := by
  rw [member] at h
  split at h
  · cases h
  · next key t ht =>
    have h1 := length_text_lt ht
    split at h
    · split at h
      · cases h
      · next u hu =>
        have h2 := length_colon_lt hu
        split at h
        · cases h
        · next v hv =>
          have h3 := length_skipValue_le hv
          simp only [Except.ok.injEq, Prod.mk.injEq] at h
          obtain ⟨_, rfl⟩ := h
          omega
    · next field hfield =>
      split at h
      · cases h
      · split at h
        · cases h
        · next u hu =>
          have h2 := length_colon_lt hu
          split at h
          · cases h
          · next change v hv =>
            have h3 := field.change.length_le hv
            simp only [Except.ok.injEq, Prod.mk.injEq] at h
            obtain ⟨_, rfl⟩ := h
            omega

/-- The members of an object, up to its closing bracket. -/
def members (record : Record α) (first : Bool) (seen : List String) (a : α) (s : List Char) :
    Except Fault (α × List Char) :=
  match _hs : dropBlanks s with
  | [] => .error .endInObject
  | c :: r =>
    if c = '\x7d' then .ok (a, r)
    else
      match _hk : keyStart first c r with
      | .error f => .error f
      | .ok key =>
        match _hm : record.member seen key with
        | .error f => .error f
        | .ok (m, rest) =>
          record.members false (m.field?.toList ++ seen) (m.change a) rest
termination_by s.length
decreasing_by
  have h1 := length_lt_of_dropBlanks _hs
  have h2 := length_keyStart_le _hk
  have h3 := length_member_lt _hm
  omega

theorem length_members_le {record : Record α} {first : Bool} {seen : List String} {a b : α}
    {s r : List Char} (h : record.members first seen a s = .ok (b, r)) : r.length ≤ s.length := by
  fun_induction record.members first seen a s with
  | case1 => cases h
  | case2 _ _ _ _ _ hs => cases h; exact Nat.le_of_lt (length_lt_of_dropBlanks hs)
  | case3 => cases h
  | case4 => cases h
  | case5 _ _ _ _ _ _ hs _ _ hk _ _ hm ih =>
    have h1 := length_lt_of_dropBlanks hs
    have h2 := length_keyStart_le hk
    have h3 := length_member_lt hm
    have h4 := ih h
    omega

/-! ## The record -/

/-- **A record** at the start of a text, in either form. -/
def reader (record : Record α) : Reader α where
  run s :=
    match dropBlanks s with
    | [] => .error .endInValue
    | c :: r =>
      if c = '[' then elements true record.fields record.blank r
      else if c = '\x7b' then record.members true [] record.blank r
      else .error (misfit (.record record.title) c r)
  length_le {s r a} h := by
    split at h
    · cases h
    · next c t ht =>
      have hlt := length_lt_of_dropBlanks ht
      split at h
      · have := length_elements_le h
        omega
      · split at h
        · have := length_members_le h
          omega
        · cases h

end Record

/-- **The library** that these readers make up. -/
def library : Library where
  byte := (Reader.natural .byte 0xff).map UInt8.ofNat
  word32 := (Reader.natural .word32 0xffffffff).map UInt32.ofNat
  word64 := (Reader.natural .word64 Word.maxWord).map UInt64.ofNat
  size := (Reader.natural .size Word.maxWord).map UInt64.ofNat
  string := Reader.string
  boolean := Reader.boolean
  optional := Reader.optional
  derived := Record.reader
  fromText := Reader.parse

end CbrAudio.Json
