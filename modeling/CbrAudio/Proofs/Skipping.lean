import CbrAudio.Proofs.Tokens

/-!
# Any value is skipped to its end

The loop over the open brackets steps over exactly one value, whatever it holds and however deep.

* `skipFrom_before_scalar`, `skipFrom_opened_item`, `skipFrom_after_comma`, … — **the steps**: one
  equation for each thing that the loop can meet.
* `following` — the parts of a list or an object after the first one, to the closing bracket.
* `Part` — what lists and objects have in common, so that one induction serves both:
  `skipFrom_following`, `skipFrom_opened`.
* **`WellFormed.skips`** — the run over a whole value, by induction on its form; `skipValue_slot`.
-/

namespace CbrAudio.Json

variable {s t rest v lead : List Char} {c : Char} {bracket : Bracket}
  {brackets outer : List Bracket} {slot : Slot}

/-! ## The steps -/

lemma skipFrom_before_list (h : dropBlanks s = '[' :: t) :
    skipFrom .before brackets s = skipFrom (.opened .list) brackets t := by
  rw [skipFrom]
  split <;> rename_i h' <;> cases h.symm.trans h'
  rw [if_pos rfl]

lemma skipFrom_before_object (h : dropBlanks s = '\x7b' :: t) :
    skipFrom .before brackets s = skipFrom (.opened .object) brackets t := by
  rw [skipFrom]
  split <;> rename_i h' <;> cases h.symm.trans h'
  rw [if_neg (by decide), if_pos rfl]

lemma skipFrom_before_scalar (h : dropBlanks s = c :: t) (hl : c ≠ '[') (ho : c ≠ '\x7b')
    (hr : skipScalar c t = .ok rest) :
    skipFrom .before brackets s = skipFrom .after brackets rest := by
  rw [skipFrom]
  split <;> rename_i h' <;> cases h.symm.trans h'
  rw [if_neg hl, if_neg ho]
  split <;> rename_i hr' <;> cases hr.symm.trans hr'
  rfl

lemma skipFrom_opened_closer (h : dropBlanks s = bracket.closer :: t) :
    skipFrom (.opened bracket) brackets s = skipFrom .after brackets t := by
  rw [skipFrom]
  split <;> rename_i h' <;> cases h.symm.trans h'
  rw [if_pos rfl]

lemma skipFrom_opened_item (h : dropBlanks s = c :: t) (hc : c ≠ bracket.closer)
    (hr : skipKey bracket (c :: t) = .ok rest) :
    skipFrom (.opened bracket) brackets s = skipFrom .before (bracket :: brackets) rest := by
  conv_lhs => rw [skipFrom]
  split <;> rename_i h' <;> cases h.symm.trans h'
  rw [if_neg hc]
  split <;> rename_i hr' <;> cases hr.symm.trans hr'
  rfl

lemma skipFrom_after_closer (h : dropBlanks s = bracket.closer :: t) :
    skipFrom .after (bracket :: outer) s = skipFrom .after outer t := by
  rw [skipFrom]
  split <;> rename_i h' <;> cases h.symm.trans h'
  rw [if_pos rfl]

lemma skipFrom_after_comma (h : dropBlanks s = ',' :: t) (hr : skipKey bracket t = .ok rest) :
    skipFrom .after (bracket :: outer) s = skipFrom .before (bracket :: outer) rest := by
  conv_lhs => rw [skipFrom]
  split <;> rename_i h' <;> cases h.symm.trans h'
  rw [if_neg (by cases bracket <;> decide), if_pos rfl]
  split <;> rename_i hr' <;> cases hr.symm.trans hr'
  rfl

/-! ## The parts of a bracket -/

/-- Parts with a comma in front of each, and the closing bracket after them. -/
def following (pad : Blanks) (closer : Char) (rest : List Char) : List (List Char) → List Char
  | [] => pad.chars ++ closer :: rest
  | part :: parts => ',' :: (part ++ following pad closer rest parts)

/-- The first part has no comma in front of it. -/
lemma intercalate_append (pad : Blanks) (closer : Char) (rest part : List Char)
    (parts : List (List Char)) :
    [','].intercalate (part :: parts) ++ pad.chars ++ [closer] ++ rest =
      part ++ following pad closer rest parts := by
  induction parts generalizing part with
  | nil => simp [following]
  | cons next parts ih =>
    rw [List.intercalate_cons_cons, following, ← ih next]
    simp only [List.append_assoc, List.cons_append, List.nil_append]

lemma closes_following (bracket : Bracket) (pad : Blanks) (rest : List Char)
    (parts : List (List Char)) :
    Closes (following pad bracket.closer rest parts) := by
  cases parts with
  | nil => exact (closes_cons rest (by cases bracket <;> simp [Bracket.closer])).blanks pad
  | cons part parts => exact closes_cons _ (Or.inl rfl)

/-! ## Values -/

/-- One value is stepped over when one is due, with any brackets open around it. -/
def Skips (v : List Char) : Prop :=
  ∀ (brackets : List Bracket) (s rest : List Char), dropBlanks s = v ++ rest → Closes rest →
    skipFrom .before brackets s = skipFrom .after brackets rest

lemma isBlank_of_isDigit (h : c.isDigit = true) : isBlank c = false := by
  simp only [isBlank, ne_of_isDigit h (d := ' ') rfl, ne_of_isDigit h (d := '\t') rfl,
    ne_of_isDigit h (d := '\n') rfl, ne_of_isDigit h (d := '\r') rfl, decide_false, Bool.or_false]

/-- A value does not begin with a blank, or with the end of a list. -/
lemma WellFormed.first (h : WellFormed v) :
    ∃ c t, v = c :: t ∧ isBlank c = false ∧ c ≠ ']' := by
  cases h with
  | word h =>
    simp only [words, List.mem_cons, List.not_mem_nil, or_false] at h
    rcases h with rfl | rfl | rfl <;> exact ⟨_, _, rfl, by decide⟩
  | number h =>
    obtain ⟨rfl | rfl, hw, -, -⟩ := h
    · obtain ⟨d, ds, rfl, hd⟩ := hw.first
      exact ⟨d, _, rfl, isBlank_of_isDigit hd, ne_of_isDigit hd rfl⟩
    · exact ⟨'-', _, rfl, by decide⟩
  | string _ | list _ | object _ _ => exact ⟨_, _, rfl, by decide⟩

lemma dropBlanks_slot (h : WellFormed slot.value) (s : List Char) :
    dropBlanks (slot.text ++ s) = slot.value ++ (slot.after.chars ++ s) := by
  obtain ⟨c, t, hv, hc, -⟩ := h.first
  rw [Slot.text, List.append_assoc, List.append_assoc, dropBlanks_append, hv, List.cons_append,
    dropBlanks_cons hc]

/-- A value in a bracket with what stands in front of it, once the value itself is stepped over. -/
structure Part (bracket : Bracket) (lead : List Char) (slot : Slot) : Prop where
  form : WellFormed slot.value
  skips : Skips slot.value
  /-- What stands in front of the value is read up to there. -/
  key : ∀ s, skipKey bracket (lead ++ s) = .ok s
  /-- Nothing looks like the end of the bracket in it. -/
  first : ∀ s, ∃ c t r, dropBlanks (lead ++ (slot.text ++ s)) = c :: t ∧ c ≠ bracket.closer ∧
    skipKey bracket (c :: t) = .ok r ∧ dropBlanks r = slot.value ++ (slot.after.chars ++ s)

lemma Part.list (h : WellFormed slot.value) (hv : Skips slot.value) : Part .list [] slot where
  form := h
  skips := hv
  key _ := rfl
  first s := by
    obtain ⟨c, t, hvalue, hblank, hc⟩ := h.first
    have hdrop := dropBlanks_slot h s
    rw [hvalue, List.cons_append] at hdrop ⊢
    exact ⟨c, _, _, hdrop, hc, rfl, dropBlanks_cons hblank _⟩

lemma Part.object {e : Entry} (hkey : StringBody e.key) (h : WellFormed e.slot.value)
    (hv : Skips e.slot.value) : Part .object e.lead e.slot := by
  have hdrop (s : List Char) :
      dropBlanks (e.lead ++ s) = '"' :: (e.key ++ '"' :: (e.between.chars ++ ':' :: s)) := by
    simp only [Entry.lead, stringText, List.append_assoc, List.cons_append, List.nil_append,
      dropBlanks_append]
    exact dropBlanks_cons rfl _
  have hskip (s : List Char) :
      skipKey .object ('"' :: (e.key ++ '"' :: (e.between.chars ++ ':' :: s))) = .ok s := by
    rw [skipKey, dropBlanks_cons rfl]
    simp only [if_true, skipText_of_body hkey, colon_append]
  refine ⟨h, hv, fun s => ?_, fun s => ?_⟩
  · rw [skipKey, hdrop]
    simp only [if_true, skipText_of_body hkey, colon_append]
  · exact ⟨'"', _, _, hdrop _, by decide, hskip _, dropBlanks_slot h s⟩

variable {ι : Type} {leads : ι → List Char} {slots : ι → Slot} {items : List ι}

/-- The parts of a bracket are stepped over one by one. -/
lemma skipFrom_following (h : ∀ i ∈ items, Part bracket (leads i) (slots i)) (before pad : Blanks)
    (rest : List Char) :
    skipFrom .after (bracket :: outer) (before.chars ++
        following pad bracket.closer rest (items.map fun i => leads i ++ (slots i).text)) =
      skipFrom .after outer rest := by
  -- What stands between two parts are the blanks after the value of the first.
  induction items generalizing before with
  | nil =>
    apply skipFrom_after_closer
    rw [dropBlanks_append, List.map_nil, following, dropBlanks_append,
      dropBlanks_cons (by cases bracket <;> rfl)]
  | cons i items ih =>
    have hi := h i List.mem_cons_self
    rw [List.map_cons, following, List.append_assoc,
      skipFrom_after_comma (by rw [dropBlanks_append, dropBlanks_cons rfl]) (hi.key _),
      hi.skips _ _ _ (dropBlanks_slot hi.form _) ((closes_following bracket pad rest _).blanks _)]
    exact ih (fun i hi => h i (List.mem_cons_of_mem _ hi)) (slots i).after

/-- A bracket is stepped over from its opening on. -/
lemma skipFrom_opened (h : ∀ i ∈ items, Part bracket (leads i) (slots i)) (pad : Blanks)
    (rest : List Char) :
    skipFrom (.opened bracket) outer
        ([','].intercalate (items.map fun i => leads i ++ (slots i).text) ++ pad.chars
          ++ [bracket.closer] ++ rest) =
      skipFrom .after outer rest := by
  cases items with
  | nil =>
    apply skipFrom_opened_closer
    rw [List.append_assoc, List.append_assoc]
    exact (dropBlanks_append pad _).trans (dropBlanks_cons (by cases bracket <;> rfl) _)
  | cons i items =>
    have hi := h i List.mem_cons_self
    rw [List.map_cons, intercalate_append, List.append_assoc]
    obtain ⟨c, t, r, hdrop, hc, hkey, hr⟩ := hi.first
      (following pad bracket.closer rest (items.map fun i => leads i ++ (slots i).text))
    rw [skipFrom_opened_item hdrop hc hkey,
      hi.skips _ _ _ hr ((closes_following bracket pad rest _).blanks _)]
    exact skipFrom_following (fun i hi => h i (List.mem_cons_of_mem _ hi)) (slots i).after pad rest

/-- A value without brackets is stepped over by its scanner. -/
lemma Skips.scalar (hl : c ≠ '[') (ho : c ≠ '\x7b')
    (h : ∀ rest, Closes rest → skipScalar c (v ++ rest) = .ok rest) : Skips (c :: v) := by
  intro brackets s rest hs hrest
  exact skipFrom_before_scalar hs hl ho (h rest hrest)

lemma skipScalar_digit (h : c.isDigit = true) (s : List Char) :
    skipScalar c s = skipNumber (c :: s) := by
  rw [skipScalar, if_neg (ne_of_isDigit h rfl), if_neg (ne_of_isDigit h rfl),
    if_neg (ne_of_isDigit h rfl), if_neg (ne_of_isDigit h rfl), if_neg (ne_of_isDigit h rfl),
    if_pos h]

lemma Numeral.skips (h : Numeral v) : Skips v := by
  obtain ⟨hsign, hw, hf, he⟩ := h
  have hnumber (rest : List Char) (hrest : Closes rest) := skipNumber_append hw hf he hrest
  rcases hsign with rfl | rfl
  · obtain ⟨d, ds, rfl, hd⟩ := hw.first
    rw [List.nil_append, List.cons_append, List.cons_append]
    refine .scalar (ne_of_isDigit hd rfl) (ne_of_isDigit hd rfl) fun rest hrest => ?_
    rw [skipScalar_digit hd, ← hnumber rest hrest, List.append_assoc, List.append_assoc]
    rfl
  · rw [List.append_assoc, List.append_assoc, List.cons_append, List.nil_append]
    refine .scalar (by decide) (by decide) fun rest hrest => ?_
    rw [List.append_assoc, List.append_assoc]
    exact hnumber rest hrest

/-- **Any value** is stepped over. -/
theorem WellFormed.skips (h : WellFormed v) : Skips v := by
  induction h with
  | word h =>
    simp only [words, List.mem_cons, List.not_mem_nil, or_false] at h
    rcases h with rfl | rfl | rfl <;>
      exact .scalar (by decide) (by decide) fun rest _ => word_append ..
  | number h => exact h.skips
  | string h =>
    rw [stringText, List.cons_append]
    refine .scalar (by decide) (by decide) fun rest _ => ?_
    rw [List.append_assoc]
    exact skipText_of_body h rest
  | list h ih =>
    intro brackets s rest hs _
    rw [skipFrom_before_list hs]
    exact skipFrom_opened (fun slot hslot => Part.list (h slot hslot) (ih slot hslot)) _ rest
  | object keys h ih =>
    intro brackets s rest hs _
    rw [skipFrom_before_object hs]
    exact skipFrom_opened (fun e he => Part.object (keys e he) (h e he) (ih e he)) _ rest

lemma skipValue_slot (h : WellFormed slot.value) (hs : Closes s) :
    skipValue (slot.text ++ s) = .ok (slot.after.chars ++ s) := by
  rw [skipValue, h.skips _ _ _ (dropBlanks_slot h s) (hs.blanks slot.after), skipFrom]

end CbrAudio.Json
