import CbrAudio.Json.Scan
import CbrAudio.Word

/-!
# Numbers of a JSON text

A number written as digits alone is an integer as long as 64 bits hold it; one with a point, an
exponent or more digits is a double.  A double is put together from a significand of at most 64
bits and a power of ten, in at most two roundings.

* `Number` — an integer with its sign, or a double.
* `Significand` — the digits read so far; **digits that no longer fit** count only as powers of
  ten in front of the point, and not at all behind it.
* `assemble` — the double for a significand and a power of ten.
* `number` — a number after its sign.
* `skipNumber` — the end of a number whose value nobody asks for; its size plays no part there.
-/

namespace CbrAudio.Json

/-- A number as it is written. -/
inductive Number where
  | natural (n : Nat)
  /-- The integer `-n`, with `n` positive. -/
  | negative (n : Nat)
  | float (x : Float)
  deriving DecidableEq, Repr

/-- How a message shows a number. -/
def Number.found : Number → Found
  | .natural n => .integer n
  | .negative n => .integer (-n)
  | .float x => .float x

def startsWithDigit : List Char → Bool
  | [] => false
  | c :: _ => c.isDigit

def dropDigits (s : List Char) : List Char := s.dropWhile Char.isDigit

theorem length_dropDigits_le (s : List Char) : (dropDigits s).length ≤ s.length :=
  (List.dropWhile_suffix Char.isDigit).length_le

/-! ## Digits -/

/-- Digits read so far: their value, and how many of them were read last. -/
structure Significand where
  value : Nat
  count : Nat
  deriving DecidableEq, Repr

/-- Reads digits after `value` while the result is no larger than `bound`. -/
def digits (bound value count : Nat) : List Char → Significand × List Char
  | [] => (⟨value, count⟩, [])
  | c :: r =>
    let next := value * 10 + (c.toNat - '0'.toNat)
    if c.isDigit && next ≤ bound then digits bound next (count + 1) r else (⟨value, count⟩, c :: r)

theorem length_digits_le (bound value count : Nat) (s : List Char) :
    (digits bound value count s).2.length ≤ s.length := by
  induction s generalizing value count with
  | nil => exact Nat.le_refl _
  | cons c r ih =>
    unfold digits
    dsimp only
    split
    · exact Nat.le_succ_of_le (ih ..)
    · exact Nat.le_refl _

/-! ## Doubles -/

/-- The double nearest to `10 ^ e`. -/
def powerOfTen (e : Nat) : Float := Float.ofScientific 1 false e

/-- The largest power of ten that a double holds. -/
def maxPower : Nat := 308

/-- `x / 10 ^ e`, in steps that a double can take. -/
def scaleDown (x : Float) (e : Nat) : Float :=
  if e ≤ maxPower then x / powerOfTen e
  else if x == 0 then x
  else scaleDown (x / powerOfTen maxPower) (e - maxPower)
termination_by e
decreasing_by unfold maxPower at *; omega

/-- **The double** `significand · 10 ^ exponent` with a sign; one that is too large is a fault. -/
def assemble (positive : Bool) (significand : Nat) (exponent : Int) : Except Fault Float :=
  let x := Float.ofNat significand
  let sign (y : Float) : Float := if positive then y else -y
  if exponent < 0 then .ok (sign (scaleDown x exponent.natAbs))
  else if exponent.natAbs ≤ maxPower then
    let y := x * powerOfTen exponent.natAbs
    if y.isInf then .error .numberOutOfRange else .ok (sign y)
  else if significand = 0 then .ok (sign x)
  else .error .numberOutOfRange

/-- The largest exponent that is counted exactly. -/
def maxExponent : Nat := 0x7fffffff

/-- The sign of an exponent, `true` for upwards; no sign is upwards. -/
def exponentSign (s : List Char) : Bool × List Char :=
  match s with
  | [] => (true, [])
  | c :: r => if c = '+' then (true, r) else if c = '-' then (false, r) else (true, c :: r)

theorem length_exponentSign_le (s : List Char) : (exponentSign s).2.length ≤ s.length := by
  simp only [exponentSign]
  split
  · exact Nat.le_refl _
  · split
    · exact Nat.le_succ _
    · split
      · exact Nat.le_succ _
      · exact Nat.le_refl _

/-- The double that is finished by the exponent after its `e`. -/
def exponent (positive : Bool) (significand : Nat) (shift : Int) (s : List Char) :
    Except Fault (Float × List Char) :=
  let (up, s) := exponentSign s
  match s with
  | [] => .error .endInValue
  | c :: _ =>
    if c.isDigit then
      let (e, r) := digits maxExponent 0 0 s
      if startsWithDigit r then
        if significand ≠ 0 && up then .error .numberOutOfRange
        else .ok (if positive then 0.0 else -0.0, dropDigits r)
      else
        match assemble positive significand (if up then shift + e.value else shift - e.value) with
        | .error f => .error f
        | .ok x => .ok (x, r)
    else .error .invalidNumber

/-- The double that is finished by an exponent, if one follows. -/
def finish (positive : Bool) (significand : Nat) (shift : Int) (s : List Char) :
    Except Fault (Float × List Char) :=
  let plain :=
    match assemble positive significand shift with
    | .error f => .error f
    | .ok x => .ok (x, s)
  match s with
  | [] => plain
  | c :: r => if c = 'e' || c = 'E' then exponent positive significand shift r else plain

/-- The double that goes on with the digits after its point. -/
def fraction (positive : Bool) (significand : Nat) (shift : Int) (s : List Char) :
    Except Fault (Float × List Char) :=
  let (d, r) := digits Word.maxWord significand 0 s
  if startsWithDigit r then finish positive d.value (shift - d.count) (dropDigits r)
  else if d.count = 0 then
    match r with
    | [] => .error .endInValue
    | _ :: _ => .error .invalidNumber
  else finish positive d.value (shift - d.count) r

/-- What becomes of an integer part: an integer if neither point nor exponent follows. -/
def afterInteger (positive : Bool) (n : Nat) (s : List Char) : Except Fault (Number × List Char) :=
  let double (x : Except Fault (Float × List Char)) : Except Fault (Number × List Char) :=
    match x with
    | .error f => .error f
    | .ok (x, r) => .ok (.float x, r)
  let whole : Number :=
    if positive then .natural n
    else if n = 0 || 0x8000000000000000 < n then .float (-Float.ofNat n)
    else .negative n
  match s with
  | [] => .ok (whole, [])
  | c :: r =>
    if c = '.' then double (fraction positive n 0 r)
    else if c = 'e' || c = 'E' then double (exponent positive n 0 r)
    else .ok (whole, c :: r)

/-- What becomes of an integer part that 64 bits do not hold: its other digits are powers of ten. -/
def afterLongInteger (positive : Bool) (n : Nat) (s : List Char) :
    Except Fault (Number × List Char) :=
  let shift : Int := (s.takeWhile Char.isDigit).length
  let rest := dropDigits s
  let result :=
    match rest with
    | [] => finish positive n shift []
    | c :: r => if c = '.' then fraction positive n shift r else finish positive n shift (c :: r)
  match result with
  | .error f => .error f
  | .ok (x, r) => .ok (.float x, r)

/-- **A number** after its sign.  Only zero begins with a zero. -/
def number (positive : Bool) (s : List Char) : Except Fault (Number × List Char) :=
  match s with
  | [] => .error .endInValue
  | c :: r =>
    if c = '0' then
      if startsWithDigit r then .error .invalidNumber else afterInteger positive 0 r
    else if c.isDigit then
      let (d, r) := digits Word.maxWord (c.toNat - '0'.toNat) 1 r
      if startsWithDigit r then afterLongInteger positive d.value r
      else afterInteger positive d.value r
    else .error .invalidNumber

/-! ## Numbers that are skipped -/

/-- The end of the exponent after its `e`. -/
def skipExponent (s : List Char) : Except Fault (List Char) :=
  let s := (exponentSign s).2
  if startsWithDigit s then .ok (dropDigits s) else .error .invalidNumber

/-- The end of a number, once its exponent is all that may follow. -/
def skipFinish (s : List Char) : Except Fault (List Char) :=
  match s with
  | [] => .ok []
  | c :: r => if c = 'e' || c = 'E' then skipExponent r else .ok (c :: r)

/-- The end of a number, once its integer part is read. -/
def skipAfterInteger (s : List Char) : Except Fault (List Char) :=
  match s with
  | [] => .ok []
  | c :: r =>
    if c = '.' then
      if startsWithDigit r then skipFinish (dropDigits r) else .error .invalidNumber
    else skipFinish (c :: r)

/-- The end of a number after its sign, whatever its size. -/
def skipNumber (s : List Char) : Except Fault (List Char) :=
  match s with
  | [] => .error .invalidNumber
  | c :: r =>
    if c = '0' then
      if startsWithDigit r then .error .invalidNumber else skipAfterInteger r
    else if c.isDigit then skipAfterInteger (dropDigits r)
    else .error .invalidNumber

/-! ## Nothing is lengthened -/

theorem length_exponent_le {positive : Bool} {n : Nat} {shift : Int} {s r : List Char} {x : Float}
    (h : exponent positive n shift s = .ok (x, r)) : r.length ≤ s.length := by
  have hs := length_exponentSign_le s
  rw [exponent] at h
  generalize exponentSign s = signed at h hs
  obtain ⟨up, t⟩ := signed
  dsimp only at h hs
  split at h
  · cases h
  · next c u =>
    have hd := length_digits_le maxExponent 0 0 (c :: u)
    generalize digits maxExponent 0 0 (c :: u) = scanned at h hd
    obtain ⟨e, v⟩ := scanned
    dsimp only at h hd
    split at h
    · split at h
      · split at h
        · cases h
        · have := length_dropDigits_le v
          simp only [Except.ok.injEq, Prod.mk.injEq] at h
          obtain ⟨_, rfl⟩ := h
          omega
      · split at h
        · cases h
        · simp only [Except.ok.injEq, Prod.mk.injEq] at h
          obtain ⟨_, rfl⟩ := h
          omega
    · cases h

theorem length_finish_le {positive : Bool} {n : Nat} {shift : Int} {s r : List Char} {x : Float}
    (h : finish positive n shift s = .ok (x, r)) : r.length ≤ s.length := by
  unfold finish at h
  dsimp only at h
  split at h
  · split at h
    · cases h
    · simp only [Except.ok.injEq, Prod.mk.injEq] at h
      obtain ⟨_, rfl⟩ := h
      exact Nat.le_refl _
  · split at h
    · exact Nat.le_succ_of_le (length_exponent_le h)
    · split at h
      · cases h
      · simp only [Except.ok.injEq, Prod.mk.injEq] at h
        obtain ⟨_, rfl⟩ := h
        exact Nat.le_refl _

theorem length_fraction_le {positive : Bool} {n : Nat} {shift : Int} {s r : List Char} {x : Float}
    (h : fraction positive n shift s = .ok (x, r)) : r.length ≤ s.length := by
  have hd := length_digits_le Word.maxWord n 0 s
  rw [fraction] at h
  generalize digits Word.maxWord n 0 s = scanned at h hd
  obtain ⟨d, t⟩ := scanned
  dsimp only at h hd
  split at h
  · exact Nat.le_trans (length_finish_le h) (Nat.le_trans (length_dropDigits_le t) hd)
  · split at h
    · split at h <;> cases h
    · exact Nat.le_trans (length_finish_le h) hd

theorem length_afterInteger_le {positive : Bool} {n : Nat} {s r : List Char} {x : Number}
    (h : afterInteger positive n s = .ok (x, r)) : r.length ≤ s.length := by
  unfold afterInteger at h
  dsimp only at h
  split at h
  · simp only [Except.ok.injEq, Prod.mk.injEq] at h
    obtain ⟨_, rfl⟩ := h
    exact Nat.le_refl _
  · split at h
    · split at h
      · cases h
      · next hx =>
        simp only [Except.ok.injEq, Prod.mk.injEq] at h
        obtain ⟨_, rfl⟩ := h
        exact Nat.le_succ_of_le (length_fraction_le hx)
    · split at h
      · split at h
        · cases h
        · next hx =>
          simp only [Except.ok.injEq, Prod.mk.injEq] at h
          obtain ⟨_, rfl⟩ := h
          exact Nat.le_succ_of_le (length_exponent_le hx)
      · simp only [Except.ok.injEq, Prod.mk.injEq] at h
        obtain ⟨_, rfl⟩ := h
        exact Nat.le_refl _

theorem length_afterLongInteger_le {positive : Bool} {n : Nat} {s r : List Char} {x : Number}
    (h : afterLongInteger positive n s = .ok (x, r)) : r.length ≤ s.length := by
  have hd := length_dropDigits_le s
  unfold afterLongInteger at h
  dsimp only at h
  split at h
  · cases h
  · next y t hx =>
    simp only [Except.ok.injEq, Prod.mk.injEq] at h
    obtain ⟨_, rfl⟩ := h
    split at hx
    · next he => exact Nat.le_trans (he ▸ length_finish_le hx) hd
    · next c u he =>
      rw [he] at hd
      split at hx
      · exact Nat.le_trans (Nat.le_succ_of_le (length_fraction_le hx)) hd
      · exact Nat.le_trans (length_finish_le hx) hd

theorem length_number_lt {positive : Bool} {s r : List Char} {x : Number}
    (h : number positive s = .ok (x, r)) : r.length < s.length := by
  simp only [number] at h
  split at h
  · cases h
  · next c t =>
    split at h
    · split at h
      · cases h
      · exact Nat.lt_succ_of_le (length_afterInteger_le h)
    · split at h
      · have hd := length_digits_le Word.maxWord (c.toNat - '0'.toNat) 1 t
        generalize digits Word.maxWord (c.toNat - '0'.toNat) 1 t = scanned at h hd
        obtain ⟨d, u⟩ := scanned
        dsimp only at h hd
        split at h
        · exact Nat.lt_succ_of_le (Nat.le_trans (length_afterLongInteger_le h) hd)
        · exact Nat.lt_succ_of_le (Nat.le_trans (length_afterInteger_le h) hd)
      · cases h

theorem length_skipExponent_le {s r : List Char} (h : skipExponent s = .ok r) :
    r.length ≤ s.length := by
  unfold skipExponent at h
  dsimp only at h
  split at h
  · cases h
    exact Nat.le_trans (length_dropDigits_le _) (length_exponentSign_le s)
  · cases h

theorem length_skipFinish_le {s r : List Char} (h : skipFinish s = .ok r) :
    r.length ≤ s.length := by
  simp only [skipFinish] at h
  split at h
  · cases h; exact Nat.le_refl _
  · split at h
    · exact Nat.le_succ_of_le (length_skipExponent_le h)
    · cases h; exact Nat.le_refl _

theorem length_skipAfterInteger_le {s r : List Char} (h : skipAfterInteger s = .ok r) :
    r.length ≤ s.length := by
  simp only [skipAfterInteger] at h
  split at h
  · cases h; exact Nat.le_refl _
  · next c t =>
    split at h
    · split at h
      · exact Nat.le_succ_of_le (Nat.le_trans (length_skipFinish_le h) (length_dropDigits_le t))
      · cases h
    · exact length_skipFinish_le h

theorem length_skipNumber_lt {s r : List Char} (h : skipNumber s = .ok r) :
    r.length < s.length := by
  simp only [skipNumber] at h
  split at h
  · cases h
  · next c t =>
    split at h
    · split at h
      · cases h
      · exact Nat.lt_succ_of_le (length_skipAfterInteger_le h)
    · split at h
      · exact Nat.lt_succ_of_le
          (Nat.le_trans (length_skipAfterInteger_le h) (length_dropDigits_le t))
      · cases h

end CbrAudio.Json
