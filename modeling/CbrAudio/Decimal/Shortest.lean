/-!
# The shortest decimal that reads back

A double stands for an interval of reals, those that round to it.  Its shortest decimal is the one
with the fewest digits inside that interval, and of these the one nearest to the double.

* `Magnitude` — the interval around a positive double as three fractions over one denominator.
* `Digits` — the decimal `digits · 10 ^ exponent`.
* `Magnitude.onGrid?` — the better of a value's two neighbours among the multiples of a power of
  ten, if one of them lies in the interval.
* `Magnitude.shortest` — **the search**: grids of one digit, of two, … of seventeen, until one has
  a hit.
* `Layout`, `Layout.render` — where positional writing ends, and the text of a decimal.
-/

namespace CbrAudio.Decimal

/-- The reals that round to a positive double are those from `low / den` to `high / den`; the
double itself is `value / den`.  The ends belong to it if `closed` says so. -/
structure Magnitude where
  low : Nat
  value : Nat
  high : Nat
  den : Nat
  closed : Bool
  deriving DecidableEq, Repr

/-- The number `digits · 10 ^ exponent`. -/
structure Digits where
  digits : Nat
  exponent : Int
  deriving DecidableEq, Repr

/-- The bit above those of a significand that are stored, `2 ^ 52`. -/
def hiddenBit : Nat := 0x10000000000000

/-- The double with significand `m`, scaled by `2 ^ q`.  The gap below a power of two, unless it
is the smallest (`least`), is half the gap above it. -/
def Magnitude.ofScaled (m : Nat) (q : Int) (least : Bool) : Magnitude :=
  let below := if m = hiddenBit && !least then 1 else 2
  let up := Nat.pow 2 (q - 2).toNat
  { low := (4 * m - below) * up
    value := 4 * m * up
    high := (4 * m + 2) * up
    den := Nat.pow 2 (2 - q).toNat
    closed := m % 2 == 0 }

/-- The interval around the absolute value of a finite double that is not zero. -/
def Magnitude.ofFloat (x : Float) : Magnitude :=
  let bits : Nat := x.toBits.toNat
  let field : Nat := bits / hiddenBit % 0x800
  let fraction : Nat := bits % hiddenBit
  if field = 0 then .ofScaled fraction (-1074) true
  else .ofScaled (hiddenBit + fraction) ((field : Int) - 1075) (field = 1)

/-- How many decimal digits a count has. -/
def length (n : Nat) : Nat :=
  if n < 10 then 1 else length (n / 10) + 1

/-- The exponent of the first digit of `value / den`: doubles lie well above `10 ^ -400`. -/
def Magnitude.leading (x : Magnitude) : Int :=
  (length (x.value * Nat.pow 10 400 / x.den) : Int) - 401

def Magnitude.holds (x : Magnitude) (n : Nat) : Bool :=
  if x.closed then x.low ≤ n && n ≤ x.high else x.low < n && n < x.high

/-- Of the two multiples of `10 ^ exponent` around the value, the nearer one that lies in the
interval; of two equally near the even one. -/
def Magnitude.onGrid? (x : Magnitude) (exponent : Int) : Option Digits :=
  let fine := Nat.pow 10 (-exponent).toNat
  let step := Nat.pow 10 exponent.toNat * x.den
  let scaled : Magnitude :=
    { x with low := x.low * fine, value := x.value * fine, high := x.high * fine }
  let below := scaled.value / step
  let above := below + 1
  let down := scaled.value - below * step
  let up := above * step - scaled.value
  match scaled.holds (below * step), scaled.holds (above * step) with
  | false, false => none
  | true, false => some ⟨below, exponent⟩
  | false, true => some ⟨above, exponent⟩
  | true, true =>
    if down < up || (down = up && below % 2 = 0) then some ⟨below, exponent⟩
    else some ⟨above, exponent⟩

/-- The decimal without the zeros at its end. -/
def Digits.trim (d : Digits) : Digits :=
  if h : d.digits ≠ 0 ∧ d.digits % 10 = 0 then
    Digits.trim ⟨d.digits / 10, d.exponent + 1⟩
  else d
termination_by d.digits
decreasing_by omega

/-- The first grid with a hit, from one digit to seventeen. -/
def Magnitude.shortest (x : Magnitude) : Digits :=
  let leading := x.leading
  let hit? := (List.range 17).findSome? fun (k : Nat) => x.onGrid? (leading - Int.ofNat k)
  (hit?.getD ⟨x.value / x.den, 0⟩).trim

/-- How a decimal is written: positionally while the exponent of its first digit lies between two
bounds. -/
structure Layout where
  /-- Positional writing starts at this exponent of the first digit. -/
  least : Int
  /-- Positional writing ends at this exponent of the first digit. -/
  greatest : Int
  deriving Repr

/-- The text of a positive decimal without zeros at its end.  Written positionally, a whole number
keeps `.0`; otherwise an exponent follows, with its sign. -/
def Layout.render (layout : Layout) (d : Digits) : String :=
  let digits := (toString d.digits).toList
  let leading : Int := digits.length - 1 + d.exponent
  if layout.least ≤ leading && leading ≤ layout.greatest then
    if 0 ≤ d.exponent then
      String.ofList (digits ++ List.replicate d.exponent.toNat '0') ++ ".0"
    else if 0 ≤ leading then
      let whole := (leading + 1).toNat
      String.ofList (digits.take whole) ++ "." ++ String.ofList (digits.drop whole)
    else
      "0." ++ String.ofList (List.replicate (-leading - 1).toNat '0' ++ digits)
  else
    let fraction := digits.drop 1
    let point := if fraction.isEmpty then "" else "." ++ String.ofList fraction
    let sign := if leading < 0 then "e-" else "e+"
    String.ofList (digits.take 1) ++ point ++ sign ++ toString leading.natAbs

/-- The text of a finite double; a zero keeps its sign. -/
def Layout.renderFloat (layout : Layout) (x : Float) : String :=
  let sign := if 0x8000000000000000 ≤ x.toBits.toNat then "-" else ""
  if x == 0 then sign ++ "0.0"
  else sign ++ layout.render (Magnitude.ofFloat x).shortest

end CbrAudio.Decimal
