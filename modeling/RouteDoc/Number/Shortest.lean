import RouteDoc.Number.Binary64

/-!
# The shortest decimal that reads back

Of all decimals that round to a given number, those with the fewest digits,
and of these the nearest, give its text.

* `Interval`: the quotients that round to a number;
* `shortestDigits`: the digits and the exponent of the last one;
* `DecimalLayout`, `layOut`: how digits become text.
-/

namespace RouteDoc.Number

/-- The quotients over one denominator that round to a number: from `low` to
`high`, ends included if `closed`; `value` is the number itself. -/
structure Interval where
  low : Nat
  value : Nat
  high : Nat
  den : Nat
  closed : Bool

/-- The rounding interval of a positive number. Below a power of two the next
number is only half as far away. -/
def Interval.of (mantissa : Nat) (exponent : Int) : Interval :=
  let half := if mantissa == Nat.pow 2 52 && Binary64.minExponent < exponent then 1 else 2
  let (num, den) := Binary64.ratio (4 * mantissa) exponent
  let (unit, _) := Binary64.ratio 1 exponent
  ⟨num - half * unit, num, num + 2 * unit, 4 * den, mantissa % 2 == 0⟩

/-- Whether `num / den` lies in the interval. -/
def Interval.contains (i : Interval) (num den : Nat) : Bool :=
  let below := i.low * den
  let here := num * i.den
  let above := i.high * den
  if i.closed then below ≤ here && here ≤ above else below < here && here < above

/-- The decimal `digits · 10^exponent` as a quotient. -/
def decimalRatio (digits : Nat) (exponent : Int) : Nat × Nat :=
  if 0 ≤ exponent then (digits * Nat.pow 10 exponent.toNat, 1) else (digits, Nat.pow 10 (-exponent).toNat)

/-- The distance from the value of the interval to a decimal, over the product
of the denominators. -/
def Interval.distance (i : Interval) (num den : Nat) : Nat :=
  let a := i.value * den
  let b := num * i.den
  if a ≤ b then b - a else a - b

/-- The multiple of `10^exponent` that lies in the interval nearest to its
value, if one of the two neighbours does. -/
def Interval.nearest (i : Interval) (exponent : Int) : Option Nat :=
  let (unit, unitDen) := decimalRatio 1 exponent
  let below := i.value * unitDen / (i.den * unit)
  let inside := fun k => let (n, d) := decimalRatio k exponent; i.contains n d
  let gap := fun k => let (n, d) := decimalRatio k exponent; i.distance n d
  match inside below, inside (below + 1) with
  | true, true =>
    if gap below < gap (below + 1) then some below
    else if gap below == gap (below + 1) then some (below + below % 2)
    else some (below + 1)
  | true, false => some below
  | false, true => some (below + 1)
  | false, false => none

/-- The decimal on the coarsest of `n` grids that has a point in the interval;
the first grid is that of `10^exponent`, each next one ten times finer. -/
def Interval.firstGrid (i : Interval) : Nat → Int → Nat × Int
  | 0, exponent => (0, exponent)
  | n + 1, exponent =>
    match i.nearest exponent with
    | some digits => if digits == 0 then i.firstGrid n (exponent - 1) else (digits, exponent)
    | none => i.firstGrid n (exponent - 1)

/-- A decimal without zeros at its end, of at most `n` digits. -/
def dropZeros : Nat → Nat → Int → Nat × Int
  | 0, digits, exponent => (digits, exponent)
  | n + 1, digits, exponent =>
    if digits % 10 == 0 && digits != 0 then dropZeros n (digits / 10) (exponent + 1)
    else (digits, exponent)

/-- The shortest decimal that rounds to a positive number, the nearest of
them: its digits and the exponent of the last. The first grid tried is coarser
than the number, and no number needs more than seventeen digits. -/
def shortestDigits (mantissa : Nat) (exponent : Int) : Nat × Int :=
  let i := Interval.of mantissa exponent
  let top : Int := ((Nat.log2 mantissa : Int) + exponent) * 30103 / 100000 + 1
  let (digits, e) := i.firstGrid 20 top
  dropZeros 20 digits e

/-- How a decimal is laid out as text: the range of exponents of the first
digit in which no exponent is written, and the least number of digits of one
that is. -/
structure DecimalLayout where
  positionalFrom : Int
  positionalBelow : Int
  exponentDigits : Nat

/-- A natural number in decimal, with zeros in front up to `width` digits. -/
def padded (width n : Nat) : String :=
  let s := toString n
  "".pushn '0' (width - s.length) ++ s

/-- Digits with a point after the first `k`. -/
def pointed (digits : List Char) (k : Nat) : String :=
  let fraction := digits.drop k
  String.ofList (digits.take k) ++ "." ++ (if fraction.isEmpty then "0" else String.ofList fraction)

/-- The text of `digits · 10^exponent`. -/
def DecimalLayout.layOut (l : DecimalLayout) (digits : Nat) (exponent : Int) : String :=
  let ds := (toString digits).toList
  let first : Int := exponent + ds.length - 1
  if l.positionalFrom ≤ first && first < l.positionalBelow then
    if first < 0 then
      "0." ++ "".pushn '0' (-first - 1).toNat ++ String.ofList ds
    else
      let whole := first.toNat + 1
      pointed (ds ++ List.replicate (whole - ds.length) '0') whole
  else
    let head := if ds.length == 1 then String.ofList ds else pointed ds 1
    let sign := if first < 0 then "-" else "+"
    head ++ "e" ++ sign ++ padded l.exponentDigits first.natAbs

/-- The text of a number in a layout. -/
def Binary64.text (l : DecimalLayout) : Binary64 → String
  | .nan => "nan"
  | .infinite negative => if negative then "-inf" else "inf"
  | .finite negative m e =>
    let sign := if negative then "-" else ""
    if m == 0 then sign ++ "0.0"
    else
      let (digits, exponent) := shortestDigits m e
      sign ++ l.layOut digits exponent

/-- The layout of all reports: no exponent from a ten-thousandth up to below
ten quadrillions, and exponents of at least two digits. -/
def reportLayout : DecimalLayout := ⟨-4, 16, 2⟩

/-- The text of a number in reports. -/
def Binary64.report (x : Binary64) : String := x.text reportLayout

end RouteDoc.Number
