/-!
# Binary64 numbers

Double-precision binary numbers in exact integer arithmetic. A finite number
is a sign, a mantissa below `2^53` and an exponent of two; results are rounded
to nearest, ties to even.

* `ofRatio`: the number nearest to a quotient;
* `ofDecimal`: the number nearest to a decimal;
* `add`, `mul`, `lt`: arithmetic and order;
* `toRat`: the value of a finite number.
-/

namespace RouteDoc.Number

/-- A double-precision number: not a number, an infinity, or
`(-1)^negative · mantissa · 2^exponent`. -/
inductive Binary64
  | nan
  | infinite (negative : Bool)
  | finite (negative : Bool) (mantissa : Nat) (exponent : Int)
  deriving DecidableEq, Repr, Inhabited

/-- The natural number nearest to `num / den`, the even one of two. -/
def roundDiv (num den : Nat) : Nat :=
  let q := num / den
  let r := num % den
  if 2 * r < den then q
  else if 2 * r == den then q + q % 2
  else q + 1

namespace Binary64

/-- The least exponent. -/
def minExponent : Int := -1074

/-- The greatest exponent of a finite number. -/
def maxExponent : Int := 971

/-- Zero with a sign. -/
def zero (negative : Bool) : Binary64 := .finite negative 0 minExponent

/-- The quotient `num / den`, scaled by `2^(-e)`, as a quotient. -/
def scaled (num den : Nat) (e : Int) : Nat × Nat :=
  if 0 ≤ e then (num, den * Nat.pow 2 e.toNat) else (num * Nat.pow 2 (-e).toNat, den)

/-- The number nearest to `num / den`, where `den` is positive. -/
def ofRatio (negative : Bool) (num den : Nat) : Binary64 :=
  if num == 0 then zero negative
  else
    let low : Int := (Nat.log2 num : Int) - (Nat.log2 den : Int) - 53
    let (n, d) := scaled num den low
    let e := max minExponent (if Nat.pow 2 53 ≤ n / d then low + 1 else low)
    let (n, d) := scaled num den e
    let m := roundDiv n d
    let (m, e) := if m == Nat.pow 2 53 then (Nat.pow 2 52, e + 1) else (m, e)
    if maxExponent < e then .infinite negative else .finite negative m e

/-- The number nearest to `mantissa · 2^exponent`. -/
def ofDyadic (negative : Bool) (mantissa : Nat) (exponent : Int) : Binary64 :=
  if 0 ≤ exponent then ofRatio negative (mantissa * Nat.pow 2 exponent.toNat) 1
  else ofRatio negative mantissa (Nat.pow 2 (-exponent).toNat)

/-- The number nearest to `digits · 10^exponent`. Decimals far outside the
range are decided by their magnitude alone. -/
def ofDecimal (negative : Bool) (digits : Nat) (exponent : Int) : Binary64 :=
  if digits == 0 then zero negative
  else
    let magnitude := (Nat.log2 digits : Int) / 4 + exponent
    if 400 < magnitude then .infinite negative
    else if exponent + (Nat.log2 digits : Int) / 3 + 1 < -400 then zero negative
    else if 0 ≤ exponent then ofRatio negative (digits * Nat.pow 10 exponent.toNat) 1
    else ofRatio negative digits (Nat.pow 10 (-exponent).toNat)

/-- The number nearest to an integer. -/
def ofInt (n : Int) : Binary64 := ofRatio (n < 0) n.natAbs 1

instance : OfNat Binary64 n := ⟨ofInt n⟩

/-- A finite number as an integer times a power of two. -/
def signed (negative : Bool) (mantissa : Nat) : Int :=
  if negative then -(mantissa : Int) else mantissa

/-- The sum. -/
def add : Binary64 → Binary64 → Binary64
  | .nan, _ | _, .nan => .nan
  | .infinite a, .infinite b => if a == b then .infinite a else .nan
  | .infinite a, .finite .. => .infinite a
  | .finite .., .infinite b => .infinite b
  | .finite a m e, .finite b n f =>
    let g := min e f
    let total := signed a (m * Nat.pow 2 (e - g).toNat) + signed b (n * Nat.pow 2 (f - g).toNat)
    if total == 0 then zero (a && b)
    else ofDyadic (total < 0) total.natAbs g

/-- The product. -/
def mul : Binary64 → Binary64 → Binary64
  | .nan, _ | _, .nan => .nan
  | .infinite a, .infinite b => .infinite (a != b)
  | .infinite a, .finite b n _ => if n == 0 then .nan else .infinite (a != b)
  | .finite a m _, .infinite b => if m == 0 then .nan else .infinite (a != b)
  | .finite a m e, .finite b n f => ofDyadic (a != b) (m * n) (e + f)

instance : Add Binary64 := ⟨add⟩
instance : Mul Binary64 := ⟨mul⟩

/-- Whether one number is less than another; a nan is never. -/
def lt : Binary64 → Binary64 → Bool
  | .nan, _ | _, .nan => false
  | .infinite a, .infinite b => a && !b
  | .infinite a, .finite .. => a
  | .finite .., .infinite b => !b
  | .finite a m e, .finite b n f =>
    let g := min e f
    signed a (m * Nat.pow 2 (e - g).toNat) < signed b (n * Nat.pow 2 (f - g).toNat)

/-- Whether two numbers are equal; the two zeros are, and a nan equals nothing. -/
def eq : Binary64 → Binary64 → Bool
  | .nan, _ | _, .nan => false
  | a, b => !lt a b && !lt b a

/-- The lesser of two numbers, the first where neither is less. -/
def min (a b : Binary64) : Binary64 := if lt b a then b else a

/-- The integer a number equals, if there is one. -/
def toInt? : Binary64 → Option Int
  | .finite a m e =>
    if 0 ≤ e then some (signed a (m * Nat.pow 2 e.toNat))
    else
      let d := Nat.pow 2 (-e).toNat
      if m % d == 0 then some (signed a (m / d)) else none
  | _ => none

/-- The magnitude of a finite number as a quotient. -/
def ratio (mantissa : Nat) (exponent : Int) : Nat × Nat :=
  if 0 ≤ exponent then (mantissa * Nat.pow 2 exponent.toNat, 1)
  else (mantissa, Nat.pow 2 (-exponent).toNat)

/-- A finite number as it is; others have no value and count as zero. -/
def toRat : Binary64 → Rat
  | .finite a m e =>
    let (num, den) := ratio m e
    mkRat (signed a num) den
  | _ => 0

end Binary64

end RouteDoc.Number
