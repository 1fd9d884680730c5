import RouteDoc.Text.Pattern

/-!
# Words with a meaning in YAML

Plain text that is read as something other than text must be quoted.

* `standsForOther`: whether a plain text is read as a truth value, a number, a
  date, null or a mark.
-/

namespace RouteDoc.Yaml

open Text (Pattern)
open Text.Pattern

/-- Whether a pattern matches a text as a whole. -/
def fits (p : Pattern) (cs : List Char) : Bool :=
  (p.ends ⟨none, cs, 0⟩).any (·.rest.isEmpty)

/-- A decimal digit. -/
def digit : Pattern := one Char.isDigit

/-- Digits. -/
def digits : Pattern := run 1 false Char.isDigit

/-- Digits of a base and underscores. -/
def digitsOf (base : String) (least : Nat) : Pattern :=
  run least false fun c => base.toList.contains c || c == '_'

/-- Decimal digits and underscores. -/
def decimals (least : Nat) : Pattern := digitsOf "0123456789" least

/-- A sign or none. -/
def sign : Pattern := optional (oneOf "+-")

/-- A decimal number that does not start with zero. -/
def counted : Pattern := oneOf "123456789" ++ decimals 0

/-- Integers in several bases. -/
def integer : Pattern :=
  sign ++ any ["0b" ++ digitsOf "01" 1, "0" ++ digitsOf "01234567" 1, "0", counted,
    "0x" ++ digitsOf "0123456789abcdefABCDEF" 1]

/-- An exponent with its sign. -/
def exponent : Pattern := oneOf "eE" ++ oneOf "+-" ++ digits

/-- Numbers with a point. -/
def fractional : Pattern :=
  any [sign ++ digit ++ decimals 0 ++ "." ++ decimals 0 ++ optional exponent,
    "." ++ digit ++ decimals 0 ++ optional exponent, sign ++ "." ++ any ["inf", "Inf", "INF"],
    "." ++ any ["nan", "NaN", "NAN"]]

/-- Whether a text is a number of minutes or seconds. -/
def isSixtieth : List Char → Bool
  | [a] => a.isDigit
  | [a, b] => '0' ≤ a && a ≤ '5' && b.isDigit
  | _ => false

/-- Whether a text writes a number to the base of sixty: digits and, after
colons, minutes and seconds; perhaps with a point and decimals. -/
def isSexagesimal (cs : List Char) : Bool :=
  let whole := cs.takeWhile (· != '.')
  let point := whole.length < cs.length
  match Text.splitOnP (· == ':') whole with
  | first :: second :: rest =>
    fits (sign ++ (if point then digit ++ decimals 0 else counted)) first &&
      (second :: rest).all isSixtieth && fits (decimals 0) (cs.drop (whole.length + 1))
  | _ => false

/-- One or two digits. -/
def shortNumber : Pattern := digit ++ optional digit

/-- Dates, with or without a time. -/
def timestamp : Pattern :=
  let year := digit ++ digit ++ digit ++ digit
  let gap := run 1 false fun c => c == ' ' || c == '\t'
  let zone := optional gap ++ any ["Z", oneOf "+-" ++ shortNumber ++ optional (":" ++ digit ++ digit)]
  any [year ++ "-" ++ digit ++ digit ++ "-" ++ digit ++ digit,
    year ++ "-" ++ shortNumber ++ "-" ++ shortNumber ++ any [oneOf "Tt", gap] ++ shortNumber ++
      ":" ++ digit ++ digit ++ ":" ++ digit ++ digit ++
      optional ("." ++ run 0 false Char.isDigit) ++ optional zone]

/-- Words for truth values, null and marks. -/
def words : List String :=
  ["yes", "Yes", "YES", "no", "No", "NO", "true", "True", "TRUE", "false", "False", "FALSE", "on",
    "On", "ON", "off", "Off", "OFF", "", "~", "null", "Null", "NULL", "<<", "=", "!", "&", "*"]

/-- Whether a plain text is read as something other than text. -/
def standsForOther (cs : List Char) : Bool :=
  words.contains (String.ofList cs) || fits integer cs || fits fractional cs || isSexagesimal cs ||
    fits timestamp cs

end RouteDoc.Yaml
