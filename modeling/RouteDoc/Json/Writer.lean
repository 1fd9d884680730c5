import RouteDoc.Json.Value

/-!
# Writing JSON

* `Layout`, `Json.write`: a value as text, indented or on one line;
* `Json.pretty`: two blanks of indentation for each level;
* `Json.canonical`: no blanks, and fields in the order of their names.
-/

namespace RouteDoc.Json

open Number (Binary64)

/-- A hexadecimal digit. -/
def hexDigit (n : Nat) : Char :=
  if n < 10 then Char.ofNat (48 + n) else Char.ofNat (87 + n)

/-- The escape of a 16-bit unit. -/
def unitEscape (n : Nat) : List Char :=
  ['\\', 'u', hexDigit (n / 4096 % 16), hexDigit (n / 256 % 16), hexDigit (n / 16 % 16),
    hexDigit (n % 16)]

/-- A character inside a string. With `ascii` characters outside ASCII are
escaped, those beyond 16 bits as two surrogates. -/
def writeChar (ascii : Bool) (c : Char) : List Char :=
  match c with
  | '"' => ['\\', '"']
  | '\\' => ['\\', '\\']
  | '\n' => ['\\', 'n']
  | '\r' => ['\\', 'r']
  | '\t' => ['\\', 't']
  | '\x08' => ['\\', 'b']
  | '\x0c' => ['\\', 'f']
  | c =>
    let n := c.toNat
    if n < 0x20 || (ascii && 0x7F ≤ n && n < 0x10000) then unitEscape n
    else if ascii && 0x10000 ≤ n then
      unitEscape (0xD800 + (n - 0x10000) / 0x400) ++ unitEscape (0xDC00 + (n - 0x10000) % 0x400)
    else [c]

/-- A string in quotes. -/
def writeString (ascii : Bool) (s : String) : String :=
  "\"" ++ String.ofList (s.toList.flatMap (writeChar ascii)) ++ "\""

/-- A number with a point or exponent. -/
def writeFloat : Binary64 → String
  | .nan => "NaN"
  | .infinite negative => if negative then "-Infinity" else "Infinity"
  | x => x.report

/-- How a value is laid out: whether each item stands on a line of its own,
what follows the colon, and whether characters outside ASCII are escaped. -/
structure Layout where
  lines : Bool
  colon : String
  ascii : Bool

/-- A line break and the indentation of a level. -/
def newline (level : Nat) : String := "\n" ++ "".pushn ' ' (2 * level)

/-- Items between brackets; nothing stands between the brackets of none. -/
def Layout.enclose (l : Layout) (level : Nat) (opening closing : String)
    (items : List String) : String :=
  if items.isEmpty then opening ++ closing
  else if l.lines then
    opening ++ newline (level + 1) ++ String.intercalate ("," ++ newline (level + 1)) items ++
      newline level ++ closing
  else opening ++ String.intercalate "," items ++ closing

mutual

/-- A value at a level of indentation. -/
def write (l : Layout) (level : Nat) : Json → String
  | .null => "null"
  | .bool b => if b then "true" else "false"
  | .int n => toString n
  | .float x => writeFloat x
  | .str s => writeString l.ascii s
  | .arr xs => l.enclose level "[" "]" (writeItems l (level + 1) xs)
  | .obj fields => l.enclose level "\x7b" "\x7d" (writeFields l (level + 1) fields)

/-- The items of a list. -/
def writeItems (l : Layout) (level : Nat) : List Json → List String
  | [] => []
  | x :: xs => write l level x :: writeItems l level xs

/-- The fields of an object. -/
def writeFields (l : Layout) (level : Nat) : List (String × Json) → List String
  | [] => []
  | (n, x) :: fields =>
    (writeString l.ascii n ++ l.colon ++ write l level x) :: writeFields l level fields

end

/-- Each item on a line of its own, two blanks deeper than what holds it. -/
def pretty (ascii : Bool) (v : Json) : String := write ⟨true, ": ", ascii⟩ 0 v

mutual

/-- A value whose fields are in the order of their names, at all depths. -/
def sorted : Json → Json
  | .arr xs => .arr (sortedAll xs)
  | .obj fields => .obj ((sortedFields fields).mergeSort fun a b => a.1 ≤ b.1)
  | v => v

/-- A list of values with sorted fields. -/
def sortedAll : List Json → List Json
  | [] => []
  | x :: xs => sorted x :: sortedAll xs

/-- Fields whose values have sorted fields. -/
def sortedFields : List (String × Json) → List (String × Json)
  | [] => []
  | (n, x) :: fields => (n, sorted x) :: sortedFields fields

end

/-- On one line without blanks, fields in the order of their names. -/
def canonical (v : Json) : String := write ⟨false, ":", true⟩ 0 v.sorted

end RouteDoc.Json
