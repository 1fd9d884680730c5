import RouteDoc.Json.Value

/-!
# Reading JSON

A strict reader that says what is wrong and where. Besides the standard it
takes `NaN`, `Infinity` and `-Infinity`.

* `ReadError`, `ReadError.message`: the causes of failure and their wording;
* `Json.read`: the value of a whole text.
-/

namespace RouteDoc.Json

open Number (Binary64)

/-- Why a text cannot be read. -/
inductive ReadFault
  | byteOrderMark
  | value
  | propertyName
  | colon
  | comma
  | unterminatedString
  | controlCharacter
  | escape
  | codePointEscape
  | extraData
  deriving DecidableEq, Repr

/-- What went wrong at which character, or an integer with too many digits. -/
inductive ReadError
  | at (fault : ReadFault) (offset : Nat)
  | tooManyDigits (count : Nat)
  deriving DecidableEq, Repr

/-- The wording of a fault. -/
def ReadFault.message : ReadFault → String
  | byteOrderMark => "Unexpected UTF-8 BOM (decode using utf-8-sig)"
  | value => "Expecting value"
  | propertyName => "Expecting property name enclosed in double quotes"
  | colon => "Expecting ':' delimiter"
  | comma => "Expecting ',' delimiter"
  | unterminatedString => "Unterminated string starting at"
  | controlCharacter => "Invalid control character at"
  | escape => "Invalid \\escape"
  | codePointEscape => "Invalid \\uXXXX escape"
  | extraData => "Extra data"

/-- The longest integer that is read. -/
def maxIntegerDigits : Nat := 4300

/-- The wording of an error in `text`, with line, column and offset. -/
def ReadError.message (text : List Char) : ReadError → String
  | .at fault offset =>
    let before := text.take offset
    let line := before.count '\n' + 1
    let column := (before.reverse.takeWhile (· != '\n')).length + 1
    s!"{fault.message}: line {line} column {column} (char {offset})"
  | .tooManyDigits count =>
    s!"Exceeds the limit ({maxIntegerDigits} digits) for integer string conversion: value has {count} digits; use sys.set_int_max_str_digits() to increase the limit"

/-- What remains to be read, and how much was. -/
structure Rest where
  chars : List Char
  offset : Nat

namespace Rest

/-- `n` characters further. -/
def drop (r : Rest) (n : Nat) : Rest := ⟨r.chars.drop n, r.offset + n⟩

/-- Over blanks. -/
def skipBlanks (r : Rest) : Rest :=
  r.drop (r.chars.takeWhile fun c => c == ' ' || c == '\t' || c == '\n' || c == '\r').length

end Rest

/-- The value of a hexadecimal digit. -/
def hexValue (c : Char) : Option Nat :=
  if c.isDigit then some (c.toNat - 48)
  else if 'a' ≤ c && c ≤ 'f' then some (c.toNat - 87)
  else if 'A' ≤ c && c ≤ 'F' then some (c.toNat - 55)
  else none

/-- The number that four hexadecimal digits write. -/
def hexQuad : List Char → Option Nat
  | a :: b :: c :: d :: _ => do
    let a ← hexValue a
    let b ← hexValue b
    let c ← hexValue c
    let d ← hexValue d
    return ((a * 16 + b) * 16 + c) * 16 + d
  | _ => none

/-- What a one-letter escape stands for. -/
def plainEscape : Char → Option Char
  | '"' => some '"'
  | '\\' => some '\\'
  | '/' => some '/'
  | 'b' => some '\x08'
  | 'f' => some '\x0c'
  | 'n' => some '\n'
  | 'r' => some '\r'
  | 't' => some '\t'
  | _ => none

/-- A code point after `\u`, with the surrogate that may follow it: the
character and how many characters after the letter it takes. -/
def codePoint (cs : List Char) : Option (Char × Nat) :=
  match hexQuad cs with
  | none => none
  | some high =>
    let pair :=
      if 0xD800 ≤ high && high < 0xDC00 then
        match cs.drop 4 with
        | '\\' :: 'u' :: more =>
          match hexQuad more with
          | some low =>
            if 0xDC00 ≤ low && low < 0xE000 then
              some (Char.ofNat (0x10000 + (high - 0xD800) * 0x400 + (low - 0xDC00)), 10)
            else none
          | none => none
        | _ => none
      else none
    match pair with
    | some p => some p
    | none => some (if 0xD800 ≤ high && high < 0xE000 then '\uFFFD' else Char.ofNat high, 4)

/-- The characters of a string after its opening quote, which stood at
`start`; the next `skip` characters belong to an escape already read. -/
def readChars (start : Nat) : Nat → List Char → Nat → List Char →
    Except ReadError (List Char × Rest)
  | _, [], _, _ => .error (.at .unterminatedString start)
  | skip + 1, _ :: cs, offset, acc => readChars start skip cs (offset + 1) acc
  | 0, c :: cs, offset, acc =>
    if c == '"' then .ok (acc.reverse, ⟨cs, offset + 1⟩)
    else if c.toNat < 0x20 then .error (.at .controlCharacter offset)
    else if c == '\\' then
      match cs with
      | [] => .error (.at .unterminatedString start)
      | 'u' :: more =>
        match if (more.drop 4).isEmpty then none else codePoint more with
        | some (d, n) => readChars start (n + 1) cs (offset + 1) (d :: acc)
        | none => .error (.at .codePointEscape (offset + 1))
      | e :: _ =>
        match plainEscape e with
        | some d => readChars start 1 cs (offset + 1) (d :: acc)
        | none => .error (.at .escape offset)
    else readChars start 0 cs (offset + 1) (c :: acc)

/-- The string whose opening quote is next. -/
def readString (r : Rest) : Except ReadError (String × Rest) := do
  let (cs, r) ← readChars r.offset 0 (r.chars.drop 1) (r.offset + 1) []
  return (String.ofList cs, r)

/-- The natural number a run of digits writes. -/
def digitsValue (ds : List Char) : Nat :=
  ds.foldl (fun n d => n * 10 + (d.toNat - 48)) 0

/-- The number at the start. -/
def readNumber (r : Rest) : Except ReadError (Json × Rest) :=
  let negative := r.chars.head? == some '-'
  let cs := if negative then r.chars.drop 1 else r.chars
  let whole :=
    match cs with
    | '0' :: _ => ['0']
    | _ => cs.takeWhile Char.isDigit
  if whole.isEmpty then .error (.at .value r.offset)
  else
    let afterWhole := cs.drop whole.length
    let fraction :=
      match afterWhole with
      | '.' :: more => more.takeWhile Char.isDigit
      | _ => []
    let afterFraction :=
      if fraction.isEmpty then afterWhole else afterWhole.drop (fraction.length + 1)
    let (signLength, exponentNegative, exponent) :=
      match afterFraction with
      | e :: more =>
        if e == 'e' || e == 'E' then
          match more with
          | '-' :: ds => (1, true, ds.takeWhile Char.isDigit)
          | '+' :: ds => (1, false, ds.takeWhile Char.isDigit)
          | ds => (0, false, ds.takeWhile Char.isDigit)
        else (0, false, [])
      | [] => (0, false, [])
    let exponentLength := if exponent.isEmpty then 0 else 1 + signLength + exponent.length
    let fractionLength := if fraction.isEmpty then 0 else fraction.length + 1
    let rest := r.drop ((if negative then 1 else 0) + whole.length + fractionLength + exponentLength)
    if fraction.isEmpty && exponent.isEmpty then
      if maxIntegerDigits < whole.length then .error (.tooManyDigits whole.length)
      else
        let n : Int := digitsValue whole
        .ok (.int (if negative then -n else n), rest)
    else
      let e : Int := digitsValue exponent
      let e := (if exponentNegative then -e else e) - fraction.length
      .ok (.float (.ofDecimal negative (digitsValue (whole ++ fraction)) e), rest)

/-- The words that are values. -/
def literals : List (String × Json) :=
  [("null", .null), ("true", .bool true), ("false", .bool false), ("NaN", .float .nan),
    ("Infinity", .float (.infinite false)), ("-Infinity", .float (.infinite true))]

mutual

/-- The value at the start, at most `depth` levels deep. -/
def readValue : Nat → Rest → Except ReadError (Json × Rest)
  | 0, r => .error (.at .value r.offset)
  | depth + 1, r =>
    match r.chars with
    | [] => .error (.at .value r.offset)
    | '"' :: _ => do
      let (s, r) ← readString r
      return (.str s, r)
    | '{' :: _ => do
      let r := (r.drop 1).skipBlanks
      if r.chars.head? == some '}' then return (.obj [], r.drop 1)
      let (fields, r) ← readFields depth r []
      return (ofFields fields.reverse, r)
    | '[' :: _ => do
      let r := (r.drop 1).skipBlanks
      if r.chars.head? == some ']' then return (.arr [], r.drop 1)
      let (xs, r) ← readItems depth r []
      return (.arr xs.reverse, r)
    | cs =>
      match literals.find? fun l => l.1.toList.isPrefixOf cs with
      | some (w, v) => .ok (v, r.drop w.length)
      | none => readNumber r

/-- The fields of an object from its first name on, the last read first. -/
def readFields : Nat → Rest → List (String × Json) →
    Except ReadError (List (String × Json) × Rest)
  | 0, r, _ => .error (.at .value r.offset)
  | depth + 1, r, acc =>
    if r.chars.head? != some '"' then .error (.at .propertyName r.offset)
    else do
      let (name, r) ← readString r
      let r := r.skipBlanks
      if r.chars.head? != some ':' then throw (.at .colon r.offset)
      let (value, r) ← readValue depth (r.drop 1).skipBlanks
      let r := r.skipBlanks
      let acc := (name, value) :: acc
      match r.chars with
      | '}' :: _ => return (acc, r.drop 1)
      | ',' :: _ => readFields depth (r.drop 1).skipBlanks acc
      | _ => throw (.at .comma r.offset)

/-- The items of a list from the first on, the last read first. -/
def readItems : Nat → Rest → List Json → Except ReadError (List Json × Rest)
  | 0, r, _ => .error (.at .value r.offset)
  | depth + 1, r, acc => do
    let (value, r) ← readValue depth r
    let r := r.skipBlanks
    let acc := value :: acc
    match r.chars with
    | ']' :: _ => return (acc, r.drop 1)
    | ',' :: _ => readItems depth (r.drop 1).skipBlanks acc
    | _ => throw (.at .comma r.offset)

end

/-- The value of a whole text. Two levels of reading take at least one
character, so two levels for each character are enough. -/
def readList (text : List Char) : Except ReadError Json := do
  if text.head? == some '\uFEFF' then throw (.at .byteOrderMark 0)
  let r := (Rest.mk text 0).skipBlanks
  let (value, r) ← readValue (2 * text.length + 2) r
  let r := r.skipBlanks
  if r.chars.isEmpty then return value else throw (.at .extraData r.offset)

/-- The value of a whole text. -/
def read (text : String) : Except ReadError Json := readList text.toList

end RouteDoc.Json
