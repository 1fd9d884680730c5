import RouteDoc.Source.Word

/-!
# Literals

How far the literal at the start of a text reaches, as a number of characters,
or nothing where none is well formed:

* `stringLength`: text in quotes on one line;
* `templateChunkLength`: the plain part of a template up to a substitution or
  the closing mark;
* `numberLength`: numbers in all bases;
* `patternLength`: regular expressions with their flags;
* `entityLength`: character references of element markup.
-/

namespace RouteDoc.Source

/-- The number of characters of an escape after its backslash, the longest
reading first. -/
def escapeLength : List Char → Option Nat
  | [] => none
  | c :: cs =>
    if c == '\x00' then none
    else if c == 'u' then codePointEscapeLength (c :: cs)
    else if c == 'x' then
      match cs with
      | a :: b :: _ => if isHexDigit a && isHexDigit b then some 3 else none
      | _ => none
    else if '0' ≤ c && c ≤ '7' then
      some (1 + ((cs.take 2).takeWhile (fun d => '0' ≤ d && d ≤ '7')).length)
    else if (c == '\r' || c == '?') &&
        ((cs.head?.map (fun d => d == '\n' || d == '\u2028' || d == '\u2029')).getD false) then some 2
    else some 1

/-- The number of characters up to and including the closing quote, the next
`skip` of which belong to an escape already read. -/
def stringTailLength (quote : Char) : Nat → List Char → Option Nat
  | _, [] => none
  | skip + 1, _ :: cs => (stringTailLength quote skip cs).map (· + 1)
  | 0, c :: cs =>
    if c == quote then some 1
    else if c == '\n' || c == '\r' || c == '\x00' then none
    else if c == '\\' then
      match escapeLength cs with
      | some k => (stringTailLength quote k cs).map (· + 1)
      | none => none
    else (stringTailLength quote 0 cs).map (· + 1)

/-- The number of characters of the quoted string at the start of a text. -/
def stringLength : List Char → Option Nat
  | c :: cs => if c == '\'' || c == '"' then (stringTailLength c 0 cs).map (· + 1) else none
  | [] => none

/-- The number of characters of a template before its closing mark or its next
substitution, the next `skip` of which belong to an escape already read. -/
def templateChunkLength : Nat → List Char → Option Nat
  | _, [] => none
  | skip + 1, _ :: cs => (templateChunkLength skip cs).map (· + 1)
  | 0, '$' :: '\x7b' :: _ => some 0
  | 0, c :: cs =>
    if c == '`' then some 0
    else if c == '\x00' then none
    else if c == '\\' then
      match escapeLength cs with
      | some k => (templateChunkLength k cs).map (· + 1)
      | none => none
    else (templateChunkLength 0 cs).map (· + 1)

/-- The number of characters of a run of digits in which single underscores
may stand between digits. -/
def digitRunLength (isDigit : Char → Bool) : List Char → Nat
  | '_' :: c :: cs => if isDigit c then digitRunLength isDigit (c :: cs) + 1 else 0
  | c :: cs => if isDigit c then digitRunLength isDigit cs + 1 else 0
  | [] => 0

/-- A run of digits that starts with a digit. -/
def digitsLength (isDigit : Char → Bool) (text : List Char) : Nat :=
  match text with
  | c :: _ => if isDigit c then digitRunLength isDigit text else 0
  | [] => 0

/-- The number of characters of the exponent at the start of a text, or zero. -/
def exponentLength : List Char → Nat
  | c :: cs =>
    if c == 'e' || c == 'E' then
      let signLength := if cs.head? == some '-' || cs.head? == some '+' then 1 else 0
      let digits := digitsLength Char.isDigit (cs.drop signLength)
      if digits == 0 then 0 else 1 + signLength + digits
    else 0
  | [] => 0

/-- The number of characters of the whole part of a decimal: a zero, or digits
that do not start with two zeros. -/
def wholePartLength : List Char → Nat
  | '0' :: c :: cs =>
    if '1' ≤ c && c ≤ '9' then 1 + digitRunLength Char.isDigit (c :: cs) else 1
  | c :: cs => if c == '0' then 1 else digitsLength Char.isDigit (c :: cs)
  | [] => 0

/-- The number of characters of a literal in the base whose letter is `small`
or `large`, with its mark for big integers. -/
def basedLength (small large : Char) (isDigit : Char → Bool) : List Char → Nat
  | '0' :: x :: cs =>
    if x == small || x == large then
      let digits := digitsLength isDigit cs
      if digits == 0 then 0
      else 2 + digits + (if (cs.drop digits).head? == some 'n' then 1 else 0)
    else 0
  | _ => 0

/-- The number of characters of a decimal with a point or an exponent. -/
def pointedLength (text : List Char) : Nat :=
  let whole := wholePartLength text
  match text.drop whole with
  | '.' :: cs =>
    let fraction := digitsLength Char.isDigit cs
    if whole == 0 && fraction == 0 then 0
    else whole + 1 + fraction + exponentLength (cs.drop fraction)
  | cs =>
    let e := exponentLength cs
    if whole == 0 || e == 0 then 0 else whole + e

/-- The number of characters of the longest number at the start of a text. -/
def numberLength (text : List Char) : Nat :=
  let whole := digitsLength Char.isDigit text
  let big := if whole != 0 && (text.drop whole).head? == some 'n' then whole + 1 else whole
  [big, pointedLength text, basedLength 'x' 'X' isHexDigit text,
    basedLength 'o' 'O' (fun c => '0' ≤ c && c ≤ '7') text,
    basedLength 'b' 'B' (fun c => c == '0' || c == '1') text].foldl max 0

/-- Where the reader of a regular expression is. -/
inductive PatternState
  | plain
  | charClass
  | escaped (inClass : Bool)

/-- The number of characters of a regular expression after its first slash, up
to and including the closing one; `empty` as long as nothing was read. -/
def patternTailLength : PatternState → Bool → List Char → Option Nat
  | _, _, [] => none
  | state, empty, c :: cs =>
    if c == '\n' || c == '\x00' then none
    else
      match state with
      | .escaped inClass =>
        (patternTailLength (if inClass then .charClass else .plain) false cs).map (· + 1)
      | .charClass =>
        let next := if c == ']' then .plain else if c == '\\' then .escaped true else .charClass
        (patternTailLength next false cs).map (· + 1)
      | .plain =>
        if c == '/' then if empty then none else some 1
        else
          let next := if c == '[' then .charClass else if c == '\\' then .escaped false else .plain
          (patternTailLength next false cs).map (· + 1)

/-- The number of characters of the regular expression at the start of a text,
its flags included. -/
def patternLength : List Char → Option Nat
  | '/' :: cs =>
    (patternTailLength .plain true cs).map fun n =>
      1 + n + ((cs.drop n).takeWhile (fun c => 'a' ≤ c && c ≤ 'z')).length
  | _ => none

/-- The number of characters of the character reference at the start of a
text: an ampersand, a name or a code point, and a semicolon. -/
def entityLength : List Char → Option Nat
  | '&' :: cs =>
    let body :=
      match cs with
      | '#' :: x :: more =>
        if x == 'x' || x == 'X' then
          let n := (more.takeWhile isHexDigit).length
          if 1 ≤ n && n ≤ 6 then some (n + 2) else none
        else
          let n := ((x :: more).takeWhile Char.isDigit).length
          if 1 ≤ n && n ≤ 5 then some (n + 1) else none
      | _ =>
        let n := (cs.takeWhile Char.isAlpha).length
        if 1 ≤ n && n ≤ 30 then some n else none
    match body with
    | some n => if (cs.drop n).head? == some ';' then some (n + 2) else none
    | none => none
  | _ => none

end RouteDoc.Source
