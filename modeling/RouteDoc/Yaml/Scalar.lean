import RouteDoc.Yaml.Plain

/-!
# Texts in YAML

A text is written plain if it can be, else in single quotes, else in double
quotes. Long texts are folded at blanks.

* `Style`, `styleOf`: how a text is written;
* `Frame`, `writeText`: the written text at a place.
-/

namespace RouteDoc.Yaml

/-- How a text is written. -/
inductive Style
  | plain
  | single
  | double
  deriving DecidableEq, Repr

/-- Characters that end a line. -/
def isBreak (c : Char) : Bool :=
  c == '\n' || c == '\x85' || c == '\u2028' || c == '\u2029'

/-- Characters that separate words. -/
def isGap (c : Char) : Bool :=
  isBreak c || c == '\x00' || c == ' ' || c == '\t' || c == '\r'

/-- Characters that are written as they are. -/
def isPrintable (c : Char) : Bool :=
  let n := c.toNat
  c == '\n' || (0x20 ≤ n && n ≤ 0x7E) || n == 0x85 || (0xA0 ≤ n && n ≤ 0xD7FF) ||
    (0xE000 ≤ n && n ≤ 0xFFFD && n != 0xFEFF) || (0x10000 ≤ n && n < 0x10FFFF)

/-- Whether a character other than the first has a meaning where it stands. -/
def isMarkInside (before : Char) (c : Char) (rest : List Char) : Bool :=
  (c == ':' && (rest.head?.map isGap).getD true) || (c == '#' && isGap before)

/-- Whether the first character has a meaning. -/
def isMarkFirst (c : Char) (rest : List Char) : Bool :=
  "#,[]\x7b\x7d&*!|>'\"%@`".toList.contains c ||
    ("?:-".toList.contains c && (rest.head?.map isGap).getD true)

/-- Whether a character after the first, which `before` precedes, has a
meaning. -/
def hasMarkAfter (before : Char) : List Char → Bool
  | [] => false
  | c :: cs => isMarkInside before c cs || hasMarkAfter c cs

/-- Whether a part of the text has a meaning of its own. -/
def hasMark : List Char → Bool
  | [] => false
  | c :: cs =>
    ['-', '-', '-'].isPrefixOf (c :: cs) || ['.', '.', '.'].isPrefixOf (c :: cs) ||
      isMarkFirst c cs || hasMarkAfter c cs

/-- Whether somewhere a character of the first class precedes one of the
second. -/
def hasPair (p q : Char → Bool) : List Char → Bool
  | c :: d :: cs => (p c && q d) || hasPair p q (d :: cs)
  | _ => false

/-- Blanks. -/
def isBlank (c : Char) : Bool := c == ' '

/-- Whether a text may stand in single quotes. -/
def allowsSingle (cs : List Char) : Bool :=
  cs.all isPrintable && !hasPair isBreak isBlank cs && !hasPair isBlank isBreak cs

/-- Whether a character is a blank or ends a line. -/
def isEdge (c : Char) : Bool := isBlank c || isBreak c

/-- Whether a text may be written plain. -/
def allowsPlain (cs : List Char) : Bool :=
  allowsSingle cs && !cs.any isBreak && !hasMark cs && !(cs.head?.map isEdge).getD true &&
    !(cs.getLast?.map isEdge).getD true && !standsForOther cs

/-- How a text is written. -/
def styleOf (cs : List Char) : Style :=
  if allowsPlain cs then .plain else if allowsSingle cs then .single else .double

/-- Where a text is written: the column at which it starts, the indentation of
the lines after the first, and whether there may be such lines. -/
structure Frame where
  column : Nat
  indent : Nat
  folds : Bool

/-- The column after which lines are folded. -/
def lineWidth : Nat := 80

/-- A line end and blanks. -/
def newline (indent : Nat) : String := "\n" ++ "".pushn ' ' indent

/-- What the runs of a text consist of. -/
inductive RunKind
  | blanks
  | breaks
  | others
  deriving DecidableEq, Repr

/-- What a character makes a run of. -/
def runKind (c : Char) : RunKind :=
  if isBlank c then .blanks else if isBreak c then .breaks else .others

/-- The runs of a text. -/
def runs : List Char → List (RunKind × List Char)
  | [] => []
  | c :: cs =>
    match runs cs with
    | (k, run) :: rest =>
      if k == runKind c then (k, c :: run) :: rest else (runKind c, [c]) :: (k, run) :: rest
    | [] => [(runKind c, [c])]

/-- Plain text from a column on. -/
def plainFrom (f : Frame) (column : Nat) : List (RunKind × List Char) → String
  | [] => ""
  | (k, run) :: rest =>
    if k == .blanks && run.length == 1 && lineWidth < column && f.folds then
      newline f.indent ++ plainFrom f f.indent rest
    else String.ofList run ++ plainFrom f (column + run.length) rest

/-- Single quotes doubled. -/
def doubleSingle (cs : List Char) : List Char :=
  cs.flatMap fun c => if c == '\'' then ['\'', '\''] else [c]

/-- Text between single quotes from a column on; `first` says that the next run
is the first. Line ends are doubled where the first of them is a line feed. -/
def singleFrom (f : Frame) (first : Bool) (column : Nat) : List (RunKind × List Char) → String
  | [] => ""
  | (.breaks, run) :: rest =>
    (if run.head? == some '\n' then "\n" else "") ++ String.ofList run ++ "".pushn ' ' f.indent ++
      singleFrom f false f.indent rest
  | (.blanks, run) :: rest =>
    if run.length == 1 && lineWidth < column && f.folds && !first && !rest.isEmpty then
      newline f.indent ++ singleFrom f false f.indent rest
    else String.ofList run ++ singleFrom f false (column + run.length) rest
  | (.others, run) :: rest =>
    let text := doubleSingle run
    String.ofList text ++ singleFrom f false (column + text.length) rest

/-- The letters of short escapes. -/
def escapeLetter (c : Char) : Option Char :=
  match c with
  | '\x00' => some '0'
  | '\x07' => some 'a'
  | '\x08' => some 'b'
  | '\t' => some 't'
  | '\n' => some 'n'
  | '\x0b' => some 'v'
  | '\x0c' => some 'f'
  | '\r' => some 'r'
  | '\x1b' => some 'e'
  | '"' => some '"'
  | '\\' => some '\\'
  | '\x85' => some 'N'
  | '\xa0' => some '_'
  | '\u2028' => some 'L'
  | '\u2029' => some 'P'
  | _ => none

/-- A digit of a number to the base of sixteen. -/
def upperDigit (n : Nat) : Char := Char.ofNat (if n < 10 then 48 + n else 55 + n)

/-- The last `width` digits of a number to the base of sixteen. -/
def upperDigits : Nat → Nat → List Char
  | 0, _ => []
  | width + 1, n => upperDigits width (n / 16) ++ [upperDigit (n % 16)]

/-- Whether a character is escaped between double quotes. -/
def isEscaped (c : Char) : Bool :=
  let n := c.toNat
  c == '"' || c == '\\' || c == '\u2028' || c == '\u2029' || n == 0xFEFF ||
    !((0x20 ≤ n && n ≤ 0x7E) || (0xA0 ≤ n && n ≤ 0xD7FF) || (0xE000 ≤ n && n ≤ 0xFFFD))

/-- The escape of a character. -/
def escapeOf (c : Char) : List Char :=
  match escapeLetter c with
  | some letter => ['\\', letter]
  | none =>
    let n := c.toNat
    if n ≤ 0xFF then '\\' :: 'x' :: upperDigits 2 n
    else if n ≤ 0xFFFF then '\\' :: 'u' :: upperDigits 4 n
    else '\\' :: 'U' :: upperDigits 8 n

/-- A line end between double quotes, with a mark before it, and one after it
where a blank follows. -/
def foldDouble (f : Frame) (next : Option Char) : String × Nat :=
  if next == some ' ' then ("\\" ++ newline f.indent ++ "\\", f.indent + 1)
  else ("\\" ++ newline f.indent, f.indent)

/-- Text between double quotes from a column on. `first` says that the next
character is the first, `pending` holds what is read but not yet written, last
character first. -/
def doubleFrom (f : Frame) (first : Bool) (column : Nat) (pending : List Char) :
    List Char → String
  | [] => String.ofList pending.reverse
  | c :: cs =>
    let mayFold := !first && !cs.isEmpty && f.folds
    if isEscaped c then
      let escape := escapeOf c
      let column := column + pending.length + escape.length
      let written := String.ofList (pending.reverse ++ escape)
      if mayFold && lineWidth < column - 1 then
        let (fold, column) := foldDouble f cs.head?
        written ++ fold ++ doubleFrom f false column [] cs
      else written ++ doubleFrom f false column [] cs
    else if mayFold && (c == ' ' || pending.isEmpty) && lineWidth < column + pending.length then
      let (fold, column) := foldDouble f (some c)
      String.ofList pending.reverse ++ fold ++ doubleFrom f false column [c] cs
    else doubleFrom f false column (c :: pending) cs

/-- The written text. -/
def writeText (f : Frame) (s : String) : String :=
  let cs := s.toList
  match styleOf cs with
  | .plain => plainFrom f f.column (runs cs)
  | .single => "'" ++ singleFrom f true (f.column + 1) (runs cs) ++ "'"
  | .double => "\"" ++ doubleFrom f true (f.column + 1) [] cs ++ "\""

end RouteDoc.Yaml
