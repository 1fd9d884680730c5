import RouteDoc.Source.Node

/-!
# Positions and gaps

A position is a place in a text: the characters ahead and how much lies
behind. Between two tokens stands a gap of blanks and comments.

* `Position.advance`: one character further, counting lines;
* `Position.skipGap`: over a gap, keeping the comments and where each ends;
* `isBlank`: the characters that may stand between tokens;
* `isLayout`: the narrower class of blanks that the rule for automatic
  semicolons looks through.
-/

namespace RouteDoc.Source

/-- A place in a text. -/
structure Position where
  rest : List Char
  offset : Nat
  row : Nat
  deriving Inhabited

/-- Blanks that may stand between tokens: every white space character, the
byte order mark and the zero-width and word joiners. -/
def isBlank (c : Char) : Bool :=
  let n := c.toNat
  (9 ≤ n && n ≤ 13) || n == 0x20 || n == 0x85 || n == 0xA0 || n == 0x1680 ||
    (0x2000 ≤ n && n ≤ 0x200B) || n == 0x2028 || n == 0x2029 || n == 0x202F ||
    n == 0x205F || n == 0x2060 || n == 0x3000 || n == 0xFEFF

/-- Breaking blanks: white space less the no-break spaces. -/
def isLayout (c : Char) : Bool :=
  let n := c.toNat
  (9 ≤ n && n ≤ 13) || n == 0x20 || n == 0x1680 || (0x2000 ≤ n && n ≤ 0x2006) ||
    (0x2008 ≤ n && n ≤ 0x200A) || n == 0x2028 || n == 0x2029 || n == 0x205F || n == 0x3000

/-- The characters that end a line comment; the null character ends any token. -/
def endsLine (c : Char) : Bool :=
  c == '\n' || c == '\r' || c == '\u2028' || c == '\u2029' || c == '\x00'

namespace Position

/-- The start of a text. -/
def start (text : List Char) : Position := ⟨text, 0, 0⟩

/-- One character further; the line feed ends a line. -/
def advance (p : Position) : Position :=
  match p.rest with
  | [] => p
  | c :: cs => ⟨cs, p.offset + 1, if c == '\n' then p.row + 1 else p.row⟩

/-- `n` characters further. -/
def drop (p : Position) : Nat → Position
  | 0 => p
  | n + 1 => p.advance.drop n

/-- Whether the text goes on with `s`. -/
def startsWith (p : Position) (s : String) : Bool :=
  s.toList.isPrefixOf p.rest

/-- The span from `p` to `q`. -/
def spanTo (p q : Position) : Span := ⟨p.offset, q.offset, p.row, q.row⟩

end Position

/-- The number of characters of the block comment body ahead, its closing
marks included; nothing if it never closes. -/
def blockCommentLength : List Char → Option Nat
  | [] => none
  | '\x00' :: _ => none
  | '*' :: '/' :: _ => some 2
  | _ :: cs => (blockCommentLength cs).map (· + 1)

/-- The number of characters of the comment that starts the text, if one does. -/
def commentLength : List Char → Option Nat
  | '/' :: '/' :: cs => some (2 + (cs.takeWhile (!endsLine ·)).length)
  | '/' :: '*' :: cs => (blockCommentLength cs).map (· + 2)
  | _ => none

/-- A gap between tokens: where the next token starts and, for each comment in
the gap, the comment and the position after it. -/
structure Gap where
  here : Position
  comments : List (Node × Position)
  deriving Inhabited

namespace Position

/-- Over the blanks ahead. -/
def skipBlanks (p : Position) : Position :=
  p.drop (p.rest.takeWhile isBlank).length

/-- Over at most `n` comments and the blanks around them. -/
def skipGapUpTo : Nat → Position → Gap
  | 0, p => ⟨p.skipBlanks, []⟩
  | n + 1, p =>
    let q := p.skipBlanks
    match commentLength q.rest with
    | none => ⟨q, []⟩
    | some k =>
      let stop := q.drop k
      let comment := Node.mk .comment .plain (q.spanTo stop) []
      let gap := skipGapUpTo n stop
      { gap with comments := (comment, stop) :: gap.comments }

/-- Over all blanks and comments ahead. A comment has at least two characters,
so counting down from the characters left reaches the end of the gap. -/
def skipGap (p : Position) : Gap :=
  let q := p.skipBlanks
  match q.rest with
  | '/' :: cs => skipGapUpTo (cs.length + 1) q
  | _ => ⟨q, []⟩

end Position

end RouteDoc.Source
