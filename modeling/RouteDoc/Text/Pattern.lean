import RouteDoc.Text.Blank
import RouteDoc.Text.Letters

/-!
# Patterns

Patterns of characters and the stretches of text that match them. Of the ways
in which a pattern matches at a place, the one tried first counts.

* `Pattern`, `Pattern.ends`: a pattern, and where its matches at a place end,
  the preferred one first;
* `Pattern.find?`: the first match in a text;
* `Pattern.occursIn`, `Pattern.count`: whether a pattern matches somewhere, and
  how many matches follow one another.
-/

namespace RouteDoc.Text

/-- A place in a text: the character before it, what follows, and the offset. -/
structure Spot where
  before : Option Char
  rest : List Char
  offset : Nat

/-- A pattern of characters. -/
inductive Pattern where
  | empty
  | one (p : Char → Bool)
  | run (least : Nat) (shortest : Bool) (p : Char → Bool)
  | boundary
  | start
  | seq (a b : Pattern)
  | alt (a b : Pattern)
  deriving Inhabited

namespace Pattern

/-- The places that characters of a class lead to, after at least `least` of
them, the farthest first; `found` are those passed already. -/
def runEnds (p : Char → Bool) : Nat → Option Char → List Char → Nat → List Spot → List Spot
  | least, before, [], offset, found =>
    if least == 0 then ⟨before, [], offset⟩ :: found else found
  | least, before, c :: cs, offset, found =>
    let found := if least == 0 then ⟨before, c :: cs, offset⟩ :: found else found
    if p c then runEnds p (least - 1) (some c) cs (offset + 1) found else found

/-- Whether a word begins or ends between two characters. -/
def isBoundary (before : Option Char) (rest : List Char) : Bool :=
  (before.map isWordLetter).getD false != (rest.head?.map isWordLetter).getD false

/-- The places where the matches at a place end, the preferred one first. -/
def ends : Pattern → Spot → List Spot
  | empty, s => [s]
  | one p, s =>
    match s.rest with
    | c :: cs => if p c then [⟨some c, cs, s.offset + 1⟩] else []
    | [] => []
  | run least shortest p, s =>
    let found := runEnds p least s.before s.rest s.offset []
    if shortest then found.reverse else found
  | boundary, s => if isBoundary s.before s.rest then [s] else []
  | start, s => if s.before.isNone then [s] else []
  | seq a b, s => (ends a s).flatMap (ends b)
  | alt a b, s => ends a s ++ ends b s

/-- The offset at which the preferred match at a place ends. -/
def stop? (p : Pattern) (s : Spot) : Option Nat := (p.ends s).head?.map (·.offset)

/-- The first match in the text after a place, as the offsets of its start and
its end. -/
def findFrom (p : Pattern) : Option Char → List Char → Nat → Option (Nat × Nat)
  | before, [], offset => (p.stop? ⟨before, [], offset⟩).map fun stop => (offset, stop)
  | before, c :: cs, offset =>
    match p.stop? ⟨before, c :: cs, offset⟩ with
    | some stop => some (offset, stop)
    | none => findFrom p (some c) cs (offset + 1)

/-- The first match in a text, as the offsets of its start and its end. -/
def find? (p : Pattern) (text : List Char) : Option (Nat × Nat) := p.findFrom none text 0

/-- Whether a pattern matches somewhere in a text. -/
def occursIn (p : Pattern) (text : List Char) : Bool := (p.find? text).isSome

/-- The number of matches that follow one another after a place; the next
`skip` characters belong to the last match. -/
def countFrom (p : Pattern) : Nat → Option Char → List Char → Nat → Nat
  | 0, before, [], offset => if (p.stop? ⟨before, [], offset⟩).isSome then 1 else 0
  | _ + 1, _, [], _ => 0
  | skip + 1, _, c :: cs, offset => countFrom p skip (some c) cs (offset + 1)
  | 0, before, c :: cs, offset =>
    match p.stop? ⟨before, c :: cs, offset⟩ with
    | some stop => 1 + countFrom p (stop - offset - 1) (some c) cs (offset + 1)
    | none => countFrom p 0 (some c) cs (offset + 1)

/-- The number of matches in a text, none of which overlaps another. -/
def count (p : Pattern) (text : List Char) : Nat := p.countFrom 0 none text 0

/-- The patterns one after another. -/
def all : List Pattern → Pattern
  | [] => empty
  | [p] => p
  | p :: ps => seq p (all ps)

/-- One of several patterns, the first preferred. -/
def any : List Pattern → Pattern
  | [] => one fun _ => false
  | [p] => p
  | p :: ps => alt p (any ps)

/-- A character that is one of those given. -/
def oneOf (cs : String) : Pattern := one fun c => cs.toList.contains c

/-- A given text. -/
def literal (s : String) : Pattern := all (s.toList.map fun c => one (· == c))

/-- A given text or one of several, or nothing. -/
def optional (p : Pattern) : Pattern := alt p empty

/-- White space, as much as there is, if any. -/
def blanks : Pattern := run 0 false isSpace

/-- White space, as much as there is, and at least one character. -/
def someBlanks : Pattern := run 1 false isSpace

/-- The rest of a line, or as much of it as leads to a match. -/
def restOfLine : Pattern := run 0 false (· != '\n')

instance : Append Pattern := ⟨seq⟩

instance : Coe String Pattern := ⟨literal⟩

end Pattern

end RouteDoc.Text
