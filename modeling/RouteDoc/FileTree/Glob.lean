import RouteDoc.FileTree.Path

/-!
# Globs

Patterns of file names. A star stands for any text, slashes included, a
question mark for one character, and brackets for one character of a set.

* `Glob.ofText`: the pieces a pattern consists of;
* `Glob.accepts`: whether a text as a whole fits;
* `excludes`: the same for paths, where two stars and a slash at the start may
  also stand for nothing.
-/

namespace RouteDoc

namespace Glob

/-- A piece of a pattern. A set holds ranges from one character to another. -/
inductive Piece
  | star
  | set (negated : Bool) (ranges : List (Char × Char))
  | literal (c : Char)
  deriving DecidableEq, Repr

/-- Any single character. -/
def Piece.single : Piece := .set true []

/-- A part of the text between brackets: a character, or the mark of a range. -/
inductive Mark
  | char (c : Char)
  | range
  deriving DecidableEq, Repr

/-- The parts of a text between marks of ranges. A hyphen is such a mark unless
fewer than `plain` characters have been passed; after one, two more are plain.
`chunk` holds the part begun, last character first. -/
def chunks : Nat → List Char → List Char → List (List Char)
  | _, chunk, [] => [chunk.reverse]
  | 0, chunk, c :: cs => if c == '-' then chunk.reverse :: chunks 2 [] cs else chunks 0 (c :: chunk) cs
  | plain + 1, chunk, c :: cs => chunks plain (c :: chunk) cs

/-- A hyphen at the very end is a plain character. -/
def keepLastHyphen : List (List Char) → List (List Char)
  | [chunk, []] => [chunk ++ ['-']]
  | chunk :: rest => chunk :: keepLastHyphen rest
  | [] => []

/-- The parts without ranges that end before they start. -/
def dropEmptyRanges : List (List Char) → List (List Char)
  | [] => []
  | chunk :: rest =>
    match dropEmptyRanges rest with
    | [] => [chunk]
    | next :: more =>
      match chunk.getLast?, next.head? with
      | some a, some b =>
        if b < a then (chunk.dropLast ++ next.drop 1) :: more else chunk :: next :: more
      | _, _ => chunk :: next :: more

/-- The parts with the marks of ranges between them. -/
def marked : List (List Char) → List Mark
  | [] => []
  | [chunk] => chunk.map .char
  | chunk :: rest => chunk.map .char ++ .range :: marked rest

/-- The marks between brackets. -/
def marks (stuff : List Char) : List Mark :=
  if stuff.contains '-' then
    let plain := if stuff.head? == some '!' then 2 else 1
    marked (dropEmptyRanges (keepLastHyphen (chunks plain [] stuff)))
  else stuff.map .char

/-- The ranges that marks stand for; a mark of a range with nothing before it
is a hyphen. -/
def ranges : List Mark → List (Char × Char)
  | .char a :: .range :: .char b :: rest => (a, b) :: ranges rest
  | .char a :: rest => (a, a) :: ranges rest
  | .range :: rest => ('-', '-') :: ranges rest
  | [] => []

/-- The set between brackets; an exclamation mark at the start negates it. -/
def setOf (stuff : List Char) : Piece :=
  match marks stuff with
  | .char '!' :: rest => .set true (ranges rest)
  | all => .set false (ranges all)

/-- The length of the text between brackets, if a closing one follows. It may
itself be the first character, or the second after an exclamation mark. -/
def bracketed (cs : List Char) : Option Nat :=
  let skip :=
    match cs with
    | '!' :: ']' :: _ => 2
    | '!' :: _ => 1
    | ']' :: _ => 1
    | _ => 0
  let inside := (cs.drop skip).takeWhile (· != ']')
  if skip + inside.length < cs.length then some (skip + inside.length) else none

/-- The pieces of a pattern; the next `skip` characters belong to a set. -/
def pieces : Nat → List Char → List Piece
  | _, [] => []
  | skip + 1, _ :: cs => pieces skip cs
  | 0, c :: cs =>
    match c with
    | '*' => .star :: pieces 0 cs
    | '?' => .single :: pieces 0 cs
    | '[' =>
      match bracketed cs with
      | some n => setOf (cs.take n) :: pieces (n + 1) cs
      | none => .literal '[' :: pieces 0 cs
    | c => .literal c :: pieces 0 cs

/-- The pieces a pattern consists of. -/
def ofText (pattern : String) : List Piece := pieces 0 pattern.toList

/-- Whether a piece stands for a single character. -/
def Piece.fits : Piece → Char → Bool
  | .star, _ => false
  | .set negated ranges, c => ranges.any (fun r => r.1 ≤ c && c ≤ r.2) != negated
  | .literal d, c => c == d

/-- A text and all that is left of it when characters are dropped in front. -/
def suffixes : List Char → List (List Char)
  | [] => [[]]
  | c :: cs => (c :: cs) :: suffixes cs

/-- What may be left after a piece, given what may be left before it, the
longest first. -/
def advance (lefts : List (List Char)) : Piece → List (List Char)
  | .star =>
    match lefts with
    | [] => []
    | longest :: _ => suffixes longest
  | piece =>
    lefts.filterMap fun left =>
      match left with
      | [] => none
      | c :: cs => if piece.fits c then some cs else none

/-- Whether a text as a whole fits a pattern. -/
def accepts (pattern : String) (text : String) : Bool :=
  ((ofText pattern).foldl advance [text.toList]).any (·.isEmpty)

end Glob

/-- Whether a pattern excludes a path. Two stars and a slash at the start stand
for directories, or for nothing. -/
def excludes (pattern path : String) : Bool :=
  Glob.accepts pattern path ||
    (match pattern.toList with
      | '*' :: '*' :: '/' :: rest => Glob.accepts (String.ofList rest) path
      | _ => false)

end RouteDoc
