import RouteDoc.Console.Emoji
import RouteDoc.Console.Wrap
import RouteDoc.Text.Case

/-!
# Markup

Texts are printed with styles, which stand in brackets, and with emoji, whose
names stand between colons. On plain paper the brackets disappear and the emoji
remain.

* `Piece`, `pieces`: the parts of a text with markup;
* `withEmoji`: names of emoji replaced;
* `plain`: what is left of a text on plain paper;
* `line`: the lines of a text on a console.
-/

namespace RouteDoc.Console

/-- A part of a text with markup: text, or the inside of brackets. -/
inductive Piece
  | text (cs : List Char)
  | tag (cs : List Char)
  deriving DecidableEq, Repr

/-- Whether a character can be the first one between brackets. -/
def startsTag (c : Char) : Bool := ('a' ≤ c && c ≤ 'z') || c == '#' || c == '/' || c == '@'

/-- The inside of the brackets after an opening one, if it is markup: it has no
opening bracket and ends at the first closing one. -/
def tagInside? (cs : List Char) : Option (List Char) :=
  match cs with
  | c :: _ =>
    let inside := cs.takeWhile fun d => d != '[' && d != ']'
    if startsTag c && (cs.drop inside.length).head? == some ']' then some inside else none
  | [] => none

/-- How many backslashes a text starts with, and the inside of the brackets
behind them, if there is markup. -/
def markAt? (cs : List Char) : Option (Nat × List Char) :=
  let slashes := (cs.takeWhile (· == '\\')).length
  match cs.drop slashes with
  | '[' :: rest => (tagInside? rest).map fun inside => (slashes, inside)
  | _ => none

/-- A text as a piece, unless it is empty. -/
def textPiece (cs : List Char) : List Piece := if cs.isEmpty then [] else [.text cs]

/-- What markup behind some backslashes stands for. Two backslashes are one, and
an odd one makes the brackets text. -/
def markPieces (slashes : Nat) (inside : List Char) : List Piece :=
  textPiece (List.replicate (slashes / 2) '\\') ++
    [if slashes % 2 == 0 then .tag inside else .text ('[' :: inside ++ [']'])]

/-- The parts of a text, after the text in `before`, last character first; the
next `skip` characters have been dealt with. -/
def piecesFrom (before : List Char) : Nat → List Char → List Piece
  | _, [] => textPiece before.reverse
  | skip + 1, _ :: cs => piecesFrom before skip cs
  | 0, c :: cs =>
    match markAt? (c :: cs) with
    | some (slashes, inside) =>
      textPiece before.reverse ++ markPieces slashes inside ++
        piecesFrom [] (slashes + inside.length + 1) cs
    | none => piecesFrom (c :: before) 0 cs

/-- The parts of a text with markup. -/
def pieces (cs : List Char) : List Piece := piecesFrom [] 0 cs

/-- A text with single brackets for those behind a backslash. -/
def freeBrackets : List Char → List Char
  | '\\' :: '[' :: cs => '[' :: freeBrackets cs
  | c :: cs => c :: freeBrackets cs
  | [] => []

/-- A name without the mark of a variant, and the character that selects it. -/
def variantOf (name : List Char) : List Char × List Char :=
  let cut := fun (ending : String) =>
    if ending.toList.isSuffixOf name then some (name.take (name.length - ending.length)) else none
  match cut "-emoji", cut "-text" with
  | some short, _ => (short, ['\uFE0F'])
  | _, some short => (short, ['\uFE0E'])
  | none, none => (name, [])

/-- What a name between colons stands for; other texts stay as they are. -/
def emojiOr (name : List Char) : List Char :=
  let variant := variantOf name
  ((emoji? (Text.lowerList variant.1)).map (· ++ variant.2)).getD (':' :: name ++ [':'])

/-- The text between the colon before `cs` and the next, if there is one and no
white space comes first. -/
def colonName? (cs : List Char) : Option (List Char) :=
  let name := cs.takeWhile fun c => c != ':' && !Text.isSpace c
  if (cs.drop name.length).head? == some ':' then some name else none

/-- A text with emoji for their names; the next `skip` characters have been
dealt with. -/
def withEmojiFrom : Nat → List Char → List Char
  | _, [] => []
  | skip + 1, _ :: cs => withEmojiFrom skip cs
  | 0, c :: cs =>
    match if c == ':' then colonName? cs else none with
    | some name => emojiOr name ++ withEmojiFrom (name.length + 1) cs
    | none => c :: withEmojiFrom 0 cs

/-- A text with emoji for their names. -/
def withEmoji (cs : List Char) : List Char := withEmojiFrom 0 cs

/-- Characters that are never printed: bell, backspace, vertical tab, form feed
and carriage return. -/
def isMute (c : Char) : Bool := [7, 8, 11, 12, 13].contains c.toNat

/-- A text between tags as it is printed. -/
def printed (cs : List Char) : List Char := (withEmoji (freeBrackets cs)).filter (!isMute ·)

/-- Why a text cannot be printed. -/
inductive MarkupError
  | unopened (tag : List Char)
  | nothingOpen
  deriving DecidableEq, Repr

/-- The wording of an error. -/
def MarkupError.message : MarkupError → String
  | unopened tag => "closing tag '[" ++ String.ofList tag ++ "]' doesn't match any open tag"
  | nothingOpen => "closing tag '[/]' has nothing to close"

/-- Long names of styles. -/
def styleNames : List (String × String) :=
  [("d", "dim"), ("b", "bold"), ("i", "italic"), ("u", "underline"), ("r", "reverse"),
    ("c", "conceal"), ("s", "strike"), ("uu", "underline2"), ("o", "overline")]

/-- The name that an opening and a closing tag have in common. -/
def styleName (cs : List Char) : String :=
  let name := String.ofList (Text.lowerList (Text.trimList cs))
  ((styleNames.find? (·.1 == name)).map (·.2)).getD name

/-- The styles that are open after a tag, the last opened first. -/
def afterTag (opened : List String) (tag : List Char) : Except MarkupError (List String) :=
  match tag.takeWhile (· != '=') with
  | '/' :: name =>
    if Text.trimList name == [] then
      match opened with
      | [] => .error .nothingOpen
      | _ :: rest => .ok rest
    else if opened.contains (styleName name) then .ok (opened.erase (styleName name))
    else .error (.unopened tag)
  | name => .ok (styleName name :: opened)

/-- The text of pieces, given the styles that are open. -/
def plainFrom (opened : List String) : List Piece → Except MarkupError (List Char)
  | [] => .ok []
  | .text cs :: rest => (plainFrom opened rest).map (printed cs ++ ·)
  | .tag tag :: rest => (afterTag opened tag).bind fun opened => plainFrom opened rest

/-- What is left of a text with markup on plain paper. -/
def plain (text : String) : Except MarkupError (List Char) := plainFrom [] (pieces text.toList)

/-- Lines with blanks for tabs; each tab ends at a column that is a multiple of
eight. -/
def expandTabs : Nat → List Char → List Char
  | _, [] => []
  | column, c :: cs =>
    if c == '\n' then c :: expandTabs 0 cs
    else if c == '\t' then
      let blanks := 8 - column % 8
      List.replicate blanks ' ' ++ expandTabs (column + blanks) cs
    else c :: expandTabs (column + charWidth c) cs

/-- A text with markup as lines of output, on a console with so many cells in a
row. Without a cell nothing is printed. -/
def line (width : Nat) (text : String) : Except MarkupError String :=
  (plain text).map fun cs =>
    if width = 0 then "" else String.ofList (wrap width (expandTabs 0 cs))

end RouteDoc.Console
