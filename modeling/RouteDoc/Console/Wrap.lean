import RouteDoc.Console.Width
import RouteDoc.Text.Blank

/-!
# Lines on a console

A console has so many cells in a row. A longer line is broken before a word, and
a word that is wider than a whole row is broken as well.

* `words`: the words of a line;
* `chop`: a word in pieces that fit into a row;
* `fill`: words set into rows;
* `wrap`: a text as it stands on a console.
-/

namespace RouteDoc.Console

/-- Whether two neighbours belong to one word: blanks belong to the word before
them. -/
def sameWord (c d : Char) : Bool := !Text.isSpace c || Text.isSpace d

/-- The words of a line with the blanks behind them. Blanks at the start belong
to the first word. -/
def words (cs : List Char) : List (List Char) :=
  match (Text.trimStart cs).splitBy sameWord with
  | word :: more => (cs.takeWhile Text.isSpace ++ word) :: more
  | [] => [cs]

/-- A text in pieces that fit into a row, after the piece begun. -/
def chopFrom (width : Nat) (piece : List Char) : List Char → List (List Char)
  | [] => [piece]
  | c :: cs =>
    if textWidth piece + charWidth c ≤ width then chopFrom width (piece ++ [c]) cs
    else piece :: chopFrom width [c] cs

/-- A text in pieces that fit into a row. The first is empty if the first
character does not fit. -/
def chop (width : Nat) (cs : List Char) : List (List Char) := chopFrom width [] cs

/-- Words set into rows, after the row begun. The blanks behind a word need not
fit. -/
def fill (width : Nat) (row : List Char) : List (List Char) → List (List Char)
  | [] => [row]
  | word :: more =>
    let room := textWidth (Text.trimEnd word)
    if textWidth row + room ≤ width then fill width (row ++ word) more
    else if room ≤ width then row :: fill width word more
    else
      let parts := (row :: chop width word).dropWhile List.isEmpty
      parts.dropLast ++ fill width (parts.getLastD []) more

/-- A row without blanks at its end, as far as it is too long. -/
def shorten (width : Nat) (row : List Char) : List Char :=
  row.take (max width (Text.trimEnd row).length)

/-- The start of a row that fits; of a wide character that does not a blank is
left. -/
def crop : Nat → List Char → List Char
  | _, [] => []
  | room, c :: cs =>
    if charWidth c ≤ room then c :: crop (room - charWidth c) cs else List.replicate room ' '

/-- The rows of a line. -/
def wrapLine (width : Nat) (cs : List Char) : List (List Char) :=
  (fill width [] (words cs)).map fun row => crop width (shorten width row)

/-- A text as it stands on a console, with a line feed after every row. -/
def wrap (width : Nat) (cs : List Char) : List Char :=
  ((Text.splitOnP (· == '\n') cs).flatMap (wrapLine width)).flatMap (· ++ ['\n'])

end RouteDoc.Console
