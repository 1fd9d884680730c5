/-!
# Blanks and lines

* `isSpace`: the characters that count as white space in text;
* `trim`, `trimStart`, `trimEnd`: text without white space at its ends;
* `lines`: the lines of a text, without their ends.
-/

namespace RouteDoc.Text

/-- White space of all scripts, with the separators of files, groups, records
and units. -/
def isSpace (c : Char) : Bool :=
  let n := c.toNat
  (9 ≤ n && n ≤ 13) || (0x1C ≤ n && n ≤ 0x20) || n == 0x85 || n == 0xA0 || n == 0x1680 ||
    (0x2000 ≤ n && n ≤ 0x200A) || n == 0x2028 || n == 0x2029 || n == 0x202F ||
    n == 0x205F || n == 0x3000

/-- Without white space at the start. -/
def trimStart (cs : List Char) : List Char := cs.dropWhile isSpace

/-- Without characters of a class at the end. -/
def dropEndWhile (p : Char → Bool) (cs : List Char) : List Char :=
  (cs.reverse.dropWhile p).reverse

/-- Without white space at the end. -/
def trimEnd (cs : List Char) : List Char := dropEndWhile isSpace cs

/-- Without white space at either end. -/
def trimList (cs : List Char) : List Char := trimEnd (trimStart cs)

/-- Without white space at either end. -/
def trim (s : String) : String := String.ofList (trimList s.toList)

/-- Whether nothing but white space is there. -/
def isBlankText (s : String) : Bool := s.toList.all isSpace

/-- The characters that end a line. A carriage return and a line feed that
follows it end one line together. -/
def endsTextLine (c : Char) : Bool :=
  let n := c.toNat
  (0x0A ≤ n && n ≤ 0x0D) || (0x1C ≤ n && n ≤ 0x1E) || n == 0x85 || n == 0x2028 || n == 0x2029

/-- The lines of a text; `current` holds the line begun, last character first. -/
def linesFrom (current : List Char) : List Char → List (List Char)
  | [] => if current.isEmpty then [] else [current.reverse]
  | '\r' :: '\n' :: cs => current.reverse :: linesFrom [] cs
  | c :: cs =>
    if endsTextLine c then current.reverse :: linesFrom [] cs else linesFrom (c :: current) cs

/-- The lines of a text, without their ends. No empty line follows the last
line end. -/
def lines (cs : List Char) : List (List Char) := linesFrom [] cs

/-- The parts of a list between the items at which `p` holds. -/
def splitOnP {α : Type} (p : α → Bool) : List α → List (List α)
  | [] => [[]]
  | x :: xs =>
    if p x then [] :: splitOnP p xs
    else
      match splitOnP p xs with
      | [] => [[x]]
      | part :: parts => (x :: part) :: parts

/-- Whether `part` stands somewhere in `cs`. -/
def isInfix (part : List Char) : List Char → Bool
  | [] => part.isEmpty
  | c :: cs => part.isPrefixOf (c :: cs) || isInfix part cs

end RouteDoc.Text
