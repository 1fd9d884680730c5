import RouteDoc.Source.Dialect
import RouteDoc.Source.Position

/-!
# Words

Names and keywords are words: runs of characters that are neither blank nor
punctuation, where an escape stands for one character.

* `wordLength`: how many characters of a text form its first word;
* `reserved`: the keywords that plain scripts never use as names;
* `opensExpression`, `opensStatement`: the keywords a typed dialect reads as
  such where an expression or a statement starts; elsewhere they are names;
* `mayBeName`: the contextual keywords that may be names all the same.
-/

namespace RouteDoc.Source

/-- Characters of a word after its first. -/
def isWordChar (c : Char) : Bool :=
  !(isBlank c) && 0x20 ≤ c.toNat &&
    !(":;`\"'@#.,|^&<=>+-*/\\%?!~()[]\x7b\x7d".toList.contains c)

/-- Characters a word may start with. -/
def isWordStart (c : Char) : Bool :=
  isWordChar c && !c.isDigit

/-- A hexadecimal digit. -/
def isHexDigit (c : Char) : Bool :=
  c.isDigit || ('a' ≤ c && c ≤ 'f') || ('A' ≤ c && c ≤ 'F')

/-- The number of characters of a code point escape after its backslash: four
digits, or any number of them in braces. -/
def codePointEscapeLength : List Char → Option Nat
  | 'u' :: '\x7b' :: cs =>
    let digits := cs.takeWhile isHexDigit
    if !digits.isEmpty && (cs.drop digits.length).head? == some '}' then some (digits.length + 3)
    else none
  | 'u' :: a :: b :: c :: d :: _ => if [a, b, c, d].all isHexDigit then some 5 else none
  | _ => none

/-- The number of characters that go on a word, the next `skip` of which
belong to an escape already read. -/
def wordTailLength : Nat → List Char → Nat
  | _, [] => 0
  | skip + 1, _ :: cs => wordTailLength skip cs + 1
  | 0, c :: cs =>
    if isWordChar c then wordTailLength 0 cs + 1
    else if c == '\\' then
      match codePointEscapeLength cs with
      | some k => wordTailLength k cs + 1
      | none => 0
    else 0

/-- The number of characters of the word at the start of a text; zero if none
stands there. -/
def wordLength (text : List Char) : Nat :=
  match text with
  | c :: _ => if isWordStart c || c == '\\' then wordTailLength 0 text else 0
  | [] => 0

/-- The number of characters of the element name with dashes at the start of a
text, zero if there is none: letters, a dash, and letters and dashes. -/
def dashedNameLength (text : List Char) : Nat :=
  let nameChar := fun c : Char => c.isAlphanum || c == '_' || c == '$'
  match text with
  | c :: cs =>
    if nameChar c && !c.isDigit then
      let first := cs.takeWhile nameChar
      match cs.drop first.length with
      | '-' :: more => first.length + 2 + (more.takeWhile (fun c => nameChar c || c == '-')).length
      | _ => 0
    else 0
  | [] => 0

/-- Keywords that are never names in a plain script. -/
def reserved : List String :=
  ["break", "case", "catch", "class", "const", "continue", "debugger", "default", "delete", "do",
    "else", "export", "extends", "false", "finally", "for", "function", "if", "import", "in",
    "instanceof", "new", "null", "return", "super", "switch", "this", "throw", "true", "try",
    "typeof", "var", "void", "while", "with"]

/-- Keywords that start an expression. -/
def expressionKeywords : List String :=
  ["function", "class", "new", "this", "super", "true", "false", "null", "undefined", "typeof",
    "void", "delete", "await", "yield", "import"]

/-- Keywords that start a statement of a typed dialect and are not names. -/
def statementKeywords : List String :=
  ["import", "debugger", "const", "var", "if", "switch", "for", "while", "do", "try", "with",
    "break", "continue", "return", "throw", "interface", "enum"]

/-- Whether a word names something where an expression starts. -/
def isNameInExpression (d : Dialect) (w : String) : Bool :=
  if d.typed then !(expressionKeywords.contains w)
  else !(reserved.contains w) && w != "yield"

/-- Whether a word can be bound where only a name may stand. -/
def isBindingName (d : Dialect) (w : String) : Bool :=
  d.typed || !(reserved.contains w)

end RouteDoc.Source
