import RouteDoc.Source.Dialect
import RouteDoc.Source.Position

/-!
# Automatic semicolons

A statement may end without its semicolon: at the end of the text, before a
closing brace, or at a line break whose next token cannot carry the statement
on. The decision looks only at the characters after the last token:

* `LookAhead`, `lookThrough`: what stands behind blanks and comments;
* `stopsAtBreak`: whether the token after a line break starts a new statement;
* `automaticSemicolon`: whether a semicolon is supplied here.
-/

namespace RouteDoc.Source

/-- What lies behind blanks and comments. `sameLine`: a block comment ended
on the line it started on, and the look stopped there. -/
inductive LookAhead
  | open (rest : List Char)
  | sameLine (rest : List Char)
  | slash

/-- Where the look is: between tokens, in a line comment, or in a block
comment that has or has not seen a line break. -/
inductive LookState
  | blanks
  | line
  | block (brokeLine : Bool)

/-- Looks through blanks and comments; a slash that starts no comment stops
it. Without `all` it also stops after a block comment that no slash follows. -/
def lookThrough (all : Bool) : LookState → List Char → LookAhead
  | _, [] => .open []
  | .blanks, '/' :: '/' :: cs => lookThrough all .line cs
  | .blanks, '/' :: '*' :: cs => lookThrough all (.block false) cs
  | .blanks, '/' :: _ => .slash
  | .blanks, c :: cs => if isLayout c then lookThrough all .blanks cs else .open (c :: cs)
  | .line, c :: cs =>
    if c == '\n' || c == '\u2028' || c == '\u2029' then lookThrough all .blanks cs
    else if c == '\x00' then .open (c :: cs)
    else lookThrough all .line cs
  | .block broke, '*' :: '/' :: cs =>
    if all || cs.head? == some '/' then lookThrough all .blanks cs
    else if broke then .open cs
    else .sameLine cs
  | .block broke, c :: cs =>
    if c == '\x00' then .open (c :: cs)
    else lookThrough all (.block (broke || c == '\n' || c == '\u2028' || c == '\u2029')) cs

/-- Letters, as far as the rule for words after a line break needs them. -/
def isLetter (c : Char) : Bool :=
  c.isAlpha || 0xC0 ≤ c.toNat

/-- Whether a word that starts with the letter before `cs` is neither of the
two operators that are words and start with it: `in` and `instanceof`. -/
def startsNewWord (cs : List Char) : Bool :=
  match cs with
  | 'n' :: after =>
    if (after.head?.map isLetter).getD false then
      if "stanceof".toList.isPrefixOf after then
        ((after.drop 8).head?.map isLetter).getD false
      else true
    else false
  | _ => true

/-- Whether the characters after a line break start a new statement. With
`operand` an operator could follow here; with `signature` a body could. -/
def stopsAtBreak (d : Dialect) (operand signature : Bool) : List Char → Bool
  | [] => true
  | c :: cs =>
    if c ∈ ['`', ',', ':', ';', '*', '%', '>', '<', '=', '?', '^', '|', '&', '/'] then false
    else if c == '.' then !d.typed && (cs.head?.map Char.isDigit).getD false
    else if c == '[' || c == '(' then d.typed && !operand
    else if c == '\x7b' then !(d.typed && signature)
    else if c == '+' || c == '-' then cs.head? == some c
    else if c == '!' then cs.head? != some '='
    else if c == 'i' then startsNewWord cs
    else true

/-- Whether a closing brace ends the statement before it: in typed dialects
not where a type annotation follows the brace. -/
def stopsAtBrace (d : Dialect) (operand : Bool) (after : List Char) : Bool :=
  if d.typed && (after.dropWhile isLayout).head? == some ':' then operand else true

/-- Line breaks, for the rule. -/
def breaksLine (d : Dialect) (c : Char) : Bool :=
  c == '\n' || (!d.typed && (c == '\u2028' || c == '\u2029'))

/-- The decision on the characters after a token, looking through at most `n`
comments on its line. -/
def automaticSemicolonWithin (d : Dialect) (operand signature : Bool) : Nat → List Char → Bool
  | n, text =>
    match text.dropWhile (fun c => isLayout c && !breaksLine d c) with
    | [] => true
    | c :: cs =>
      if c == '\x00' then true
      else if c == '}' then stopsAtBrace d operand cs
      else if breaksLine d c then
        match lookThrough true .blanks cs with
        | .open rest | .sameLine rest => stopsAtBreak d operand signature rest
        | .slash => false
      else if c == '/' && !d.typed then
        match n, lookThrough false .blanks (c :: cs) with
        | n + 1, .open rest =>
          if !operand && rest.head? != some ',' && rest.head? != some '=' then true
          else automaticSemicolonWithin d operand signature n rest
        | n + 1, .sameLine rest => automaticSemicolonWithin d operand signature n rest
        | _, _ => false
      else false

/-- Whether a semicolon is supplied where `text` follows a token. -/
def automaticSemicolon (d : Dialect) (operand signature : Bool) (text : List Char) : Bool :=
  match text.dropWhile isLayout with
  | '/' :: cs => automaticSemicolonWithin d operand signature (cs.length + 1) text
  | _ => automaticSemicolonWithin d operand signature 0 text

end RouteDoc.Source
