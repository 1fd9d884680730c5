import RouteDoc.Source.Semicolon
import RouteDoc.Source.Literal

/-!
# Reading a grammar

A production reads a stretch of tokens and answers a node, or fails and leaves
no trace. Productions that call each other in a circle go through `Goal` and
`descend`, so that each is an ordinary function of what one level down reads.

* `Cursor`: the position in the text and the gap in front of it;
* `Goal`: the productions that others reach by descending;
* `Parse`: a production;
* `symbol`, `keyword`, `word`: tokens;
* `statementEnd`: a semicolon, written or supplied;
* `lenientList`, `strictList`: items between commas.
-/

namespace RouteDoc.Source

/-- What may stand at the right edge of an expression: an automatic semicolon,
and a return type on an arrow function. -/
structure Edge where
  semicolon : Bool
  returnType : Bool
  deriving DecidableEq, Repr, Inhabited

namespace Edge

/-- Inside brackets. -/
def closed : Edge := ⟨false, true⟩

/-- At the end of a statement. -/
def statement : Edge := ⟨true, true⟩

end Edge

/-- The productions reached by descending. -/
inductive Goal
  | statement
  | block
  | expression (edge : Edge)
  | operand (level : Nat) (edge : Edge)
  | unary (edge : Edge)
  | primary (edge : Edge)
  | pattern (subscripts : Bool)
  | element
  | type (edge : Bool)
  | typeOperand (edge : Bool)
  | typeMember (edge : Bool)

/-- Where reading stands. `behind` is the end of the last token, `here` the
start of the next, `gap` the comments between them, and `comments` all earlier
comments, the last first. -/
structure Cursor where
  behind : Position
  gap : List (Node × Position)
  here : Position
  comments : List Node
  deriving Inhabited

namespace Cursor

/-- The start of a text. -/
def start (text : List Char) : Cursor :=
  let p := Position.start text
  let g := p.skipGap
  ⟨p, g.comments, g.here, []⟩

/-- All comments up to the next token, the last first. -/
def seen (c : Cursor) : List Node :=
  (c.gap.map Prod.fst).reverse ++ c.comments

/-- After a token that ends at `p`. -/
def moveTo (c : Cursor) (p : Position) : Cursor :=
  let g := p.skipGap
  ⟨p, g.comments, g.here, c.seen⟩

/-- After a token that ends at `p`, when blanks and comments do not count as
such in what follows. -/
def moveExactly (c : Cursor) (p : Position) : Cursor :=
  ⟨p, [], p, c.seen⟩

/-- Back to the end of the last token, giving up the gap. -/
def exact (c : Cursor) : Cursor :=
  { c with gap := [], here := c.behind }

/-- Where a semicolon is supplied after the last token: there, or after one of
the comments of the gap. The answer is the rest of the gap from there. -/
def semicolonFrom (d : Dialect) (operand signature : Bool) :
    Position → List (Node × Position) → Option (Position × List (Node × Position))
  | p, gap =>
    if automaticSemicolon d operand signature p.rest then some (p, gap)
    else
      match gap with
      | [] => none
      | (_, q) :: gap => semicolonFrom d operand signature q gap

end Cursor

/-- What a production knows: the dialect, a bound on the number of tokens, and
how to read what lies one level down. -/
structure Env where
  dialect : Dialect
  size : Nat
  descend : Goal → Cursor → Option (Node × Cursor)

/-- A production of the grammar. -/
abbrev Parse := ReaderT Env (StateT Cursor Option)

/-- Reads what lies one level down. -/
def descend (g : Goal) : Parse Node := fun env c => env.descend g c

/-- The position of the next token. -/
def here : Parse Position := return (← get).here

/-- Whether the dialect has types. -/
def typed : Parse Bool := return (← read).dialect.typed

/-- Succeeds when `b` holds. -/
def require (b : Bool) : Parse Unit := if b then pure () else failure

/-- The node from `start` to the end of the last token. -/
def finish (kind : Kind) (start : Position) (children : List Node) : Parse Node :=
  return .mk kind .plain (start.spanTo (← get).behind) children

/-- Reads the next `n` characters as a token. -/
def token (kind : Kind) (n : Nat) : Parse Node := do
  let p ← here
  let q := p.drop n
  modify (·.moveTo q)
  return .mk kind .plain (p.spanTo q) []

/-- Whether the next characters are `s`. -/
def ahead (s : String) : Parse Bool := return (← here).startsWith s

/-- The next character. -/
def nextChar : Parse (Option Char) := return (← here).rest.head?

/-- Reads the characters `s`. -/
def symbol (s : String) : Parse Node := do
  require (← ahead s)
  token .mark s.length

/-- Reads the characters `s` if they come next, and says whether they did. -/
def symbolIf (s : String) : Parse Bool := do
  if ← ahead s then
    let _ ← token .mark s.length
    return true
  else return false

/-- Reads the characters `s` when none of `others` follows them. -/
def symbolNot (s : String) (others : List Char) : Parse Node := do
  require (← ahead s)
  let next := ((← here).rest.drop s.length).head?
  require (!(next.map others.contains).getD false)
  token .mark s.length

/-- The equals sign of an initializer. -/
def equalsSign : Parse Node := symbolNot "=" ['=', '>']

/-- The word ahead, empty if there is none. -/
def wordAhead : Parse String := do
  let p ← here
  return String.ofList (p.rest.take (wordLength p.rest))

/-- Reads any word. -/
def anyWord (kind : Kind) : Parse Node := do
  let n := wordLength (← here).rest
  require (n != 0)
  token kind n

/-- Reads the word `w`. -/
def keyword (w : String) : Parse Node := do
  require ((← wordAhead) == w)
  token .mark w.length

/-- Reads the word `w` if it comes next, and says whether it did. -/
def keywordIf (w : String) : Parse Bool := do
  if (← wordAhead) == w then
    let _ ← token .mark w.length
    return true
  else return false

/-- Reads a name that is being bound. -/
def bindingName : Parse Node := do
  require (isBindingName (← read).dialect (← wordAhead))
  anyWord .identifier

/-- Reads with `p` or, if that fails, reads nothing. -/
def perhaps (p : Parse Node) : Parse (List Node) :=
  (do return [← p]) <|> pure []

/-- Whether `p` could be read next; nothing is read. -/
def canRead {α : Type} (p : Parse α) : Parse Bool := fun env c =>
  some ((p env c).isSome, c)

/-- Whether a semicolon is supplied after the last token. With `operand` an
operator could follow instead. -/
def semicolonHere (operand : Bool) : Parse Bool := do
  let c : Cursor ← get
  return (Cursor.semicolonFrom (← read).dialect operand false c.behind c.gap).isSome

/-- Reads a semicolon, written or supplied. -/
def statementEndFor (operand signature : Bool) : Parse Unit := do
  let c : Cursor ← get
  match Cursor.semicolonFrom (← read).dialect operand signature c.behind c.gap with
  | some (p, gap) =>
    let passed := c.gap.take (c.gap.length - gap.length)
    set { c with behind := p, gap := gap, comments := (passed.map Prod.fst).reverse ++ c.comments }
  | none =>
    let _ ← symbol ";"

/-- Reads the semicolon of a statement that could not go on with an operator. -/
def statementEnd : Parse Unit := statementEndFor false false

/-- Reads the semicolon after an expression. -/
def expressionEnd : Parse Unit := statementEndFor true false

/-- Reads with `p` again and again, at most `n` times, while it answers. -/
def repeatUpTo (p : Parse (Option Node)) : Nat → Parse (List Node)
  | 0 => pure []
  | n + 1 => do
    match ← p with
    | some x => return x :: (← repeatUpTo p n)
    | none => return []

/-- Reads items with `p` while it succeeds. -/
def many (p : Parse Node) : Parse (List Node) := do
  repeatUpTo ((some <$> p) <|> pure none) (← read).size

/-- Lets `p` extend `x` while it answers, at most `n` times. -/
def extendUpTo (p : Node → Parse (Option Node)) : Nat → Node → Parse Node
  | 0, x => pure x
  | n + 1, x => do
    match ← p x with
    | some y => extendUpTo p n y
    | none => return x

/-- Lets `p` extend `x` while it answers. -/
def extend (p : Node → Parse (Option Node)) (x : Node) : Parse Node := do
  extendUpTo p (← read).size x

/-- Reads items between commas, at most `n`, where any item may be missing. -/
def lenientListUpTo (p : Parse Node) : Nat → Parse (List Node)
  | 0 => failure
  | n + 1 => do
    let xs ← perhaps p
    if ← symbolIf "," then return xs ++ (← lenientListUpTo p n)
    else return xs

/-- Reads items between commas, where any item may be missing. -/
def lenientList (p : Parse Node) : Parse (List Node) := do
  lenientListUpTo p ((← read).size + 1)

/-- Reads items with commas between them, at most `n`; a comma may follow the
last. -/
def strictListUpTo (p : Parse Node) : Nat → Parse (List Node)
  | 0 => failure
  | n + 1 => do
    let x ← p
    if ← symbolIf "," then
      (do return x :: (← strictListUpTo p n)) <|> pure [x]
    else return [x]

/-- Reads one or more items with commas between them; a comma may follow the
last. -/
def strictList (p : Parse Node) : Parse (List Node) := do
  strictListUpTo p ((← read).size + 1)

/-- Reads one or more items with commas between them. -/
def commaSeparatedUpTo (p : Parse Node) : Nat → Parse (List Node)
  | 0 => failure
  | n + 1 => do
    let x ← p
    if ← symbolIf "," then return x :: (← commaSeparatedUpTo p n)
    else return [x]

/-- Reads one or more items with commas between them and none after the last. -/
def commaSeparated (p : Parse Node) : Parse (List Node) := do
  commaSeparatedUpTo p ((← read).size + 1)

/-- Reads statements and the like with `p` until `stop` holds. -/
def untilUpTo (stop : Parse Bool) (p : Parse (List Node)) : Nat → Parse (List Node)
  | 0 => failure
  | n + 1 => do
    if ← stop then return []
    else
      let xs ← p
      return xs ++ (← untilUpTo stop p n)

/-- Reads with `p` until `stop` holds. -/
def untilStop (stop : Parse Bool) (p : Parse (List Node)) : Parse (List Node) := do
  untilUpTo stop p ((← read).size + 1)

end RouteDoc.Source
