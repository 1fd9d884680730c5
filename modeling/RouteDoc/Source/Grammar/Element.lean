import RouteDoc.Source.Grammar.Type

/-!
# Element markup

Elements between angle brackets, as expressions: names, attributes, text,
character references and braces around expressions.

* `readElement`: an element with its children, or one that closes itself;
* `elementChildren`: what stands between the two tags.
-/

namespace RouteDoc.Source

/-- A name of markup, perhaps with dashes. -/
def elementWord : Parse Node := do
  let p ← here
  let n := max (wordLength p.rest) (dashedNameLength p.rest)
  require (n != 0)
  token .other n

/-- The name of an element: a word, words joined by points, or two words
joined by a colon. -/
def elementName : Parse Node := do
  let start ← here
  let base ← elementWord
  if ← symbolIf ":" then
    let rest ← elementWord
    finish .other start [base, rest]
  else
    let path ← extend (pointName start) base
    finish .other start [path]

/-- An expression in braces, or nothing between them. -/
def braced (sequence : Parse Node) : Parse Node := do
  let start ← here
  let _ ← symbol "\x7b"
  let inner ←
    if ← ahead "\x7d" then pure []
    else if ← ahead "..." then do
      let _ ← symbol "..."
      pure [← descend (.expression .closed)]
    else pure [← sequence]
  let close ← here
  require (close.rest.head? == some '}')
  modify (·.moveTo (close.drop 1))
  finish .other start inner

/-- The number of characters up to and including the closing quote of an
attribute; an ampersand before a letter or number sign must start a character
reference, the next `skip` characters of which are already read. -/
def attributeTailLength (quote : Char) : Nat → List Char → Option Nat
  | _, [] => none
  | skip + 1, _ :: cs => (attributeTailLength quote skip cs).map (· + 1)
  | 0, c :: cs =>
    if c == quote then some 1
    else if c == '\x00' then none
    else if c == '&' && ((cs.head?.map fun d => d.isAlpha || d == '#').getD false) then
      match entityLength (c :: cs) with
      | some k => (attributeTailLength quote (k - 1) cs).map (· + 1)
      | none => none
    else (attributeTailLength quote 0 cs).map (· + 1)

/-- The value of an attribute in quotes. -/
def attributeString : Parse Node := do
  match (← here).rest with
  | c :: cs =>
    require (c == '"' || c == '\'')
    match attributeTailLength c 0 cs with
    | some n => token .string (n + 1)
    | none => failure
  | [] => failure

/-- An attribute: a name and perhaps a value, or an expression in braces. -/
def elementAttribute (sequence : Parse Node) : Parse Node := do
  let start ← here
  if ← ahead "\x7b" then braced sequence
  else
    let name ← elementWord
    if ← symbolIf ":" then
      let _ ← elementWord
    let value ←
      if ← symbolIf "=" then do
        match ← nextChar with
        | some '\x7b' => pure [← braced sequence]
        | some '<' => pure [← descend .element]
        | _ => pure [← attributeString]
      else pure []
    finish .other start (name :: value)

/-- What stands between the tags of an element, at most `n` items, up to the
bracket that opens the closing tag. Reading goes on exactly after each item,
since blanks are text here. -/
def elementChildren (sequence : Parse Node) : Nat → Parse (List Node)
  | 0 => failure
  | n + 1 => do
    modify Cursor.exact
    let p ← here
    let plain := p.rest.takeWhile fun c => !("<>\x7b\x7d&\x00".toList.contains c)
    let q := p.drop plain.length
    if !plain.isEmpty then modify (·.moveExactly q)
    match q.rest with
    | '<' :: '/' :: _ => return []
    | '<' :: _ =>
      let child ← descend .element
      return child :: (← elementChildren sequence n)
    | '\x7b' :: _ =>
      let child ← braced sequence
      return child :: (← elementChildren sequence n)
    | '&' :: _ =>
      match entityLength q.rest with
      | some k =>
        modify (·.moveExactly (q.drop k))
        elementChildren sequence n
      | none => failure
    | _ => failure

/-- An element. The names of its two tags are not compared. -/
def readElement (sequence : Parse Node) : Parse Node := do
  let start ← here
  let _ ← symbol "<"
  let head ←
    if ← ahead ">" then pure []
    else do
      let name ← elementName
      let generics ← if ← typed then perhaps typeArguments else pure []
      let attributes ← many (elementAttribute sequence)
      pure (name :: generics ++ attributes)
  if !head.isEmpty && (← symbolIf "/>") then finish .expression start head
  else
    let _ ← symbol ">"
    let children ← elementChildren sequence ((← read).size + 1)
    let _ ← symbol "</"
    if !(← ahead ">") then
      let _ ← elementName
    let _ ← symbol ">"
    finish .expression start (head ++ children)

end RouteDoc.Source
