import RouteDoc.Source.Grammar.Basic

/-!
# Patterns and property names

What can stand on the left of an assignment or be bound by a declaration or a
parameter: a name, a member, or a list or record of patterns.

* `propertyName`: the name of a property in a record or class;
* `template`: a template with its substitutions;
* `pattern`: a pattern, `element` one with an optional default;
* `bindingTarget`: a name or a list or record pattern.
-/

namespace RouteDoc.Source

/-- A string in quotes. -/
def stringLiteral : Parse Node := do
  match stringLength (← here).rest with
  | some n => token .string n
  | none => failure

/-- A number. -/
def numberLiteral : Parse Node := do
  let n := numberLength (← here).rest
  require (n != 0)
  token .other n

/-- A name that starts with a number sign. -/
def privateName : Parse Node := do
  let p ← here
  require (p.rest.head? == some '#')
  let n := wordLength (p.rest.drop 1)
  require (n != 0)
  token .privateName (n + 1)

/-- The name after a point. -/
def memberName : Parse Node := do
  if (← nextChar) == some '#' then privateName else anyWord .identifier

/-- The name of a property: a word, a string, a number, a private name, or an
expression in brackets. -/
def propertyName : Parse Node := do
  let start ← here
  match start.rest with
  | '[' :: _ =>
    let _ ← symbol "["
    let e ← descend (.expression .closed)
    let _ ← symbol "]"
    finish .other start [e]
  | '#' :: _ => privateName
  | c :: _ =>
    if c == '"' || c == '\'' then stringLiteral
    else if c.isDigit || c == '.' then numberLiteral
    else anyWord .identifier
  | [] => failure

/-- The parts of a template from just after its opening mark, at most `n`
substitutions, each read with `inner`. -/
def templateParts (inner : Parse Node) : Nat → Parse (List Node)
  | 0 => failure
  | n + 1 => do
    let p ← here
    match templateChunkLength 0 p.rest with
    | none => failure
    | some k =>
      let q := p.drop k
      match q.rest with
      | '`' :: _ =>
        modify (·.moveTo (q.drop 1))
        return []
      | _ =>
        modify (·.moveTo (q.drop 2))
        let e ← inner
        let close ← here
        require (close.rest.head? == some '}')
        let r := close.drop 1
        modify (·.moveExactly r)
        return .mk .substitution .plain (q.spanTo r) [e] :: (← templateParts inner n)

/-- A template whose substitutions are read with `inner`. -/
def template (inner : Parse Node) : Parse Node := do
  let start ← here
  require (start.rest.head? == some '`')
  modify (·.moveExactly (start.drop 1))
  let parts ← templateParts inner ((← read).size + 1)
  finish .template start parts

/-- The member of `object` named by `property`. -/
def memberNode (start : Position) (object property : Node) : Parse Node :=
  finish .member start [object.withRole .object, property.withRole .property]

/-- A name after a point, extending `x`. -/
def pointName (start : Position) (x : Node) : Parse (Option Node) := do
  match (← here).rest with
  | '.' :: c :: _ =>
    if c == '.' then return none
    let _ ← symbol "."
    some <$> memberNode start x (← memberName)
  | ['.'] => failure
  | _ => return none

/-- A name with members after points and, with `subscripts`, in brackets. -/
def targetPath (subscripts : Bool) : Parse Node := do
  let start ← here
  let d := (← read).dialect
  let w ← wordAhead
  let base ←
    if w == "this" || w == "super" then anyWord .other
    else if w == "undefined" then anyWord .undefinedName
    else do
      require (isNameInExpression d w)
      anyWord .identifier
  let path ← extend (fun x => do
    match (← here).rest with
    | '[' :: _ =>
      if !subscripts then return none
      let _ ← symbol "["
      let e ← descend (.expression .closed)
      let _ ← symbol "]"
      some <$> finish .subscript start [x, e]
    | '!' :: c :: _ =>
      if !subscripts || !d.typed || c == '=' then return none
      let _ ← symbol "!"
      some <$> finish .nonNull start [x]
    | _ => pointName start x) base
  require (path.kind != .other)
  return path

/-- A pattern. -/
def readPattern (subscripts : Bool) : Parse Node := do
  let start ← here
  match start.rest with
  | '[' :: _ =>
    let _ ← symbol "["
    let xs ← lenientList (element start)
    let _ ← symbol "]"
    finish .arrayPattern start xs
  | '\x7b' :: _ =>
    let _ ← symbol "\x7b"
    let xs ← lenientList entry
    let _ ← symbol "\x7d"
    finish .objectPattern start xs
  | _ => targetPath subscripts
where
  /-- A default after a pattern, if one follows. -/
  withDefault (start : Position) (x : Node) : Parse Node := do
    (do
      let _ ← equalsSign
      let e ← descend (.expression .closed)
      finish .defaulted start [x.withRole .left, e]) <|> pure x
  /-- The rest of a list or record. -/
  restPattern : Parse Node := do
    let start ← here
    let _ ← symbol "..."
    let x ← descend (.pattern subscripts)
    finish .rest start [x]
  /-- An item of a list pattern. -/
  element (_ : Position) : Parse Node := do
    let start ← here
    if ← ahead "..." then restPattern
    else withDefault start (← descend (.pattern subscripts))
  /-- An entry of a record pattern. -/
  entry : Parse Node := do
    let start ← here
    if ← ahead "..." then restPattern
    else
      (do
        let key ← propertyName
        let _ ← symbol ":"
        let value ← element start
        finish .other start [key, value]) <|>
      (do
        let name ← anyWord .identifier
        withDefault start name)

/-- A name or a list or record pattern, as a declaration binds it. -/
def bindingTarget : Parse Node := do
  match (← here).rest with
  | '[' :: _ | '\x7b' :: _ => descend (.pattern false)
  | _ => bindingName

end RouteDoc.Source
