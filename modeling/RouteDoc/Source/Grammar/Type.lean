import RouteDoc.Source.Grammar.Pattern

/-!
# Types

The type language of the typed dialects. A type that stands at the end of a
statement or member (`edge`) ends where a semicolon is supplied.

* `readType`: any type; `readUnion`, `readTypeMember`: without a condition, and
  without alternatives;
* `typeArguments`, `typeParameters`: lists in angle brackets;
* `typeClause`, `returnClause`: a colon and a type;
* `objectType`: members in braces.
-/

namespace RouteDoc.Source

/-- Types in angle brackets. -/
def typeArguments : Parse Node := do
  let start ← here
  let _ ← symbol "<"
  let xs ← strictList (descend (.type false))
  let _ ← symbol ">"
  finish .typeNode start xs

/-- A colon and a type. -/
def typeClause (edge : Bool) : Parse Node := do
  let start ← here
  let _ ← symbol ":"
  let t ← descend (.type edge)
  finish .typeNode start [t]

/-- A parameter of a generic definition. -/
def typeParameter : Parse Node := do
  let start ← here
  let modifier := fun w => perhaps (do
    let m ← keyword w
    require ((← wordAhead) != "" && (← wordAhead) != "extends")
    return m)
  let _ ← modifier "const"
  let _ ← modifier "in"
  let _ ← modifier "out"
  let name ← anyWord .identifier
  let bound ← perhaps (do
    let _ ← keyword "extends" <|> symbol ":"
    descend (.type false))
  let preset ← perhaps (do
    let _ ← equalsSign
    descend (.type false))
  finish .typeNode start (name :: bound ++ preset)

/-- The parameters of a generic definition. -/
def typeParameters : Parse Node := do
  let start ← here
  let _ ← symbol "<"
  let xs ← strictList typeParameter
  let _ ← symbol ">"
  finish .typeNode start xs

/-- A word that qualifies what follows: the word `w`, when the token after it
could start a name. With `edge` a supplied semicolon makes it a name itself. -/
def qualifier (edge : Bool) (w : String) : Parse Node := do
  let mark ← keyword w
  if edge then require (!(← semicolonHere false))
  let next ← nextChar
  require ((next.map fun c =>
    isWordStart c || c.isDigit || ['[', '"', '\'', '#', '*', '\\'].contains c).getD false)
  return mark

/-- Any of the words `ws` as a qualifier. -/
def anyQualifier (edge : Bool) : List String → Parse Node
  | [] => failure
  | w :: ws => qualifier edge w <|> anyQualifier edge ws

/-- Formal parameters of a plain script. -/
def plainParameter : Parse Node := do
  let start ← here
  if ← ahead "..." then
    let _ ← symbol "..."
    let x ← descend (.pattern false)
    finish .rest start [x]
  else
    let x ← descend (.pattern false)
    (do
      let _ ← equalsSign
      let e ← descend (.expression .closed)
      finish .defaulted start [x.withRole .left, e]) <|> pure x

/-- The arguments of a call. -/
def callArguments : Parse Node := do
  let start ← here
  let _ ← symbol "("
  let xs ← lenientList (do
    let start ← here
    if ← ahead "..." then
      let _ ← symbol "..."
      let e ← descend (.expression .closed)
      finish .spread start [e]
    else descend (.expression .closed))
  let _ ← symbol ")"
  finish .arguments start xs

/-- A call of `f`, extended over its arguments. -/
def callNode (start : Position) (f arguments : Node) : Parse Node :=
  finish .call start [f.withRole .function, arguments.withRole .arguments]

/-- A decorator: a path of names, perhaps called. -/
def decorator : Parse Node := do
  let start ← here
  let _ ← symbol "@"
  let body ← (do
    let inner ← here
    let _ ← symbol "("
    let x ← path
    let _ ← symbol ")"
    finish .parenthesized inner [x]) <|> path
  finish .other start [body]
where
  /-- A path of names, perhaps called. -/
  path : Parse Node := do
    let start ← here
    let base ← bindingName
    let x ← extend (pointName start) base
    (do
      if ← typed then
        let _ ← perhaps typeArguments
      callNode start x (← callArguments)) <|> pure x

/-- Formal parameters of a typed dialect. -/
def typedParameter : Parse Node := do
  let start ← here
  let decorators ← many decorator
  let _ ← perhaps (parameterQualifier ["public", "private", "protected"])
  let _ ← perhaps (parameterQualifier ["override"])
  let _ ← perhaps (parameterQualifier ["readonly"])
  let nameStart ← here
  let name ←
    if ← ahead "..." then do
      let _ ← symbol "..."
      let x ← descend (.pattern false)
      finish .rest nameStart [x]
    else if (← wordAhead) == "this" then anyWord .other
    else descend (.pattern false)
  let _ ← symbolIf "?"
  let clause ← perhaps (typeClause false)
  let preset ← perhaps (do
    let _ ← equalsSign
    descend (.expression .closed))
  finish .typedParameter start (decorators ++ name.withRole .pattern :: clause ++ preset)
where
  /-- A qualifier before a name or a record or list pattern. -/
  parameterQualifier (ws : List String) : Parse Node := do
    require (ws.contains (← wordAhead))
    let mark ← anyWord .mark
    let next ← nextChar
    require ((next.map fun c => isWordStart c || c == '\x7b' || c == '[').getD false)
    return mark

/-- Formal parameters in parentheses. -/
def formalParameters : Parse Node := do
  let start ← here
  let _ ← symbol "("
  let xs ←
    if ← symbolIf ")" then pure []
    else do
      let xs ← strictList (if ← typed then typedParameter else plainParameter)
      let _ ← symbol ")"
      pure xs
  finish .parameters start xs

/-- What follows the colon of a return type: an assertion, a predicate or a
type. -/
def returnType (edge : Bool) : Parse Node := do
  let start ← here
  (do
    let _ ← keyword "asserts"
    let name ← anyWord .identifier
    let rest ← perhaps (do
      let _ ← keyword "is"
      descend (.type edge))
    finish .typeNode start (name :: rest)) <|>
  (do
    let name ← anyWord .identifier
    let _ ← keyword "is"
    let t ← descend (.type edge)
    finish .typeNode start [name, t]) <|>
  descend (.type edge)

/-- A colon and a return type. -/
def returnClause (edge : Bool) : Parse Node := do
  let start ← here
  let _ ← symbol ":"
  let t ← returnType edge
  finish .typeNode start [t]

/-- The parameters of a function and what types say about it. -/
def callSignature (edge : Bool) : Parse (List Node) := do
  if ← typed then
    let generics ← perhaps typeParameters
    let parameters ← formalParameters
    let result ← perhaps (returnClause edge)
    return generics ++ parameters.withRole .parameters :: result
  else
    let parameters ← formalParameters
    return [parameters.withRole .parameters]

/-- A member in brackets: an index signature or a mapped type. -/
def indexSignature : Parse Node := do
  let start ← here
  let _ ← perhaps (do
    let _ ← perhaps (symbol "-" <|> symbol "+")
    keyword "readonly")
  let _ ← symbol "["
  let name ← anyWord .identifier
  let inside ← (do
    let _ ← symbol ":"
    return [← descend (.type false)]) <|> (do
    let _ ← keyword "in"
    let t ← descend (.type false)
    let named ← perhaps (do
      let _ ← keyword "as"
      descend (.type false))
    return t :: named)
  let _ ← symbol "]"
  let _ ← symbol ":" <|> symbol "?:" <|> symbol "-?:" <|> symbol "+?:"
  let t ← descend (.type true)
  finish .typeNode start (name :: inside ++ [t])

/-- A member of an object type. -/
def objectTypeMember : Parse Node := do
  let start ← here
  indexSignature <|>
  (do
    let _ ← perhaps (keyword "abstract")
    let _ ← keyword "new"
    let parts ← callSignature true
    finish .typeNode start parts) <|>
  (do
    let parts ← callSignature true
    finish .typeNode start parts) <|>
  (do
    let _ ← perhaps (anyQualifier false ["public", "private", "protected"])
    let _ ← perhaps (qualifier false "static")
    let _ ← perhaps (qualifier false "override")
    let _ ← perhaps (qualifier false "readonly")
    let _ ← perhaps (qualifier false "async")
    let _ ← perhaps (anyQualifier false ["get", "set"] <|> symbol "*")
    let name ← propertyName
    let _ ← symbolIf "?"
    let parts ← callSignature true <|> perhaps (typeClause true)
    finish .typeNode start (name :: parts))

/-- Members in braces. -/
def objectType : Parse Node := do
  let start ← here
  let strict ← symbolIf "\x7b|"
  if !strict then
    let _ ← symbol "\x7b"
  let _ ← perhaps (symbol "," <|> symbol ";")
  let closing := if strict then "|\x7d" else "\x7d"
  let xs ← untilStop (ahead closing) (do
    let x ← objectTypeMember
    if !(← ahead closing) then
      if !(← symbolIf ",") then statementEnd
    return [x])
  let _ ← symbol closing
  finish .typeNode start xs

/-- A function type. -/
def functionType (edge : Bool) : Parse Node := do
  let start ← here
  let generics ← perhaps typeParameters
  let parameters ← formalParameters
  let _ ← symbol "=>"
  let result ← returnType edge
  finish .typeNode start (generics ++ [parameters, result])

/-- A constructor type. -/
def constructorType (edge : Bool) : Parse Node := do
  let start ← here
  let _ ← perhaps (keyword "abstract")
  let _ ← keyword "new"
  let f ← functionType edge
  finish .typeNode start [f]

/-- A member of a tuple type. -/
def tupleMember : Parse Node := do
  let start ← here
  (do
    let _ ← symbolIf "..."
    let name ← anyWord .identifier
    let _ ← symbolIf "?"
    let t ← typeClause false
    finish .typeNode start [name, t]) <|>
  (do
    let _ ← symbolIf "..."
    let t ← descend (.type false)
    let _ ← symbolIf "?"
    finish .typeNode start [t])

/-- A name with members and type arguments. -/
def typeName : Parse Node := do
  let start ← here
  let base ← anyWord .other
  let path ← extend (pointName start) base
  let arguments ← perhaps typeArguments
  finish .typeNode start (path.withKind .typeNode :: arguments)

/-- The module a type is imported from, with members and type arguments. -/
def importType : Parse Node := do
  let start ← here
  let base ← keyword "import"
  let call ← callNode start base (← callArguments)
  let path ← extend (fun x => do
    if (← nextChar) == some '(' then some <$> callNode start x (← callArguments)
    else pointName start x) call
  let arguments ← perhaps typeArguments
  finish .typeNode start (path :: arguments)

/-- The type of a value. -/
def typeQuery : Parse Node := do
  let start ← here
  let _ ← keyword "typeof"
  let inner ← here
  let base ← importType <|> anyWord .identifier
  let path ← extend (fun x => do
    if (← nextChar) == some '(' then some <$> callNode inner x (← callArguments)
    else if ← symbolIf "?." then some <$> memberNode inner x (← memberName)
    else pointName inner x) base
  let arguments ← perhaps typeArguments
  finish .typeNode start (path :: arguments)

/-- A type without operators around it. -/
def primaryType (edge : Bool) : Parse Node := do
  let start ← here
  match start.rest with
  | '(' :: _ =>
    functionType edge <|> (do
      let _ ← symbol "("
      let t ← descend (.type false)
      let _ ← symbol ")"
      finish .typeNode start [t])
  | '<' :: _ => functionType edge
  | '\x7b' :: _ => objectType
  | '[' :: _ =>
    let _ ← symbol "["
    let xs ← if ← symbolIf "]" then pure [] else do
      let xs ← strictList tupleMember
      let _ ← symbol "]"
      pure xs
    finish .typeNode start xs
  | '`' :: _ => template (descend (.type false))
  | '*' :: _ => symbol "*"
  | '?' :: _ =>
    let _ ← symbol "?"
    let t ← descend (.typeMember edge)
    finish .typeNode start [t]
  | c :: _ =>
    if c == '"' || c == '\'' then stringLiteral
    else if c == '-' || c == '+' then do
      let _ ← symbol (c.toString)
      let n ← numberLiteral
      finish .typeNode start [n]
    else if c.isDigit || c == '.' then numberLiteral
    else word start
  | [] => failure
where
  /-- A type that starts with a word. -/
  word (start : Position) : Parse Node := do
    let operator := fun w (p : Parse Node) => (do
      let _ ← keyword w
      let t ← p
      finish .typeNode start [t])
    match ← wordAhead with
    | "import" => importType
    | "typeof" => typeQuery
    | "keyof" => operator "keyof" (descend (.typeMember edge)) <|> typeName
    | "readonly" => operator "readonly" (descend (.typeMember edge)) <|> typeName
    | "unique" => operator "unique" (keyword "symbol") <|> typeName
    | "infer" =>
      operator "infer" (do
        let name ← anyWord .identifier
        let bound ← perhaps (do
          let _ ← keyword "extends"
          let t ← descend (.typeOperand edge)
          require ((← nextChar) != some '?')
          return t)
        finish .typeNode start (name :: bound)) <|> typeName
    | "new" => constructorType edge
    | "abstract" => constructorType edge <|> typeName
    | _ => typeName

/-- A type with the brackets that follow it. -/
def readTypeMember (edge : Bool) : Parse Node := do
  let start ← here
  let base ← primaryType edge
  extend (fun x => do
    if edge && (← semicolonHere false) then return none
    if (← nextChar) == some '[' then
      let _ ← symbol "["
      let inner ← if ← ahead "]" then pure [] else perhaps (descend (.type false))
      let _ ← symbol "]"
      some <$> finish .typeNode start (x :: inner)
    else return none) base

/-- Types joined by `operator`, which may also stand first. -/
def joinedTypes (operator : String) (others : List Char) (p : Parse Node) : Parse Node := do
  let start ← here
  let _ ← perhaps (symbolNot operator others)
  let first ← p
  let more ← many (do
    let _ ← symbolNot operator others
    p)
  if more.isEmpty then return first else finish .typeNode start (first :: more)

/-- A type that may have alternatives but no condition. -/
def readUnion (edge : Bool) : Parse Node :=
  joinedTypes "|" ['|', '\x7d', '='] (joinedTypes "&" ['&', '='] (descend (.typeMember edge)))

/-- Any type. -/
def readType (edge : Bool) : Parse Node := do
  let start ← here
  let t ← readUnion edge
  (do
    require ((← wordAhead) == "extends")
    if edge then require (!(← semicolonHere false))
    let _ ← keyword "extends"
    let bound ← descend (.typeOperand edge)
    let _ ← symbol "?"
    let yes ← descend (.type false)
    let _ ← symbol ":"
    let no ← descend (.type edge)
    finish .typeNode start [t, bound, yes, no]) <|> pure t

end RouteDoc.Source
