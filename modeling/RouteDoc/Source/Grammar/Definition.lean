import RouteDoc.Source.Grammar.Type

/-!
# Functions and classes

* `functionTail`: a function after its keyword;
* `arrowFrom`: an arrow function after `async`, if that was there;
* `method`: a method of a record;
* `classTail`: a class after its keyword, with the members of its body.
-/

namespace RouteDoc.Source

/-- The mark of an asynchronous function. -/
def asyncMark : Parse Node := do
  require ((← wordAhead) == "async")
  token .asyncMark 5

/-- The node of a function expression; a generator is another kind. -/
def functionKind (generator : Bool) : Kind :=
  if generator then .expression else .functionExpression

/-- A function from its keyword on, with an optional name. -/
def functionExpression : Parse Node := do
  let start ← here
  let mark ← perhaps asyncMark
  let _ ← keyword "function"
  let generator ← symbolIf "*"
  let name ← perhaps bindingName
  let parts ← callSignature true
  let body ← descend .block
  finish (functionKind generator) start (mark ++ name ++ parts ++ [body])

/-- The body of an arrow function: a block, or an expression. A brace opens a
block wherever that can be read. -/
def arrowBody (edge : Edge) : Parse Node := do
  if (← nextChar) == some '\x7b' then descend .block <|> descend (.expression edge)
  else descend (.expression edge)

/-- An arrow function that starts at `start` and whose first marks, already
read, are `marks`. -/
def arrowFrom (start : Position) (marks : List Node) (edge : Edge) : Parse Node := do
  let generics ← if ← typed then perhaps typeParameters else pure []
  let parameters ← formalParameters
  let result ←
    if (← typed) && edge.returnType then perhaps (returnClause false) else pure []
  let _ ← symbol "=>"
  let body ← arrowBody edge
  finish .arrow start (marks ++ generics ++ parameters.withRole .parameters :: result ++ [body])

/-- An arrow function with a single bare parameter. -/
def bareArrow (start : Position) (marks : List Node) (edge : Edge) : Parse Node := do
  require (isNameInExpression (← read).dialect (← wordAhead))
  let name ← anyWord .identifier
  let _ ← symbol "=>"
  let body ← arrowBody edge
  finish .arrow start (marks ++ [name.withRole .parameter, body])

/-- The qualifiers of a method of a typed dialect. -/
def accessWords : List String := ["public", "private", "protected"]

/-- The marks before the name of a method: `get`, `set` or a star. -/
def accessorMark (edge : Bool) : Parse Node :=
  anyQualifier edge ["get", "set"] <|> symbol "*"

/-- A method of a record. -/
def method : Parse Node := do
  let start ← here
  let decorators ← many decorator
  if ← typed then
    let _ ← perhaps (anyQualifier false accessWords)
  let _ ← perhaps (qualifier false "static")
  if ← typed then
    let _ ← perhaps (qualifier false "override")
    let _ ← perhaps (qualifier false "readonly")
  let _ ← perhaps (qualifier false "async")
  let _ ← perhaps (accessorMark false)
  let name ← propertyName
  if ← typed then
    let _ ← symbolIf "?"
  let parts ← callSignature true
  let body ← descend .block
  finish .other start (decorators ++ name :: parts ++ [body])

/-- An initializer: an equals sign and an expression. -/
def initializer (edge : Edge) : Parse Node := do
  let _ ← equalsSign
  descend (.expression edge)

/-- A block that runs when a class is defined. -/
def staticBlock : Parse Node := do
  let start ← here
  let _ ← keyword "static"
  require ((← nextChar) == some '\x7b')
  let body ← descend .block
  finish .other start [body]

/-- A member of a class of a plain script: a method, perhaps with a semicolon
after it, or a field. -/
def plainMember : Parse (List Node) := do
  let start ← here
  if ← ahead ";" then return [← symbol ";"]
  (do return [← staticBlock]) <|>
  (do
    let decorators ← many decorator
    let _ ← perhaps (qualifier true "static")
    let _ ← perhaps (qualifier true "async")
    let _ ← perhaps (accessorMark true)
    let name ← propertyName
    let parts ← callSignature false
    let body ← descend .block
    let member ← finish .other start (decorators ++ name :: parts ++ [body])
    return member :: (← perhaps (symbol ";"))) <|>
  (do
    let decorators ← many decorator
    let _ ← perhaps (qualifier true "static")
    let name ← propertyName
    let value ← perhaps (initializer .statement)
    let member ← finish .other start (decorators ++ name :: value)
    statementEndFor (!value.isEmpty) false
    return [member])

/-- The end of a member of a typed class: a semicolon, written or supplied, or
a comma. -/
def memberEnd (operand signature : Bool) : Parse Unit := do
  if !(← symbolIf ",") then statementEndFor operand signature

/-- A member of a class of a typed dialect. -/
def typedMember : Parse (List Node) := do
  let start ← here
  if ← ahead ";" then return [← symbol ";"]
  (do return [← staticBlock]) <|>
  (do
    let decorators ← many decorator
    let start ← if decorators.isEmpty then pure start else here
    (do
      let signature ← indexSignature
      memberEnd false false
      return decorators ++ [signature]) <|>
    (do
      let _ ← many (anyQualifier true (["declare"] ++ accessWords ++
        ["static", "override", "abstract", "readonly", "accessor", "async"]))
      let _ ← perhaps (accessorMark true)
      let name ← propertyName
      let _ ← perhaps (symbol "?" <|> symbol "!")
      if (← ahead "(") || (← ahead "<") then
        let parts ← callSignature true
        if (← nextChar) == some '\x7b' then
          let body ← descend .block
          let member ← finish .other start (name :: parts ++ [body])
          let _ ← perhaps (do
            memberEnd false false
            finish .mark start [])
          return decorators ++ [member]
        else
          let member ← finish .other start (name :: parts)
          memberEnd false true
          return decorators ++ [member]
      else
        let clause ← perhaps (typeClause true)
        let value ← perhaps (initializer .statement)
        let member ← finish .other start (name :: clause ++ value)
        memberEnd (!value.isEmpty) false
        return decorators ++ [member]))

/-- The body of a class. -/
def classBody : Parse Node := do
  let start ← here
  let opening ← symbol "\x7b"
  let members ← untilStop (ahead "\x7d") (if ← typed then typedMember else plainMember)
  let closing ← symbol "\x7d"
  finish .classBody start (opening :: members ++ [closing])

/-- A class that is extended, with type arguments. -/
def extendedClass : Parse Node := do
  let start ← here
  let base ← descend (.unary .closed)
  let arguments ← if ← typed then perhaps typeArguments else pure []
  finish .other start (base :: arguments)

/-- What a class extends and implements. -/
def classHeritage : Parse (List Node) := do
  if ← typed then
    let bases ← (do
      let _ ← keyword "extends"
      commaSeparated extendedClass) <|> pure []
    let interfaces ← (do
      let _ ← keyword "implements"
      commaSeparated (descend (.type false))) <|> pure []
    return bases ++ interfaces
  else
    (do
      let _ ← keyword "extends"
      return [← extendedClass]) <|> pure []

/-- A class from its keyword on. With `named` its name may not be missing. -/
def classFrom (kind : Kind) (start : Position) (first : List Node) (named : Bool) : Parse Node := do
  let _ ← keyword "class"
  let name ← perhaps (do
    let w ← wordAhead
    require (w != "extends" && !((← typed) && w == "implements"))
    bindingName)
  require (!named || !name.isEmpty)
  let generics ← if ← typed then perhaps typeParameters else pure []
  let heritage ← classHeritage
  let body ← classBody
  finish kind start (first ++ name ++ generics ++ heritage ++ [body])

end RouteDoc.Source
