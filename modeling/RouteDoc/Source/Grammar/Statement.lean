import RouteDoc.Source.Grammar.Expression

/-!
# Statements

* `readBlock`: statements in braces;
* `readStatement`: any statement or declaration;
* `readProgram`: a whole file.
-/

namespace RouteDoc.Source

/-- Statements up to where `stop` holds. A line that starts like a comment of
embedding markup is passed over. -/
def statementsUntil (stop : Parse Bool) : Parse (List Node) :=
  untilStop stop (do
    if (← ahead "<!--") || (← ahead "-->") then
      let p ← here
      return [← token .other (p.rest.takeWhile (!endsLine ·)).length]
    else return [← descend .statement])

/-- Statements in braces. -/
def readBlock : Parse Node := do
  let start ← here
  let opening ← symbol "\x7b"
  let xs ← statementsUntil (ahead "\x7d")
  let closing ← symbol "\x7d"
  finish .block start (opening :: xs ++ [closing])

/-- An expression and its semicolon. -/
def expressionStatement : Parse Node := do
  let start ← here
  let e ← readSequence .statement
  expressionEnd
  finish .statement start [e]

/-- Whether the token after an opening brace could start an entry of a record. -/
def couldStartEntry : Parse Bool := do
  let w ← wordAhead
  if w != "" then
    let d := (← read).dialect
    return if d.typed then !(statementKeywords.contains w) && !(expressionKeywords.contains w)
      else !(reserved.contains w)
  else
    let next ← nextChar
    return (next.map fun c => c.isDigit || ['"', '\'', '[', '.', '*', '#', '@'].contains c).getD false

/-- Whether the token ahead could only go on an expression. -/
def continuesExpression : Parse Bool := do
  return ((← nextChar).map [',', '.', '?', '*', '%', '&', '|', '^', '>', '='].contains).getD false

/-- Whether the brace ahead opens a block for certain: it holds a name first,
and a comma or the closing brace follows that. -/
def opensSequence : Parse Bool := canRead (do
  let _ ← symbol "\x7b"
  let _ ← anyWord .identifier
  require ((← ahead ",") || (← ahead "\x7d")))

/-- A declaration or block, or the same text as an expression where an
expression must go on after it. -/
def declarationOr (declaration : Parse Node) : Parse Node := do
  let c ← get
  let x ← declaration
  if ← continuesExpression then
    set c
    expressionStatement
  else return x

/-- A block, or an expression that starts with a record: where no block can be
read, and where the text after the block must go on an expression. -/
def blockOrRecord : Parse Node := do
  (do
    if ← opensSequence then descend .block else declarationOr (descend .block)) <|>
  (do
    require (← canRead (do
      let _ ← symbol "\x7b"
      require (← couldStartEntry)))
    expressionStatement)

/-- A condition in parentheses. -/
def condition : Parse Node := readParenthesized

/-- One declared name with its type and initial value. -/
def declarator (edge : Edge) : Parse Node := do
  let start ← here
  let name ← bindingTarget
  let clause ←
    if ← typed then do
      if (← ahead "!") && !(← ahead "!=") then
        let _ ← symbol "!"
      perhaps (typeClause true)
    else pure []
  let value ← perhaps (initializer edge)
  finish .other start (name :: clause ++ value)

/-- Declared names and their semicolon, after the keyword. -/
def declarators (start : Position) : Parse Node := do
  let xs ← commaSeparated (declarator .statement)
  let operand := (xs.getLast?.map fun x => x.children.length != 1).getD false
  statementEndFor operand false
  finish .statement start xs

/-- A declaration of variables. -/
def variableDeclaration : Parse Node := do
  let start ← here
  let _ ← keyword "var" <|> keyword "const" <|> (do
    let mark ← keyword "let"
    require (!(← semicolonHere true))
    return mark)
  declarators start

/-- A declaration of a function with its name; in typed dialects the body may
be missing. -/
def functionDeclaration : Parse Node := do
  let start ← here
  let mark ← perhaps asyncMark
  let _ ← keyword "function"
  let _ ← symbolIf "*"
  let name ← bindingName
  let parts ← callSignature true
  let body ← (do return [← descend .block]) <|> (do
    require (← typed)
    statementEndFor false true
    return [])
  finish .statement start (mark ++ name :: parts ++ body)

/-- A function at the start of a statement: a declaration if it has a name. -/
def functionStatement : Parse Node := do
  let named ← canRead (do
    let _ ← perhaps asyncMark
    let _ ← keyword "function"
    let _ ← symbolIf "*"
    bindingName)
  if named then declarationOr functionDeclaration else expressionStatement

/-- A class at the start of a statement, perhaps with decorators: a declaration
if it has a name. -/
def classStatement : Parse Node := do
  let start ← here
  let named ← canRead (do
    let _ ← many decorator
    let _ ← keyword "class"
    require ((← wordAhead) != "extends")
    bindingName)
  if named then
    declarationOr (do
      let decorators ← many decorator
      classFrom .statement start decorators true)
  else expressionStatement

/-- The head of a loop over the items or keys of something. -/
def iterationHead : Parse (List Node) := do
  let _ ← symbol "("
  let left ←
    (do
      let _ ← keyword "var"
      let target ← bindingTarget
      let value ← perhaps (initializer .closed)
      require (["in", "of"].contains (← wordAhead))
      return target :: value) <|>
    (do
      let _ ← keyword "let" <|> keyword "const"
      let target ← bindingTarget
      require (["in", "of"].contains (← wordAhead))
      return [target]) <|>
    (do
      let target ← descend (.pattern true) <|> readLeft
      require (["in", "of"].contains (← wordAhead))
      return [target])
  let _ ← anyWord .mark
  let right ← readSequence .closed
  let _ ← symbol ")"
  return left ++ [right]
where
  /-- Something that can be assigned to and is no plain pattern. -/
  readLeft : Parse Node := do
    let start ← here
    let base ← descend (.primary .closed)
    let x ← extend (suffix .closed start) base
    require (isAssignable x.kind)
    return x

/-- The head of a counting loop. -/
def countingHead : Parse (List Node) := do
  let _ ← symbol "("
  let first ←
    if ← symbolIf ";" then pure []
    else
      (do return [← variableDeclaration]) <|> (do
        let e ← readSequence .closed
        let _ ← symbol ";"
        return [e])
  let test ←
    if ← symbolIf ";" then pure []
    else do
      let e ← readSequence .closed
      let _ ← symbol ";"
      pure [e]
  let step ← if ← ahead ")" then pure [] else pure [← readSequence .closed]
  let _ ← symbol ")"
  return first ++ test ++ step

/-- A loop that starts with `for`. -/
def forStatement : Parse Node := do
  let start ← here
  let _ ← keyword "for"
  let _ ← keywordIf "await"
  let head ← iterationHead <|> countingHead
  let body ← descend .statement
  finish .statement start (head ++ [body])

/-- A choice between statements. -/
def ifStatement : Parse Node := do
  let start ← here
  let _ ← keyword "if"
  let test ← condition
  let yes ← descend .statement
  let no ←
    if ← keywordIf "else" then pure [← descend .statement] else pure []
  finish .statement start (test :: yes :: no)

/-- A choice between many cases. -/
def switchStatement : Parse Node := do
  let start ← here
  let _ ← keyword "switch"
  let value ← condition
  let bodyStart ← here
  let _ ← symbol "\x7b"
  let cases ← untilStop (ahead "\x7d") (do return [← switchCase])
  let _ ← symbol "\x7d"
  let body ← finish .other bodyStart cases
  finish .statement start [value, body]
where
  /-- Whether the case ends here. -/
  stop : Parse Bool := do
    return (← ahead "\x7d") || ["case", "default"].contains (← wordAhead)
  /-- One case, or the one that always applies. -/
  switchCase : Parse Node := do
    let start ← here
    (do
      let word ← keyword "case"
      let value ← readSequence .closed
      let colon ← symbol ":"
      let xs ← statementsUntil stop
      finish .caseClause start (word :: value :: colon :: xs)) <|>
    (do
      let word ← keyword "default"
      let colon ← symbol ":"
      let xs ← statementsUntil stop
      finish .defaultClause start (word :: colon :: xs))

/-- A statement with handlers. -/
def tryStatement : Parse Node := do
  let start ← here
  let _ ← keyword "try"
  let body ← descend .block
  let handler ←
    if ← keywordIf "catch" then do
      let parameter ←
        if ← symbolIf "(" then do
          let x ← bindingTarget
          let clause ← if ← typed then perhaps (typeClause false) else pure []
          let _ ← symbol ")"
          pure (x :: clause)
        else pure []
      pure (parameter ++ [← descend .block])
    else pure []
  let last ← if ← keywordIf "finally" then pure [← descend .block] else pure []
  finish .statement start (body :: handler ++ last)

/-- A jump, perhaps to a label. -/
def jumpStatement (w : String) : Parse Node := do
  let start ← here
  let _ ← keyword w
  let label ←
    if ← semicolonHere false then pure []
    else perhaps bindingName
  statementEnd
  finish .statement start label

/-- A return, perhaps with a value. -/
def returnStatement : Parse Node := do
  let start ← here
  let _ ← keyword "return"
  if (← semicolonHere false) || (← ahead ";") then
    statementEnd
    finish .statement start []
  else
    let e ← readSequence .statement
    expressionEnd
    finish .statement start [e]

/-- A name in an import or export list: a word or a string. -/
def moduleName : Parse Node := stringLiteral <|> anyWord .identifier

/-- The source of an import or export. -/
def fromClause : Parse (List Node) := do
  let _ ← keyword "from"
  let source ← stringLiteral
  let options ← perhaps (do
    let _ ← keyword "with"
    readObject)
  return source :: options

/-- An item of an import or export list, perhaps renamed. -/
def moduleItem : Parse Node := do
  let start ← here
  let plain := do
    let name ← moduleName
    let named ← perhaps (do
      let _ ← keyword "as"
      moduleName)
    require ((← ahead ",") || (← ahead "\x7d"))
    finish .other start (name :: named)
  plain <|> (do
    require (← typed)
    let _ ← keyword "type" <|> keyword "typeof"
    plain)

/-- A list of names in braces. -/
def moduleItems : Parse Node := do
  let start ← here
  let _ ← symbol "\x7b"
  let xs ← if ← ahead "\x7d" then pure [] else strictList moduleItem
  let _ ← symbol "\x7d"
  finish .other start xs

/-- A star with a name for all that is imported. -/
def moduleStar : Parse Node := do
  let start ← here
  let _ ← symbol "*"
  let _ ← keyword "as"
  let name ← moduleName
  finish .other start [name]

/-- What an import binds. -/
def importClause : Parse (List Node) := do
  if (← ahead "*") then return [← moduleStar]
  else if ← ahead "\x7b" then return [← moduleItems]
  else
    let name ← bindingName
    let more ←
      if ← symbolIf "," then pure [← moduleStar <|> moduleItems] else pure []
    return name :: more

/-- An import statement. -/
def importStatement : Parse Node := do
  let start ← here
  let _ ← keyword "import"
  let clause := (do
    let xs ← importClause
    return xs ++ (← fromClause))
  let required := (do
    require (← typed)
    let name ← bindingName
    let _ ← equalsSign
    (do
      let _ ← keyword "require"
      let _ ← symbol "("
      let source ← stringLiteral
      let _ ← symbol ")"
      return [name, source]) <|> (do
      let inner ← here
      let base ← anyWord .identifier
      let path ← extend (pointName inner) base
      return [name, path]))
  let bare := (do
    let source ← stringLiteral
    let options ← perhaps (do
      let _ ← keyword "with"
      readObject)
    return source :: options)
  let parts ← clause <|> required <|> bare <|> (do
    require (← typed)
    let _ ← keyword "type" <|> keyword "typeof"
    clause <|> required <|> bare)
  statementEnd
  finish .statement start parts

/-- The members of an enumeration. -/
def enumDeclaration (start : Position) : Parse Node := do
  let _ ← keywordIf "const"
  let _ ← keyword "enum"
  let name ← anyWord .identifier
  let _ ← symbol "\x7b"
  let xs ←
    if ← ahead "\x7d" then pure []
    else strictList (do
      let start ← here
      let name ← propertyName
      let value ← perhaps (initializer .closed)
      finish .other start (name :: value))
  let _ ← symbol "\x7d"
  finish .statement start (name :: xs)

/-- A name for a type. -/
def typeAlias (start : Position) : Parse Node := do
  let _ ← keyword "type"
  let name ← anyWord .identifier
  let generics ← perhaps typeParameters
  let _ ← equalsSign
  let t ← descend (.type true)
  statementEnd
  finish .statement start (name :: generics ++ [t])

/-- An interface. -/
def interfaceDeclaration (start : Position) : Parse Node := do
  let _ ← keyword "interface"
  let name ← anyWord .identifier
  let generics ← perhaps typeParameters
  let bases ← (do
    let _ ← keyword "extends"
    commaSeparated typeName) <|> pure []
  let body ← objectType
  finish .statement start (name :: generics ++ bases ++ [body])

/-- A namespace or module with its body. -/
def namespaceDeclaration (start : Position) : Parse Node := do
  let w ← wordAhead
  require (w == "namespace" || w == "module")
  let _ ← anyWord .mark
  let inner ← here
  let name ← stringLiteral <|> (do
    let base ← anyWord .identifier
    extend (pointName inner) base)
  let body ← perhaps (descend .block)
  if body.isEmpty then require (← semicolonHere false)
  finish .statement start (name :: body)

/-- An abstract class. -/
def abstractClass (start : Position) (first : List Node) : Parse Node := do
  let _ ← keyword "abstract"
  classFrom .statement start first true

/-- A declaration of a typed dialect, less those that start with `declare`. -/
def typedDeclaration (start : Position) : Parse Node := do
  require (← typed)
  match ← wordAhead with
  | "type" => typeAlias start
  | "interface" => interfaceDeclaration start
  | "enum" => enumDeclaration start
  | "const" => enumDeclaration start
  | "namespace" | "module" => namespaceDeclaration start
  | "abstract" => abstractClass start []
  | _ => failure

/-- A declaration that can be exported. -/
def exportable (start : Position) : Parse Node := do
  typedDeclaration start <|> (do
    match ← wordAhead with
    | "function" | "async" => functionDeclaration
    | "class" => classFrom .statement start [] true
    | "const" | "let" | "var" => variableDeclaration
    | "import" => importStatement
    | _ => failure)

/-- A declaration of something defined elsewhere. -/
def ambientDeclaration (start : Position) : Parse Node := do
  require (← typed)
  let _ ← keyword "declare"
  let inner ← here
  let body ← exportable inner <|> (do
    let _ ← keyword "global"
    descend .block)
  finish .statement start [body]

/-- An export statement. -/
def exportStatement (start : Position) (first : List Node) : Parse Node := do
  let _ ← keyword "export"
  let inner ← here
  let star := (do
    let _ ← symbol "*"
    let named ← perhaps (do
      let _ ← keyword "as"
      moduleName)
    let source ← fromClause
    statementEnd
    return named ++ source)
  let items := (do
    let xs ← moduleItems
    let source ← fromClause <|> pure []
    statementEnd
    return xs :: source)
  let typedForm := (do
    require (← typed)
    (do
      let _ ← keyword "type"
      star <|> items) <|>
    (do
      let _ ← equalsSign
      let e ← descend (.expression .statement)
      expressionEnd
      return [e]) <|>
    (do
      let _ ← keyword "as"
      let _ ← keyword "namespace"
      let name ← anyWord .identifier
      statementEnd
      return [name]))
  let declaration := (do
    let decorators ← many decorator
    let d ← ambientDeclaration inner <|> exportable inner
    return decorators ++ [d])
  let preset := (do
    let _ ← keyword "default"
    let inner ← here
    (do
      let d ← ambientDeclaration inner <|> exportable inner
      return [d]) <|> (do
      let e ← descend (.expression .statement)
      expressionEnd
      return [e]))
  let parts ← star <|> items <|> typedForm <|> preset <|> declaration
  finish .statement start (first ++ parts)

/-- A statement with a label. -/
def labeledStatement : Parse Node := do
  let start ← here
  let label ← bindingName
  let _ ← symbol ":"
  let body ← descend .statement
  finish .statement start [label, body]

/-- A declaration of a resource that is disposed of at the end of its block. -/
def usingDeclaration : Parse Node := do
  let start ← here
  let _ ← keywordIf "await"
  let _ ← keyword "using"
  require (!(← semicolonHere true))
  require (!(["in", "of", "instanceof", "as"].contains (← wordAhead)))
  let _ ← canRead bindingName >>= require
  declarators start

/-- A statement that starts with a decorator: a class, perhaps exported. -/
def decoratedStatement : Parse Node := do
  let exported := do
    let start ← here
    let decorators ← many decorator
    match ← wordAhead with
    | "export" => exportStatement start decorators
    | "abstract" => abstractClass start decorators
    | _ => failure
  exported <|> classStatement

/-- A statement that starts with a word. -/
def wordStatement : Parse Node := do
  let start ← here
  let keywordOnly := fun w => do
    let _ ← keyword w
    statementEnd
    finish .statement start []
  let guarded := fun w => do
    let _ ← keyword w
    let test ← condition
    let body ← descend .statement
    finish .statement start [test, body]
  let contextual := (ambientDeclaration start <|> typedDeclaration start <|> labeledStatement <|>
    expressionStatement)
  match ← wordAhead with
  | "import" => importStatement <|> expressionStatement
  | "export" => exportStatement start [] <|> expressionStatement
  | "function" => functionStatement
  | "async" =>
    if ← canRead (asyncMark *> keyword "function") then functionStatement else contextual
  | "class" => classStatement
  | "const" => typedDeclaration start <|> variableDeclaration
  | "var" => variableDeclaration
  | "let" => variableDeclaration <|> labeledStatement <|> expressionStatement
  | "if" => ifStatement
  | "switch" => switchStatement
  | "for" => forStatement
  | "while" => guarded "while"
  | "with" => guarded "with"
  | "do" =>
    let _ ← keyword "do"
    let body ← descend .statement
    let _ ← keyword "while"
    let test ← condition
    let _ ← perhaps (do
      statementEnd
      finish .mark start [])
    finish .statement start [body, test]
  | "try" => tryStatement
  | "break" => jumpStatement "break"
  | "continue" => jumpStatement "continue"
  | "debugger" => keywordOnly "debugger"
  | "return" => returnStatement
  | "throw" =>
    let _ ← keyword "throw"
    let e ← readSequence .statement
    expressionEnd
    finish .statement start [e]
  | "interface" | "enum" =>
    if ← typed then typedDeclaration start else contextual
  | "using" | "await" => usingDeclaration <|> contextual
  | _ => contextual

/-- Any statement. -/
def readStatement : Parse Node := do
  let start ← here
  match start.rest with
  | '\x7b' :: _ => blockOrRecord
  | ';' :: _ => token .statement 1
  | '@' :: _ => decoratedStatement
  | _ => if (← wordAhead) == "" then expressionStatement else wordStatement

/-- A whole file: perhaps a line that names an interpreter, then statements. Unlike other
nodes it starts with a comment that comes first, and ends where the text ends. -/
def readProgram : Parse Node := do
  let start ← here
  let first := ((← get).gap.head?.map (·.1.span)).getD (start.spanTo start)
  if ← ahead "#!" then
    let _ ← token .other (start.rest.takeWhile (· != '\n')).length
  let xs ← statementsUntil (return (← here).rest.isEmpty)
  let stop ← here
  return .mk .program .plain { first with stop := stop.offset, stopRow := stop.row } xs

end RouteDoc.Source
