import RouteDoc.Source.Grammar.Definition
import RouteDoc.Source.Grammar.Element

/-!
# Expressions

* `operatorAt`: the longest operator at the start of a text;
* `readPrimary`: literals, names, brackets, functions, classes;
* `suffix`: members, calls and the like after an operand;
* `readUnary`, `readOperand`, `readExpression`: operands under a sign, operands
  joined by operators that bind at least so tightly, any expression;
* `readSequence`: expressions between commas.
-/

namespace RouteDoc.Source

/-- What an operator does. -/
inductive Operator
  | assign
  | augment
  | binary (level : Nat) (rightward : Bool)
  | update
  | arrow

/-- The longest operator at the start of a text and its length. Of binary
operators the higher level binds tighter; one of the same level to the right
belongs to the right operand only if the operator is `rightward`. -/
def operatorAt : List Char → Option (Nat × Operator)
  | '>' :: '>' :: '>' :: '=' :: _ => some (4, .augment)
  | '=' :: '=' :: '=' :: _ => some (3, .binary 7 false)
  | '!' :: '=' :: '=' :: _ => some (3, .binary 7 false)
  | '*' :: '*' :: '=' :: _ => some (3, .augment)
  | '<' :: '<' :: '=' :: _ => some (3, .augment)
  | '>' :: '>' :: '=' :: _ => some (3, .augment)
  | '>' :: '>' :: '>' :: _ => some (3, .binary 9 false)
  | '&' :: '&' :: '=' :: _ => some (3, .augment)
  | '|' :: '|' :: '=' :: _ => some (3, .augment)
  | '?' :: '?' :: '=' :: _ => some (3, .augment)
  | '=' :: '=' :: _ => some (2, .binary 7 false)
  | '!' :: '=' :: _ => some (2, .binary 7 false)
  | '<' :: '=' :: _ => some (2, .binary 8 false)
  | '>' :: '=' :: _ => some (2, .binary 8 false)
  | '&' :: '&' :: _ => some (2, .binary 3 false)
  | '|' :: '|' :: _ => some (2, .binary 2 false)
  | '?' :: '?' :: _ => some (2, .binary 1 false)
  | '*' :: '*' :: _ => some (2, .binary 12 true)
  | '<' :: '<' :: _ => some (2, .binary 9 false)
  | '>' :: '>' :: _ => some (2, .binary 9 false)
  | '=' :: '>' :: _ => some (2, .arrow)
  | '+' :: '+' :: _ => some (2, .update)
  | '-' :: '-' :: _ => some (2, .update)
  | '+' :: '=' :: _ => some (2, .augment)
  | '-' :: '=' :: _ => some (2, .augment)
  | '*' :: '=' :: _ => some (2, .augment)
  | '/' :: '=' :: _ => some (2, .augment)
  | '%' :: '=' :: _ => some (2, .augment)
  | '&' :: '=' :: _ => some (2, .augment)
  | '|' :: '=' :: _ => some (2, .augment)
  | '^' :: '=' :: _ => some (2, .augment)
  | '+' :: _ => some (1, .binary 10 false)
  | '-' :: _ => some (1, .binary 10 false)
  | '*' :: _ => some (1, .binary 11 false)
  | '/' :: _ => some (1, .binary 11 false)
  | '%' :: _ => some (1, .binary 11 false)
  | '<' :: _ => some (1, .binary 8 false)
  | '>' :: _ => some (1, .binary 8 false)
  | '&' :: _ => some (1, .binary 6 false)
  | '^' :: _ => some (1, .binary 5 false)
  | '|' :: _ => some (1, .binary 4 false)
  | '=' :: _ => some (1, .assign)
  | _ => none

/-- Expressions between commas. -/
def readSequence (edge : Edge) : Parse Node := do
  let start ← here
  match ← commaSeparated (descend (.expression edge)) with
  | [e] => return e
  | es => finish .expression start es

/-- Something in parentheses; in typed dialects perhaps with its type. -/
def readParenthesized : Parse Node := do
  let start ← here
  let _ ← symbol "("
  let e ← readSequence .closed
  if ← typed then
    let _ ← perhaps (typeClause false)
  let _ ← symbol ")"
  finish .parenthesized start [e]

/-- A list. -/
def readArray : Parse Node := do
  let start ← here
  let _ ← symbol "["
  let xs ← lenientList (do
    let start ← here
    if ← ahead "..." then
      let _ ← symbol "..."
      let e ← descend (.expression .closed)
      finish .spread start [e]
    else descend (.expression .closed))
  let _ ← symbol "]"
  finish .array start xs

/-- A record. -/
def readObject : Parse Node := do
  let start ← here
  let _ ← symbol "\x7b"
  let xs ← lenientList (do
    let start ← here
    if ← ahead "..." then
      let _ ← symbol "..."
      let e ← descend (.expression .closed)
      finish .spread start [e]
    else
      (do
        let key ← propertyName
        let _ ← symbol ":"
        let e ← descend (.expression .closed)
        finish .other start [key, e]) <|>
      method <|> anyWord .identifier)
  let _ ← symbol "\x7d"
  finish .object start xs

/-- A list or record, or an assignment to a pattern that looks like one. -/
def readBracketed (literal : Parse Node) (edge : Edge) : Parse Node := do
  let start ← here
  (do
    let x ← literal
    match operatorAt (← here).rest with
    | some (_, .assign) => failure
    | _ => return x) <|>
  (do
    let target ← descend (.pattern true)
    let _ ← equalsSign
    let e ← descend (.expression edge)
    finish .expression start [target, e])

/-- An expression that starts with a word. -/
def readWord (edge : Edge) : Parse Node := do
  let start ← here
  match ← wordAhead with
  | "function" => functionExpression
  | "class" => classFrom .expression start [] false
  | "this" | "super" | "true" | "false" | "null" => anyWord .expression
  | "undefined" => anyWord .undefinedName
  | "new" => readNew start
  | "import" => readImport
  | "yield" => readYield start
  | "async" => readAsync start
  | "" => failure
  | _ => readName start
where
  /-- A name, or an arrow function with it as its parameter. -/
  readName (start : Position) : Parse Node := do
    require (isNameInExpression (← read).dialect (← wordAhead))
    let name ← anyWord .identifier
    match operatorAt (← here).rest with
    | some (_, .arrow) =>
      let _ ← symbol "=>"
      let body ← arrowBody edge
      finish .arrow start [name.withRole .parameter, body]
    | _ => return name
  /-- An asynchronous function, or the name `async`. -/
  readAsync (start : Position) : Parse Node := do
    (do
      let mark ← asyncMark
      if edge.semicolon then require (!(← semicolonHere true))
      if (← wordAhead) == "function" then failure
      bareArrow start [mark] edge <|> arrowFrom start [mark] edge) <|>
    functionExpression <|> readName start
  /-- A new instance, or the target of the constructor's caller. -/
  readNew (start : Position) : Parse Node := do
    let _ ← keyword "new"
    (do
      let _ ← symbol "."
      let _ ← keyword "target"
      finish .expression start []) <|>
    (do
      let inner ← here
      let base ← descend (.primary .closed)
      let path ← extend (fun x => do
        match (← here).rest with
        | '[' :: _ =>
          let _ ← symbol "["
          let e ← readSequence .closed
          let _ ← symbol "]"
          some <$> finish .subscript inner [x, e]
        | '`' :: _ => some <$> callNode inner x (← template (readSequence .closed))
        | '!' :: c :: _ =>
          if !(← typed) || c == '=' then return none
          let _ ← symbol "!"
          some <$> finish .nonNull inner [x]
        | _ => pointName inner x) base
      let generics ← if ← typed then perhaps typeArguments else pure []
      let arguments ← perhaps callArguments
      finish .expression start (path :: generics ++ arguments))
  /-- An import called as a function, or what is known about the module. -/
  readImport : Parse Node := do
    let base ← keyword "import"
    let next ← nextChar
    require (next == some '(' || next == some '.')
    return base.withKind .other
  /-- A result handed out of a generator. -/
  readYield (start : Position) : Parse Node := do
    let _ ← keyword "yield"
    let value ←
      if ← symbolIf "*" then pure [← descend (.expression edge)]
      else if edge.semicolon && (← semicolonHere true) then pure []
      else perhaps (descend (.expression edge))
    finish .expression start value

/-- An operand without signs before it or suffixes after it. -/
def readPrimary (edge : Edge) : Parse Node := do
  let start ← here
  match start.rest with
  | [] => failure
  | c :: cs =>
    if c == '(' then arrowFrom start [] edge <|> readParenthesized
    else if c == '[' then readBracketed readArray edge
    else if c == '\x7b' then readBracketed readObject edge
    else if c == '"' || c == '\'' then stringLiteral
    else if c == '`' then template (readSequence .closed)
    else if c.isDigit || (c == '.' && (cs.head?.map Char.isDigit).getD false) then numberLiteral
    else if c == '/' then
      match patternLength start.rest with
      | some n => token .other n
      | none => failure
    else if c == '#' then do
      let name ← privateName
      require ((← wordAhead) == "in")
      return name
    else if c == '<' then
      let d := (← read).dialect
      (do
        require d.typed
        arrowFrom start [] edge) <|>
      (do
        require d.elements
        readElement (readSequence .closed))
    else if c == '@' then
      let decorators ← many decorator
      classFrom .expression start decorators false
    else readWord edge

/-- Whether an expression of this kind can be assigned to. -/
def isAssignable (k : Kind) : Bool :=
  [.identifier, .undefinedName, .member, .subscript, .parenthesized, .nonNull].contains k

/-- Whether type arguments can stand before this character without a call: no
operand may follow. -/
def endsInstantiation (next : Option Char) : Bool :=
  match next with
  | none => true
  | some c => !(isWordStart c) && !c.isDigit &&
      !(['"', '\'', '`', '(', '[', '\x7b', '<', '/', '+', '-', '!', '~', '@', '#'].contains c)

/-- What follows an operand directly, if anything does. -/
def suffix (edge : Edge) (start : Position) (x : Node) : Parse (Option Node) := do
  if edge.semicolon && (← semicolonHere true) then return none
  let p ← here
  match p.rest with
  | '?' :: '.' :: c :: _ =>
    if c.isDigit then return none
    let _ ← symbol "?."
    if c == '[' || (← ahead "[") then subscript
    else if ← ahead "(" then some <$> callNode start x (← callArguments)
    else if (← typed) && (← ahead "<") then
      let _ ← typeArguments
      some <$> callNode start x (← callArguments)
    else some <$> memberNode start x (← memberName)
  | '[' :: _ => subscript
  | '(' :: _ => some <$> callNode start x (← callArguments)
  | '`' :: _ => some <$> callNode start x (← template (readSequence .closed))
  | '+' :: '+' :: _ | '-' :: '-' :: _ =>
    let _ ← token .mark 2
    some <$> finish .expression start [x]
  | '!' :: '=' :: _ => return none
  | '!' :: _ =>
    if !(← typed) then return none
    let _ ← symbol "!"
    some <$> finish .nonNull start [x]
  | '<' :: _ =>
    if !(← typed) then return none
    match ← perhaps instantiation with
    | [] => return none
    | generics =>
      match ← nextChar with
      | some '(' => some <$> callNode start x (← callArguments)
      | some '`' => some <$> callNode start x (← template (readSequence .closed))
      | _ => some <$> finish .expression start (x :: generics)
  | _ => pointName start x
where
  /-- Type arguments that a call follows, or no operand. -/
  instantiation : Parse Node := do
    let generics ← typeArguments
    let next ← nextChar
    require (next == some '(' || next == some '`' || endsInstantiation next ||
      (edge.semicolon && (← semicolonHere true)))
    return generics
  /-- An index in brackets. -/
  subscript : Parse (Option Node) := do
    let _ ← symbol "["
    let e ← readSequence .closed
    let _ ← symbol "]"
    some <$> finish .subscript start [x, e]

/-- An operand with its suffixes, or an assignment to it. -/
def readSuffixed (edge : Edge) : Parse Node := do
  let start ← here
  let base ← descend (.primary edge)
  let x ← extend (suffix edge start) base
  if edge.semicolon && (← semicolonHere true) then return x
  match operatorAt (← here).rest with
  | some (n, .assign) =>
    if !isAssignable x.kind then return x
    let _ ← token .mark n
    let e ← descend (.expression edge)
    finish .expression start [x, e]
  | some (n, .augment) =>
    if !isAssignable x.kind then return x
    let _ ← token .mark n
    let e ← descend (.expression edge)
    finish .expression start [x, e]
  | _ => return x

/-- An operand with the signs and words before it. -/
def readUnary (edge : Edge) : Parse Node := do
  let start ← here
  match start.rest with
  | '+' :: '+' :: _ | '-' :: '-' :: _ =>
    let _ ← token .mark 2
    let x ← descend (.unary edge)
    finish .expression start [x]
  | c :: _ =>
    if c == '!' || c == '~' || c == '+' || c == '-' then
      let _ ← token .mark 1
      let x ← descend (.unary edge)
      finish .expression start [x]
    else if c == '<' && (← read).dialect == .typescript then
      readSuffixed edge <|> (do
        let generics ← typeArguments
        let x ← descend (.unary edge)
        finish .expression start [generics, x])
    else
      match ← wordAhead with
      | "typeof" | "void" | "delete" =>
        let _ ← anyWord .mark
        let x ← descend (.unary edge)
        finish .expression start [x]
      | "await" =>
        (do
          let _ ← anyWord .mark
          let x ← descend (.unary edge)
          finish .expression start [x]) <|> readSuffixed edge
      | _ => readSuffixed edge
  | [] => failure

/-- Whether the question mark ahead asks for a condition: it is not doubled
and no member follows, and in typed dialects it marks nothing optional. -/
def startsTernary (d : Dialect) : List Char → Bool
  | '?' :: cs =>
    match cs with
    | '?' :: _ => false
    | '.' :: e :: _ => e.isDigit
    | _ =>
      !(d.typed && (((cs.dropWhile isLayout).head?.map
        fun c => c == ':' || c == ')' || c == ',').getD false))
  | _ => false

/-- A condition with its two outcomes, after the condition. Where the first
outcome reads too far, as an arrow function with a return type, it is read
again without return types. -/
def readTernary (edge : Edge) (start : Position) (condition : Node) : Parse Node := do
  let _ ← symbol "?"
  let c ← get
  let first ← descend (.expression .closed)
  let yes ←
    if ← ahead ":" then pure first
    else do
      set c
      descend (.expression ⟨false, false⟩)
  let _ ← symbol ":"
  let no ← descend (.expression edge)
  finish .expression start [condition, yes, no]

/-- The operator ahead that joins two operands, or a condition, extends `x` if
it binds tightly enough. -/
def joined (level : Nat) (edge : Edge) (start : Position) (x : Node) : Parse (Option Node) := do
  if edge.semicolon && (← semicolonHere true) then return none
  let p ← here
  let d := (← read).dialect
  match operatorAt p.rest with
  | some (n, .binary l rightward) =>
    if l < level then return none
    let _ ← token .mark n
    right (if rightward then l else l + 1)
  | some _ => return none
  | none =>
    if startsTernary d p.rest then
      if level == 0 then some <$> readTernary edge start x else return none
    else
      match ← wordAhead with
      | "in" | "instanceof" =>
        if 8 < level then return none
        let _ ← anyWord .mark
        right 9
      | "as" | "satisfies" =>
        if 8 < level || !d.typed then return none
        let _ ← anyWord .mark
        let t ← descend (.type false)
        some <$> finish .expression start [x, t]
      | _ => return none
where
  /-- The right operand. -/
  right (level : Nat) : Parse (Option Node) := do
    let y ← descend (.operand level edge)
    some <$> finish .expression start [x, y]

/-- Operands joined by operators of at least the given level. -/
def readOperand (level : Nat) (edge : Edge) : Parse Node := do
  let start ← here
  let x ← descend (.unary edge)
  extend (joined level edge start) x

/-- Any expression. -/
def readExpression (edge : Edge) : Parse Node :=
  readOperand 0 edge

end RouteDoc.Source
