import RouteDoc.Route.Path
import RouteDoc.Route.Comment
import RouteDoc.Source.Tree

/-!
# Routes in source text

A route is declared by a call of a member that is named like a verb, with a
path as its first argument and a handler as its last.

* `sites`: the calls of a tree, each with the statement around it;
* `leadingComment`: the comment directly above that statement;
* `renderTemplate`: the path a template stands for;
* `routeOfCall`, `extractRoutes`: the route a call declares, and all routes of
  a tree.
-/

namespace RouteDoc

open Source (Node Kind Role)

/-- A call, the statement or member it belongs to, and what stands before that
among its siblings, the nearest first. -/
structure Site where
  call : Node
  statement : Node
  before : List Node

mutual

/-- The calls at and below a node that belongs to a statement, in source
order. -/
def sitesAt (statement : Node) (before : List Node) : Node → List Site
  | .mk kind role span children =>
    (if kind == .call then [⟨.mk kind role span children, statement, before⟩] else []) ++
      sitesBelow (if kind.holdsStatements then none else some (statement, before)) [] children

/-- The calls at and below siblings, of which `earlier` come before. They belong
to the given statement, or each to itself. -/
def sitesBelow (owner : Option (Node × List Node)) (earlier : List Node) : List Node → List Site
  | [] => []
  | n :: ns =>
    (match owner with
      | some (statement, before) => sitesAt statement before n
      | none => sitesAt n earlier n) ++ sitesBelow owner (n :: earlier) ns

end

/-- The calls of a tree in source order. -/
def sites (root : Node) : List Site := sitesAt root [] root

/-- The text of the block comment directly above the statement of a call, on
lines of its own. -/
def leadingComment (source : List Char) (site : Site) : Option String :=
  match site.before with
  | [] => none
  | comment :: earlier =>
    let text := comment.text source
    let trails :=
      match earlier with
      | [] => false
      | n :: _ => n.span.stopRow == comment.span.startRow
    if comment.kind == .comment && ['/', '*'].isPrefixOf text &&
        site.statement.span.startRow ≤ comment.span.stopRow + 1 && !trails then
      some (String.ofList text)
    else none

/-- The verb that the name of a member stands for. -/
def verbOfMember : String → Option String
  | "get" => some "GET"
  | "post" => some "POST"
  | "put" => some "PUT"
  | "patch" => some "PATCH"
  | "delete" => some "DELETE"
  | "head" => some "HEAD"
  | "options" => some "OPTIONS"
  | "all" => some "ALL"
  | _ => none

/-- Names of objects that send requests and declare no routes. -/
def requestSenders : List String :=
  ["axios", "http", "https", "request", "superagent", "got", "fetch", "ky"]

/-- Whether a node is a function written in place. -/
def isFunction (n : Node) : Bool := n.kind == .arrow || n.kind == .functionExpression

/-- Whether a node refers to something by name. -/
def isReference (n : Node) : Bool := n.kind == .identifier || n.kind == .member

/-- The text between two offsets. -/
def stretch (source : List Char) (start stop : Nat) : List Char :=
  (source.drop start).take (stop - start)

/-- The pieces of a template from `position` on, with the `index`-th
substitution replaced by a parameter of that number. -/
def templatePieces (source : List Char) (stop : Nat) : Nat → Nat → List Node → List Char
  | position, _, [] => stretch source position (stop - 1)
  | position, index, n :: ns =>
    stretch source position n.span.start ++ ":param".toList ++ (toString index).toList ++
      templatePieces source stop n.span.stop (index + 1) ns

/-- The path a template stands for, and whether it starts with a substitution. -/
def renderTemplate (source : List Char) (n : Node) : List Char × Bool :=
  let holes := n.children.filter (·.kind == .substitution)
  let first := n.span.start + 1
  (templatePieces source n.span.stop first 0 holes,
    (holes.head?.map fun h => h.span.start == first).getD false)

/-- The path that an argument gives: a string or template that starts with a
slash, a star or a substitution. -/
def pathOfArgument (source : List Char) (n : Node) : Option String :=
  let (path, startsOpen) :=
    match n.kind with
    | .string => (((n.text source).drop 1).dropLast, false)
    | .template => renderTemplate source n
    | _ => ([], false)
  if startsOpen || path.head? == some '/' || path.head? == some '*' then some (String.ofList path) else none

/-- The name under which a parameter is listed: what it binds, without its type
and default; three points mark the rest of a list. -/
def parameterName (source : List Char) : Node → List Char
  | .mk kind role span children =>
    let own := (Node.mk kind role span children).text source
    match kind with
    | .typedParameter => named source .pattern own children
    | .defaulted => named source .left own children
    | .rest => restName source own children
    | _ => own
where
  /-- The name of the first child that plays the part `role`, or `own`. -/
  named (source : List Char) (role : Role) (own : List Char) : List Node → List Char
    | [] => own
    | n :: ns => if n.role == role then parameterName source n else named source role own ns
  /-- The name of the first child after three points, or `own`. -/
  restName (source : List Char) (own : List Char) : List Node → List Char
    | [] => own
    | n :: _ => ['.', '.', '.'] ++ parameterName source n

/-- The names of the parameters of a function. -/
def functionParameters (source : List Char) (f : Node) : List String :=
  match f.child? .parameter with
  | some p => [String.ofList (p.text source)]
  | none =>
    match f.child? .parameters with
    | some ps => ps.parts.map fun p => String.ofList (parameterName source p)
    | none => []

/-- The name under which a middle argument is listed, if it refers to something
or is a call of it. -/
def middlewareName (source : List Char) (n : Node) : Option String :=
  if isReference n then some (String.ofList (n.text source))
  else if n.kind == .call then
    (n.child? .function).map fun f => String.ofList (f.text source ++ ['(', ')'])
  else none

/-- Lines joined where only blank lines lie between them: after a line feed,
`held` are the blanks of a line that may turn out blank, the last first. -/
def squeezeLines : Option (List Char) → List Char → List Char
  | none, [] => []
  | some held, [] => held.reverse
  | none, c :: cs => c :: squeezeLines (if c == '\n' then some [] else none) cs
  | some held, c :: cs =>
    if c == '\n' then squeezeLines (some []) cs
    else if c == ' ' || c == '\t' then squeezeLines (some (c :: held)) cs
    else held.reverse ++ c :: squeezeLines none cs

/-- Source text without blank lines and without white space around it. -/
def cleanSource (text : List Char) : List Char := squeezeLines none (Text.trimList text)

/-- The route that a call declares, if it declares one. -/
def routeOfCall (source : List Char) (file : String) (site : Site) : Option Route := do
  let callee ← site.call.child? .function
  guard (callee.kind == .member)
  let object ← callee.child? .object
  let property ← callee.child? .property
  guard (object.kind == .identifier)
  guard (!requestSenders.contains (String.ofList (object.text source)))
  let method ← verbOfMember (String.ofList (property.text source))
  let arguments := (← site.call.child? .arguments).parts
  let first ← arguments.head?
  guard (2 ≤ arguments.length)
  let path ← pathOfArgument source first
  let handler ← arguments.getLast?
  guard (isFunction handler || isReference handler)
  let inPlace := isFunction handler
  let text := handler.text source
  return {
    method
    path
    parameters := pathParameters path
    middleware := (arguments.drop 1).dropLast.filterMap (middlewareName source)
    handlerSource := if inPlace then some (String.ofList (cleanSource text)) else none
    handlerName := if inPlace then none else some (String.ofList text)
    handlerParams := if inPlace then functionParameters source handler else []
    isAsync := inPlace && handler.children.any (·.kind == .asyncMark)
    sourceFile := file
    leadingComment := (leadingComment source site).bind describe
    line := site.call.span.startRow + 1 }

/-- The routes that a tree declares, in source order. -/
def extractRoutes (source : List Char) (file : String) (root : Node) : List Route :=
  (sites root).filterMap (routeOfCall source file)

end RouteDoc
