/-!
# Trees of source text

A parsed file is a tree of nodes. A node knows what it is (`Kind`), which part
it plays in its parent (`Role`), where it stands (`Span`) and its children in
the order of the text. Comments are nodes like others.

* `Node.preorder`: a node and all below it, parents first, in source order;
* `Node.child?`: the child that plays a given part;
* `Node.text`: the stretch of source a node covers;
* `Node.attach`: puts comments into a tree at the innermost node around each.
-/

namespace RouteDoc.Source

/-- A stretch of text: offsets in characters and lines, both counted from zero;
`stop` is the offset just after the last character. -/
structure Span where
  start : Nat
  stop : Nat
  startRow : Nat
  stopRow : Nat
  deriving DecidableEq, Repr, Inhabited

/-- What a node is. The first five hold statements one after another; kinds
nobody asks about are `statement`, `expression`, `typeNode` and `other`. -/
inductive Kind
  | program
  | block
  | classBody
  | caseClause
  | defaultClause
  | statement
  | comment
  | mark
  | identifier
  | undefinedName
  | privateName
  | member
  | subscript
  | call
  | arguments
  | parenthesized
  | string
  | template
  | substitution
  | arrow
  | functionExpression
  | asyncMark
  | parameters
  | typedParameter
  | defaulted
  | rest
  | spread
  | array
  | object
  | arrayPattern
  | objectPattern
  | nonNull
  | expression
  | typeNode
  | other
  deriving DecidableEq, Repr, Inhabited

/-- Whether nodes of this kind hold a sequence of statements or members. -/
def Kind.holdsStatements : Kind → Bool
  | .program | .block | .classBody | .caseClause | .defaultClause => true
  | _ => false

/-- The part a node plays in its parent. -/
inductive Role
  | plain
  | function
  | object
  | property
  | arguments
  | parameter
  | parameters
  | pattern
  | left
  deriving DecidableEq, Repr, Inhabited

/-- A node of the tree of a source text. -/
inductive Node where
  | mk (kind : Kind) (role : Role) (span : Span) (children : List Node)
  deriving Inhabited

namespace Node

def kind : Node → Kind
  | mk k _ _ _ => k

def role : Node → Role
  | mk _ r _ _ => r

def span : Node → Span
  | mk _ _ s _ => s

def children : Node → List Node
  | mk _ _ _ cs => cs

/-- The same node playing another part. -/
def withRole (r : Role) : Node → Node
  | mk k _ s cs => mk k r s cs

/-- The same node as another kind. -/
def withKind (k : Kind) : Node → Node
  | mk _ r s cs => mk k r s cs

/-- The first child that plays the part `r`. -/
def child? (n : Node) (r : Role) : Option Node :=
  n.children.find? (·.role == r)

/-- The children that are not comments. -/
def parts (n : Node) : List Node :=
  n.children.filter (·.kind != .comment)

/-- The stretch of `source` that the node covers. -/
def text (source : List Char) (n : Node) : List Char :=
  (source.drop n.span.start).take (n.span.stop - n.span.start)

mutual

/-- A node and all nodes below it, parents before children, in source order. -/
def preorder : Node → List Node
  | mk k r s cs => mk k r s cs :: preorderAll cs

/-- The preorders of a list of nodes, one after another. -/
def preorderAll : List Node → List Node
  | [] => []
  | n :: ns => preorder n ++ preorderAll ns

end

mutual

/-- Puts each comment into the innermost node around it, between the children
before and after it. The comments are in source order and lie inside the node. -/
def attach : Node → List Node → Node
  | mk k r s cs, comments => mk k r s (attachAll cs comments)

/-- Merges comments into a list of siblings: a comment before a sibling becomes
a sibling, a comment inside one goes into it. -/
def attachAll : List Node → List Node → List Node
  | [], comments => comments
  | n :: ns, comments =>
    let before := comments.takeWhile (·.span.start < n.span.start)
    let rest := comments.drop before.length
    let inside := rest.takeWhile (·.span.start < n.span.stop)
    before ++ attach n inside :: attachAll ns (rest.drop inside.length)

end

end Node

end RouteDoc.Source
