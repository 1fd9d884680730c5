import RouteDoc.Source.Grammar.Statement

/-!
# Trees of whole files

* `Goal.read`: ties each production to the goal it serves;
* `readGoal`: reading with a bound on how deep productions descend;
* `parseAs`: the tree of a text in one dialect, comments in place, if the text
  is well formed in it;
* `parse`: the tree in the first dialect of a list that accepts the text.
-/

namespace RouteDoc.Source

/-- The production that serves a goal. -/
def Goal.read : Goal → Parse Node
  | .statement => readStatement
  | .block => readBlock
  | .expression edge => readExpression edge
  | .operand level edge => readOperand level edge
  | .unary edge => readUnary edge
  | .primary edge => readPrimary edge
  | .pattern subscripts => readPattern subscripts
  | .element => readElement (readSequence .closed)
  | .type edge => readType edge
  | .typeOperand edge => readUnion edge
  | .typeMember edge => readTypeMember edge

/-- Reads a goal, descending at most `depth` levels, in a text of `size`
characters. -/
def readGoal (d : Dialect) (size : Nat) : Nat → Goal → Cursor → Option (Node × Cursor)
  | 0, _, _ => none
  | depth + 1, g, c => g.read ⟨d, size, readGoal d size depth⟩ c

/-- The tree of a text in one dialect. Between two characters of the text
productions descend only a bounded number of levels, so eight levels for each
character are enough. -/
def parseAs (d : Dialect) (text : List Char) : Option Node :=
  let size := text.length
  let env : Env := ⟨d, size + 1, readGoal d (size + 1) (8 * size + 32)⟩
  match readProgram env (Cursor.start text) with
  | some (root, c) =>
    if c.here.rest.isEmpty then some (root.attach c.seen.reverse) else none
  | none => none

/-- The first of the dialects in which the text is well formed, and its tree. -/
def parse (text : List Char) : List Dialect → Option (Dialect × Node)
  | [] => none
  | d :: ds =>
    match parseAs d text with
    | some tree => some (d, tree)
    | none => parse text ds

end RouteDoc.Source
