/-!
# Dialects of source text

A source file is read in one of three dialects. Which are tried, and in which
order, depends on the extension of its name:

* `Dialect.order`: the dialects for an extension, the preferred one first.
-/

namespace RouteDoc.Source

/-- The three dialects: plain scripts with element markup, typed scripts, and
typed scripts with element markup. -/
inductive Dialect
  | javascript
  | typescript
  | tsx
  deriving DecidableEq, Repr, Inhabited

namespace Dialect

/-- The name under which a dialect is reported. -/
def name : Dialect → String
  | javascript => "javascript"
  | typescript => "typescript"
  | tsx => "tsx"

/-- Whether type annotations belong to the dialect. -/
def typed : Dialect → Bool
  | javascript => false
  | typescript | tsx => true

/-- Whether element markup belongs to the dialect. -/
def elements : Dialect → Bool
  | typescript => false
  | javascript | tsx => true

/-- The dialects tried for a lowercase extension, in order; a file is read in
the first one that accepts it. -/
def order : String → List Dialect
  | ".ts" | ".mts" | ".cts" => [typescript, tsx, javascript]
  | ".tsx" => [tsx, typescript, javascript]
  | ".jsx" => [javascript, tsx]
  | _ => [javascript, tsx, typescript]

end Dialect

end RouteDoc.Source
