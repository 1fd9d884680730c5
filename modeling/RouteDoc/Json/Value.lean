import RouteDoc.Entries
import RouteDoc.Number.Shortest

/-!
# JSON values

Values whose objects keep the order of their fields.

* `Json`, `Fields`: values, and the fields of an object;
* `Json.ofFields`: an object from fields in which names may repeat.
-/

namespace RouteDoc

open Number (Binary64)

/-- A JSON value. Numbers without a point or exponent are integers. -/
inductive Json where
  | null
  | bool (b : Bool)
  | int (n : Int)
  | float (x : Binary64)
  | str (s : String)
  | arr (xs : List Json)
  | obj (fields : List (String × Json))
  deriving Inhabited

/-- The fields of an object, in order. -/
abbrev Fields := Entries Json

namespace Json

/-- An object from fields whose names may repeat. -/
def ofFields (fields : List (String × Json)) : Json := .obj (Entries.ofList fields)

/-- A list of strings. -/
def strings (xs : List String) : Json := .arr (xs.map .str)

/-- The field `name` of an object. -/
def get? : Json → String → Option Json
  | .obj fields, name => Entries.get? fields name
  | _, _ => none

/-- The text of a string. -/
def str? : Json → Option String
  | .str s => some s
  | _ => none

mutual

/-- Whether two values are the same, fields in the same order included. -/
def same : Json → Json → Bool
  | .null, .null => true
  | .bool a, .bool b => a == b
  | .int a, .int b => a == b
  | .float a, .float b => a == b
  | .str a, .str b => a == b
  | .arr xs, .arr ys => sameAll xs ys
  | .obj xs, .obj ys => sameFields xs ys
  | _, _ => false

/-- Whether two lists hold the same values. -/
def sameAll : List Json → List Json → Bool
  | [], [] => true
  | x :: xs, y :: ys => same x y && sameAll xs ys
  | _, _ => false

/-- Whether two objects hold the same fields in the same order. -/
def sameFields : List (String × Json) → List (String × Json) → Bool
  | [], [] => true
  | (n, x) :: xs, (m, y) :: ys => n == m && same x y && sameFields xs ys
  | _, _ => false

end

instance : BEq Json := ⟨same⟩

end Json

end RouteDoc
