import RouteDoc.Json.Value
import RouteDoc.Yaml.Scalar

/-!
# Writing YAML

Values in block layout: each field and item on a line of its own. Items of a
list in a field are not indented further than the field.

* `write`: a value as a document.
-/

namespace RouteDoc.Yaml

open Number (Binary64)

/-- The longest key that stands on one line with its value. -/
def longestSimpleKey : Nat := 122

/-- Whether a key stands on one line with its value. -/
def isSimpleKey (key : String) : Bool :=
  !key.isEmpty && key.length ≤ longestSimpleKey && !key.toList.any isBreak

/-- A number with a point. -/
def writeFloat (x : Binary64) : String :=
  match x with
  | .nan => ".nan"
  | .infinite negative => if negative then "-.inf" else ".inf"
  | x =>
    let text := x.report.toList
    let head := text.takeWhile (· != 'e')
    if head.length < text.length && !head.contains '.' then
      String.ofList (head ++ ".0".toList ++ text.drop head.length)
    else String.ofList text

/-- A value without parts. -/
def writeLeaf (f : Frame) : Json → String
  | .null => "null"
  | .bool b => if b then "true" else "false"
  | .int n => toString n
  | .float x => writeFloat x
  | .str s => writeText f s
  | .arr _ => "[]"
  | .obj _ => "\x7b\x7d"

mutual

/-- The value of a field whose key ends before `column`. -/
def afterKey (indent column : Nat) : Json → String
  | .obj (f :: fs) => newline (indent + 2) ++ writeFields (indent + 2) (f :: fs)
  | .arr (x :: xs) => newline indent ++ writeItems indent (x :: xs)
  | .obj [] => " \x7b\x7d"
  | .arr [] => " []"
  | v => " " ++ writeLeaf ⟨column + 1, indent + 2, true⟩ v

/-- A value after a mark of one character at the start of a line. -/
def afterMark (indent : Nat) : Json → String
  | .obj (f :: fs) => " " ++ writeFields (indent + 2) (f :: fs)
  | .arr (x :: xs) => " " ++ writeItems (indent + 2) (x :: xs)
  | .obj [] => " \x7b\x7d"
  | .arr [] => " []"
  | v => " " ++ writeLeaf ⟨indent + 2, indent + 2, true⟩ v

/-- Fields, each on a line of its own, the first on the line begun. -/
def writeFields (indent : Nat) : List (String × Json) → String
  | [] => ""
  | (key, v) :: rest =>
    let written :=
      if isSimpleKey key then
        let text := writeText ⟨indent, indent + 2, false⟩ key
        text ++ ":" ++ afterKey indent (indent + text.length + 1) v
      else
        "? " ++ writeText ⟨indent + 2, indent + 2, true⟩ key ++ newline indent ++ ":" ++
          afterMark indent v
    written ++ (if rest.isEmpty then "" else newline indent) ++ writeFields indent rest

/-- Items, each on a line of its own, the first on the line begun. -/
def writeItems (indent : Nat) : List Json → String
  | [] => ""
  | v :: rest =>
    "-" ++ afterMark indent v ++ (if rest.isEmpty then "" else newline indent) ++
      writeItems indent rest

end

/-- Whether a value is written as a plain text without marks. -/
def isPlainLeaf : Json → Bool
  | .str s => styleOf s.toList == .plain
  | .arr _ | .obj _ => false
  | _ => true

/-- A value as a document. A plain text alone is followed by the mark of an
end. -/
def write (v : Json) : String :=
  match v with
  | .obj (f :: fs) => writeFields 0 (f :: fs) ++ "\n"
  | .arr (x :: xs) => writeItems 0 (x :: xs) ++ "\n"
  | v => writeLeaf ⟨0, 2, true⟩ v ++ (if isPlainLeaf v then "\n...\n" else "\n")

end RouteDoc.Yaml
