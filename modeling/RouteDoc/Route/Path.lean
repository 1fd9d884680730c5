import RouteDoc.Route.Basic
import RouteDoc.Text.Blank
import RouteDoc.Text.Case

/-!
# Paths of routes

* `pathParameters`: the parameters a path names, each once, in order;
* `staticSegments`, `resource`, `tag`: the fixed parts of a path, the last of
  them, and the group it belongs to;
* `normalizePath`: a path with parameters in braces and single slashes;
* `operationId`: an identifier made of a verb and a path.
-/

namespace RouteDoc

/-- Characters a parameter name starts with. -/
def isNameStart (c : Char) : Bool := c.isAlpha || c == '_'

/-- Characters of a parameter name. -/
def isNameChar (c : Char) : Bool := c.isAlphanum || c == '_'

/-- The name at the start of a text, empty if none stands there. -/
def nameAhead (cs : List Char) : List Char :=
  match cs with
  | c :: _ => if isNameStart c then cs.takeWhile isNameChar else []
  | [] => []

/-- The names a path gives after colons and in braces, in order. -/
def parameterNames : List Char → List String
  | [] => []
  | c :: cs =>
    let name := nameAhead cs
    let found := !name.isEmpty &&
      (c == ':' || (c == '{' && (cs.drop name.length).head? == some '}'))
    (if found then [String.ofList name] else []) ++ parameterNames cs

/-- The parameters of a path, each name once. -/
def pathParameters (path : String) : List PathParameter :=
  (parameterNames path.toList).eraseDups.map fun name => { name }

/-- Whether a segment stands for something variable: a parameter or a star. -/
def isParameterSegment (segment : List Char) : Bool :=
  segment.head? == some ':' ||
    (segment.head? == some '{' && segment.getLast? == some '}') || segment == ['*']

/-- The fixed segments of a path. -/
def staticSegments (path : String) : List String :=
  ((Text.splitOnP (· == '/') path.toList).filter fun segment =>
    !segment.isEmpty && !isParameterSegment segment).map String.ofList

/-- The last fixed segment of a path. -/
def resource (path : String) : String :=
  (staticSegments path).getLast?.getD "resource"

/-- Whether a segment is a version: a `v`, digits, and perhaps a line feed. -/
def isVersionSegment (segment : String) : Bool :=
  match segment.toList with
  | c :: cs =>
    let digits := if cs.getLast? == some '\n' then cs.dropLast else cs
    (c == 'v' || c == 'V') && !digits.isEmpty && digits.all Text.isDigitChar
  | [] => false

/-- The group a path belongs to: its first fixed segment that is neither a
version nor the word for interface. -/
def tag (path : String) : String :=
  match (staticSegments path).find? fun s => !(Text.lower s == "api" || isVersionSegment s) with
  | some segment => Text.capitalize segment
  | none => "API"

/-- Writes names between `opening` and an optional `closing` mark in braces;
the next `skip` characters belong to a name already written. -/
def braceNames (opening : Char) (closing : Option Char) : Nat → List Char → List Char
  | _, [] => []
  | skip + 1, _ :: cs => braceNames opening closing skip cs
  | 0, c :: cs =>
    let name := nameAhead cs
    let after := (cs.drop name.length).head?
    if c == opening && !name.isEmpty && (closing.isNone || after == closing) then
      '{' :: name ++ '}' ::
        braceNames opening closing (name.length + (if closing.isSome then 1 else 0)) cs
    else c :: braceNames opening closing 0 cs

/-- Single slashes for runs of slashes. -/
def singleSlashes : List Char → List Char
  | '/' :: '/' :: cs => singleSlashes ('/' :: cs)
  | c :: cs => c :: singleSlashes cs
  | [] => []

/-- A path that starts with a slash, has its parameters in braces, no two
slashes in a row and no slash at the end. -/
def normalizeList (path : List Char) : List Char :=
  let trimmed := Text.trimList path
  let rooted := if trimmed.head? == some '/' then trimmed else '/' :: trimmed
  let braced := braceNames ':' none 0 (braceNames '<' (some '>') 0 rooted)
  let single := singleSlashes braced
  if single != ['/'] && single.getLast? == some '/' then single.dropLast else single

/-- A path in the form of the documents. -/
def normalizePath (path : String) : String := String.ofList (normalizeList path.toList)

/-- Without characters of a class at either end. -/
def stripChars (p : Char → Bool) (cs : List Char) : List Char :=
  Text.dropEndWhile p (cs.dropWhile p)

/-- One underscore for each run of characters that are neither ASCII letters
nor digits nor underscores; `inRun` says that the last character was in one. -/
def joinSafe : Bool → List Char → List Char
  | _, [] => []
  | inRun, c :: cs =>
    if isNameChar c then c :: joinSafe false cs
    else if inRun then joinSafe true cs
    else '_' :: joinSafe true cs

/-- The word for a segment in an identifier. -/
def segmentWord (segment : List Char) : List Char :=
  if segment.head? == some '{' && segment.getLast? == some '}' then
    "by_".toList ++ (segment.drop 1).dropLast
  else segment

/-- An identifier made of a verb and a path. -/
def operationId (method path : String) : String :=
  let segments := (Text.splitOnP (· == '/') (stripChars (· == '/') path.toList)).filter (!·.isEmpty)
  let words := ['_'].intercalate (segments.map segmentWord)
  let base := Text.lowerList (stripChars (· == '_') (joinSafe false words))
  Text.lower method ++ "_" ++ (if base.isEmpty then "root" else String.ofList base)

end RouteDoc
