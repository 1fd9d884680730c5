import RouteDoc.Json.Reader
import RouteDoc.Route.Path
import RouteDoc.Text.Pattern

/-!
# Reading replies

A reply should be one JSON object, but may be wrapped in prose and fences and
written carelessly. The object is isolated, then read; what cannot be read is
repaired step by step.

* `isolate`: the part of a reply that should be the object;
* `repairs`: the repairs, in the order in which they are tried;
* `readReply`: the fields of the object, or why there are none.
-/

namespace RouteDoc.Service

open Text (Pattern isSpace)
open Text.Pattern

/-- Three backticks. -/
def fence : List Char := ['`', '`', '`']

/-- The length of the fence at the start, with the word that may follow it. -/
def fenceLength (cs : List Char) : Nat :=
  if !fence.isPrefixOf cs then 0
  else if "json".toList.isPrefixOf (cs.drop 3) || "JSON".toList.isPrefixOf (cs.drop 3) then 7
  else 3

/-- The text without fences and the white space after them; the next `skip`
characters belong to a fence, and `after` says that only white space has come
since the last one. -/
def dropFences : Nat → Bool → List Char → List Char
  | _, _, [] => []
  | skip + 1, after, _ :: cs => dropFences skip after cs
  | 0, after, c :: cs =>
    match fenceLength (c :: cs) with
    | n + 1 => dropFences n true cs
    | 0 => if after && isSpace c then dropFences 0 true cs else c :: dropFences 0 false cs

/-- The text from the first opening brace to the last closing one, if there
are such. -/
def betweenBraces (cs : List Char) : List Char :=
  let object := Text.dropEndWhile (· != '}') (cs.dropWhile (· != '{'))
  if object.isEmpty then cs else object

/-- The text without the first match of a pattern. -/
def dropFirst (p : Pattern) (cs : List Char) : List Char :=
  match p.find? cs with
  | some (first, stop) => cs.take first ++ cs.drop stop
  | none => cs

/-- The name of the format in front of an object, perhaps in quotes. -/
def formatName : Pattern :=
  start ++ blanks ++ optional (oneOf "\"'") ++ "json" ++ optional (oneOf "\"'") ++ blanks

/-- The forms of a letter that count as the same when case does not matter. -/
def forms (c : Char) : List Char :=
  c :: c.toUpper ::
    (match c with
      | 'i' => ['ı', 'İ']
      | 's' => ['ſ']
      | 'k' => ['K']
      | _ => [])

/-- A text in any case; capital letters are given as small ones. -/
def inAnyCase (s : String) : Pattern :=
  all (s.toList.map fun c => one fun d => (forms c).contains d)

/-- The rest of a phrase, up to the first colon of its line. -/
def upToColon : Pattern := Pattern.run 0 true (· != '\n') ++ ":"

/-- Phrases that introduce an object. -/
def introductions : List Pattern :=
  [inAnyCase "here is th" ++ optional (inAnyCase "e") ++ upToColon, inAnyCase "based on" ++ upToColon]

/-- The text without an introduction, unless an object comes first. -/
def dropIntroduction (cs : List Char) (p : Pattern) : List Char :=
  if (Text.trimStart cs).head? == some '{' then cs else dropFirst p cs

/-- The part of a reply that should be the object. -/
def isolate (reply : List Char) : List Char :=
  let text := dropFirst formatName (betweenBraces (dropFences 0 false reply))
  Text.trimList (introductions.foldl dropIntroduction text)

/-- The key without quotes after a brace or comma, if one is there: the white
space before it, the key, and the white space between it and the colon. -/
def bareKey (cs : List Char) : Option (List Char × List Char × List Char) :=
  let before := cs.takeWhile isSpace
  let name := nameAhead (cs.drop before.length)
  let rest := cs.drop (before.length + name.length)
  let after := rest.takeWhile isSpace
  if !name.isEmpty && (rest.drop after.length).head? == some ':' then some (before, name, after)
  else none

/-- The text with its bare keys in quotes; the next `skip` characters are
already written. -/
def quoteKeysFrom : Nat → List Char → List Char
  | _, [] => []
  | skip + 1, _ :: cs => quoteKeysFrom skip cs
  | 0, c :: cs =>
    match if c == '{' || c == ',' then bareKey cs else none with
    | some (before, name, after) =>
      c :: before ++ '"' :: name ++ '"' :: after ++
        quoteKeysFrom (before.length + name.length + after.length) cs
    | none => c :: quoteKeysFrom 0 cs

/-- The text with its bare keys in quotes. -/
def quoteKeys (cs : List Char) : List Char := quoteKeysFrom 0 cs

/-- Whether a closing bracket is next. -/
def closes (cs : List Char) : Bool := cs.head? == some '}' || cs.head? == some ']'

/-- The text without commas before closing brackets; the next `skip`
characters are dropped. -/
def dropCommasFrom : Nat → List Char → List Char
  | _, [] => []
  | skip + 1, _ :: cs => dropCommasFrom skip cs
  | 0, c :: cs =>
    let gap := cs.takeWhile isSpace
    if c == ',' && closes (cs.drop gap.length) then dropCommasFrom gap.length cs
    else c :: dropCommasFrom 0 cs

/-- The text without commas before closing brackets, and without the white
space between them. -/
def dropCommas (cs : List Char) : List Char := dropCommasFrom 0 cs

/-- Whether a character breaks a line. -/
def breaksLine (c : Char) : Bool := c == '\n' || c == '\r'

/-- A blank for each run of line breaks; `inRun` says that the last character
was in one. -/
def joinLinesFrom : Bool → List Char → List Char
  | _, [] => []
  | inRun, c :: cs =>
    if breaksLine c then
      if inRun then joinLinesFrom true cs else ' ' :: joinLinesFrom true cs
    else c :: joinLinesFrom false cs

/-- The text on one line. -/
def joinLines (cs : List Char) : List Char := joinLinesFrom false cs

/-- Straight quotation marks for curved ones. -/
def straighten (c : Char) : Char :=
  if c == '“' || c == '”' then '"' else if c == '‘' || c == '’' then '\'' else c

/-- Characters of a text in single quotes. -/
def isQuotable (c : Char) : Bool := c != '\'' && c != '"' && c != '\\' && c != '\n'

/-- Double quotes for single ones; `inside` says that the next single quote
ends a text. -/
def doubleQuotesFrom : Bool → List Char → List Char
  | _, [] => []
  | inside, c :: cs =>
    if c != '\'' then c :: doubleQuotesFrom inside cs
    else if inside then '"' :: doubleQuotesFrom false cs
    else if (cs.dropWhile isQuotable).head? == some '\'' then '"' :: doubleQuotesFrom true cs
    else c :: doubleQuotesFrom false cs

/-- The text with double quotes for curved and single ones. -/
def doubleQuotes (cs : List Char) : List Char := doubleQuotesFrom false (cs.map straighten)

/-- The repairs, in the order in which they are tried. -/
def repairs : List (List Char → List Char) := [quoteKeys, dropCommas, joinLines, doubleQuotes]

/-- The text after each of some repairs, one upon the other. -/
def repaired (text : List Char) : List (List Char → List Char) → List (List Char)
  | [] => []
  | f :: fs => f text :: repaired (f text) fs

/-- Why a reply is no use. -/
inductive ReplyFault
  | empty
  | notAnObject (kind : String)
  | unreadable (reason : String)
  deriving DecidableEq, Repr

/-- The wording of a fault. -/
def ReplyFault.message : ReplyFault → String
  | empty => "empty response"
  | notAnObject kind => s!"expected a JSON object, got {kind}"
  | unreadable reason => s!"unparseable response: {reason}"

/-- The name of the kind of a value. -/
def kindName : Json → String
  | .null => "NoneType"
  | .bool _ => "bool"
  | .int _ => "int"
  | .float _ => "float"
  | .str _ => "str"
  | .arr _ => "list"
  | .obj _ => "dict"

/-- The first of several texts that can be read, or why the last cannot. -/
def readFirst (text : List Char) : List (List Char) → Except ReplyFault Json
  | [] =>
    match Json.readList text with
    | .ok v => .ok v
    | .error e => .error (.unreadable (e.message text))
  | next :: more =>
    match Json.readList text with
    | .ok v => .ok v
    | .error _ => readFirst next more

/-- The fields of the object in a reply, or why there are none. -/
def readReply (reply : String) : Except ReplyFault Fields :=
  if Text.isBlankText reply then .error .empty
  else
    let text := isolate reply.toList
    match readFirst text (repaired text repairs) with
    | .ok (.obj fields) => .ok fields
    | .ok v => .error (.notAnObject (kindName v))
    | .error fault => .error fault

end RouteDoc.Service
