import RouteDoc.Text.Case

/-!
# Words in singular and plural

* `pluralize`, `singularize`: the regular forms of English nouns;
* `pascal`: a word as the name of a type.
-/

namespace RouteDoc.Text

/-- Whether a text ends with one of the endings. -/
def endsWithAny (endings : List String) (cs : List Char) : Bool :=
  endings.any fun e => e.toList.isSuffixOf cs

/-- The plural of a word; a word that ends in `s` is one already. -/
def pluralize (word : String) : String :=
  let cs := word.toList
  let lowered := lowerList cs
  if lowered.getLast? == some 's' then word
  else if lowered.getLast? == some 'y' && 1 < cs.length &&
      !((lowered.dropLast.getLast?.map fun c => "aeiou".toList.contains c).getD true) then
    String.ofList (cs.dropLast ++ "ies".toList)
  else if endsWithAny ["s", "x", "z", "ch", "sh"] lowered then word ++ "es"
  else word ++ "s"

/-- The singular of a word. -/
def singularize (word : String) : String :=
  let cs := word.toList
  let lowered := lowerList cs
  let without := fun n => cs.take (cs.length - n)
  if endsWithAny ["ies"] lowered && 3 < cs.length then String.ofList (without 3 ++ ['y'])
  else if endsWithAny ["sses", "xes", "zes", "ches", "shes"] lowered then String.ofList (without 2)
  else if lowered.getLast? == some 's' && !endsWithAny ["ss"] lowered && 1 < cs.length then
    String.ofList (without 1)
  else word

/-- The runs of ASCII letters, digits and underscores of a text. -/
def safeRuns : List Char → List (List Char)
  | [] => []
  | c :: cs =>
    if c.isAlphanum || c == '_' then
      match cs, safeRuns cs with
      | d :: _, run :: runs =>
        if d.isAlphanum || d == '_' then (c :: run) :: runs else [c] :: run :: runs
      | _, runs => [c] :: runs
    else safeRuns cs

/-- A word as the name of a type: its safe runs joined, each with its first
letter in upper case. -/
def pascal (word : String) : String :=
  match safeRuns word.toList with
  | [] => "Resource"
  | runs => String.join (runs.map fun run => capitalize (String.ofList run))

end RouteDoc.Text
