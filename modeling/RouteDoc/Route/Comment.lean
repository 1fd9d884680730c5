import RouteDoc.Text.Blank

/-!
# Descriptions in comments

* `describe`: the description a comment gives, if any.
-/

namespace RouteDoc

/-- The tag that introduces a description. -/
def descriptionTag : List Char := "@description".toList

/-- The line after a tag and white space. Where nothing but white space follows,
the last of it that is no line feed, but not the first, counts as the line. -/
def afterTag (cs : List Char) : Option (List Char) :=
  let blanks := cs.takeWhile Text.isSpace
  let rest := cs.drop blanks.length
  if blanks.isEmpty then none
  else if !rest.isEmpty then some (rest.takeWhile (· != '\n'))
  else
    match (blanks.drop 1).reverse.dropWhile (· == '\n') with
    | c :: _ => some [c]
    | [] => none

/-- The line of the first description tag that has one. -/
def taggedLine : List Char → Option (List Char)
  | [] => none
  | c :: cs =>
    let here :=
      if descriptionTag.isPrefixOf (c :: cs) then afterTag ((c :: cs).drop descriptionTag.length)
      else none
    match here with
    | some line => some line
    | none => taggedLine cs

/-- The text between the marks of a block comment. -/
def commentBody (comment : List Char) : List Char :=
  let body := Text.trimList comment
  let body := if ['/', '*'].isPrefixOf body then body.drop 2 else body
  if ['*', '/'].isSuffixOf body then body.dropLast.dropLast else body

/-- A line of a comment without the stars it starts with. -/
def commentLine (line : List Char) : List Char :=
  Text.trimList ((Text.trimList line).dropWhile (· == '*'))

/-- The description a comment gives: the line of its description tag, or else
its first line that is not empty and no tag. -/
def describe (comment : String) : Option String :=
  let body := commentBody comment.toList
  match taggedLine body with
  | some line =>
    let text := Text.trimList (Text.dropEndWhile (· == '*') (Text.trimList line))
    if text.isEmpty then none else some (String.ofList text)
  | none =>
    ((((Text.lines body).map commentLine).find? fun line =>
      !line.isEmpty && line.head? != some '@')).map String.ofList

end RouteDoc
