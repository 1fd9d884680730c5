import RouteDoc.Framework.Signature

/-!
# Indicators in file contents

What tells tests and configurations from other files, and what hints at an
interface whatever the framework.

* `looksLikeTest`, `looksLikeConfig`: files that are not read for routes;
* `apiHints`: the hints at an interface.
-/

namespace RouteDoc.Framework

open Text (Pattern isSpace isDigitChar)
open Text.Pattern

/-- The number of patterns that occur in a content. -/
def hits (patterns : List Pattern) (content : List Char) : Nat :=
  patterns.countP (·.occursIn content)

/-- How often the patterns occur in a content, all together. -/
def occurrences (patterns : List Pattern) (content : List Char) : Nat :=
  patterns.foldl (fun n p => n + p.count content) 0

/-- A word followed by an opening bracket. -/
def wordCall (word : String) : Pattern := boundary ++ literal word ++ blanks ++ "("

/-- A word followed by a bracket and a quotation mark. -/
def titledCall (word : String) : Pattern := wordCall word ++ blanks ++ quote

/-- Loading a module in either way. -/
def loaded (module : String) : Pattern :=
  any [required (literal module), "from" ++ someBlanks ++ quote ++ literal module ++ quote]

/-- What tests are made of. -/
def testIndicators : List Pattern :=
  [wordCall "describe", titledCall "it", titledCall "test", wordCall "expect",
    wordCall "beforeEach", wordCall "afterEach", wordCall "beforeAll", wordCall "afterAll",
    boundary ++ "jest.", boundary ++ "sinon.", loaded "chai", loaded "supertest"]

/-- Whether a content looks like a test: it shows two indicators or more. -/
def looksLikeTest (content : List Char) : Bool := 2 ≤ hits testIndicators content

/-- An object literal as a whole file. -/
def objectFile : Pattern :=
  start ++ blanks ++ any ["\x7b", "module.exports" ++ blanks ++ "=" ++ blanks ++ "\x7b",
    "export" ++ someBlanks ++ "default" ++ someBlanks ++ "\x7b"]

/-- A straight quotation mark. -/
def straightQuote : Pattern := oneOf "'\""

/-- A quoted key. -/
def quotedKey (key : Pattern) : Pattern := straightQuote ++ key ++ straightQuote ++ blanks ++ ":"

/-- A name and later a version. -/
def nameAndVersion : Pattern :=
  quotedKey "name" ++ run 0 false (fun _ => true) ++ quotedKey "version"

/-- A key of a package manifest that holds an object. -/
def manifestKey : Pattern :=
  quotedKey (any ["dependencies", "devDependencies", "peerDependencies", "scripts"]) ++ blanks ++
    "\x7b"

/-- A whole word. -/
def wholeWord (word : Pattern) : Pattern := boundary ++ word ++ boundary

/-- A word used as a key. -/
def wordKey (word : String) : Pattern := boundary ++ literal word ++ blanks ++ ":"

/-- What configurations of build tools are made of. -/
def buildKeywords : List Pattern :=
  [wholeWord "webpack", wholeWord "rollup", wholeWord "babel", wholeWord "eslint",
    wholeWord "vite", wordKey "presets", wordKey "plugins", wholeWord ("loader" ++ optional "s"),
    wordKey "entry", wordKey "output", wholeWord "devServer"]

/-- Whether a content looks like a configuration: a manifest, or a file with
three keywords of build tools or more. -/
def looksLikeConfig (content : List Char) : Bool :=
  (objectFile.occursIn content &&
    (nameAndVersion.occursIn content || manifestKey.occursIn content)) ||
  3 ≤ hits buildKeywords content

/-- A quoted path that begins in a given way. -/
def quotedPath (beginning : Pattern) : Pattern := quote ++ "/" ++ beginning

/-- Hints at an interface, whatever the framework. -/
def apiHints : List Pattern :=
  [quotedPath "api/", quotedPath ("v" ++ run 1 false isDigitChar ++ "/"),
    quotedPath ("user" ++ optional "s" ++ "/"), quotedPath "auth/", quotedPath "login",
    quotedPath "register", quotedPath "logout", "res.json" ++ blanks ++ "(",
    "res.send" ++ blanks ++ "(", "response.json" ++ blanks ++ "(", "reply.send" ++ blanks ++ "(",
    "ctx.body" ++ blanks ++ "="]

end RouteDoc.Framework
