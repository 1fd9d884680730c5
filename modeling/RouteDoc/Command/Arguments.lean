import RouteDoc.Entries
import RouteDoc.Record.Check

/-!
# Arguments of a command

Options start with one hyphen and a letter, or two hyphens and a word; other
arguments are positional, and all are after two hyphens alone.

* `OptionSpec`: an option a command knows;
* `Arguments`, `readArguments`: what a list of arguments says.
-/

namespace RouteDoc.Command

/-- What an option says: a text or an integer that follows it, or, by itself,
that something holds or not. -/
inductive Kind
  | text
  | integer
  | flag (value : Bool)
  deriving DecidableEq, Repr

/-- An option: its spellings, the name under which it counts, and its kind. -/
structure OptionSpec where
  spellings : List String
  name : String
  kind : Kind
  deriving DecidableEq, Repr

/-- What an option has been given. -/
inductive Given
  | text (s : String)
  | integer (n : Int)
  | flag (b : Bool)
  deriving DecidableEq, Repr

/-- Why arguments are not understood. -/
inductive UsageError
  | noCommand
  | unknownCommand (name : String)
  | unknownOption (spelling : String)
  | missingValue (spelling : String)
  | unexpectedValue (spelling : String)
  | notAnInteger (value : String)
  | extraArgument (value : String)
  deriving DecidableEq, Repr

/-- The wording of an error. -/
def UsageError.message : UsageError → String
  | noCommand => "Missing command."
  | unknownCommand name => "No such command '" ++ name ++ "'."
  | unknownOption spelling => s!"No such option: {spelling}"
  | missingValue spelling => "Option '" ++ spelling ++ "' requires an argument."
  | unexpectedValue spelling => "Option '" ++ spelling ++ "' does not take a value."
  | notAnInteger value => "'" ++ value ++ "' is not a valid integer."
  | extraArgument value => s!"Got unexpected extra argument ({value})"

/-- What arguments say: options in order, and positional arguments. -/
structure Arguments where
  options : List (String × Given) := []
  positional : List String := []
  deriving Repr, Inhabited

namespace Arguments

/-- With an option. -/
def give (a : Arguments) (name : String) (value : Given) : Arguments :=
  { a with options := a.options ++ [(name, value)] }

/-- With a positional argument. -/
def add (a : Arguments) (value : String) : Arguments :=
  { a with positional := a.positional ++ [value] }

/-- All that has been given for an option. -/
def all (a : Arguments) (name : String) : List Given :=
  (a.options.filter (·.1 == name)).map (·.2)

/-- The texts that have been given for an option. -/
def texts (a : Arguments) (name : String) : List String :=
  (a.all name).filterMap fun
    | .text s => some s
    | _ => none

/-- The last text that has been given for an option. -/
def text? (a : Arguments) (name : String) : Option String := (a.texts name).getLast?

/-- The last integer that has been given for an option. -/
def integer? (a : Arguments) (name : String) : Option Int :=
  ((a.all name).filterMap fun
    | .integer n => some n
    | _ => none).getLast?

/-- Whether an option was last said to hold. -/
def flag (a : Arguments) (name : String) (preset : Bool) : Bool :=
  (((a.all name).filterMap fun
    | .flag b => some b
    | _ => none).getLast?).getD preset

end Arguments

/-- The integer that an argument writes: a sign, or none, and digits with single
underscores between them. -/
def integerOf? (value : String) : Option Int :=
  let natural := fun cs => (Record.dropUnderscores cs).bind Record.readDigits
  match Text.trimList value.toList with
  | '-' :: cs => (natural cs).map fun n => -(n : Int)
  | '+' :: cs => (natural cs).map fun n => (n : Int)
  | cs => (natural cs).map fun n => (n : Int)

/-- The option of a spelling. -/
def optionOf? (specs : List OptionSpec) (spelling : String) : Option OptionSpec :=
  specs.find? (·.spellings.contains spelling)

/-- With the value of an option that takes one. -/
def giveValue (a : Arguments) (o : OptionSpec) (value : String) : Except UsageError Arguments :=
  match o.kind with
  | .text => .ok (a.give o.name (.text value))
  | .integer =>
    match integerOf? value with
    | some n => .ok (a.give o.name (.integer n))
    | none => .error (.notAnInteger value)
  | .flag b => .ok (a.give o.name (.flag b))

/-- An option that waits for its value, with the spelling it came in. -/
abbrev Awaiting := Option (OptionSpec × String)

/-- Letters behind one hyphen. One that takes a value takes the letters after
it, or waits for the next argument. -/
def readLetters (specs : List OptionSpec) (a : Arguments) :
    List Char → Except UsageError (Arguments × Awaiting)
  | [] => .ok (a, none)
  | c :: cs =>
    let spelling := String.ofList ['-', c]
    match optionOf? specs spelling with
    | none => .error (.unknownOption spelling)
    | some o =>
      match o.kind with
      | .flag b => readLetters specs (a.give o.name (.flag b)) cs
      | _ =>
        if cs.isEmpty then .ok (a, some (o, spelling))
        else (giveValue a o (String.ofList cs)).map (·, none)

/-- An argument that starts with a hyphen. A value may follow an equals sign
behind a word. -/
def readOption (specs : List OptionSpec) (a : Arguments) (arg : String) :
    Except UsageError (Arguments × Awaiting) :=
  let cs := arg.toList
  let name := cs.takeWhile (· != '=')
  let spelling := String.ofList name
  let value := if name.length < cs.length then some (String.ofList (cs.drop (name.length + 1))) else none
  match if name.length ≤ 2 then none else optionOf? specs spelling, value with
  | some o, some value =>
    match o.kind with
    | .flag _ => .error (.unexpectedValue spelling)
    | _ => (giveValue a o value).map (·, none)
  | some o, none =>
    match o.kind with
    | .flag b => .ok (a.give o.name (.flag b), none)
    | _ => .ok (a, some (o, spelling))
  | none, _ =>
    match cs with
    | '-' :: '-' :: _ => .error (.unknownOption spelling)
    | _ => readLetters specs a (cs.drop 1)

/-- What arguments say after those read before. -/
def readArgumentsFrom (specs : List OptionSpec) (a : Arguments) (awaiting : Awaiting) :
    List String → Except UsageError Arguments
  | [] =>
    match awaiting with
    | some (_, spelling) => .error (.missingValue spelling)
    | none => .ok a
  | arg :: rest =>
    match awaiting with
    | some (o, _) => (giveValue a o arg).bind fun a => readArgumentsFrom specs a none rest
    | none =>
      if arg == "--" then .ok { a with positional := a.positional ++ rest }
      else if arg.startsWith "-" && 1 < arg.length then
        (readOption specs a arg).bind fun (a, awaiting) => readArgumentsFrom specs a awaiting rest
      else readArgumentsFrom specs (a.add arg) none rest

/-- What a list of arguments says, with at most one positional one. -/
def readArguments (specs : List OptionSpec) (args : List String) : Except UsageError Arguments :=
  (readArgumentsFrom specs {} none args).bind fun a =>
    match a.positional with
    | _ :: extra :: _ => .error (.extraArgument extra)
    | _ => .ok a

end RouteDoc.Command
