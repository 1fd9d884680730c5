import RouteDoc.Json.Value
import RouteDoc.Text.Blank

/-!
# Checked records

Reading typed records from JSON objects. Values are taken leniently: a number
may be written as a string, a truth value as a number or word. All flaws of a
record are collected.

* `Fault`, `Flaw`: what is wrong, and where;
* `Checked`: a value, or the flaws that prevent it;
* `readText`, `readInteger`, `readNumber`, `readFlag`, `readList` and others:
  readers of single values;
* `field`, `requiredField`: readers of the fields of an object.
-/

namespace RouteDoc.Record

open Number (Binary64)

/-- A step into a value: a field or an item. -/
inductive Key
  | name (s : String)
  | index (n : Nat)
  deriving DecidableEq, Repr

/-- What is wrong with a value. -/
inductive Fault
  | missing
  | text
  | integer
  | integerText
  | integerTextTooLong
  | integerFraction
  | infinite
  | number
  | numberText
  | flag
  | flagText
  | list
  | dictionary
  | record (name : String)
  | atLeast (bound : Int)
  | above (bound : Int)
  | noExtension
  deriving DecidableEq, Repr

namespace Fault

/-- The code of a fault. -/
def code : Fault → String
  | missing => "missing"
  | text => "string_type"
  | integer => "int_type"
  | integerText => "int_parsing"
  | integerTextTooLong => "int_parsing_size"
  | integerFraction => "int_from_float"
  | infinite => "finite_number"
  | number => "float_type"
  | numberText => "float_parsing"
  | flag => "bool_type"
  | flagText => "bool_parsing"
  | list => "list_type"
  | dictionary => "dict_type"
  | record _ => "model_type"
  | atLeast _ => "greater_than_equal"
  | above _ => "greater_than"
  | noExtension => "value_error"

/-- The wording of a fault. -/
def message : Fault → String
  | missing => "Field required"
  | text => "Input should be a valid string"
  | integer => "Input should be a valid integer"
  | integerText => "Input should be a valid integer, unable to parse string as an integer"
  | integerTextTooLong => "Unable to parse input string as an integer, exceeded maximum size"
  | integerFraction => "Input should be a valid integer, got a number with a fractional part"
  | infinite => "Input should be a finite number"
  | number => "Input should be a valid number"
  | numberText => "Input should be a valid number, unable to parse string as a number"
  | flag => "Input should be a valid boolean"
  | flagText => "Input should be a valid boolean, unable to interpret input"
  | list => "Input should be a valid list"
  | dictionary => "Input should be a valid dictionary"
  | record name => s!"Input should be a valid dictionary or instance of {name}"
  | atLeast bound => s!"Input should be greater than or equal to {bound}"
  | above bound => s!"Input should be greater than {bound}"
  | noExtension => "Value error, at least one file extension is required"

end Fault

/-- A fault and the way to it. -/
structure Flaw where
  place : List Key
  fault : Fault
  deriving DecidableEq, Repr

/-- A value, or the flaws that prevent it. -/
inductive Checked (α : Type) where
  | valid (a : α)
  | flawed (flaws : List Flaw)

namespace Checked

/-- Applies a checked function; the flaws of both sides are kept in order. -/
def apply {α β : Type} : Checked (α → β) → Checked α → Checked β
  | valid f, valid a => valid (f a)
  | valid _, flawed xs => flawed xs
  | flawed xs, valid _ => flawed xs
  | flawed xs, flawed ys => flawed (xs ++ ys)

instance : Applicative Checked where
  pure := valid
  seq f a := apply f (a ())

/-- A fault of the whole value. -/
def fail {α : Type} (f : Fault) : Checked α := flawed [⟨[], f⟩]

/-- The flaws as seen from one step further out. -/
def within {α : Type} (k : Key) : Checked α → Checked α
  | valid a => valid a
  | flawed xs => flawed (xs.map fun x => { x with place := k :: x.place })

/-- A further check of a valid value. -/
def andThen {α β : Type} (c : Checked α) (f : α → Checked β) : Checked β :=
  match c with
  | valid a => f a
  | flawed xs => flawed xs

/-- The value if there are no flaws. -/
def value? {α : Type} : Checked α → Option α
  | valid a => some a
  | flawed _ => none

end Checked

open Checked (fail)

/-- Text. -/
def readText : Json → Checked String
  | .str s => pure s
  | _ => fail .text

/-- The text without single underscores between its characters, if no
underscore stands elsewhere. -/
def dropUnderscores (cs : List Char) : Option (List Char) :=
  if cs.head? == some '_' || cs.getLast? == some '_' || Text.isInfix ['_', '_'] cs then none
  else some (cs.filter (· != '_'))

/-- The natural number that digits write, if there are digits only. -/
def readDigits (cs : List Char) : Option Nat :=
  if !cs.isEmpty && cs.all Char.isDigit then
    some (cs.foldl (fun n d => n * 10 + (d.toNat - 48)) 0)
  else none

/-- The natural number a text writes: digits with underscores between them, and
zeros after a point. -/
def naturalOfText (cs : List Char) : Option Nat := do
  let whole := cs.takeWhile (· != '.')
  let fraction := cs.drop (whole.length + 1)
  let cs := if whole.length < cs.length && fraction.all (· == '0') then whole else cs
  readDigits (← dropUnderscores cs)

/-- The integer a text writes: a sign, or none, and a natural number. -/
def integerOfText (s : String) : Option Int :=
  match Text.trimList s.toList with
  | '-' :: cs => (naturalOfText cs).map fun n => -(n : Int)
  | '+' :: cs => (naturalOfText cs).map fun n => (n : Int)
  | cs => (naturalOfText cs).map fun n => (n : Int)

/-- Whether an integer fits into 64 bits. -/
def fitsWord (n : Int) : Bool := -Int.pow 2 63 ≤ n && n < Int.pow 2 63

/-- An integer. -/
def readInteger : Json → Checked Int
  | .int n => pure n
  | .bool b => pure (if b then 1 else 0)
  | .float x =>
    match x with
    | .finite .. =>
      match x.toInt? with
      | some n => if fitsWord n && -Int.pow 2 63 < n then pure n else fail .integerTextTooLong
      | none => fail .integerFraction
    | _ => fail .infinite
  | .str s =>
    if 4300 < s.length then fail .integerTextTooLong
    else
      match integerOfText s with
      | some n => pure n
      | none => fail .integerText
  | _ => fail .integer

/-- An integer of at least `bound`. -/
def readAtLeast (bound : Int) (j : Json) : Checked Int :=
  (readInteger j).andThen fun n => if bound ≤ n then pure n else fail (.atLeast bound)

/-- An integer above `bound`. -/
def readAbove (bound : Int) (j : Json) : Checked Int :=
  (readInteger j).andThen fun n => if bound < n then pure n else fail (.above bound)

/-- A decimal without sign: digits, a point and digits, and an exponent. -/
def decimalOfText (negative : Bool) (cs : List Char) : Option Binary64 := do
  let whole := cs.takeWhile Char.isDigit
  let rest := cs.drop whole.length
  let (fraction, rest) :=
    match rest with
    | '.' :: more =>
      let fraction := more.takeWhile Char.isDigit
      (fraction, more.drop fraction.length)
    | _ => ([], rest)
  guard (!(whole.isEmpty && fraction.isEmpty))
  let exponent : Int ←
    match rest with
    | [] => some 0
    | e :: more =>
      if e == 'e' || e == 'E' then
        match more with
        | '-' :: ds => (readDigits ds).map fun n => -(n : Int)
        | '+' :: ds => (readDigits ds).map fun n => (n : Int)
        | ds => (readDigits ds).map fun n => (n : Int)
      else none
  let digits := (whole ++ fraction).foldl (fun n d => n * 10 + (d.toNat - 48)) 0
  return .ofDecimal negative digits (exponent - fraction.length)

/-- The number a text writes, infinities and the one that is none included. -/
def numberOfText (s : String) : Option Binary64 :=
  let cs := Text.trimList s.toList
  let (negative, cs) :=
    match cs with
    | '-' :: cs => (true, cs)
    | '+' :: cs => (false, cs)
    | cs => (false, cs)
  match String.ofList (cs.map Char.toLower) with
  | "inf" | "infinity" => some (.infinite negative)
  | "nan" => some .nan
  | _ =>
    match decimalOfText negative cs with
    | some x => some x
    | none => (dropUnderscores cs).bind (decimalOfText negative)

/-- A number. -/
def readNumber : Json → Checked Binary64
  | .int n => pure (.ofInt n)
  | .bool b => pure (.ofInt (if b then 1 else 0))
  | .float x => pure x
  | .str s =>
    match numberOfText s with
    | some x => pure x
    | none => fail .numberText
  | _ => fail .number

/-- The words for truth values. -/
def flagOfText (s : String) : Option Bool :=
  match String.ofList (s.toList.map Char.toLower) with
  | "0" | "off" | "f" | "false" | "n" | "no" => some false
  | "1" | "on" | "t" | "true" | "y" | "yes" => some true
  | _ => none

/-- The truth value of an integer that is zero or one. -/
def flagOfInteger (n : Int) : Checked Bool :=
  if n == 0 then pure false else if n == 1 then pure true else fail .flagText

/-- A truth value. -/
def readFlag : Json → Checked Bool
  | .bool b => pure b
  | .int n => if fitsWord n then flagOfInteger n else fail .flag
  | .float x =>
    match x.toInt? with
    | some n => if fitsWord n then flagOfInteger n else fail .flag
    | none => fail .flag
  | .str s =>
    match flagOfText s with
    | some b => pure b
    | none => fail .flagText
  | _ => fail .flag

/-- Any value. -/
def readAny (j : Json) : Checked Json := pure j

/-- A value that may be missing. -/
def readOptional {α : Type} (read : Json → Checked α) : Json → Checked (Option α)
  | .null => pure none
  | j => some <$> read j

/-- The items of a list, the first of which has number `n`. -/
def readItems {α : Type} (read : Json → Checked α) : Nat → List Json → Checked (List α)
  | _, [] => pure []
  | n, j :: js => List.cons <$> (read j).within (.index n) <*> readItems read (n + 1) js

/-- A list. -/
def readList {α : Type} (read : Json → Checked α) : Json → Checked (List α)
  | .arr xs => readItems read 0 xs
  | _ => fail .list

/-- The values of a dictionary. -/
def readEntries {α : Type} (read : Json → Checked α) : Fields → Checked (List (String × α))
  | [] => pure []
  | (n, j) :: rest =>
    List.cons <$> (Prod.mk n <$> (read j).within (.name n)) <*> readEntries read rest

/-- A dictionary. -/
def readDictionary {α : Type} (read : Json → Checked α) : Json → Checked (List (String × α))
  | .obj fields => readEntries read fields
  | _ => fail .dictionary

/-- The first of several names that an object has a field for. -/
def fieldUnder (fields : Fields) : List String → Option (String × Json)
  | [] => none
  | n :: ns =>
    match fields.get? n with
    | some j => some (n, j)
    | none => fieldUnder fields ns

/-- A field under the first of several names that is there, or `preset`. -/
def fieldNamed {α : Type} (fields : Fields) (names : List String) (read : Json → Checked α)
    (preset : α) : Checked α :=
  match fieldUnder fields names with
  | some (n, j) => (read j).within (.name n)
  | none => pure preset

/-- A field, or `preset`. -/
def field {α : Type} (fields : Fields) (name : String) (read : Json → Checked α) (preset : α) :
    Checked α :=
  fieldNamed fields [name] read preset

/-- A field that may not be missing. -/
def requiredField {α : Type} (fields : Fields) (name : String) (read : Json → Checked α) :
    Checked α :=
  match fields.get? name with
  | some j => (read j).within (.name name)
  | none => .flawed [⟨[.name name], .missing⟩]

end RouteDoc.Record
