/-!
# Named entries in order

Values under names. An entry that is put again keeps its place and takes the
new value.

* `Entries.get?`, `Entries.put`: lookup and update;
* `Entries.ofList`: entries from a list in which names may repeat.
-/

namespace RouteDoc

/-- Values under names, in order. -/
abbrev Entries (α : Type) := List (String × α)

namespace Entries

variable {α : Type}

/-- The value under a name. -/
def get? (entries : Entries α) (name : String) : Option α :=
  (entries.find? (·.1 == name)).map (·.2)

/-- Whether there is an entry of a name. -/
def has (entries : Entries α) (name : String) : Bool := entries.any (·.1 == name)

/-- The entries with `name` set to `value`, at its old place or at the end. -/
def put (entries : Entries α) (name : String) (value : α) : Entries α :=
  match entries with
  | [] => [(name, value)]
  | (n, v) :: rest => if n == name then (n, value) :: rest else (n, v) :: put rest name value

/-- The entries put one after another. -/
def ofList (entries : List (String × α)) : Entries α :=
  entries.foldl (fun acc e => acc.put e.1 e.2) []

end Entries

end RouteDoc
