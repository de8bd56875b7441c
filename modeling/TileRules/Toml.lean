/-!
# Toml — configuration documents as trees

A configuration document holds tables of named values. Numbers that are no integers, and dates and
times, are checked when they are read, but no setting has such a value, so a document keeps only
that they were there.
-/

namespace TileRules

inductive Toml
  | string (text : String)
  | integer (value : Int)
  | float
  | bool (value : Bool)
  | dateTime
  | array (items : List Toml)
  | table (members : List (String × Toml))
  deriving Repr

namespace Toml

/-- The text of a string value. -/
def text? : Toml → Option String
  | .string text => some text
  | _ => none

def bool? : Toml → Option Bool
  | .bool value => some value
  | _ => none

/-- Whether a value is an empty table or an empty array. -/
def isEmptyCollection : Toml → Bool
  | .table [] | .array [] => true
  | _ => false

/-- The name of a variant: a string, or a table that holds an empty collection under the name. -/
def variant? : Toml → Option String
  | .string text => some text
  | .table [(name, value)] => if value.isEmptyCollection then some name else none
  | _ => none

/-- The fields that a value gives to a record with these field names: a table gives them by name, an
array in order, and a date or time gives none. -/
def record? (names : List String) : Toml → Option (List (String × Toml))
  | .table members => some (members.filter fun (name, _) => names.contains name)
  | .array items => some (names.zip items)
  | .dateTime => some []
  | _ => none

/-- Reads a field that may be missing. -/
def optional {α : Type} (fields : List (String × Toml)) (name : String) (read : Toml → Option α)
    (missing : α) : Option α :=
  match fields.lookup name with
  | none => some missing
  | some value => read value

end Toml
end TileRules
