/-!
# Json — documents as trees

A document is null, a truth value, a number, a string, an array or an object. Two things are kept as
they were written, since a reader of a document may ask for them:

- a number is its literal, so that `1`, `1.0` and `1e0` stay apart;
- an object is the list of its members, in order and with repetitions.

A string may be written with escapes that name no text (half of a surrogate pair). Such a string is
well formed, and a document may hold it where nobody looks, so `Json.string` holds no text for it.
-/

namespace TileRules

inductive Json
  | null
  | bool (value : Bool)
  | number (literal : List Char)
  | string (text : Option String)
  | array (items : List Json)
  | object (members : List (Option String × Json))
  deriving Repr

namespace Json

/-! ## Building -/

/-- The literal of a natural number. -/
def nat (n : Nat) : Json :=
  .number (Nat.toDigits 10 n)

/-- The literal of an integer. -/
def int (i : Int) : Json :=
  if i < 0 then .number ('-' :: Nat.toDigits 10 i.natAbs) else nat i.natAbs

def text (s : String) : Json :=
  .string (some s)

/-- An object with these members, in order. -/
def ofFields (fields : List (String × Json)) : Json :=
  .object (fields.map fun (name, value) => (some name, value))

end Json
end TileRules
