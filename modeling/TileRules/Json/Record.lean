import TileRules.Json

/-!
# Json record — typed values out of a document

A value of the library is read from a document by its shape: plain integers within bounds, lists of
a fixed length, names of an enumeration, and records. A record is written either as an object with
named members or as an array of its fields in order.

- `Json.record?` looks up the fields of a record. Unknown members are passed over whatever they
  hold, but a field that is given twice makes the record unreadable;
- `Json.variant?` reads a name, written as a string or as an object with null under the name.
-/

namespace TileRules
namespace Json

/-! ## Simple values -/

def bool? : Json → Option Bool
  | .bool value => some value
  | _ => none

def text? : Json → Option String
  | .string text => text
  | _ => none

/-- A text or null. -/
def optionalText? : Json → Option (Option String)
  | .null => some none
  | .string (some text) => some (some text)
  | _ => none

def isPlainDigit (c : Char) : Bool :=
  '0' ≤ c && c ≤ '9'

/-- The value of plain digits. -/
def plainNat? (digits : List Char) : Option Nat :=
  if digits.all isPlainDigit then
    some (digits.foldl (fun value c => value * 10 + (c.toNat - 48)) 0)
  else
    none

/-- The integer of a literal without point and exponent. Minus zero is no integer. -/
def integer? : Json → Option Int
  | .number ('-' :: digits) => (plainNat? digits).bind fun n => if n = 0 then none else some (-n)
  | .number digits => (plainNat? digits).map Int.ofNat
  | _ => none

/-- A natural number that is at most `limit`. -/
def nat? (limit : Nat) (j : Json) : Option Nat :=
  j.integer?.bind fun i => if 0 ≤ i ∧ i ≤ limit then some i.toNat else none

/-- An integer that fits in 32 bits with a sign. -/
def int32? (j : Json) : Option Int :=
  j.integer?.filter fun i => -2147483648 ≤ i && i ≤ 2147483647

/-- A machine word. -/
def word? (j : Json) : Option UInt32 :=
  (j.nat? (UInt32.size - 1)).map UInt32.ofNat

/-- A size, which has 64 bits. -/
def size? (j : Json) : Option Nat :=
  j.nat? (UInt64.size - 1)

/-! ## Lists -/

def list? {α : Type} (item : Json → Option α) : Json → Option (List α)
  | .array items => items.mapM item
  | _ => none

/-- A list of exactly `n` items. -/
def vector? {α : Type} (n : Nat) (item : Json → Option α) (j : Json) : Option (Vector α n) :=
  match j.list? item with
  | some items => if h : items.length = n then some ⟨items.toArray, by simpa using h⟩ else none
  | none => none

/-! ## Names -/

/-- The name of a variant: a string, or an object that holds null under the name. -/
def variant? : Json → Option String
  | .string text => text
  | .object [(some name, .null)] => some name
  | _ => none

/-- The member of an enumeration with the name that the document gives. -/
def enumeration? {α : Type} (all : List α) (name : α → String) (j : Json) : Option α :=
  j.variant?.bind fun given => all.find? fun a => name a == given

/-! ## Records -/

/-- The values that a record gives to its fields. -/
structure Record where
  fields : List (String × Json)

namespace Record

def get? (r : Record) (name : String) : Option Json :=
  r.fields.lookup name

/-- Reads a field that has to be there. -/
def required {α : Type} (r : Record) (name : String) (read : Json → Option α) : Option α :=
  (r.get? name).bind read

/-- Reads a field that may be missing. -/
def optional {α : Type} (r : Record) (name : String) (read : Json → Option α) (missing : α) :
    Option α :=
  match r.get? name with
  | none => some missing
  | some value => read value

end Record

/-- The members whose names are fields of a record; none if a name is no text or a field is given
twice. -/
def knownMembers (names : List String) :
    List (Option String × Json) → Option (List (String × Json))
  | [] => some []
  | (none, _) :: _ => none
  | (some name, value) :: rest =>
      match knownMembers names rest with
      | none => none
      | some found =>
          if names.contains name then
            if (found.lookup name).isSome then none else some ((name, value) :: found)
          else
            some found

/-- The fields that a document gives to a record with these field names. -/
def record? (names : List String) : Json → Option Record
  | .object members => (knownMembers names members).map Record.mk
  | .array items => if items.length ≤ names.length then some ⟨names.zip items⟩ else none
  | _ => none

end Json
end TileRules
