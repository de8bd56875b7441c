import TileRules.Json.Printer
import TileRules.Json.Reader
import TileRules.Json.Record
import TileRules.StorageError
import TileRules.Text.Blank

/-!
# Document — values that are kept as JSON

A type of values that can be written as a document and read back. `Document.toText` is the indented
text of a value, and `Document.ofText` reads a text, refusing one that holds nothing but white
space before it looks at its form.
-/

namespace TileRules

/-- Values with a form as a document. -/
class Document (α : Type) where
  encode : α → Json
  decode : Json → Option α

namespace Document

variable {α : Type} [Document α]

def toText (a : α) : String :=
  (encode a).pretty

def ofText (text : String) : Except StorageError α :=
  if Text.isBlankText text then
    .error (.validation .emptyDocument)
  else
    match (Json.parse? text).bind decode with
    | some a => .ok a
    | none => .error (.serialization .unreadable)

end Document

/-- A list is written as an array. -/
instance {α : Type} [Document α] : Document (List α) where
  encode items := .array (items.map Document.encode)
  decode j := j.list? Document.decode

/-- A list of fixed length is written as an array, and only an array of that length is read. -/
instance {α : Type} {n : Nat} [Document α] : Document (Vector α n) where
  encode items := .array (items.toList.map Document.encode)
  decode j := j.vector? n Document.decode

end TileRules
