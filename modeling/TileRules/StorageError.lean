import TileRules.Error
import TileRules.Files
import TileRules.Gzip
import TileRules.Text.Quoted

/-!
# Storage error — why a table or a document cannot be stored or read

Moving tables and documents in and out of files can fail in the file system, in a format, in a check
of what was read, or in a rule of the table. Any failure may be wrapped in words on what was being
done.

- `StorageError.message` is the text of a failure;
- `StorageError.sources` are the texts of the failures behind it, the nearest first.
-/

namespace TileRules

/-- A document that is not of the expected form. -/
inductive SerializationFault
  | unreadable
  | other (detail : String)
  deriving DecidableEq, Repr

/-- Compressed data that cannot be read. -/
inductive CompressionFault
  | gzip (fault : Gzip.Fault)
  | other (detail : String)
  deriving DecidableEq, Repr

/-- Well-formed data that fails a check. -/
inductive ValidationFault
  | emptyDocument
  | tableLength (path : String) (got expected : Nat)
  | checksumMismatch (recorded actual : String)
  | tableShape (width height : Nat)
  | other (detail : String)
  deriving DecidableEq, Repr

inductive StorageError
  | serialization (fault : SerializationFault)
  | fileSystem (cause : FileError)
  | compression (fault : CompressionFault)
  | validation (fault : ValidationFault)
  | rule (cause : RuleError)
  | context (doing : String) (source : StorageError)
  deriving DecidableEq, Repr

def SerializationFault.detail : SerializationFault → String
  | .unreadable => "JSON deserialization failed"
  | .other detail => detail

def CompressionFault.detail : CompressionFault → String
  | .gzip fault => fault.message
  | .other detail => detail

def ValidationFault.detail : ValidationFault → String
  | .emptyDocument => "Empty JSON string"
  | .tableLength path got expected =>
      s!"Table file {Text.quoted path} holds {got} bytes, expected {expected}"
  | .checksumMismatch recorded actual =>
      s!"Checksum mismatch: manifest {recorded}, table {actual}"
  | .tableShape width height => s!"Manifest describes a {width}x{height} table"
  | .other detail => detail

namespace StorageError

def message : StorageError → String
  | .serialization fault => "Serialization error: " ++ fault.detail
  | .fileSystem cause => "File system error: " ++ cause.message
  | .compression fault => "Compression error: " ++ fault.detail
  | .validation fault => "Validation error: " ++ fault.detail
  | .rule cause => "Rule error: " ++ cause.message
  | .context doing source => doing ++ ": " ++ source.message

/-- The texts of the failures behind this one, the nearest first. -/
def sources : StorageError → List String
  | .fileSystem cause => [cause.message]
  | .rule cause => [cause.message]
  | .context _ source => source.message :: source.sources
  | .serialization _ | .compression _ | .validation _ => []

end StorageError
end TileRules
