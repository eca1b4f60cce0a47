import SubjectMerge.Text.Utf8

/-! Why the attribute store does not answer. -/

namespace SubjectMerge

/-- The kinds of value a database cell can hold. -/
inductive CellKind where
  | null
  | integer
  | real
  | text
  | blob
  deriving DecidableEq, Repr

def CellKind.name : CellKind → String
  | .null => "Null"
  | .integer => "Integer"
  | .real => "Real"
  | .text => "Text"
  | .blob => "Blob"

/-- What comes of a file, whatever is asked of the database in it. -/
inductive FileFault where
  | cannotOpen (path : String)
  | notDatabase
  | malformed
  | unsupportedFormat
  | readOnly
  /-- What comes from outside the database: a lock, a full disk, a failing device. -/
  | system (reason : String)
  deriving DecidableEq, Repr

inductive QueryFault where
  | file (fault : FileFault)
  | noTable (name : String)
  | tableExists (name : String)
  /-- A table cannot have the name of an index. -/
  | indexExists (name : String)
  /-- A column that a query names, and if it is told the query and the byte of it where that is. -/
  | noColumn (name : String) (place : Option (String × Nat))
  /-- A column that a row is to have a value in. -/
  | noColumnNamed (table column : String)
  /-- A null for a column that must have a value. -/
  | nullRefused (column : String)
  /-- A row number that is no integer. -/
  | rowNumber
  /-- A selected cell that is not text. -/
  | wrongKind (kind : CellKind) (index : Nat) (column : String)
  /-- A selected text that is not UTF-8. -/
  | badText (index : Nat) (fault : Text.Utf8Fault)
  deriving DecidableEq, Repr

def FileFault.message : FileFault → String
  | .cannotOpen path => s!"unable to open database file: {path}"
  | .notDatabase => "file is not a database"
  | .malformed => "database disk image is malformed"
  | .unsupportedFormat => "unsupported file format"
  | .readOnly => "attempt to write a readonly database"
  | .system reason => reason

def QueryFault.message : QueryFault → String
  | .file fault => fault.message
  | .noTable name => s!"no such table: {name}"
  | .tableExists name => s!"table {name} already exists"
  | .indexExists name => s!"there is already an index named {name}"
  | .noColumn name none => s!"no such column: {name}"
  | .noColumn name (some (query, offset)) => s!"no such column: {name} in {query} at offset {offset}"
  | .noColumnNamed table column => s!"table {table} has no column named {column}"
  | .nullRefused column => s!"NOT NULL constraint failed: {column}"
  | .rowNumber => "datatype mismatch"
  | .wrongKind kind index column =>
    s!"Invalid column type {kind.name} at index: {index}, name: {column}"
  | .badText index fault =>
    s!"Conversion error from type Text at index: {index}, {fault.message}"

inductive StoreError where
  | query (fault : QueryFault)
  | unavailable (reason : String)
  deriving DecidableEq, Repr

def StoreError.message : StoreError → String
  | .query fault => s!"attribute store query failed: {fault.message}"
  | .unavailable reason => s!"attribute store unavailable: {reason}"

end SubjectMerge
