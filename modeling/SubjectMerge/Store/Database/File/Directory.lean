import SubjectMerge.Store.Database
import SubjectMerge.Store.Database.File.Statement
import SubjectMerge.Store.Database.File.Tree

/-! The directory of a database file: the tree on its first page, with a row for each table, which gives
the statement that made it and the root of its own tree, and a row for each index. -/

namespace SubjectMerge.DatabaseFile

inductive DirectoryEntry where
  | table (name : String) (root : Nat) (statement : String)
  | index (name table : String)
  deriving DecidableEq, Repr

/-- An entry of a table or an index; entries of anything else are passed over. -/
def entry? (row : StoredRow) : Option DirectoryEntry :=
  match row.cells with
  | [.text kind, .text name, .text table, root, statement] => do
    let name := foldCase (← (Text.decodeUtf8 name).toOption)
    match (Text.decodeUtf8 kind).toOption, root, statement with
    | some "table", .integer root, .text statement =>
      return .table name root.toNat (← (Text.decodeUtf8 statement).toOption)
    | some "index", _, _ => return .index name (foldCase (← (Text.decodeUtf8 table).toOption))
    | _, _, _ => none
  | _ => none

/-- A stored row as its table has it. A row number is kept apart from the cells, a row that was stored
before a column was added goes without it, and a column of reals may hold an integer for one. -/
def rowOf (table : DataTable) (stored : StoredRow) : Row :=
  table.columns.mapIdx fun place column =>
    if table.isNumber (foldCase column.name) then .integer stored.number
    else
      let cell := stored.cells.getD place column.initial
      if column.affinity = .real then cell.toReal else cell

/-- An entry of the directory among the ones before it. -/
def addEntry (file : List UInt8) (tables : Tables) : DirectoryEntry → Tables
  | .table name root statement =>
    let table := tableOf statement
    let table := { table with content := (rowsFrom file root).map fun rows => rows.map (rowOf table) }
    { tables with named := tables.named.insert name table }
  | .index name table => { tables with indexes := tables.indexes ++ [(name, table)] }

/-- What a file opens as. One of fewer than two bytes is a database without tables. -/
def load (file : List UInt8) : FileContent :=
  if file.length < 2 then .database {}
  else match headerFault? file with
    | some fault => .broken fault
    | none => match rowsFrom file 1 with
      | .error fault => .broken fault
      | .ok directory =>
        .database ((directory.filterMap entry?).foldl (addEntry file) {}) (changeFault? file (!directory.isEmpty))

end SubjectMerge.DatabaseFile
