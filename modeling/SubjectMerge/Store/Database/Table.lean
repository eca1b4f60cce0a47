import SubjectMerge.Store.Database.Cell

/-! Tables of a database: columns as they are declared, the keys that tell their rows apart, and the rows.
Whatever columns a table has, a query finds the cells it names by the names of their columns. -/

namespace SubjectMerge

/-- Names of tables and columns know no case. -/
def foldCase (name : String) : String := String.ofList (name.toList.map Char.toLower)

structure Column where
  /-- As it is spelled in the declaration. -/
  name : String
  affinity : Affinity
  /-- Nulls are refused. -/
  required : Bool := false
  /-- What a row has here that is given nothing. -/
  initial : Cell := .null
  deriving DecidableEq, Repr

def Column.isNamed (column : Column) (name : String) : Bool := foldCase column.name == name

inductive Key where
  /-- A column that is the number of the row. -/
  | number (column : String)
  /-- Columns in which no two rows agree. -/
  | unique (columns : List String)
  deriving DecidableEq, Repr

def Key.columns : Key → List String
  | .number column => [column]
  | .unique columns => columns

/-- A cell for each column of the table. -/
abbrev Row := List Cell

structure DataTable where
  columns : List Column
  keys : List Key
  /-- The rows in the order of their insertion, or the fault for which they cannot be read. -/
  content : Except FileFault (List Row)

namespace DataTable

def rows (table : DataTable) : Except QueryFault (List Row) := table.content.mapError .file

def column? (table : DataTable) (name : String) : Option Column := table.columns.find? (·.isNamed name)

/-- A row's cell in a column. In one that the table does not have there is nothing. -/
def cell (table : DataTable) (name : String) (row : Row) : Cell :=
  ((table.columns.findIdx? (·.isNamed name)).bind fun place => row[place]?).getD .null

def affinity (table : DataTable) (name : String) : Affinity :=
  ((table.column? name).map Column.affinity).getD .blob

/-- A column's name as the table has it. -/
def spelling (table : DataTable) (name : String) : String :=
  ((table.column? name).map Column.name).getD name

/-- Whether the column is the number of the row. -/
def isNumber (table : DataTable) (name : String) : Bool := table.keys.contains (.number name)

/-- Only a table with a column of the name can be asked for it. -/
def require (table : DataTable) (name : String) (fault : QueryFault) : Except QueryFault Unit :=
  if (table.column? name).isSome then .ok () else .error fault

/-- Whether a row has a value in a column. The column makes of the value what it would store, and the
number of a row is no real. -/
def hasValue (table : DataTable) (name : String) (value : Cell) (row : Row) : Bool :=
  let value := (table.affinity name).store value
  (table.cell name row).matchesCell value && (!table.isNumber name || value.kind == .integer)

/-- Whether two rows have the same key. -/
def sameKey (table : DataTable) (key : Key) (a b : Row) : Bool :=
  key.columns.all fun name => (table.cell name a).matchesCell (table.cell name b)

/-- Adds a row, in place of all that have a key of it. -/
def put (table : DataTable) (rows : List Row) (new : Row) : DataTable :=
  { table with content := .ok <|
      (rows.filter fun row => table.keys.all fun key => !table.sameKey key row new) ++ [new] }

/-- The number of a row that comes without one: one more than the highest, and one in an empty table. -/
def nextNumber (table : DataTable) (name : String) (rows : List Row) : Int :=
  let numbers := rows.filterMap fun row => match table.cell name row with
    | .integer n => some n
    | _ => none
  match numbers.max? with
  | some n => n + 1
  | none => 1

/-- A value for a column that is no row number. A null that is refused makes way for the initial value. -/
def accept (table : String) (column : Column) (value : Cell) : Except QueryFault Cell :=
  let value := if value = .null ∧ column.required then column.initial else value
  if value = .null ∧ column.required then .error (.nullRefused s!"{table}.{column.name}")
  else .ok (column.affinity.store value)

/-- The number of a new row, a null where rows are numbered in no column. -/
def newNumber (table : DataTable) (rows : List Row) (given : List (String × Cell)) : Except QueryFault Cell :=
  match table.columns.find? fun column => table.isNumber (foldCase column.name) with
  | none => .ok .null
  | some column =>
    let name := foldCase column.name
    match ((given.lookup name).getD .null).toNumber with
    | .null => .ok (.integer (table.nextNumber name rows))
    | .integer n => .ok (.integer n)
    | _ => .error .rowNumber

/-- A new row of a table by its name, from the values for some of the columns. -/
def newRow (name : String) (table : DataTable) (rows : List Row) (given : List (String × Cell)) :
    Except QueryFault Row := do
  let number ← table.newNumber rows given
  table.columns.mapM fun column =>
    if table.isNumber (foldCase column.name) then .ok number
    else accept name column ((given.lookup (foldCase column.name)).getD column.initial)

def insert (name : String) (table : DataTable) (given : List (String × Cell)) : Except QueryFault DataTable :=
  match given.find? fun value => (table.column? value.1).isNone with
  | some (column, _) => .error (.noColumnNamed name column)
  | none => do
    let rows ← table.rows
    let new ← table.newRow name rows given
    return table.put rows new

/-- Deletes the rows that have a value in a column. -/
def delete (table : DataTable) (name : String) (value : Cell) : Except QueryFault DataTable := do
  table.require name (.noColumn name none)
  let rows ← table.rows
  return { table with content := .ok (rows.filter fun row => !table.hasValue name value row) }

end DataTable

end SubjectMerge
