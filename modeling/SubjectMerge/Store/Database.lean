import SubjectMerge.Keyed
import SubjectMerge.Store
import SubjectMerge.Store.Database.Table

/-! The database behind the attribute store: what stands at its path, the three questions the store asks of
it, and how it is made. A question is answered from all the rows it selects or not at all; the first cell
that cannot be read, in the order the rows are visited, is the fault reported. -/

namespace SubjectMerge

/-- A row of the attribute directory. -/
structure AttributeRow where
  id : Cell
  name : Cell
  listOrder : Cell
  deriving DecidableEq, Repr

/-- One recipient's value of one attribute. -/
structure ValueRow where
  recipient : Cell
  attributeId : Cell
  value : Cell
  deriving DecidableEq, Repr

/-- The two tables of the store. -/
inductive TableName where
  | attributes
  | values
  deriving DecidableEq, Repr

namespace TableName

def text : TableName → String
  | .attributes => "attributes"
  | .values => "recipient_attributes"

/-- The columns as they are declared where the table is made. -/
def columns : TableName → List Column
  | .attributes => [{ name := "id", affinity := .integer },
      { name := "name", affinity := .text, required := true },
      { name := "listorder", affinity := .integer, required := true, initial := .integer 0 }]
  | .values => [{ name := "recipient_id", affinity := .text, required := true },
      { name := "attribute_id", affinity := .integer, required := true },
      { name := "value", affinity := .text }]

def keys : TableName → List Key
  | .attributes => [.number "id"]
  | .values => [.unique ["recipient_id", "attribute_id"]]

/-- The table as it is declared, with these rows. -/
def declared (name : TableName) (rows : List Row) : DataTable := ⟨name.columns, name.keys, .ok rows⟩

end TableName

/-- The tables of a database by their names, in small letters, and its indexes with the tables they are of. -/
structure Tables where
  named : Keyed DataTable := .empty
  indexes : List (String × String) := []

/-- What opens as a file of a database. -/
inductive FileContent where
  /-- The same fault comes of all that is asked of it. -/
  | broken (fault : FileFault)
  /-- A database, with the fault that comes of every change to it, if there is one. -/
  | database (tables : Tables) (changeFault : Option FileFault := none)

/-- What stands at a path. -/
inductive PathState where
  /-- Nothing, and the fault for which no file can be made there, if there is one. -/
  | absent (refusal : Option FileFault := none)
  | directory
  | file (content : FileContent)

/-- What is opened for a path. -/
inductive Target where
  /-- What stands at the path. -/
  | here
  /-- A database of the connection's own that is gone with it. -/
  | nowhere
  /-- Another path, and what stands there. -/
  | elsewhere (state : PathState)

structure Database where
  path : String
  /-- What stands at the path. -/
  state : PathState
  /-- What is opened if the path is a URI. -/
  uri : Target := .nowhere

namespace DataTable

/-- What the queries see of an attribute. -/
def attributeRow (table : DataTable) (row : Row) : AttributeRow :=
  ⟨table.cell "id" row, table.cell "name" row, table.cell "listorder" row⟩

def valueRow (table : DataTable) (row : Row) : ValueRow :=
  ⟨table.cell "recipient_id" row, table.cell "attribute_id" row, table.cell "value" row⟩

end DataTable

/-- How the rows of a table are found by an attribute's id: by the key that `init` declares, or one after
the other, and what the column of the ids makes of the values compared with it. -/
structure Layout where
  keyed : Bool
  affinity : Affinity
  deriving DecidableEq, Repr

/-- The rows of a table as the join of both tables sees them. -/
structure Relation (row : Type) where
  layout : Layout
  rows : List row

namespace Tables

def table? (tables : Tables) (name : TableName) : Option DataTable := tables.named.get? name.text

def find (tables : Tables) (name : TableName) : Except QueryFault DataTable :=
  match tables.table? name with
  | some table => .ok table
  | none => .error (.noTable name.text)

def set (tables : Tables) (name : TableName) (table : DataTable) : Tables :=
  { tables with named := tables.named.insert name.text table }

/-- Attributes by list order, then by id. -/
def directoryOrder (a b : AttributeRow) : Bool :=
  match a.listOrder.compare b.listOrder with
  | .lt => true
  | .gt => false
  | .eq => a.id.le b.id

def namesQuery : String := "SELECT name FROM attributes ORDER BY listorder, id"

def names (tables : Tables) : Except QueryFault (List String) := do
  let table ← tables.find .attributes
  table.require "name" (.noColumn "name" (some (namesQuery, 7)))
  table.require "listorder" (.noColumn "listorder" (some (namesQuery, 37)))
  table.require "id" (.noColumn "id" (some (namesQuery, 48)))
  let rows ← table.rows
  ((rows.map table.attributeRow).mergeSort directoryOrder).mapM fun row =>
    row.name.readText 0 (table.spelling "name")

/-- One recipient's rows as they are visited: by attribute where the table has its key, in order of
insertion where it has none. -/
def rowsOf (values : Relation ValueRow) (recipient : Cell) : List ValueRow :=
  let rows := values.rows.filter fun row => row.recipient.matchesCell recipient
  if values.layout.keyed then rows.mergeSort fun a b => a.attributeId.le b.attributeId else rows

/-- An id as it is compared with one from another table: against a column of numbers, one that is not of
integers has its decimals read as numbers. -/
def comparand (own other : Affinity) (id : Cell) : Cell :=
  match own with
  | .integer | .numeric => id
  | _ => if other.isNumeric then id.toNumber else id

/-- Equality with the id of an attribute. Where that is the key it is a row number, which a real never
equals. -/
def matchesId (layout : Layout) (own id : Cell) : Bool :=
  own.matchesCell id && (!layout.keyed || id.kind == .integer)

/-- Whether a row gives a value of an attribute. -/
def belongs (attributes : Relation AttributeRow) (values : Relation ValueRow) (a : AttributeRow)
    (row : ValueRow) : Bool :=
  matchesId attributes.layout (comparand attributes.layout.affinity values.layout.affinity a.id)
    (comparand values.layout.affinity attributes.layout.affinity row.attributeId)

/-- The attributes that a row gives a value of. Where several share an id they come by name. -/
def attributesOf (attributes : Relation AttributeRow) (values : Relation ValueRow) (row : ValueRow) :
    List AttributeRow :=
  (attributes.rows.filter fun a => belongs attributes values a row).mergeSort fun a b => a.name.le b.name

/-- The names and values of a recipient's rows; a row whose attribute is gone gives nothing. The rows are
gone through one by one, unless their ids are numbers and those of the attributes are not, so that only
the rows can be searched by them: then the attributes are. -/
def joined (attributes : Relation AttributeRow) (values : Relation ValueRow) (recipient : Cell) :
    List (Cell × Cell) :=
  let rows := rowsOf values recipient
  if values.layout.affinity.isNumeric && !attributes.layout.affinity.isNumeric then
    attributes.rows.flatMap fun a =>
      (rows.filter fun row => belongs attributes values a row).map fun row => (a.name, row.value)
  else rows.flatMap fun row =>
    (attributesOf attributes values row).map fun a => (a.name, row.value)

def valuesQuery : String :=
  "SELECT a.name, ra.value
             FROM recipient_attributes ra
             JOIN attributes a ON a.id = ra.attribute_id
             WHERE ra.recipient_id = ?1"

/-- A recipient's values; of rows with one name the last one visited counts. -/
def valuesOf (tables : Tables) (recipient : String) : Except QueryFault Values := do
  let values ← tables.find .values
  let attributes ← tables.find .attributes
  attributes.require "name" (.noColumn "a.name" (some (valuesQuery, 7)))
  values.require "value" (.noColumn "ra.value" (some (valuesQuery, 15)))
  values.require "recipient_id" (.noColumn "ra.recipient_id" (some (valuesQuery, 142)))
  attributes.require "id" (.noColumn "a.id" none)
  values.require "attribute_id" (.noColumn "ra.attribute_id" none)
  let rows ← values.rows
  let directory ← attributes.rows
  let pairs ← (joined
      ⟨⟨attributes.isNumber "id", attributes.affinity "id"⟩, directory.map attributes.attributeRow⟩
      ⟨⟨values.keys.contains (.unique ["recipient_id", "attribute_id"]), values.affinity "attribute_id"⟩,
        rows.map values.valueRow⟩
      ((values.affinity "recipient_id").store (.ofString recipient))).mapM fun (name, value) => do
    return (← name.readText 0 (attributes.spelling "name"),
      ← value.readOptionalText 1 (values.spelling "value"))
  return Keyed.ofList pairs

def idsQuery : String :=
  "SELECT DISTINCT recipient_id FROM recipient_attributes ORDER BY recipient_id"

/-- The recipients that have a row, each once and in order, whether or not their attributes exist. -/
def ids (tables : Tables) : Except QueryFault (List String) := do
  let table ← tables.find .values
  table.require "recipient_id" (.noColumn "recipient_id" (some (idsQuery, 16)))
  let rows ← table.rows
  let recipients := (rows.map (table.cell "recipient_id")).eraseDups.mergeSort Cell.le
  recipients.mapM fun cell => cell.readText 0 (table.spelling "recipient_id")

/-- Whether the table is there, of whatever columns. -/
def has (tables : Tables) (name : TableName) : Bool := (tables.table? name).isSome

/-- Whether an index has the name of the table. -/
def hasIndex (tables : Tables) (name : TableName) : Bool :=
  tables.indexes.any fun index => index.1 == name.text

/-- Makes a table. Its name may be no other table's, nor an index's. -/
def create (tables : Tables) (name : TableName) (table : DataTable) : Except QueryFault Tables :=
  if tables.has name then .error (.tableExists name.text)
  else if tables.hasIndex name then .error (.indexExists name.text)
  else .ok (tables.set name table)

end Tables

/-- Opens what stands at a path. Where nothing is, an empty file is made. -/
def PathState.open (path : String) : PathState → Except FileFault FileContent
  | .absent none => .ok (.database {})
  | .absent (some fault) => .error fault
  | .directory => .error (.cannotOpen path)
  | .file content => .ok content

namespace FileContent

/-- A statement of `init`: makes a table as it is declared, unless one of its name is there, whatever its
columns. -/
def declare (name : TableName) : FileContent → Except QueryFault FileContent
  | .broken fault => .error (.file fault)
  | .database tables changeFault =>
    if tables.has name then .ok (.database tables changeFault)
    else do
      let made ← tables.create name (name.declared [])
      match changeFault with
      | some fault => .error (.file fault)
      | none => .ok (.database made)

/-- Runs one statement after the other, each of them a transaction of its own: what was made by the ones
before a failure stays. A statement may also fail for what is given as its trouble. -/
def declareAll (trouble : TableName → Option FileFault) :
    List TableName → FileContent → Except QueryFault Unit × FileContent
  | [], content => (.ok (), content)
  | name :: names, content =>
    match (trouble name).elim (content.declare name) fun fault => .error (.file fault) with
    | .error fault => (.error fault, content)
    | .ok content => declareAll trouble names content

end FileContent

/-- The faults that come in the way of one run of `init` from outside. -/
structure Trouble where
  opening : Option FileFault := none
  statement : TableName → Option FileFault := fun _ => none

namespace Database

def fileExists (db : Database) : Bool :=
  match db.state with
  | .absent _ => false
  | .directory | .file _ => true

/-- What a path names to be opened: an empty one and `:memory:` no file at all, and a URI what it leads to. -/
def target (db : Database) : Target :=
  if db.path = "" ∨ db.path = ":memory:" then .nowhere
  else if "file:".toList.isPrefixOf db.path.toList then db.uri
  else .here

/-- What is there to be opened. -/
def opened (db : Database) : PathState :=
  match db.target with
  | .here => db.state
  | .nowhere => .file (.database {})
  | .elsewhere state => state

/-- Leaves a file where it was opened. -/
def leave (db : Database) (content : FileContent) : Database :=
  match db.target with
  | .here => { db with state := .file content }
  | .nowhere => db
  | .elsewhere _ => { db with uri := .elsewhere (.file content) }

/-- Opens for reading. There must be something at the path, whatever it is that is opened for it. -/
def tables (db : Database) : Except StoreError Tables :=
  if db.fileExists then
    match db.opened.open db.path with
    | .error fault | .ok (.broken fault) => .error (.query (.file fault))
    | .ok (.database tables _) => .ok tables
  else .error (.unavailable s!"{db.path} does not exist")

/-- Asks one question of an existing database. -/
def ask {α : Type} (db : Database) (question : Tables → Except QueryFault α) : Except StoreError α := do
  let tables ← db.tables
  (question tables).mapError .query

def names (db : Database) : Except StoreError (List String) := db.ask Tables.names

def ids (db : Database) : Except StoreError (List String) := db.ask Tables.ids

def valuesOf (db : Database) (recipient : String) : Except StoreError Values :=
  db.ask fun tables => tables.valuesOf recipient

def store (db : Database) : Store where
  names := db.names
  ids := db.ids
  lookUp recipient := match db.valuesOf recipient with
    | .ok values => .found values
    | .error e => .failed e

/-- Makes the file and the tables that are not there. What has been made when something goes wrong stays. -/
def init (db : Database) (trouble : Trouble := {}) : Except StoreError Unit × Database :=
  match trouble.opening.elim (db.opened.open db.path) .error with
  | .error fault => (.error (.query (.file fault)), db)
  | .ok content =>
    let (result, content) := content.declareAll trouble.statement [.attributes, .values]
    (result.mapError .query, db.leave content)

end Database

end SubjectMerge
