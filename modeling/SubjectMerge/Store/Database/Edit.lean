import SubjectMerge.Store.Database.File.Directory

/-! Changes made to the database from outside: rows put and deleted, tables dropped or made without
keys, and the file itself replaced. -/

namespace SubjectMerge

def AttributeRow.given (row : AttributeRow) : List (String × Cell) :=
  [("id", row.id), ("name", row.name), ("listorder", row.listOrder)]

def ValueRow.given (row : ValueRow) : List (String × Cell) :=
  [("recipient_id", row.recipient), ("attribute_id", row.attributeId), ("value", row.value)]

/-- The table with untyped columns and no keys. -/
def TableName.loose (name : TableName) : DataTable :=
  ⟨name.columns.map fun column => { name := column.name, affinity := .blob }, [], .ok []⟩

namespace Tables

def put (tables : Tables) (name : TableName) (given : List (String × Cell)) : Except QueryFault Tables := do
  let table ← tables.find name
  return tables.set name (← table.insert name.text given)

def putAttribute (tables : Tables) (row : AttributeRow) : Except QueryFault Tables :=
  tables.put .attributes row.given

def putValue (tables : Tables) (row : ValueRow) : Except QueryFault Tables :=
  tables.put .values row.given

def deleteAttribute (tables : Tables) (id : Cell) : Except QueryFault Tables := do
  let table ← tables.find .attributes
  return tables.set .attributes (← table.delete "id" id)

/-- Drops a table, and its indexes with it. -/
def drop (tables : Tables) (name : String) : Except QueryFault Tables :=
  match tables.named.get? (foldCase name) with
  | none => .error (.noTable name)
  | some _ => .ok {
      named := tables.named.erase (foldCase name)
      indexes := tables.indexes.filter fun index => index.2 != foldCase name }

end Tables

/-- Changes the tables. Where no file is, an empty database is made first, and it stays also when the
change fails. -/
def FileContent.edit (change : Tables → Except QueryFault Tables) :
    FileContent → Except QueryFault Unit × FileContent
  | .broken fault => (.error (.file fault), .broken fault)
  | .database tables changeFault =>
    match change tables, changeFault with
    | .ok changed, none => (.ok (), .database changed)
    | .ok _, some fault => (.error (.file fault), .database tables changeFault)
    | .error fault, _ => (.error fault, .database tables changeFault)

namespace Database

def edit (db : Database) (change : Tables → Except QueryFault Tables) :
    Except StoreError Unit × Database :=
  match db.opened.open db.path with
  | .error fault => (.error (.query (.file fault)), db)
  | .ok content =>
    let (result, content) := content.edit change
    (result.mapError .query, db.leave content)

/-- Makes both tables with untyped columns and no keys. If the second exists the first stays. -/
def createLoose (db : Database) : Except StoreError Unit × Database :=
  match db.edit fun tables => tables.create .attributes TableName.attributes.loose with
  | (.ok (), db) => db.edit fun tables => tables.create .values TableName.values.loose
  | failed => failed

def removeFile (db : Database) : Database := { db with state := .absent }

def makeDirectory (db : Database) : Database := { db with state := .directory }

/-- Writes a file in the database's place. -/
def writeFile (db : Database) (file : List UInt8) : Database :=
  { db with state := .file (DatabaseFile.load file) }

/-- The default database file before anything is written. -/
def absent : Database := { path := "subscribers.sqlite", state := .absent }

end Database

end SubjectMerge
