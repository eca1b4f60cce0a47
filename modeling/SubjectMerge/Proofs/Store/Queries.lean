import SubjectMerge.Proofs.Results
import SubjectMerge.Proofs.Store.Declared

/-! What the queries see of tables as they are declared: every column that they name is there, and the rows are what
their cells say. -/

namespace SubjectMerge

/-- The layout of the declared tables: they have their keys, and ids are integers in both. -/
def Layout.declared : Layout := ⟨true, .integer⟩

/-- The tables as they are declared, with these rows. -/
structure Tables.Consist (tables : Tables) (defined : List AttributeRow) (filled : List ValueRow) : Prop where
  attributes : tables.table? .attributes = some (TableName.attributes.declared (defined.map AttributeRow.cells))
  values : tables.table? .values = some (TableName.values.declared (filled.map ValueRow.cells))

namespace Tables

/-- Reads the name and the value of a joined row. -/
def readPair (cells : Cell × Cell) : Except QueryFault (String × Option String) := do
  return (← cells.1.readText 0 "name", ← cells.2.readOptionalText 1 "value")

variable {tables : Tables} {defined : List AttributeRow} {filled : List ValueRow}

/-! The join of declared tables. -/

theorem rowsOf_declared (filled : List ValueRow) (recipient : Cell) : rowsOf ⟨.declared, filled⟩ recipient =
    (filled.filter fun row => row.recipient.matchesCell recipient).mergeSort
      fun a b => a.attributeId.le b.attributeId := rfl

theorem belongs_declared (defined : List AttributeRow) (filled : List ValueRow) (a : AttributeRow)
    (row : ValueRow) : belongs ⟨.declared, defined⟩ ⟨.declared, filled⟩ a row =
      (a.id.matchesCell row.attributeId && row.attributeId.kind == .integer) := rfl

theorem joined_declared (defined : List AttributeRow) (filled : List ValueRow) (recipient : Cell) :
    joined ⟨.declared, defined⟩ ⟨.declared, filled⟩ recipient =
      (rowsOf ⟨.declared, filled⟩ recipient).flatMap fun row =>
        (attributesOf ⟨.declared, defined⟩ ⟨.declared, filled⟩ row).map fun a => (a.name, row.value) := rfl

theorem Consist.names_eq (consist : tables.Consist defined filled) :
    tables.names = ((defined.mergeSort directoryOrder).map AttributeRow.name).mapM fun cell =>
      cell.readText 0 "name" := by
  have hrows : (defined.map AttributeRow.cells).map
      (TableName.attributes.declared (defined.map AttributeRow.cells)).attributeRow = defined := by
    rw [List.map_map]
    exact List.map_id defined
  rw [names, find, consist.attributes]
  change (((defined.map AttributeRow.cells).map _).mergeSort directoryOrder).mapM _ = _
  rw [hrows, List.mapM_map]
  rfl

theorem Consist.ids_eq (consist : tables.Consist defined filled) : tables.ids =
    ((filled.map ValueRow.recipient).eraseDups.mergeSort Cell.le).mapM fun cell =>
      cell.readText 0 "recipient_id" := by
  have hcells : (filled.map ValueRow.cells).map
      ((TableName.values.declared (filled.map ValueRow.cells)).cell "recipient_id") =
        filled.map ValueRow.recipient := List.map_map
  rw [ids, find, consist.values]
  change (((filled.map ValueRow.cells).map _).eraseDups.mergeSort Cell.le).mapM _ = _
  rw [hcells]
  rfl

theorem Consist.valuesOf_eq (consist : tables.Consist defined filled) (recipient : String) :
    tables.valuesOf recipient =
      ((joined ⟨.declared, defined⟩ ⟨.declared, filled⟩ (.ofString recipient)).mapM readPair).map Keyed.ofList := by
  have hdefined : (defined.map AttributeRow.cells).map
      (TableName.attributes.declared (defined.map AttributeRow.cells)).attributeRow = defined := by
    rw [List.map_map]
    exact List.map_id defined
  have hfilled : (filled.map ValueRow.cells).map
      (TableName.values.declared (filled.map ValueRow.cells)).valueRow = filled := by
    rw [List.map_map]
    exact List.map_id filled
  rw [valuesOf, find, find, consist.attributes, consist.values]
  change ((joined ⟨.declared, (defined.map AttributeRow.cells).map _⟩ ⟨.declared, (filled.map ValueRow.cells).map _⟩
    (.ofString recipient)).mapM readPair >>= fun pairs => pure (Keyed.ofList pairs)) = _
  rw [hdefined, hfilled]
  cases List.mapM readPair _ <;> rfl

end Tables

end SubjectMerge
