import SubjectMerge.Proofs.Results
import SubjectMerge.Proofs.Store.Opening
import SubjectMerge.Store.Database.Edit

/-! Databases as they are declared. `init` makes the two tables with their columns and keys, and every row that is
put in or deleted afterwards leaves each key at most once. -/

namespace SubjectMerge

def AttributeRow.cells (a : AttributeRow) : Row := [a.id, a.name, a.listOrder]

def ValueRow.cells (v : ValueRow) : Row := [v.recipient, v.attributeId, v.value]

namespace TableName

/-- A row that the table as declared can hold: an attribute has a number, and a value both parts of its key. -/
inductive Fits : TableName → Row → Prop where
  | numbered {a : AttributeRow} {n : Int} : a.id = .integer n → Fits .attributes a.cells
  | keyed {v : ValueRow} : v.recipient ≠ .null → v.attributeId ≠ .null → Fits .values v.cells

/-- Rows that the table as declared can hold together: no two of them share a key. -/
structure Sound (name : TableName) (rows : List Row) : Prop where
  fits : ∀ row ∈ rows, name.Fits row
  apart : ∀ key ∈ name.keys, rows.Pairwise fun a b => (name.declared []).sameKey key a b = false

variable {name : TableName} {rows : List Row}

theorem Sound.nil (name : TableName) : name.Sound [] := ⟨nofun, fun _ _ => .nil⟩

theorem Sound.filter (h : name.Sound rows) (keep : Row → Bool) : name.Sound (rows.filter keep) :=
  ⟨fun row hrow => h.fits row (List.mem_filter.1 hrow).1, fun key hkey => (h.apart key hkey).filter keep⟩

/-- A row that takes the place of all that share a key with it. -/
theorem Sound.put (h : name.Sound rows) {new : Row} (fits : name.Fits new) :
    name.Sound ((rows.filter fun row => name.keys.all fun key => !(name.declared []).sameKey key row new) ++
      [new]) := by
  constructor
  · intro row hrow
    rcases List.mem_append.1 hrow with hold | hnew
    · exact h.fits row (List.mem_filter.1 hold).1
    · exact List.mem_singleton.1 hnew ▸ fits
  · intro key hkey
    refine List.pairwise_append.2 ⟨(h.apart key hkey).filter _, List.pairwise_singleton _ _, ?_⟩
    intro a ha b hb
    obtain rfl := List.mem_singleton.1 hb
    simpa using List.all_eq_true.1 (List.mem_filter.1 ha).2 key hkey

end TableName

theorem Cell.toNumber_ne_null {c : Cell} (h : c ≠ .null) : c.toNumber ≠ .null := by
  cases c with
  | text bytes =>
    rw [toNumber]
    cases Decimal.ofBytes? bytes with
    | none => exact nofun
    | some d =>
      simp only [Option.map_some, Option.getD_some, ofDecimal]
      split <;> exact nofun
  | real x =>
    rw [toNumber]
    split <;> exact nofun
  | _ => exact h

/-- A column makes no null of what is not one. -/
theorem Affinity.store_ne_null (affinity : Affinity) {c : Cell} (h : c ≠ .null) : affinity.store c ≠ .null := by
  have hnumber := Cell.toNumber_ne_null h
  cases affinity with
  | integer | numeric => exact hnumber
  | real =>
    rw [store]
    cases hcell : c.toNumber with
    | null => exact absurd hcell hnumber
    | _ => exact nofun
  | text => cases c <;> first | exact h | exact nofun
  | blob => exact h

namespace DataTable

variable {table changed : DataTable} {name : String} {given : List (String × Cell)}

/-- What is put in is a new row of the table. -/
theorem exists_row_of_insert (h : table.insert name given = .ok changed) : ∃ rows new,
    table.content = .ok rows ∧ table.newRow name rows given = .ok new ∧ table.put rows new = changed := by
  unfold insert at h
  split at h
  · cases h
  · obtain ⟨rows, hrows, new, hnew, hput⟩ := by simpa only [bind_eq_ok_iff] using h
    exact ⟨rows, new, mapError_eq_ok_iff.1 hrows, hnew, Except.ok.inj hput⟩

theorem exists_rows_of_delete {value : Cell} (h : table.delete name value = .ok changed) : ∃ rows,
    table.content = .ok rows ∧
      { table with content := .ok (rows.filter fun row => !table.hasValue name value row) } = changed := by
  obtain ⟨-, -, rows, hrows, hchanged⟩ := by simpa only [delete, bind_eq_ok_iff] using h
  exact ⟨rows, mapError_eq_ok_iff.1 hrows, Except.ok.inj hchanged⟩

/-- Where nulls are refused none is taken in. -/
theorem ne_null_of_accept {column : Column} (required : column.required = true) {value taken : Cell}
    (h : accept name column value = .ok taken) : taken ≠ .null := by
  unfold accept at h
  simp only [required, and_true] at h
  generalize (if value = .null then column.initial else value) = value at h
  split at h
  · cases h
  · next hvalue =>
    cases h
    exact column.affinity.store_ne_null hvalue

variable {rows rows' : List Row}

theorem exists_integer_of_newNumber {number : Cell}
    (h : (TableName.attributes.declared rows).newNumber rows' given = .ok number) : ∃ n, number = .integer n := by
  have hcolumn : (TableName.attributes.declared rows).columns.find? (fun column =>
      (TableName.attributes.declared rows).isNumber (foldCase column.name)) =
        some { name := "id", affinity := .integer } := rfl
  simp only [newNumber, hcolumn] at h
  split at h
  · exact ⟨_, (Except.ok.inj h).symm⟩
  · exact ⟨_, (Except.ok.inj h).symm⟩
  · cases h

/-- A new row fits the table. -/
theorem fits_of_newRow {table : TableName} {new : Row}
    (h : (table.declared rows).newRow name rows' given = .ok new) : table.Fits new := by
  obtain ⟨number, hnumber, hcells⟩ := bind_eq_ok_iff.1 h
  rw [mapM_eq_ok_iff_forall₂] at hcells
  cases table with
  | attributes =>
    obtain ⟨n, rfl⟩ := exists_integer_of_newNumber hnumber
    obtain _ | ⟨hid, _ | ⟨hname, _ | ⟨hlistOrder, _ | _⟩⟩⟩ := hcells
    obtain rfl := Except.ok.inj hid
    exact .numbered (a := ⟨.integer n, _, _⟩) rfl
  | values =>
    obtain _ | ⟨hrecipient, _ | ⟨hattribute, _ | ⟨hvalue, _ | _⟩⟩⟩ := hcells
    exact .keyed (v := ⟨_, _, _⟩) (ne_null_of_accept rfl hrecipient) (ne_null_of_accept rfl hattribute)

end DataTable

/-- Both tables are there as `init` declares them. -/
def Tables.Declared (tables : Tables) : Prop :=
  ∀ name, ∃ rows, tables.table? name = some (name.declared rows) ∧ name.Sound rows

/-- A database in which each of the tables is missing, or empty as a start has made it. -/
def FileContent.Fresh (content : FileContent) : Prop := ∃ tables changeFault,
  content = .database tables changeFault ∧
    ∀ name, tables.table? name = none ∨ tables.table? name = some (name.declared [])

namespace Database

/-- A row is put in, or an attribute deleted. -/
inductive Edit where
  | define (row : AttributeRow)
  | fill (row : ValueRow)
  | delete (id : Cell)

def Edit.apply (edit : Edit) (tables : Tables) : Except QueryFault Tables :=
  match edit with
  | .define row => tables.putAttribute row
  | .fill row => tables.putValue row
  | .delete id => tables.deleteAttribute id

/-- One change after the other is tried. -/
def after (db : Database) (edits : List Edit) : Database :=
  edits.foldl (fun db edit => (db.edit edit.apply).2) db

/-- A path where neither table is yet, or one that a start has made and no more. -/
def Bare (db : Database) : Prop := db.opened = .absent ∨ ∃ content, db.opened = .file content ∧ content.Fresh

/-- A database made by `init`, whatever was put into it and deleted from it since. -/
inductive Built : Database → Prop where
  | made {db made : Database} {trouble : Trouble} : db.Bare → db.init trouble = (.ok (), made) → Built made
  | again {db : Database} (trouble : Trouble) : Built db → Built (db.init trouble).2
  | edited {db : Database} (edit : Edit) : Built db → Built (db.edit edit.apply).2

end Database

namespace Tables

variable {tables edited : Tables} {name other : TableName} {table : DataTable}

theorem find_eq_ok_iff : tables.find name = .ok table ↔ tables.table? name = some table := by
  unfold find
  cases tables.table? name <;> simp

theorem Declared.set (h : tables.Declared) {rows : List Row} (sound : name.Sound rows) :
    (tables.set name (name.declared rows)).Declared := by
  intro other
  rw [table?_set]
  split
  · next same =>
    subst same
    exact ⟨rows, rfl, sound⟩
  · exact h other

theorem Declared.put (h : tables.Declared) {given : List (String × Cell)}
    (h' : tables.put name given = .ok edited) : edited.Declared := by
  obtain ⟨table, found, changed, hinsert, hset⟩ := by
    simpa only [Tables.put, bind_eq_ok_iff, find_eq_ok_iff] using h'
  obtain rfl := Except.ok.inj hset
  obtain ⟨rows, hrows, sound⟩ := h name
  obtain rfl := Option.some.inj (found.symm.trans hrows)
  obtain ⟨rows', new, hrows', hnew, rfl⟩ := DataTable.exists_row_of_insert hinsert
  obtain rfl : rows = rows' := Except.ok.inj hrows'
  exact h.set (sound.put (DataTable.fits_of_newRow hnew))

theorem Declared.deleteAttribute (h : tables.Declared) {id : Cell}
    (h' : tables.deleteAttribute id = .ok edited) : edited.Declared := by
  obtain ⟨table, found, changed, hdelete, hset⟩ := by
    simpa only [Tables.deleteAttribute, bind_eq_ok_iff, find_eq_ok_iff] using h'
  obtain rfl := Except.ok.inj hset
  obtain ⟨rows, hrows, sound⟩ := h .attributes
  obtain rfl := Option.some.inj (found.symm.trans hrows)
  obtain ⟨rows', hrows', rfl⟩ := DataTable.exists_rows_of_delete hdelete
  obtain rfl : rows = rows' := Except.ok.inj hrows'
  exact h.set (sound.filter _)

theorem Declared.edit (h : tables.Declared) {edit : Database.Edit} (h' : edit.apply tables = .ok edited) :
    edited.Declared := by
  cases edit with
  | define row => exact h.put h'
  | fill row => exact h.put h'
  | delete id => exact h.deleteAttribute h'

end Tables

namespace FileContent

theorem Fresh.declares {name : TableName} {content after : FileContent} (h : content.Fresh)
    (step : content.Declares name after) : after.Fresh := by
  cases step with
  | there => exact h
  | @made before =>
    obtain ⟨tables, changeFault, same, fresh⟩ := h
    cases same
    refine ⟨_, none, rfl, fun other => ?_⟩
    rw [Tables.table?_set]
    split
    · next same => exact .inr (same ▸ rfl)
    · exact fresh other

theorem Fresh.declared {content : FileContent} (h : content.Fresh) (both : ∀ name, content.has name = true) :
    ∃ tables changeFault, content = .database tables changeFault ∧ tables.Declared := by
  obtain ⟨tables, changeFault, rfl, fresh⟩ := h
  refine ⟨tables, changeFault, rfl, fun name => ⟨[], ?_, .nil name⟩⟩
  rcases fresh name with missing | there
  · have hhas : (tables.table? name).isSome = true := both name
    rw [missing] at hhas
    cases hhas
  · exact there

end FileContent

namespace Database

/-- There is a database to be opened at the path, and its tables are as declared. -/
def Declared (db : Database) : Prop :=
  ∃ tables changeFault, db.opened = .file (.database tables changeFault) ∧ tables.Declared

theorem Bare.open {db : Database} (h : db.Bare) :
    ∃ content, db.opened.open db.path = .ok content ∧ content.Fresh := by
  rcases h with absent | ⟨content, opened, fresh⟩
  · exact ⟨.database {}, by rw [absent, PathState.open], {}, none, rfl, fun _ => .inl rfl⟩
  · exact ⟨content, by rw [opened, PathState.open], fresh⟩

/-- Where neither table is yet, both are made as they are declared. -/
theorem declared_of_bare {db made : Database} {trouble : Trouble} (bare : db.Bare)
    (h : db.init trouble = (.ok (), made)) (stays : made.target ≠ .nowhere) : made.Declared := by
  obtain ⟨content, after, hopen, run, rfl⟩ := exists_of_init_ok h
  obtain ⟨content', hopen', fresh⟩ := bare.open
  obtain rfl := Except.ok.inj (hopen.symm.trans hopen')
  have fresh' : after.Fresh := run.keeps (fun _ _ _ step before => before.declares step) fresh
  obtain ⟨tables, changeFault, rfl, declared⟩ := fresh'.declared fun name =>
    run.has_of_mem rfl (by cases name <;> simp)
  exact ⟨tables, changeFault, opened_leave (mt target_leave_eq_nowhere_iff.2 stays), declared⟩

theorem Declared.has {db : Database} (h : db.Declared) :
    ∃ content, db.opened = .file content ∧ ∀ name, content.has name = true := by
  obtain ⟨tables, changeFault, opened, declared⟩ := h
  refine ⟨_, opened, fun name => ?_⟩
  obtain ⟨rows, found, -⟩ := declared name
  exact Option.isSome_iff_exists.2 ⟨_, found⟩

theorem Declared.init_snd {db : Database} (h : db.Declared) (trouble : Trouble) : (db.init trouble).2 = db := by
  obtain ⟨content, opened, both⟩ := h.has
  exact init_snd_of_has opened both trouble

theorem target_edit {db : Database} (change : Tables → Except QueryFault Tables) :
    (db.edit change).2.target = .nowhere ↔ db.target = .nowhere := by
  unfold edit
  split
  · exact Iff.rfl
  · exact target_leave_eq_nowhere_iff

/-- A change that fails leaves the tables as they are. -/
theorem Declared.edit {db : Database} (h : db.Declared) (stays : db.target ≠ .nowhere) (edit : Edit) :
    (db.edit edit.apply).2.Declared := by
  obtain ⟨tables, changeFault, opened, declared⟩ := h
  have hedit : (db.edit edit.apply).2 =
      db.leave ((FileContent.database tables changeFault).edit edit.apply).2 := by
    simp only [Database.edit, opened, PathState.open]
  obtain ⟨tables', changeFault', hafter, declared'⟩ : ∃ tables' changeFault',
      ((FileContent.database tables changeFault).edit edit.apply).2 = .database tables' changeFault' ∧
        tables'.Declared := by
    cases hchange : edit.apply tables with
    | error fault => exact ⟨tables, changeFault, by simp only [FileContent.edit, hchange], declared⟩
    | ok changed => cases changeFault with
      | none => exact ⟨changed, none, by simp only [FileContent.edit, hchange], declared.edit hchange⟩
      | some fault => exact ⟨tables, some fault, by simp only [FileContent.edit, hchange], declared⟩
  exact ⟨tables', changeFault', by rw [hedit, opened_leave stays, hafter], declared'⟩

theorem Built.after {db : Database} (built : db.Built) (edits : List Edit) : (db.after edits).Built := by
  induction edits generalizing db with
  | nil => exact built
  | cons edit edits ih => exact ih (.edited edit built)

/-- What `init` made stays as it was declared, where it stays at all. -/
theorem Built.declared {db : Database} (built : db.Built) (stays : db.target ≠ .nowhere) : db.Declared := by
  induction built with
  | made bare h => exact declared_of_bare bare h stays
  | again trouble _ ih =>
    have declared := ih (mt target_init_eq_nowhere_iff.2 stays)
    rw [declared.init_snd]
    exact declared
  | edited edit _ ih =>
    have stays' := mt (target_edit _).2 stays
    exact (ih stays').edit stays' edit

end Database

end SubjectMerge
