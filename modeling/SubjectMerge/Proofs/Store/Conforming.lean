import SubjectMerge.Proofs.Store.Lookups

/-! What the lookups answer of a database that `init` made. A row is let in only with its keys, whatever is put into
the tables; so they hold what declared tables can hold, and the answers fit together. -/

namespace SubjectMerge

theorem Cell.matchesCell_self {c : Cell} (h : c ≠ .null) : c.matchesCell c = true := by
  have hlevel : c.compare c = .eq := Std.ReflCmp.compare_self
  rw [matchesCell, bne_iff_ne.2 h, hlevel]
  rfl

namespace TableName

/-- A row that fits is read off its cells. -/
theorem Fits.attributeRow {row : Row} (h : attributes.Fits row) :
    ((attributes.declared []).attributeRow row).cells = row ∧
      ∃ n, ((attributes.declared []).attributeRow row).id = .integer n := by
  cases h with
  | numbered number => exact ⟨rfl, _, number⟩

theorem Fits.valueRow {row : Row} (h : values.Fits row) :
    ((values.declared []).valueRow row).cells = row ∧
      ((values.declared []).valueRow row).recipient ≠ .null ∧
      ((values.declared []).valueRow row).attributeId ≠ .null := by
  cases h with
  | keyed hrecipient hattribute => exact ⟨rfl, hrecipient, hattribute⟩

/-- Attributes with one number share the key. -/
theorem sameKey_attribute {a b : AttributeRow} {n : Int} (numbered : a.id = .integer n) (same : a.id = b.id) :
    (attributes.declared []).sameKey (.number "id") a.cells b.cells = true := by
  have hkey : (attributes.declared []).sameKey (.number "id") a.cells b.cells =
      (a.id.matchesCell b.id && true) := rfl
  rw [hkey, ← same, numbered, Cell.matchesCell_integer.2 rfl, Bool.and_true]

theorem sameKey_value {a b : ValueRow} (hrecipient : a.recipient ≠ .null) (hattribute : a.attributeId ≠ .null)
    (same : (a.recipient, a.attributeId) = (b.recipient, b.attributeId)) :
    (values.declared []).sameKey (.unique ["recipient_id", "attribute_id"]) a.cells b.cells = true := by
  have hkey : (values.declared []).sameKey (.unique ["recipient_id", "attribute_id"]) a.cells b.cells =
      (a.recipient.matchesCell b.recipient && (a.attributeId.matchesCell b.attributeId && true)) := rfl
  obtain ⟨same, same'⟩ := Prod.mk.inj same
  rw [hkey, ← same, ← same', Cell.matchesCell_self hrecipient, Cell.matchesCell_self hattribute, Bool.and_true,
    Bool.and_true]

end TableName

namespace Tables

/-- Tables whose rows have been let in hold what they can hold. -/
theorem Declared.conforms {tables : Tables} (h : tables.Declared) :
    ∃ defined filled, tables.Conforms defined filled := by
  obtain ⟨rows, hattributes, sound⟩ := h .attributes
  obtain ⟨rows', hvalues, sound'⟩ := h .values
  let defined := rows.map (TableName.attributes.declared []).attributeRow
  let filled := rows'.map (TableName.values.declared []).valueRow
  have hdefined : defined.map AttributeRow.cells = rows := by
    rw [List.map_map]
    exact (List.map_congr_left fun row hrow => (sound.fits row hrow).attributeRow.1).trans (List.map_id rows)
  have hfilled : filled.map ValueRow.cells = rows' := by
    rw [List.map_map]
    exact (List.map_congr_left fun row hrow => (sound'.fits row hrow).valueRow.1).trans (List.map_id rows')
  have numbered : ∀ a ∈ defined, ∃ n, a.id = .integer n :=
    List.forall_mem_map.2 fun row hrow => (sound.fits row hrow).attributeRow.2
  have keyed : ∀ v ∈ filled, v.recipient ≠ .null ∧ v.attributeId ≠ .null :=
    List.forall_mem_map.2 fun row hrow => (sound'.fits row hrow).valueRow.2
  refine ⟨defined, filled, ⟨by rw [hdefined, hattributes], by rw [hfilled, hvalues]⟩, numbered, ?_, ?_⟩
  · have apart := sound.apart _ List.mem_cons_self
    rw [← hdefined, List.pairwise_map] at apart
    refine List.pairwise_map.2 (apart.imp_of_mem fun {a b} ha _ hapart same => ?_)
    obtain ⟨n, hn⟩ := numbered a ha
    rw [TableName.sameKey_attribute hn same] at hapart
    cases hapart
  · have apart := sound'.apart _ List.mem_cons_self
    rw [← hfilled, List.pairwise_map] at apart
    refine List.pairwise_map.2 (apart.imp_of_mem fun {v w} hv _ hapart same => ?_)
    obtain ⟨hrecipient, hattribute⟩ := keyed v hv
    rw [TableName.sameKey_value hrecipient hattribute same] at hapart
    cases hapart

end Tables

namespace Database

variable {db : Database}

theorem Declared.exists_tables (h : db.Declared) (here : db.target = .here) : ∃ tables, db.tables = .ok tables := by
  obtain ⟨tables, changeFault, opened, -⟩ := h
  have state : db.state = .file (.database tables changeFault) := (opened_of_here here).symm.trans opened
  refine ⟨tables, tables_eq_ok_iff.2 ⟨by rw [fileExists, state], changeFault, by rw [opened, PathState.open]⟩⟩

/-- A database that `init` made at a path of a file is read, and its answers are those of its rows, whatever was put
into it and deleted from it since. -/
theorem Built.answers (built : db.Built) (here : db.target = .here) : ∃ tables defined filled,
    db.tables = .ok tables ∧ tables.Conforms defined filled ∧ db.Answers defined filled := by
  have declared := built.declared (by rw [here]; exact nofun)
  obtain ⟨tables, read⟩ := declared.exists_tables here
  obtain ⟨defined, filled, conforms⟩ := (declared.of_tables read).conforms
  exact ⟨tables, defined, filled, read, conforms, answers_of_rows read conforms⟩

end Database

end SubjectMerge
