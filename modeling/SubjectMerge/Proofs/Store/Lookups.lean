import SubjectMerge.Proofs.Distinct
import SubjectMerge.Proofs.Store.Contents
import SubjectMerge.Proofs.Store.Order

/-! What the three lookups make of any rows. The tables are as `init` declares them, but names may be the same,
attributes may be gone that rows still point to, and a cell that should be text may be a blob or hold bytes that are
no UTF-8. A lookup reads all the cells that it selects or gives nothing; what it gives then follows from the rows,
and the three answers fit together. -/

namespace SubjectMerge

/-- The cell holds a text, and its bytes are UTF-8. -/
def Cell.IsText (c : Cell) : Prop := ∃ s, c = .ofString s

/-- The row holds the recipient's value of the attribute. -/
structure ValueRow.Fills (row : ValueRow) (recipient : String) (a : AttributeRow) : Prop where
  own : row.recipient = .ofString recipient
  points : row.attributeId = a.id

/-- The tables are declared as `init` does it and hold these rows. Attributes are numbered, and no number comes
twice, nor does an attribute of one recipient. -/
structure Tables.Conforms (tables : Tables) (defined : List AttributeRow) (filled : List ValueRow) : Prop where
  consist : tables.Consist defined filled
  numbered : ∀ a ∈ defined, ∃ n, a.id = .integer n
  ids : (defined.map AttributeRow.id).Nodup
  keys : (filled.map fun row => (row.recipient, row.attributeId)).Nodup

/-- The row belongs to an attribute of the name, and to the highest of them that the recipient has a row of. -/
structure ValueRow.Tops (row : ValueRow) (defined : List AttributeRow) (filled : List ValueRow)
    (recipient name : String) : Prop where
  mem : row ∈ filled
  named : ∃ a ∈ defined, a.name = .ofString name ∧ row.Fills recipient a
  highest : ∀ a ∈ defined, a.name = .ofString name → ∀ other ∈ filled, other.Fills recipient a →
    a.id.le row.attributeId = true

instance (c : Cell) : Decidable c.IsText :=
  decidable_of_iff ((c.readText 0 "name").toOption.isSome = true) <| by
    simp only [Cell.IsText, ← @Cell.readText_eq_ok_iff 0 "name"]
    cases c.readText 0 "name" <;> simp [Except.toOption]

instance (row : ValueRow) (recipient : String) (a : AttributeRow) : Decidable (row.Fills recipient a) :=
  decidable_of_iff (row.recipient = .ofString recipient ∧ row.attributeId = a.id)
    ⟨fun ⟨own, points⟩ => ⟨own, points⟩, fun fills => ⟨fills.own, fills.points⟩⟩

instance (row : ValueRow) (defined : List AttributeRow) (filled : List ValueRow) (recipient name : String) :
    Decidable (row.Tops defined filled recipient name) :=
  decidable_of_iff (row ∈ filled ∧ (∃ a ∈ defined, a.name = .ofString name ∧ row.Fills recipient a) ∧
      ∀ a ∈ defined, a.name = .ofString name → ∀ other ∈ filled, other.Fills recipient a →
        a.id.le row.attributeId = true)
    ⟨fun ⟨mem, named, highest⟩ => ⟨mem, named, highest⟩, fun tops => ⟨tops.mem, tops.named, tops.highest⟩⟩

namespace Tables

/-- How a name and a value stand in cells. -/
def pairCells (pair : String × Option String) : Cell × Cell := (.ofString pair.1, .ofOption pair.2)

theorem readPair_eq_ok_iff (cells : Cell × Cell) (pair : String × Option String) :
    readPair cells = .ok pair ↔ cells = pairCells pair := by
  obtain ⟨name, value⟩ := cells
  obtain ⟨s, t⟩ := pair
  simp only [readPair, bind_eq_ok_iff, Cell.readText_eq_ok_iff, Cell.readOptionalText_eq_ok_iff, pure,
    Except.pure, Except.ok.injEq, Prod.mk.injEq, pairCells, ← and_assoc, exists_eq_right]

namespace Conforms

variable {tables : Tables} {defined : List AttributeRow} {filled : List ValueRow}

/-! The directory. -/

theorem names_eq_ok_iff (conforms : tables.Conforms defined filled) {names : List String} :
    tables.names = .ok names ↔
      (defined.mergeSort directoryOrder).map AttributeRow.name = names.map Cell.ofString := by
  rw [conforms.consist.names_eq]
  exact mapM_eq_ok_iff fun _ _ => Cell.readText_eq_ok_iff

theorem exists_names_iff (conforms : tables.Conforms defined filled) :
    (∃ names, tables.names = .ok names) ↔ ∀ a ∈ defined, a.name.IsText := by
  rw [conforms.consist.names_eq, exists_mapM_eq_ok_iff]
  simp only [Cell.readText_eq_ok_iff, List.forall_mem_map, List.mem_mergeSort]
  exact Iff.rfl

theorem eq_of_id_eq (conforms : tables.Conforms defined filled) {a b : AttributeRow} (ha : a ∈ defined)
    (hb : b ∈ defined) (h : a.id = b.id) : a = b :=
  List.inj_on_of_nodup_map conforms.ids ha hb h

/-- Numbers that stand level are the same. -/
theorem eq_of_le_of_le (conforms : tables.Conforms defined filled) {a b : AttributeRow} (ha : a ∈ defined)
    (hb : b ∈ defined) (hab : a.id.le b.id = true) (hba : b.id.le a.id = true) : a = b := by
  refine conforms.eq_of_id_eq ha hb ?_
  obtain ⟨m, hm⟩ := conforms.numbered a ha
  obtain ⟨n, hn⟩ := conforms.numbered b hb
  rw [hm, hn, Cell.le_integer] at hab hba
  rw [hm, hn, Int.le_antisymm hab hba]

/-- The directory has each attribute once, and they come by their places and their numbers. -/
theorem exists_listed (conforms : tables.Conforms defined filled) {names : List String}
    (h : tables.names = .ok names) : ∃ listed : List AttributeRow, listed.Perm defined ∧
      listed.Pairwise AttributeRow.Precedes ∧ listed.map AttributeRow.name = names.map Cell.ofString := by
  have hperm := List.mergeSort_perm defined directoryOrder
  refine ⟨_, hperm, ?_, conforms.names_eq_ok_iff.1 h⟩
  have sorted := List.pairwise_mergeSort directoryOrder_trans directoryOrder_total defined
  have distinct : (defined.mergeSort directoryOrder).Nodup := hperm.nodup_iff.2 conforms.ids.of_map
  refine (sorted.and distinct).imp_of_mem fun {a b} ha hb ⟨horder, hne⟩ => ?_
  refine precedes_of_directoryOrder horder fun level => hne ?_
  have hswap : b.id.compare a.id = .eq := Std.OrientedCmp.eq_symm level
  exact conforms.eq_of_le_of_le (hperm.mem_iff.1 ha) (hperm.mem_iff.1 hb)
    (Cell.le_iff.2 (by rw [level]; rfl)) (Cell.le_iff.2 (by rw [hswap]; rfl))

/-! The recipients. -/

theorem ids_eq_ok_iff (conforms : tables.Conforms defined filled) {ids : List String} :
    tables.ids = .ok ids ↔
      (filled.map ValueRow.recipient).eraseDups.mergeSort Cell.le = ids.map Cell.ofString := by
  rw [conforms.consist.ids_eq]
  exact mapM_eq_ok_iff fun _ _ => Cell.readText_eq_ok_iff

theorem exists_ids_iff (conforms : tables.Conforms defined filled) :
    (∃ ids, tables.ids = .ok ids) ↔ ∀ row ∈ filled, row.recipient.IsText := by
  rw [conforms.consist.ids_eq, exists_mapM_eq_ok_iff]
  simp only [Cell.readText_eq_ok_iff, List.mem_mergeSort, List.mem_eraseDups, List.forall_mem_map]
  exact Iff.rfl

theorem mem_ids_iff (conforms : tables.Conforms defined filled) {ids : List String} (h : tables.ids = .ok ids)
    {recipient : String} : recipient ∈ ids ↔ ∃ row ∈ filled, row.recipient = .ofString recipient := by
  have hmem : Cell.ofString recipient ∈ ids.map Cell.ofString ↔ recipient ∈ ids :=
    List.mem_map_of_injective fun _ _ => Cell.ofString_inj.1
  rw [← hmem, ← conforms.ids_eq_ok_iff.1 h, List.mem_mergeSort, List.mem_eraseDups, List.mem_map]

theorem ids_increase (conforms : tables.Conforms defined filled) {ids : List String} (h : tables.ids = .ok ids) :
    ids.Pairwise fun s t => compareBytes (Text.encodeUtf8 s) (Text.encodeUtf8 t) = .lt := by
  have sorted := List.pairwise_mergeSort Cell.le_trans Cell.le_total (filled.map ValueRow.recipient).eraseDups
  have distinct := (List.mergeSort_perm (filled.map ValueRow.recipient).eraseDups Cell.le).nodup_iff.2
    (nodup_eraseDups _)
  have both := sorted.and distinct
  rw [conforms.ids_eq_ok_iff.1 h, List.pairwise_map] at both
  refine both.imp fun {s t} ⟨hle, hne⟩ => ?_
  cases hcompare : compareBytes (Text.encodeUtf8 s) (Text.encodeUtf8 t) with
  | lt => rfl
  | eq => exact absurd (congrArg Cell.text (compareBytes_eq_eq_iff.1 hcompare)) hne
  | gt => exact absurd hcompare (Cell.le_ofString.1 hle)

/-! The values of one recipient. -/

/-- The rows of a recipient with the attributes that they point to, as they are visited. -/
def links (defined : List AttributeRow) (filled : List ValueRow) (recipient : String) :
    List (AttributeRow × ValueRow) :=
  (rowsOf ⟨.declared, filled⟩ (.ofString recipient)).flatMap fun row =>
    (attributesOf ⟨.declared, defined⟩ ⟨.declared, filled⟩ row).map fun a => (a, row)

theorem joined_eq (defined : List AttributeRow) (filled : List ValueRow) (recipient : String) :
    joined ⟨.declared, defined⟩ ⟨.declared, filled⟩ (.ofString recipient) =
      (links defined filled recipient).map fun (a, row) => (a.name, row.value) := by
  simp only [joined_declared, links, List.map_flatMap, List.map_map]
  rfl

theorem belongs_iff (conforms : tables.Conforms defined filled) {a : AttributeRow} (ha : a ∈ defined)
    {row : ValueRow} : belongs ⟨.declared, defined⟩ ⟨.declared, filled⟩ a row = true ↔ row.attributeId = a.id := by
  obtain ⟨n, hn⟩ := conforms.numbered a ha
  rw [belongs_declared, hn, Bool.and_eq_true, beq_iff_eq]
  constructor
  · rintro ⟨hlevel, whole⟩
    exact Cell.eq_of_integer_matchesCell hlevel whole
  · intro h
    rw [h]
    exact ⟨Cell.matchesCell_integer.2 rfl, rfl⟩

theorem mem_links_iff (conforms : tables.Conforms defined filled) {recipient : String} {a : AttributeRow}
    {row : ValueRow} : (a, row) ∈ links defined filled recipient ↔
      a ∈ defined ∧ row ∈ filled ∧ row.Fills recipient a := by
  simp only [links, rowsOf_declared, attributesOf, List.mem_flatMap, List.mem_map, List.mem_mergeSort, List.mem_filter,
    Cell.matchesCell_eq_true_iff, Prod.mk.injEq]
  constructor
  · rintro ⟨row, ⟨hrow, own⟩, a, ⟨ha, hbelongs⟩, rfl, rfl⟩
    exact ⟨ha, hrow, own, (conforms.belongs_iff ha).1 hbelongs⟩
  · rintro ⟨ha, hrow, own, points⟩
    exact ⟨row, ⟨hrow, own⟩, a, ⟨ha, (conforms.belongs_iff ha).2 points⟩, rfl, rfl⟩

/-- Rows are visited by the numbers of their attributes. -/
theorem pairwise_links (defined : List AttributeRow) (filled : List ValueRow) (recipient : String) :
    (links defined filled recipient).Pairwise fun x y => x.2.attributeId.le y.2.attributeId = true := by
  rw [links, List.pairwise_flatMap]
  constructor
  · intro row _
    exact List.pairwise_map.2 (List.pairwise_of_forall fun _ _ => Cell.le_refl _)
  · have sorted := List.pairwise_mergeSort
      (fun a b c : ValueRow => Cell.le_trans a.attributeId b.attributeId c.attributeId)
      (fun a b : ValueRow => Cell.le_total a.attributeId b.attributeId)
      (filled.filter fun row => row.recipient.matchesCell (.ofString recipient))
    refine sorted.imp fun {row other} hle x hx y hy => ?_
    obtain ⟨a, -, rfl⟩ := List.mem_map.1 hx
    obtain ⟨b, -, rfl⟩ := List.mem_map.1 hy
    exact hle

theorem valuesOf_eq (conforms : tables.Conforms defined filled) (recipient : String) :
    tables.valuesOf recipient =
      (((links defined filled recipient).map fun (a, row) => (a.name, row.value)).mapM readPair).map
        Keyed.ofList := by
  rw [conforms.consist.valuesOf_eq, joined_eq]

theorem valuesOf_eq_ok_iff (conforms : tables.Conforms defined filled) {recipient : String} {values : Values} :
    tables.valuesOf recipient = .ok values ↔ ∃ pairs,
      (links defined filled recipient).map (fun (a, row) => (a.name, row.value)) = pairs.map pairCells ∧
        Keyed.ofList pairs = values := by
  simp only [conforms.valuesOf_eq, map_eq_ok_iff, mapM_eq_ok_iff readPair_eq_ok_iff]

theorem exists_valuesOf_iff (conforms : tables.Conforms defined filled) (recipient : String) :
    (∃ values, tables.valuesOf recipient = .ok values) ↔ ∀ a ∈ defined, ∀ row ∈ filled,
      row.Fills recipient a → a.name.IsText ∧ (row.value = .null ∨ row.value.IsText) := by
  have hread : (∃ values, tables.valuesOf recipient = .ok values) ↔
      ∃ pairs, ((links defined filled recipient).map fun (a, row) => (a.name, row.value)).mapM readPair =
        .ok pairs := by
    simp only [conforms.valuesOf_eq, map_eq_ok_iff]
    rw [exists_comm]
    simp only [exists_and_left, exists_eq', and_true]
  have hoption (c : Cell) : (∃ value, c = .ofOption value) ↔ c = .null ∨ c.IsText := by
    rw [Option.exists]
    exact Iff.rfl
  have hpair (cells : Cell × Cell) : (∃ pair, readPair cells = .ok pair) ↔
      cells.1.IsText ∧ (cells.2 = .null ∨ cells.2.IsText) := by
    simp only [readPair_eq_ok_iff, Prod.exists, pairCells, Prod.ext_iff, exists_and_left, exists_and_right, hoption]
    exact Iff.rfl
  rw [hread, exists_mapM_eq_ok_iff, List.forall_mem_map]
  simp only [hpair, Prod.forall, conforms.mem_links_iff]
  constructor
  · intro h a ha row hrow fills
    exact h a row ⟨ha, hrow, fills⟩
  · rintro h a row ⟨ha, hrow, fills⟩
    exact h a ha row hrow fills

/-- Two rows of one recipient and one attribute are the same. -/
theorem eq_of_fills (conforms : tables.Conforms defined filled) {recipient : String} {a : AttributeRow}
    {row other : ValueRow} (hrow : row ∈ filled) (hother : other ∈ filled) (fills : row.Fills recipient a)
    (fills' : other.Fills recipient a) : row = other := by
  refine List.inj_on_of_nodup_map conforms.keys hrow hother ?_
  rw [fills.own, fills'.own, fills.points, fills'.points]

/-- Of two rows that are the highest for a name each is the other. -/
theorem eq_of_tops (conforms : tables.Conforms defined filled) {recipient name : String} {row other : ValueRow}
    (tops : row.Tops defined filled recipient name) (tops' : other.Tops defined filled recipient name) :
    row = other := by
  obtain ⟨a, ha, hname, fills⟩ := tops.named
  obtain ⟨b, hb, hname', fills'⟩ := tops'.named
  have hba := tops.highest b hb hname' other tops'.mem fills'
  have hab := tops'.highest a ha hname row tops.mem fills
  rw [fills.points] at hba
  rw [fills'.points] at hab
  obtain rfl := conforms.eq_of_le_of_le ha hb hab hba
  exact conforms.eq_of_fills tops.mem tops'.mem fills fills'

/-- Of the rows visited with one name the last one counts, and that is the highest. -/
theorem exists_tops_of_get? (conforms : tables.Conforms defined filled) {recipient : String} {values : Values}
    (h : tables.valuesOf recipient = .ok values) {name : String} {value : Option String}
    (found : values.get? name = some value) :
    ∃ row : ValueRow, row.Tops defined filled recipient name ∧ row.value = .ofOption value := by
  obtain ⟨pairs, hcells, rfl⟩ := conforms.valuesOf_eq_ok_iff.1 h
  rw [Keyed.get?_ofList_eq_lookup, List.lookup_eq_some_iff] at found
  obtain ⟨after, before, hsplit, others⟩ := found
  have hpairs : pairs = before.reverse ++ (name, value) :: after.reverse := by
    rw [← List.reverse_reverse pairs, hsplit]
    simp
  rw [hpairs, List.map_append, List.map_cons] at hcells
  obtain ⟨early, late, hlinks, hearly, hlate⟩ := List.map_eq_append_iff.1 hcells
  obtain ⟨⟨a, row⟩, rest, rfl, hcell, hrest⟩ := List.map_eq_cons_iff.1 hlate
  obtain ⟨hname, hvalue⟩ := Prod.mk.inj hcell
  have hmem : (a, row) ∈ links defined filled recipient := by simp [hlinks]
  obtain ⟨ha, hrow, fills⟩ := conforms.mem_links_iff.1 hmem
  refine ⟨row, ⟨hrow, ⟨a, ha, hname, fills⟩, fun b hb hname' other hother fills' => ?_⟩, hvalue⟩
  have sorted := hlinks ▸ pairwise_links defined filled recipient
  have hlink : (b, other) ∈ early ++ (a, row) :: rest := hlinks ▸ conforms.mem_links_iff.2 ⟨hb, hother, fills'⟩
  rw [← fills'.points]
  rcases List.mem_append.1 hlink with hbefore | hafter
  · exact (List.pairwise_append.1 sorted).2.2 _ hbefore _ List.mem_cons_self
  · rcases List.mem_cons.1 hafter with hsame | hafter
    · rw [(Prod.mk.inj hsame).2]
      exact Cell.le_refl _
    · have hcells' : (b.name, other.value) ∈ after.reverse.map pairCells := hrest ▸ List.mem_map_of_mem hafter
      obtain ⟨pair, hpair, hpairCells⟩ := List.mem_map.1 hcells'
      have hkey : pair.1 = name := Cell.ofString_inj.1 ((Prod.mk.inj hpairCells).1.trans hname')
      have := others pair (List.mem_reverse.1 hpair)
      simp [hkey] at this

/-- What names the keys that a recipient's values have. -/
theorem exists_get?_iff (conforms : tables.Conforms defined filled) {recipient : String} {values : Values}
    (h : tables.valuesOf recipient = .ok values) {name : String} : (∃ value, values.get? name = some value) ↔
      ∃ a ∈ defined, a.name = .ofString name ∧ ∃ row ∈ filled, row.Fills recipient a := by
  obtain ⟨pairs, hcells, rfl⟩ := conforms.valuesOf_eq_ok_iff.1 h
  constructor
  · rintro ⟨value, found⟩
    obtain ⟨row, tops, -⟩ := conforms.exists_tops_of_get? h found
    obtain ⟨a, ha, hname, fills⟩ := tops.named
    exact ⟨a, ha, hname, row, tops.mem, fills⟩
  · rintro ⟨a, ha, hname, row, hrow, fills⟩
    have hcell : (a.name, row.value) ∈ pairs.map pairCells :=
      hcells ▸ List.mem_map_of_mem (conforms.mem_links_iff.2 ⟨ha, hrow, fills⟩)
    obtain ⟨pair, hpair, hpairCells⟩ := List.mem_map.1 hcell
    have hkey : pair.1 = name := Cell.ofString_inj.1 ((Prod.mk.inj hpairCells).1.trans hname)
    cases found : (Keyed.ofList pairs).get? name with
    | some value => exact ⟨value, rfl⟩
    | none =>
      rw [Keyed.get?_ofList_eq_lookup] at found
      have hmiss := List.lookup_eq_none_iff.1 found pair (List.mem_reverse.2 hpair)
      simp [hkey] at hmiss

theorem get?_valuesOf (conforms : tables.Conforms defined filled) {recipient : String} {values : Values}
    (h : tables.valuesOf recipient = .ok values) {name : String} {value : Option String} :
    values.get? name = some value ↔
      ∃ row : ValueRow, row.Tops defined filled recipient name ∧ row.value = .ofOption value := by
  refine ⟨conforms.exists_tops_of_get? h, ?_⟩
  rintro ⟨row, tops, hvalue⟩
  obtain ⟨a, ha, hname, fills⟩ := tops.named
  obtain ⟨other, found⟩ := (conforms.exists_get?_iff h).2 ⟨a, ha, hname, row, tops.mem, fills⟩
  obtain ⟨row', tops', hvalue'⟩ := conforms.exists_tops_of_get? h found
  rw [conforms.eq_of_tops tops tops', hvalue'] at hvalue
  rw [found, Cell.ofOption_injective hvalue]

/-- A recipient without rows has no values, and no cell is read to find that out. -/
theorem valuesOf_of_absent (conforms : tables.Conforms defined filled) {recipient : String}
    (absent : ∀ row ∈ filled, row.recipient ≠ .ofString recipient) :
    tables.valuesOf recipient = .ok .empty := by
  have hnone : links defined filled recipient = [] := by
    refine List.eq_nil_iff_forall_not_mem.2 ?_
    rintro ⟨a, row⟩ hlink
    obtain ⟨-, hrow, fills⟩ := conforms.mem_links_iff.1 hlink
    exact absent row hrow fills.own
  rw [conforms.valuesOf_eq, hnone]
  rfl

theorem links_congr (defined : List AttributeRow) {filled filled' : List ValueRow} {recipient : String}
    (own : (filled'.filter fun row => row.recipient = .ofString recipient) =
      (filled.filter fun row => row.recipient = .ofString recipient)) :
    links defined filled' recipient = links defined filled recipient := by
  have hrows (filled : List ValueRow) : rowsOf ⟨.declared, filled⟩ (.ofString recipient) =
      (filled.filter fun row => row.recipient = .ofString recipient).mergeSort
        fun a b => a.attributeId.le b.attributeId := by
    have hfilter : (filled.filter fun row => row.recipient.matchesCell (.ofString recipient)) =
        filled.filter fun row => row.recipient = .ofString recipient := by
      refine List.filter_congr fun row _ => ?_
      rw [Bool.eq_iff_iff, decide_eq_true_iff]
      exact Cell.matchesCell_eq_true_iff
    rw [rowsOf_declared, hfilter]
  rw [links, links, hrows, hrows, own]
  rfl

end Conforms

end Tables

namespace Database

variable {db : Database} {tables : Tables}

theorem ask_eq (read : db.tables = .ok tables) {α : Type} (question : Tables → Except QueryFault α) :
    db.ask question = (question tables).mapError .query := by
  rw [ask, read]
  rfl

theorem ask_eq_ok_iff (read : db.tables = .ok tables) {α : Type} {question : Tables → Except QueryFault α}
    {a : α} : db.ask question = .ok a ↔ question tables = .ok a := by
  rw [ask_eq read, mapError_eq_ok_iff]

/-- What a database with these rows answers, and how its answers fit together. -/
structure Answers (db : Database) (defined : List AttributeRow) (filled : List ValueRow) : Prop where
  /-- The directory is read if all its names are. -/
  names_iff : (∃ names, db.names = .ok names) ↔ ∀ a ∈ defined, a.name.IsText
  ids_iff : (∃ ids, db.ids = .ok ids) ↔ ∀ row ∈ filled, row.recipient.IsText
  /-- Of a recipient's rows only those count whose attributes exist. -/
  values_iff : ∀ recipient, (∃ values, db.valuesOf recipient = .ok values) ↔
    ∀ a ∈ defined, ∀ row ∈ filled, row.Fills recipient a →
      a.name.IsText ∧ (row.value = .null ∨ row.value.IsText)
  /-- Every attribute is listed, and once. -/
  names : ∀ names, db.names = .ok names → ∃ listed : List AttributeRow, listed.Perm defined ∧
    listed.Pairwise AttributeRow.Precedes ∧ listed.map AttributeRow.name = names.map Cell.ofString
  increasing : ∀ ids, db.ids = .ok ids →
    ids.Pairwise fun s t => compareBytes (Text.encodeUtf8 s) (Text.encodeUtf8 t) = .lt
  /-- The recipients are those with a row, whether or not its attribute exists. -/
  ids : ∀ ids, db.ids = .ok ids → ∀ recipient,
    recipient ∈ ids ↔ ∃ row ∈ filled, row.recipient = .ofString recipient
  /-- A name has what the highest of its attributes has. -/
  values : ∀ recipient values, db.valuesOf recipient = .ok values → ∀ name value,
    values.get? name = some value ↔
      ∃ row : ValueRow, row.Tops defined filled recipient name ∧ row.value = .ofOption value
  keys : ∀ recipient values, db.valuesOf recipient = .ok values → ∀ name,
    (∃ value, values.get? name = some value) ↔
      ∃ a ∈ defined, a.name = .ofString name ∧ ∃ row ∈ filled, row.Fills recipient a
  listed : ∀ names, db.names = .ok names → ∀ recipient values, db.valuesOf recipient = .ok values →
    ∀ name value, values.get? name = some value → name ∈ names
  unknown : ∀ ids, db.ids = .ok ids → ∀ recipient, recipient ∉ ids → db.valuesOf recipient = .ok .empty
  /-- Rows of other recipients have no say in a recipient's values. -/
  own : ∀ (other : Database) (tables : Tables) (filled' : List ValueRow) (recipient : String),
    other.tables = .ok tables → tables.Conforms defined filled' →
    (filled'.filter fun row => row.recipient = .ofString recipient) =
      (filled.filter fun row => row.recipient = .ofString recipient) →
    other.valuesOf recipient = db.valuesOf recipient

/-- The answers are put together from those of the tables. -/
theorem answers_of_rows {defined : List AttributeRow} {filled : List ValueRow} (read : db.tables = .ok tables)
    (conforms : tables.Conforms defined filled) : db.Answers defined filled where
  names_iff := by
    simp only [names, ask_eq_ok_iff read]
    exact conforms.exists_names_iff
  ids_iff := by
    simp only [ids, ask_eq_ok_iff read]
    exact conforms.exists_ids_iff
  values_iff recipient := by
    simp only [valuesOf, ask_eq_ok_iff read]
    exact conforms.exists_valuesOf_iff recipient
  names names h := conforms.exists_listed ((ask_eq_ok_iff read).1 h)
  increasing ids h := conforms.ids_increase ((ask_eq_ok_iff read).1 h)
  ids ids h recipient := conforms.mem_ids_iff ((ask_eq_ok_iff read).1 h)
  values recipient values h name value := conforms.get?_valuesOf ((ask_eq_ok_iff read).1 h)
  keys recipient values h name := conforms.exists_get?_iff ((ask_eq_ok_iff read).1 h)
  listed names h recipient values h' name value found := by
    obtain ⟨a, ha, hname, -⟩ :=
      (conforms.exists_get?_iff ((ask_eq_ok_iff read).1 h')).1 ⟨value, found⟩
    obtain ⟨listed, hperm, -, hcells⟩ := conforms.exists_listed ((ask_eq_ok_iff read).1 h)
    have hcell : Cell.ofString name ∈ names.map Cell.ofString := by
      rw [← hcells, ← hname]
      exact List.mem_map_of_mem (hperm.mem_iff.2 ha)
    exact (List.mem_map_of_injective fun _ _ => Cell.ofString_inj.1).1 hcell
  unknown ids h recipient absent := by
    refine (ask_eq_ok_iff read).2 (conforms.valuesOf_of_absent fun row hrow own => absent ?_)
    exact (conforms.mem_ids_iff ((ask_eq_ok_iff read).1 h)).2 ⟨row, hrow, own⟩
  own other tables' filled' recipient read' conforms' same := by
    rw [valuesOf, valuesOf, ask_eq read, ask_eq read', conforms.valuesOf_eq, conforms'.valuesOf_eq,
      Tables.Conforms.links_congr defined same]

/-- Each lookup reads all that it selects or nothing, and what it gives follows from the rows. -/
theorem answers_of_conforms {defined : List AttributeRow} {filled : List ValueRow}
    (read : db.tables = .ok tables) (conforms : tables.Conforms defined filled) : db.Answers defined filled :=
  answers_of_rows read conforms

/-- Two attributes share a name, one has a blob for a name, and one is gone whose value is no UTF-8. -/
theorem answers_of_conforms_namesakes :
    let defined : List AttributeRow := [⟨.integer 1, .ofString "Name", .integer 2⟩,
      ⟨.integer 2, .ofString "Name", .integer 1⟩, ⟨.integer 4, .blob [0xff], .integer 0⟩]
    let filled : List ValueRow := [⟨.ofString "bob", .integer 4, .null⟩,
      ⟨.ofString "ann", .integer 2, .ofString "Anna"⟩, ⟨.ofString "ann", .integer 1, .ofString "Ann"⟩,
      ⟨.ofString "ann", .integer 3, .text [0xff]⟩]
    let tables : Tables := { named := .ofList [
      ("attributes", TableName.attributes.declared (defined.map AttributeRow.cells)),
      ("recipient_attributes", TableName.values.declared (filled.map ValueRow.cells))] }
    let db : Database := { path := "subscribers.sqlite", state := .file (.database tables) }
    db.tables = .ok tables ∧ tables.Conforms defined filled ∧ (¬ ∃ names, db.names = .ok names) ∧
      (∃ ids, db.ids = .ok ids ∧ "ann" ∈ ids ∧ "cid" ∉ ids) ∧ db.valuesOf "cid" = .ok .empty ∧
      (¬ ∃ values, db.valuesOf "bob" = .ok values) ∧
      ∃ values, db.valuesOf "ann" = .ok values ∧ values.get? "Name" = some (some "Anna") := by
  intro defined filled tables db
  have read : db.tables = .ok tables := by
    have here : db.target = .here := target_eq_here (by decide) (by decide)
    exact tables_eq_ok_iff.2 ⟨rfl, none, by rw [opened_of_here here, PathState.open]⟩
  have conforms : tables.Conforms defined filled := ⟨⟨rfl, rfl⟩, by simp [defined], by decide, by decide⟩
  have answers := answers_of_conforms read conforms
  obtain ⟨ids, hids⟩ := answers.ids_iff.2 (by decide)
  obtain ⟨values, hvalues⟩ := (answers.values_iff "ann").2 (by decide)
  have stranger : "cid" ∉ ids := mt (answers.ids ids hids "cid").1 (by decide)
  refine ⟨read, conforms, mt answers.names_iff.1 (by decide), ⟨ids, hids, ?_, stranger⟩,
    answers.unknown ids hids "cid" stranger, mt (answers.values_iff "bob").1 (by decide), values, hvalues, ?_⟩
  · exact (answers.ids ids hids "ann").2 (by decide)
  · have anna : (⟨.ofString "ann", .integer 2, .ofString "Anna"⟩ : ValueRow).Tops defined filled "ann" "Name" := by
      decide
    exact (answers.values "ann" values hvalues "Name" (some "Anna")).2 ⟨_, anna, rfl⟩

end Database

end SubjectMerge
