import Mathlib.Data.List.Induction
import Mathlib.Data.List.Nodup
import SubjectMerge.Proofs.Results
import SubjectMerge.Proofs.Store.Cells
import SubjectMerge.Proofs.Store.Queries
import SubjectMerge.Text.UpperCase

/-! What a declared database holds, row by row: attributes with their ids, names and places in the list, and the
values that recipients have of them. The directory lists the attributes by their places, and a recipient's
values are found under the names of the attributes that the rows point to. -/

namespace SubjectMerge

/-- An attribute as its row gives it. -/
structure Attribute where
  id : Int
  name : String
  listOrder : Int
  deriving DecidableEq, Repr

/-- A recipient's value of one attribute, which may be null. -/
structure Stored where
  recipient : String
  attributeId : Int
  value : Option String
  deriving DecidableEq, Repr

def Attribute.row (a : Attribute) : AttributeRow := ⟨.integer a.id, .ofString a.name, .integer a.listOrder⟩

def Stored.row (s : Stored) : ValueRow := ⟨.ofString s.recipient, .integer s.attributeId, .ofOption s.value⟩

/-- One attribute stands before another in the directory. -/
def Attribute.precedes (a b : Attribute) : Bool :=
  a.listOrder < b.listOrder || (a.listOrder == b.listOrder && a.id < b.id)

/-- The first attribute of the directory with these capitals: no other that has them precedes it. -/
def firstListed? (attributes : List Attribute) (capitals : String) : Option Attribute :=
  attributes.find? fun a => Text.upper a.name == capitals &&
    attributes.all fun b => !(Text.upper b.name == capitals && b.precedes a)

/-- What a recipient has of an attribute: none without a row, and a null in the row. -/
def storedValue? (stored : List Stored) (recipient : String) (attributeId : Int) : Option (Option String) :=
  (stored.find? fun s => s.recipient == recipient && s.attributeId == attributeId).map Stored.value

/-- The rows of the two tables. -/
structure Database.Holds (db : Database) (attributes : List Attribute) (stored : List Stored) : Prop where
  tables : ∃ tables, db.tables = .ok tables ∧
    (tables.table? .attributes).map DataTable.content =
      some (.ok ((attributes.map Attribute.row).map AttributeRow.cells)) ∧
    (tables.table? .values).map DataTable.content = some (.ok ((stored.map Stored.row).map ValueRow.cells))

/-- Tables with their keys that hold these rows. -/
structure Tables.Keep (tables : Tables) (attributes : List Attribute) (stored : List Stored) : Prop where
  consist : tables.Consist (attributes.map Attribute.row) (stored.map Stored.row)
  ids : (attributes.map Attribute.id).Nodup
  keys : (stored.map fun s => (s.recipient, s.attributeId)).Nodup

theorem Attribute.sameKey_row {a b : Attribute} :
    (TableName.attributes.declared []).sameKey (.number "id") a.row.cells b.row.cells = true ↔ a.id = b.id := by
  have hkey : (TableName.attributes.declared []).sameKey (.number "id") a.row.cells b.row.cells =
      ((Cell.integer a.id).matchesCell (.integer b.id) && true) := rfl
  rw [hkey, Bool.and_true, Cell.matchesCell_integer]

theorem Stored.sameKey_row {s t : Stored} :
    (TableName.values.declared []).sameKey (.unique ["recipient_id", "attribute_id"]) s.row.cells t.row.cells = true ↔
      (s.recipient, s.attributeId) = (t.recipient, t.attributeId) := by
  have hkey : (TableName.values.declared []).sameKey (.unique ["recipient_id", "attribute_id"]) s.row.cells
        t.row.cells =
      ((Cell.ofString s.recipient).matchesCell (.ofString t.recipient) &&
        ((Cell.integer s.attributeId).matchesCell (.integer t.attributeId) && true)) := rfl
  rw [hkey, Bool.and_true, Bool.and_eq_true, Cell.matchesCell_ofString, Cell.matchesCell_integer, Prod.mk.injEq]

/-- Rows that are told apart by a key have it once each. -/
theorem TableName.Sound.nodup_map {name : TableName} {α κ : Type} {l : List α} {toRow : α → Row} {keyOf : α → κ}
    (h : name.Sound (l.map toRow)) {key : Key} (hkey : key ∈ name.keys)
    (same : ∀ a b, keyOf a = keyOf b → (name.declared []).sameKey key (toRow a) (toRow b) = true) :
    (l.map keyOf).Nodup := by
  refine List.pairwise_map.2 ((List.pairwise_map.1 (h.apart key hkey)).imp fun apart equal => ?_)
  rw [same _ _ equal] at apart
  cases apart

theorem Database.tables_eq_ok_iff {db : Database} {tables : Tables} : db.tables = .ok tables ↔
    db.fileExists = true ∧ ∃ changeFault, db.opened.open db.path = .ok (.database tables changeFault) := by
  unfold Database.tables
  split
  · next exist => split <;> simp_all
  · next missing => simp [missing]

/-- What is read of a database without a file of its own has no tables. -/
theorem Database.tables_of_nowhere {db : Database} {tables : Tables} (nowhere : db.target = .nowhere)
    (read : db.tables = .ok tables) : tables = {} := by
  obtain ⟨-, changeFault, opened⟩ := tables_eq_ok_iff.1 read
  simp only [Database.opened, nowhere, PathState.open, Except.ok.injEq, FileContent.database.injEq] at opened
  exact opened.1.symm

theorem Database.Declared.of_tables {db : Database} (h : db.Declared) {tables : Tables}
    (read : db.tables = .ok tables) : tables.Declared := by
  obtain ⟨tables', changeFault, opened, declared⟩ := h
  obtain ⟨-, changeFault', hopen⟩ := tables_eq_ok_iff.1 read
  rw [opened, PathState.open] at hopen
  cases hopen
  exact declared

/-- What is read of a database that `init` made is declared, or nothing of it is left. -/
theorem Database.Built.declared_or_eq_empty {db : Database} (built : db.Built) {tables : Tables}
    (read : db.tables = .ok tables) : tables.Declared ∨ tables = {} := by
  by_cases nowhere : db.target = .nowhere
  · exact .inr (tables_of_nowhere nowhere read)
  · exact .inl ((built.declared nowhere).of_tables read)

/-- The keys that a database was declared with hold of what is in it. -/
theorem Database.Built.keep {db : Database} (built : db.Built) {attributes : List Attribute}
    {stored : List Stored} (holds : db.Holds attributes stored) :
    ∃ tables, db.tables = .ok tables ∧ tables.Keep attributes stored := by
  obtain ⟨tables, read, hrows, hrows'⟩ := holds.tables
  rcases built.declared_or_eq_empty read with declared | rfl
  · obtain ⟨rows, hattributes, sound⟩ := declared .attributes
    obtain ⟨rows', hvalues, sound'⟩ := declared .values
    rw [hattributes] at hrows
    rw [hvalues] at hrows'
    obtain rfl := Except.ok.inj (Option.some.inj hrows)
    obtain rfl := Except.ok.inj (Option.some.inj hrows')
    rw [List.map_map] at sound sound'
    exact ⟨tables, read, ⟨hattributes, hvalues⟩,
      sound.nodup_map List.mem_cons_self fun _ _ => Attribute.sameKey_row.2,
      sound'.nodup_map List.mem_cons_self fun _ _ => Stored.sameKey_row.2⟩
  · cases hrows

/-! Maps made of pairs. -/

theorem Keyed.get?_ofList_eq_lookup {α : Type} (entries : List (String × α)) (key : String) :
    (ofList entries).get? key = entries.reverse.lookup key := by
  induction entries using List.reverseRecOn with
  | nil => rfl
  | append_singleton entries entry ih =>
    rw [List.reverse_append, List.reverse_singleton, List.singleton_append, List.lookup_cons, ← ih, ofList,
      List.foldl_concat, get?_insert]
    by_cases h : key = entry.1
    · simp [h]
    · simp [h, beq_eq_false_iff_ne.2 h, ofList]

theorem Keyed.mem_of_get?_ofList {α : Type} {entries : List (String × α)} {key : String} {value : α}
    (h : (ofList entries).get? key = some value) : (key, value) ∈ entries := by
  rw [get?_ofList_eq_lookup] at h
  obtain ⟨before, after, hsplit, -⟩ := List.lookup_eq_some_iff.1 h
  exact List.mem_reverse.1 (hsplit ▸ List.mem_append_right _ List.mem_cons_self)

/-- Where all entries of a key agree, that is what it has. -/
theorem Keyed.get?_ofList {α : Type} {entries : List (String × α)} {key : String} {found : Option α}
    (h : ∀ value, (key, value) ∈ entries ↔ found = some value) : (ofList entries).get? key = found := by
  cases hget : (ofList entries).get? key with
  | some value => exact ((h value).1 (mem_of_get?_ofList hget)).symm
  | none =>
    cases found with
    | none => rfl
    | some value =>
      rw [get?_ofList_eq_lookup] at hget
      have hmem := List.mem_reverse.2 ((h value).2 rfl)
      have hmiss := List.lookup_eq_none_iff.1 hget (key, value) hmem
      simp at hmiss

/-! The directory. -/

/-- In a sorted list nothing precedes the first hit but what is no hit. -/
theorem le_of_find?_eq_some {α : Type} {le : α → α → Bool} (refl : ∀ a, le a a = true) {sorted : List α}
    (h : sorted.Pairwise fun a b => le a b = true) {hit : α → Bool} {m : α}
    (found : sorted.find? hit = some m) : ∀ b ∈ sorted, hit b = true → le m b = true := by
  obtain ⟨-, before, after, rfl, hmiss⟩ := List.find?_eq_some_iff_append.1 found
  intro b hb hhit
  rcases List.mem_append.1 hb with hearly | hlate
  · have := hmiss b hearly
    simp [hhit] at this
  · rcases List.mem_cons.1 hlate with rfl | hlate
    · exact refl b
    · exact (List.pairwise_cons.1 (List.pairwise_append.1 h).2.1).1 b hlate

/-- The first hit of a sorted list is the hit that no other precedes. -/
theorem find?_mergeSort {α : Type} {precedes : α → α → Bool} {l : List α} (hit : α → Bool)
    (trans : ∀ a b c, !precedes b a → !precedes c b → !precedes c a)
    (total : ∀ a b, (!precedes b a || !precedes a b) = true)
    (antisymm : ∀ a ∈ l, ∀ b ∈ l, !precedes b a → !precedes a b → a = b) :
    (l.mergeSort fun a b => !precedes b a).find? hit =
      l.find? fun a => hit a && l.all fun b => !(hit b && precedes b a) := by
  have sorted : (l.mergeSort fun a b => !precedes b a).Pairwise fun a b => (!precedes b a) = true :=
    List.pairwise_mergeSort trans total l
  cases hfound : (l.mergeSort fun a b => !precedes b a).find? hit with
  | none =>
    have hmiss := List.find?_eq_none.1 hfound
    refine (List.find?_eq_none.2 fun a ha => ?_).symm
    simp [hmiss a (List.mem_mergeSort.2 ha)]
  | some m =>
    have hhit : hit m = true := List.find?_some hfound
    have hm : m ∈ l := List.mem_mergeSort.1 (List.mem_of_find?_eq_some hfound)
    have least : ∀ b ∈ l, hit b = true → precedes b m = false := fun b hb hhitb => by
      simpa using le_of_find?_eq_some (fun a => by simpa using total a a) sorted hfound b
        (List.mem_mergeSort.2 hb) hhitb
    cases hfirst : l.find? fun a => hit a && l.all fun b => !(hit b && precedes b a) with
    | none =>
      have hno := List.find?_eq_none.1 hfirst m hm
      simp only [hhit, Bool.true_and, List.all_eq_true, Bool.not_eq_true', Bool.and_eq_false_imp] at hno
      exact absurd least hno
    | some n =>
      have hn := List.mem_of_find?_eq_some hfirst
      have hleast := List.find?_some hfirst
      simp only [Bool.and_eq_true, List.all_eq_true, Bool.not_eq_true', Bool.and_eq_false_imp] at hleast
      obtain ⟨hhitn, hleast⟩ := hleast
      rw [antisymm m hm n hn (by simp [least n hn hhitn]) (by simp [hleast m hm hhit])]

theorem Attribute.precedes_iff {a b : Attribute} : a.precedes b = true ↔
    a.listOrder < b.listOrder ∨ a.listOrder = b.listOrder ∧ a.id < b.id := by
  simp [precedes]

namespace Tables.Keep

variable {tables : Tables} {attributes : List Attribute} {stored : List Stored}

theorem directoryOrder_row (a b : Attribute) : directoryOrder a.row b.row = !b.precedes a := by
  have hcompare : a.row.listOrder.compare b.row.listOrder = Ord.compare a.listOrder b.listOrder := rfl
  have hid : a.row.id.le b.row.id = (Ord.compare a.id b.id != .gt) := rfl
  rw [Bool.eq_iff_iff, Bool.not_eq_true', ← Bool.not_eq_true, Attribute.precedes_iff, directoryOrder, hcompare,
    hid]
  rcases Int.lt_trichotomy a.listOrder b.listOrder with h | h | h
  · simp only [Int.compare_eq_lt.2 h, true_iff]
    omega
  · simp only [h, Int.compare_eq_eq.2 rfl, bne_iff_ne, ne_eq, Int.compare_eq_gt, Int.lt_irrefl, true_and,
      false_or]
  · simp only [Int.compare_eq_gt.2 h, Bool.false_eq_true, false_iff]
    omega

theorem names_eq (keep : tables.Keep attributes stored) : tables.names =
    .ok ((attributes.mergeSort fun a b => !b.precedes a).map Attribute.name) := by
  have hsorted := List.map_mergeSort (s := directoryOrder) (l := attributes) (f := Attribute.row)
    (r := fun a b => !b.precedes a) fun a _ b _ => (directoryOrder_row a b).symm
  rw [keep.consist.names_eq, ← hsorted, List.mapM_map, List.mapM_map]
  exact mapM_eq_ok fun a _ => Cell.readText_ofString 0 "name" a.name

/-- Names are found in the directory as attributes are found by their places. -/
theorem directoryName?_eq (keep : tables.Keep attributes stored) {names : List String}
    (read : tables.names = .ok names) (capitals : String) :
    directoryName? names capitals = (firstListed? attributes capitals).map Attribute.name := by
  obtain rfl := Except.ok.inj (read.symm.trans keep.names_eq)
  rw [directoryName?, List.find?_map, firstListed?]
  refine congrArg (Option.map Attribute.name) (find?_mergeSort _ ?_ ?_ ?_)
  all_goals simp only [Bool.not_eq_true', ← Bool.not_eq_true, Bool.or_eq_true, Attribute.precedes_iff]
  · omega
  · omega
  · intro a ha b hb hab hba
    exact List.inj_on_of_nodup_map keep.ids ha hb (by omega)

/-! The values of a recipient. -/

/-- An attribute's id and a row's point to each other where they are the same. -/
theorem belongs_row (a : Attribute) (s : Stored) {as : List AttributeRow} {vs : List ValueRow} :
    belongs ⟨.declared, as⟩ ⟨.declared, vs⟩ a.row s.row = true ↔ s.attributeId = a.id := by
  have hmatch : (Cell.integer a.id).matchesCell (.integer s.attributeId) = true ↔ s.attributeId = a.id :=
    Cell.matchesCell_integer.trans eq_comm
  simpa [belongs_declared, Attribute.row, Stored.row, Cell.kind] using hmatch

theorem mem_joined {recipient : String} {cells : Cell × Cell} :
    cells ∈ joined ⟨.declared, attributes.map Attribute.row⟩ ⟨.declared, stored.map Stored.row⟩
        (.ofString recipient) ↔
      ∃ s ∈ stored, ∃ a ∈ attributes, s.recipient = recipient ∧ s.attributeId = a.id ∧
        cells = (.ofString a.name, .ofOption s.value) := by
  simp only [joined_declared, rowsOf_declared, attributesOf, List.mem_flatMap, List.mem_mergeSort, List.mem_filter, List.mem_map]
  constructor
  · rintro ⟨_, ⟨⟨s, hs, rfl⟩, hrecipient⟩, _, ⟨⟨a, ha, rfl⟩, hbelongs⟩, rfl⟩
    exact ⟨s, hs, a, ha, Cell.matchesCell_ofString.1 hrecipient, (belongs_row a s).1 hbelongs, rfl⟩
  · rintro ⟨s, hs, a, ha, hrecipient, hid, rfl⟩
    exact ⟨s.row, ⟨⟨s, hs, rfl⟩, Cell.matchesCell_ofString.2 hrecipient⟩, a.row,
      ⟨⟨a, ha, rfl⟩, (belongs_row a s).2 hid⟩, rfl⟩

/-- As a recipient has one row of an attribute at most, the row is found by its key. -/
theorem storedValue?_eq_some_iff (keep : tables.Keep attributes stored) {recipient : String} {id : Int}
    {value : Option String} : storedValue? stored recipient id = some value ↔
      ∃ s ∈ stored, s.recipient = recipient ∧ s.attributeId = id ∧ s.value = value := by
  rw [storedValue?, Option.map_eq_some_iff]
  constructor
  · rintro ⟨s, hfound, rfl⟩
    have hkey := List.find?_some hfound
    simp only [Bool.and_eq_true, beq_iff_eq] at hkey
    exact ⟨s, List.mem_of_find?_eq_some hfound, hkey.1, hkey.2, rfl⟩
  · rintro ⟨s, hs, hrecipient, hid, rfl⟩
    cases hfound : stored.find? fun s => s.recipient == recipient && s.attributeId == id with
    | none =>
      have hmiss := List.find?_eq_none.1 hfound s hs
      simp [hrecipient, hid] at hmiss
    | some t =>
      have hkey := List.find?_some hfound
      simp only [Bool.and_eq_true, beq_iff_eq] at hkey
      have hsame : t = s := by
        refine List.inj_on_of_nodup_map keep.keys (List.mem_of_find?_eq_some hfound) hs ?_
        rw [hkey.1, hkey.2, hrecipient, hid]
      exact ⟨t, rfl, congrArg Stored.value hsame⟩

theorem readPair_ofString (name : String) (value : Option String) :
    readPair (.ofString name, .ofOption value) = .ok (name, value) := by
  simp [readPair, Cell.readText_ofString, Cell.readOptionalText_ofOption, bind, Except.bind, pure, Except.pure]

/-- A recipient's values are always read. Under an attribute's name stands what the recipient has of that very
attribute, if no two attributes are spelled alike. -/
theorem exists_valuesOf (keep : tables.Keep attributes stored)
    (spelled : (attributes.map Attribute.name).Nodup) (recipient : String) :
    ∃ values, tables.valuesOf recipient = .ok values ∧
      ∀ a ∈ attributes, values.get? a.name = storedValue? stored recipient a.id := by
  have readable : ∀ cells ∈ joined ⟨.declared, attributes.map Attribute.row⟩ ⟨.declared, stored.map Stored.row⟩
      (.ofString recipient), ∃ pair, readPair cells = .ok pair := by
    intro cells hcells
    obtain ⟨s, -, a, -, -, -, rfl⟩ := mem_joined.1 hcells
    exact ⟨(a.name, s.value), readPair_ofString a.name s.value⟩
  obtain ⟨pairs, hpairs⟩ := exists_mapM_eq_ok_iff.2 readable
  refine ⟨.ofList pairs, by rw [keep.consist.valuesOf_eq, hpairs, Except.map], fun a ha => ?_⟩
  refine Keyed.get?_ofList fun value => ?_
  rw [mem_iff_of_mapM hpairs, keep.storedValue?_eq_some_iff]
  constructor
  · rintro ⟨cells, hcells, hread⟩
    obtain ⟨s, hs, b, hb, hrecipient, hid, rfl⟩ := mem_joined.1 hcells
    obtain ⟨hname, hvalue⟩ := Prod.mk.inj (Except.ok.inj ((readPair_ofString b.name s.value).symm.trans hread))
    obtain rfl := List.inj_on_of_nodup_map spelled hb ha hname
    exact ⟨s, hs, hrecipient, hid, hvalue⟩
  · rintro ⟨s, hs, hrecipient, hid, rfl⟩
    exact ⟨_, mem_joined.2 ⟨s, hs, a, ha, hrecipient, hid, rfl⟩, readPair_ofString a.name s.value⟩

end Tables.Keep

end SubjectMerge
