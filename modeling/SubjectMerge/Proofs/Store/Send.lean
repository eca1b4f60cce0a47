import SubjectMerge.Proofs.Store.Contents
import SubjectMerge.Proofs.Subject.Render

/-! From the rows to the text that goes out. The directory is searched by capitals and its first hit counts,
while values are kept under exact names; what a token becomes can all the same be read off two rows, that of the
first attribute with the token's capitals and the recipient's row for its id. -/

namespace SubjectMerge

/-- What a token becomes for a recipient, if some attribute has its capitals. -/
def Token.mergedFor? (t : Token) (attributes : List Attribute) (stored : List Stored) (recipient : String) :
    Option (List Char) :=
  (firstListed? attributes (Text.upper (String.ofList t.name))).map fun a =>
    let text := t.textFor (storedValue? stored recipient a.id)
    (if t.lead ∨ t.tail then Text.upper text else text).toList

/-- A subject with every token replaced that some attribute's name answers to. -/
def merged (attributes : List Attribute) (stored : List Stored) (recipient subject : String) : String :=
  String.ofList <|
    renderFrom (fun t => (t.mergedFor? attributes stored recipient).getD t.chars) 0 subject.toList

/-- A row that can have a say: it is the recipient's own, and its attribute is the first one listed with its
capitals. -/
def Stored.counts (attributes : List Attribute) (recipient : String) (s : Stored) : Bool :=
  s.recipient == recipient && attributes.any fun a =>
    a.id == s.attributeId && firstListed? attributes (Text.upper a.name) == some a

theorem mem_of_firstListed? {attributes : List Attribute} {capitals : String} {a : Attribute}
    (h : firstListed? attributes capitals = some a) : a ∈ attributes ∧ Text.upper a.name = capitals := by
  have hfound := List.find?_some h
  simp only [Bool.and_eq_true, beq_iff_eq] at hfound
  exact ⟨List.mem_of_find?_eq_some h, hfound.1⟩

/-- The row of the first attribute listed with its capitals has a say. -/
theorem storedValue?_filter_counts {attributes : List Attribute} {a : Attribute}
    (first : firstListed? attributes (Text.upper a.name) = some a) (stored : List Stored) (recipient : String) :
    storedValue? (stored.filter (Stored.counts attributes recipient)) recipient a.id =
      storedValue? stored recipient a.id := by
  rw [storedValue?, storedValue?, List.find?_filter]
  congr 2
  funext s
  rw [Bool.eq_iff_iff, decide_eq_true_eq]
  refine and_iff_right_of_imp fun hkey => ?_
  simp only [Bool.and_eq_true, beq_iff_eq] at hkey
  simp only [Stored.counts, Bool.and_eq_true, beq_iff_eq, List.any_eq_true]
  exact ⟨hkey.1, a, (mem_of_firstListed? first).1, hkey.2.symm, first⟩

/-- Rows of deleted attributes, of other recipients and of other spellings have no say. -/
theorem merged_filter_counts (attributes : List Attribute) (stored : List Stored) (recipient subject : String) :
    merged attributes (stored.filter (Stored.counts attributes recipient)) recipient subject =
      merged attributes stored recipient subject := by
  have htoken (t : Token) :
      t.mergedFor? attributes (stored.filter (Stored.counts attributes recipient)) recipient =
        t.mergedFor? attributes stored recipient := by
    unfold Token.mergedFor?
    cases first : firstListed? attributes (Text.upper (String.ofList t.name)) with
    | none => rfl
    | some a =>
      rw [← (mem_of_firstListed? first).2] at first
      simp only [Option.map_some, storedValue?_filter_counts first]
  simp only [merged, htoken]

/-- What names and values read from the tables make of a token is what its two rows say. -/
theorem renderedFor?_eq_mergedFor? {tables : Tables} {attributes : List Attribute} {stored : List Stored}
    (keep : tables.Keep attributes stored) {names : List String} (listed : tables.names = .ok names)
    {recipient : String} {values : Values}
    (found : ∀ a ∈ attributes, values.get? a.name = storedValue? stored recipient a.id) (t : Token) :
    t.renderedFor? names values = t.mergedFor? attributes stored recipient := by
  have hname := keep.directoryName?_eq listed (Text.upper (String.ofList t.name))
  simp only [directoryName?, beq_eq_decide] at hname
  rw [Token.renderedFor?, Token.mergedFor?, hname, Option.map_map]
  cases hfirst : firstListed? attributes (Text.upper (String.ofList t.name)) with
  | none => rfl
  | some a => simp only [Option.map_some, Function.comp_apply, found a (mem_of_firstListed? hfirst).1]

theorem Store.send_eq {store : Store} {names : List String} {recipient : String} {values : Values}
    (listed : store.names = .ok names) (found : store.lookUp recipient = .found values) (subject : String) :
    store.send recipient subject = .ok (((Table.ofSubject names subject).bind values).fill subject) := by
  have hfill : ((store.resolve (Table.ofSubject names subject) recipient).bound.toOption.getD
      (Table.ofSubject names subject)).fill subject =
      ((Table.ofSubject names subject).bind values).fill subject := by
    cases hempty : (Table.ofSubject names subject).isEmpty with
    | true =>
      have hbound : ((Table.ofSubject names subject).bind values).isEmpty := by
        simpa [Table.isEmpty, Table.bind] using hempty
      simp [resolve, hempty, Except.toOption, Table.fill_of_isEmpty hempty, Table.fill_of_isEmpty hbound]
    | false => simp [resolve, hempty, found, Except.toOption]
  simp only [send, listed, bind, Except.bind, hfill, pure, Except.pure]

/-- A subject goes out with the recipient's own values, row by row, from any database that `init` made. -/
theorem Database.send_of_built {db : Database} (built : db.Built) {attributes : List Attribute}
    {stored : List Stored} (holds : db.Holds attributes stored)
    (spelled : (attributes.map Attribute.name).Nodup) (recipient subject : String) :
    db.store.send recipient subject = .ok (merged attributes stored recipient subject) ∧
      merged attributes (stored.filter (Stored.counts attributes recipient)) recipient subject =
        merged attributes stored recipient subject := by
  refine ⟨?_, merged_filter_counts attributes stored recipient subject⟩
  obtain ⟨tables, read, keep⟩ := built.keep holds
  obtain ⟨values, asked, found⟩ := keep.exists_valuesOf spelled recipient
  obtain ⟨names, named⟩ : ∃ names, tables.names = .ok names := ⟨_, keep.names_eq⟩
  have listed : db.store.names = .ok names := by
    simp only [store, Database.names, ask, read, bind, Except.bind, named, Except.mapError]
  have looked : db.store.lookUp recipient = .found values := by
    simp only [store, valuesOf, ask, read, bind, Except.bind, asked, Except.mapError]
  rw [Store.send_eq listed looked, Table.fill, merged]
  congr 2
  refine fillChars_eq_renderFrom _ fun t ht => ?_
  obtain ⟨wf, hsub⟩ := mem_tokensOf_iff.1 ht
  rw [fillPiece_token wf, if_pos hsub, renderedFor?_eq_mergedFor? keep named found]

/-- One name is spelled in two ways, and an attribute that had a value was deleted. -/
theorem Database.send_of_built_namesakes :
    let attributes : List Attribute := [⟨1, "Name", 2⟩, ⟨2, "NAME", 1⟩]
    let stored : List Stored := [⟨"ann", 1, some "Ann"⟩, ⟨"ann", 2, some "Anna"⟩, ⟨"ann", 3, some "Rome"⟩,
      ⟨"bob", 2, some "NULL"⟩, ⟨"bob", 1, some "Bob"⟩]
    ∃ db : Database, db.Built ∧ db.Holds attributes stored ∧ (attributes.map Attribute.name).Nodup ∧
      db.store.send "ann" "[name!], [City?there]" = .ok "ANNA, [City?there]" ∧
      db.store.send "bob" "[name?you], [Name]" = .ok "you, NULL" := by
  intro attributes stored
  let city : Attribute := ⟨3, "City", 0⟩
  let edits : List Edit := (attributes ++ [city]).map (Edit.define ∘ Attribute.row) ++
    stored.map (Edit.fill ∘ Stored.row) ++ [.delete (.integer 3)]
  have bare : Database.absent.Bare := .inl (opened_of_here (target_eq_here (by decide) (by decide)))
  have made : Database.absent.init = (.ok (), Database.absent.init.2) := Prod.ext (by decide) rfl
  have built : (Database.absent.init.2.after edits).Built := (Built.made bare made).after edits
  have contents : ((Database.absent.init.2.after edits).tables.map fun tables =>
      ((tables.table? .attributes).map DataTable.content, (tables.table? .values).map DataTable.content)) =
        .ok (some (.ok ((attributes.map Attribute.row).map AttributeRow.cells)),
          some (.ok ((stored.map Stored.row).map ValueRow.cells))) := by decide
  have holds : (Database.absent.init.2.after edits).Holds attributes stored := by
    obtain ⟨tables, read, hcontents⟩ := map_eq_ok_iff.1 contents
    exact ⟨tables, read, Prod.mk.inj hcontents⟩
  have spelled : (attributes.map Attribute.name).Nodup := by decide
  refine ⟨_, built, holds, spelled, ?_, ?_⟩
  · exact (send_of_built built holds spelled "ann" "[name!], [City?there]").1.trans (by decide)
  · exact (send_of_built built holds spelled "bob" "[name?you], [Name]").1.trans (by decide)

end SubjectMerge
