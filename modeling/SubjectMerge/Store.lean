import SubjectMerge.Store.Error
import SubjectMerge.Subject

/-! The attribute store as its callers see it, at one moment: what it answers to each question. A
store whose answers change over time is a store per question asked. -/

namespace SubjectMerge

/-- What came of asking for one recipient's values. -/
inductive Lookup where
  | found (values : Values)
  | failed (error : StoreError)
  /-- The lookup broke off without an answer, with these last words. -/
  | crashed (words : String)

structure Store where
  /-- The attribute directory, in display order. -/
  names : Except StoreError (List String)
  /-- Every recipient known. -/
  ids : Except StoreError (List String)
  lookUp : String → Lookup

/-- A table bound for one recipient, or the last words of a lookup that crashed, and the number of
lookups made. -/
structure Resolution where
  bound : Except String Table
  lookups : Nat

/-- Binds one recipient's values. A table without tokens needs no lookup, and a failed lookup counts
as a recipient without values, so that no message is held back. -/
def Store.resolve (store : Store) (table : Table) (recipient : String) : Resolution :=
  if table.isEmpty then ⟨.ok table, 0⟩
  else match store.lookUp recipient with
    | .found values => ⟨.ok (table.bind values), 1⟩
    | .failed _ => ⟨.ok (table.bind .empty), 1⟩
    | .crashed words => ⟨.error words, 1⟩

/-- Resolves a subject for one recipient and fills it in, against the store's own directory. -/
def Store.send (store : Store) (recipient subject : String) : Except StoreError String := do
  let names ← store.names
  let table := Table.ofSubject names subject
  let bound := (store.resolve table recipient).bound.toOption.getD table
  return bound.fill subject

end SubjectMerge
