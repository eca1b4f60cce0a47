import Mathlib.Algebra.GroupWithZero.Nat
import SubjectMerge.Proofs.Subject.Table
import SubjectMerge.Store

/-! Tables bound for one recipient after another. What a recipient's table comes to depends on the placeholders of
the table it is resolved from and on the recipient's own lookup; values that an earlier recipient left in that table
do not show. So recipients may be resolved in a chain, each from the table of the one before. -/

namespace SubjectMerge

/-- The value that a lookup gives for an attribute, if it gives one. -/
def Lookup.value? (lookup : Lookup) (name : String) : Option String :=
  match lookup with
  | .found values => values.value? name
  | .failed _ | .crashed _ => none

namespace Table

/-- A table's binding made anew from its placeholders. -/
theorem bind_eq_of_shape (table : Table) (values : Values) :
    table.bind values = ⟨table.shape.map fun (token, attributeName, fallbackText, uppercase) =>
      ⟨token, { attributeName, fallbackText, uppercase, resolvedValue := values.value? attributeName }⟩⟩ := by
  simp only [bind, shape, List.map_map]
  rfl

theorem isEmpty_eq (table : Table) : table.isEmpty = table.shape.isEmpty := by
  simp [isEmpty, shape]

theorem eq_of_isEmpty {a b : Table} (ha : a.isEmpty) (hb : b.isEmpty) : a = b := by
  have hentries : a.entries = b.entries := by
    rw [List.isEmpty_iff.1 ha, List.isEmpty_iff.1 hb]
  cases a
  cases b
  exact congrArg mk hentries

theorem value_of_mem_bind {table : Table} {values : Values} {entry : Entry}
    (h : entry ∈ (table.bind values).entries) :
    entry.binding.resolvedValue = values.value? entry.binding.attributeName := by
  obtain ⟨old, -, rfl⟩ := List.mem_map.1 h
  rfl

end Table

namespace Store

/-- A table with tokens is looked up for once; the lookup of another recipient plays no part. -/
theorem resolve_eq {table : Table} (h : table.isEmpty = false) (store : Store) (recipient : String) :
    store.resolve table recipient = match store.lookUp recipient with
      | .found values => ⟨.ok (table.bind values), 1⟩
      | .failed _ => ⟨.ok (table.bind .empty), 1⟩
      | .crashed words => ⟨.error words, 1⟩ := by
  rw [resolve, h]
  rfl

theorem resolve_of_isEmpty {table : Table} (h : table.isEmpty) (store : Store) (recipient : String) :
    store.resolve table recipient = ⟨.ok table, 0⟩ := by
  rw [resolve, if_pos h]

theorem lookups_resolve {table : Table} (h : table.isEmpty = false) (store : Store)
    (recipient : String) : (store.resolve table recipient).lookups = 1 := by
  rw [resolve_eq h]
  split <;> rfl

theorem resolve_bound_eq_error {store : Store} {table : Table} {recipient words : String} :
    (store.resolve table recipient).bound = .error words ↔
      table.isEmpty = false ∧ store.lookUp recipient = .crashed words := by
  cases h : table.isEmpty with
  | true => simp [resolve, h]
  | false =>
    rw [resolve_eq h]
    cases store.lookUp recipient <;> simp

/-- Everything that a table bound for a recipient can be. -/
theorem bound_cases {store : Store} {table bound : Table} {recipient : String}
    (h : (store.resolve table recipient).bound = .ok bound) :
    (table.isEmpty ∧ bound = table) ∨ ∃ values, bound = table.bind values ∧
      ∀ name, values.value? name = (store.lookUp recipient).value? name := by
  cases hempty : table.isEmpty with
  | true =>
    rw [resolve_of_isEmpty hempty] at h
    exact Or.inl ⟨rfl, (Except.ok.inj h).symm⟩
  | false =>
    rw [resolve_eq hempty] at h
    refine Or.inr ?_
    cases hlook : store.lookUp recipient with
    | found values =>
      rw [hlook] at h
      exact ⟨values, (Except.ok.inj h).symm, fun _ => rfl⟩
    | failed e =>
      rw [hlook] at h
      exact ⟨.empty, (Except.ok.inj h).symm, fun _ => rfl⟩
    | crashed words =>
      rw [hlook] at h
      cases h

theorem shape_of_bound {store : Store} {table bound : Table} {recipient : String}
    (h : (store.resolve table recipient).bound = .ok bound) : bound.shape = table.shape := by
  rcases bound_cases h with ⟨-, rfl⟩ | ⟨values, rfl, -⟩
  · rfl
  · exact table.shape_bind values

/-- A recipient is resolved alike from tables with the same placeholders, whatever values are bound in them. -/
theorem resolve_congr {a b : Table} (h : a.shape = b.shape) (store : Store) (recipient : String) :
    store.resolve a recipient = store.resolve b recipient := by
  have hempty : a.isEmpty = b.isEmpty := by rw [a.isEmpty_eq, b.isEmpty_eq, h]
  cases hb : b.isEmpty with
  | true => rw [Table.eq_of_isEmpty (hempty.trans hb) hb]
  | false =>
    have hbind (values : Values) : a.bind values = b.bind values := by
      rw [a.bind_eq_of_shape, b.bind_eq_of_shape, h]
    rw [resolve_eq (hempty.trans hb), resolve_eq hb]
    simp only [hbind]

/-- Resolves recipients one after the other, each with the store as it answers then and from the table that was
bound for the one before; a crash leaves the next one the same table. -/
def chained : Table → List (Store × String) → List Resolution
  | _, [] => []
  | table, (store, recipient) :: calls =>
    let resolution := store.resolve table recipient
    resolution :: chained (resolution.bound.toOption.getD table) calls

/-- What a chain hands on has the placeholders it began with. -/
theorem shape_getD_bound (store : Store) (table : Table) (recipient : String) :
    ((store.resolve table recipient).bound.toOption.getD table).shape = table.shape := by
  cases h : (store.resolve table recipient).bound with
  | error words => rfl
  | ok bound => exact shape_of_bound h

theorem chained_eq_map {a b : Table} (h : a.shape = b.shape) (calls : List (Store × String)) :
    chained a calls = calls.map fun call => call.1.resolve b call.2 := by
  induction calls generalizing a with
  | nil => rfl
  | cons call calls ih =>
    obtain ⟨store, recipient⟩ := call
    have hnext := (store.shape_getD_bound a recipient).trans h
    rw [chained, ih hnext, resolve_congr h, List.map_cons]

/-- What comes of resolving recipients in a chain. -/
structure Unlinked (table : Table) (calls : List (Store × String)) : Prop where
  /-- Each comes to what it would have come to from the table at the start. -/
  apart : chained table calls = calls.map fun call => call.1.resolve table call.2
  /-- Unless its lookup crashes this is a table, -/
  bound : ∀ call ∈ calls, (∀ words, call.1.lookUp call.2 ≠ .crashed words) →
    ∃ bound, (call.1.resolve table call.2).bound = .ok bound
  /-- with the tokens, attributes, fallbacks and markers of the one at the start, in order, -/
  shape : ∀ call ∈ calls, ∀ bound, (call.1.resolve table call.2).bound = .ok bound → bound.shape = table.shape
  /-- and the values that this lookup gave. -/
  own : ∀ call ∈ calls, ∀ bound, (call.1.resolve table call.2).bound = .ok bound →
    ∀ entry ∈ bound.entries, entry.binding.resolvedValue =
      (call.1.lookUp call.2).value? entry.binding.attributeName
  lookups : ((chained table calls).map Resolution.lookups).sum = if table.isEmpty then 0 else calls.length

/-- No recipient of a chain has anything from those before it. -/
theorem unlinked (table : Table) (calls : List (Store × String)) : Unlinked table calls := by
  have apart := chained_eq_map (rfl : table.shape = table.shape) calls
  refine ⟨apart, ?bound, fun call _ bound h => shape_of_bound h, ?own, ?lookups⟩
  case bound =>
    rintro ⟨store, recipient⟩ - uncrashed
    cases h : (store.resolve table recipient).bound with
    | ok bound => exact ⟨bound, rfl⟩
    | error words => exact absurd (resolve_bound_eq_error.1 h).2 (uncrashed words)
  case own =>
    rintro ⟨store, recipient⟩ - bound h entry hentry
    rcases bound_cases h with ⟨hempty, rfl⟩ | ⟨values, rfl, hvalues⟩
    · rw [List.isEmpty_iff.1 hempty] at hentry
      cases hentry
    · rw [Table.value_of_mem_bind hentry, hvalues]
  case lookups =>
    rw [apart, List.map_map]
    cases hempty : table.isEmpty with
    | true =>
      have hnone : (Resolution.lookups ∘ fun call : Store × String => call.1.resolve table call.2) =
          fun _ => 0 := funext fun call => by simp [resolve_of_isEmpty hempty]
      simp [hnone]
    | false =>
      have honce : (Resolution.lookups ∘ fun call : Store × String => call.1.resolve table call.2) =
          fun _ => 1 := funext fun call => lookups_resolve hempty call.1 call.2
      simp [honce]

/-- One recipient is found, the next one's lookup fails, and the last one has a row without a value. -/
example :
    let store (lookup : Lookup) : Store := { names := .ok ["Name"], ids := .ok [], lookUp := fun _ => lookup }
    let calls := [(store (.found (.ofList [("Name", some "Ann")])), "ann"),
      (store (.failed (.unavailable "offline")), "bob"), (store (.found (.ofList [("Name", none)])), "cid")]
    (chained (.ofSubject ["Name"] "Hi [NAME?you]") calls).map
        (fun resolution => resolution.bound.toOption.map fun bound => bound.fill "Hi [NAME?you]") =
      [some "Hi Ann", some "Hi you", some "Hi you"] := by
  decide

end Store

end SubjectMerge
