import SubjectMerge.Proofs.Store.Resolution

/-! Lookups that give no value. A lookup may fail or crash, the store may not know the recipient, or the
recipient's rows may all be without a value; a table that no value is bound in stays as it is in each case. -/

namespace SubjectMerge

/-- The lookup gives the recipient no value of anything. -/
inductive Lookup.Valueless : Lookup → Prop where
  | failed (error : StoreError) : Valueless (.failed error)
  | crashed (words : String) : Valueless (.crashed words)
  /-- A recipient that the store does not know has no rows, -/
  | unknown : Valueless (.found .empty)
  /-- and one that it knows may have no value in any of them. -/
  | nulls {values : Values} (null : ∀ name value, values.get? name = some value → value = none) :
      Valueless (.found values)

theorem Lookup.Valueless.value?_eq_none {lookup : Lookup} (h : lookup.Valueless) (name : String) :
    lookup.value? name = none := by
  cases h with
  | failed error => rfl
  | crashed words => rfl
  | unknown => rfl
  | @nulls values null =>
    rw [value?, Values.value?]
    cases hget : values.get? name with
    | none => rfl
    | some value => exact null name value hget

theorem Table.Bare.bind_eq {table : Table} (h : table.Bare) {values : Values}
    (valueless : ∀ name, values.value? name = none) : table.bind values = table := by
  have hentry : ∀ entry ∈ table.entries, { entry with binding := entry.binding.bind values } = entry := by
    intro entry hmem
    have hunbound := h.unbound entry hmem
    obtain ⟨token, attributeName, fallbackText, uppercase, resolvedValue⟩ := entry
    rw [Binding.bind, valueless]
    exact congrArg _ (congrArg _ hunbound.symm)
  rw [bind, List.map_congr_left hentry, List.map_id']

/-- Without a value the recipient's table is the unbound one. -/
theorem Store.bound_eq_of_valueless {store : Store} {table bound : Table} {recipient : String}
    (h : (store.resolve table recipient).bound = .ok bound) (bare : table.Bare)
    (valueless : (store.lookUp recipient).Valueless) : bound = table := by
  rcases bound_cases h with ⟨-, rfl⟩ | ⟨values, rfl, hvalues⟩
  · rfl
  · exact bare.bind_eq fun name => (hvalues name).trans (valueless.value?_eq_none name)

end SubjectMerge
