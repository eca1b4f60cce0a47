import SubjectMerge.Proofs.Distinct
import SubjectMerge.Proofs.Past
import SubjectMerge.Proofs.Subject.Table

/-! Tables under any sequence of changes. Entries are added and values bound in any order, so that bound and unbound
entries stand side by side. What the table holds under a token is still told by two changes alone: the first that
brought the token, and the latest that bound values after it. -/

namespace SubjectMerge

theorem Binding.bind_bind (binding : Binding) (earlier later : Values) :
    (binding.bind earlier).bind later = binding.bind later := rfl

namespace Table

inductive Change where
  | insert (token : String) (binding : Binding)
  | bind (values : Values)

/-- The token that a change asks to add. -/
def Change.token? : Change → Option String
  | .insert token _ => some token
  | .bind _ => none

def change (table : Table) : Change → Table
  | .insert token binding => (table.insert token binding).2
  | .bind values => table.bind values

/-- What the changes make of the empty table. -/
def changed (changes : List Change) : Table := changes.foldl change empty

/-- The change asks to add the token with this binding, and none before it asked to add the token. -/
def Brings (token : String) (binding : Binding) (before : List Change) (change : Change) : Prop :=
  change = .insert token binding ∧ ∀ other, .insert token other ∉ before

def Binds (values : Values) (change : Change) : Prop := change = .bind values

/-- The token was brought with this binding. -/
def Brought (token : String) (binding : Binding) : List Change → Prop :=
  Since (Brings token binding) fun _ _ => False

/-- The token was brought with this binding, and no values have been bound since. -/
def StillBrought (token : String) (binding : Binding) : List Change → Prop :=
  Since (Brings token binding) fun _ later => ∃ values, Binds values later

/-- The token was brought with this binding, and of the values bound since these are the latest. -/
def Rebound (token : String) (binding : Binding) (values : Values) : List Change → Prop :=
  Since (fun before change => Binds values change ∧ Brought token binding before) fun _ later =>
    ∃ other, Binds other later

/-- What the changes leave under the token: the binding that it was brought with, and the latest value bound since. -/
def Leaves (token : String) (held : Binding) (changes : List Change) : Prop :=
  StillBrought token held changes ∨ ∃ binding values, Rebound token binding values changes ∧
    held = { binding with resolvedValue := (values.get? binding.attributeName).join }

/-- What a sequence of changes says about the table it makes. -/
structure Remembers (changes : List Change) : Prop where
  once : (changed changes).tokens.Nodup
  /-- The tokens stand in the order in which they were first inserted. -/
  ordered : (changed changes).tokens = (changes.filterMap Change.token?).eraseDups
  added : ∀ token binding, ((changed changes).insert token binding).1 = true ↔ token ∉ (changed changes).tokens
  refused : ∀ token binding, ((changed changes).insert token binding).1 = false →
    ((changed changes).insert token binding).2 = changed changes
  found : ∀ token held, (changed changes).find? token = some held ↔ Leaves token held changes
  absent : ∀ token, (changed changes).find? token = none ↔ ∀ binding, .insert token binding ∉ changes

section Step

variable {changes : List Change} {token : String} {binding : Binding}

theorem changed_concat (changes : List Change) (change : Change) :
    changed (changes ++ [change]) = (changed changes).change change := by
  rw [changed, List.foldl_append]
  rfl

/-! One more insertion may bring its token, and changes nothing about those that were brought before. -/

theorem brought_concat_insert (other : String) (added : Binding) :
    Brought token binding (changes ++ [.insert other added]) ↔
      Brings token binding changes (.insert other added) ∨ Brought token binding changes := by
  rw [Brought, since_concat]
  simp

theorem stillBrought_concat_insert (other : String) (added : Binding) :
    StillBrought token binding (changes ++ [.insert other added]) ↔
      Brings token binding changes (.insert other added) ∨ StillBrought token binding changes := by
  rw [StillBrought, since_concat]
  simp [Binds]

theorem rebound_concat_insert (values : Values) (other : String) (added : Binding) :
    Rebound token binding values (changes ++ [.insert other added]) ↔ Rebound token binding values changes := by
  rw [Rebound, since_concat]
  simp [Binds]

/-! Binding values brings no token, and all that were brought have the latest values then. -/

theorem brought_concat_bind (values : Values) :
    Brought token binding (changes ++ [.bind values]) ↔ Brought token binding changes := by
  rw [Brought, since_concat]
  simp [Brings]

theorem not_stillBrought_concat_bind (values : Values) :
    ¬ StillBrought token binding (changes ++ [.bind values]) := by
  rw [StillBrought, since_concat]
  simp [Brings, Binds]

theorem rebound_concat_bind (values latest : Values) :
    Rebound token binding values (changes ++ [.bind latest]) ↔ latest = values ∧ Brought token binding changes := by
  rw [Rebound, since_concat]
  simp [Binds]

/-- A token that was brought is as it was brought, or values have been bound since. -/
theorem brought_iff : Brought token binding changes ↔
    StillBrought token binding changes ∨ ∃ values, Rebound token binding values changes := by
  induction changes using List.reverseRecOn with
  | nil => simp [Brought, StillBrought, Rebound, not_since_nil]
  | append_singleton changes change ih =>
    cases change with
    | insert other added =>
      simp only [brought_concat_insert, stillBrought_concat_insert, rebound_concat_insert, ih, or_assoc]
    | bind latest =>
      simp [brought_concat_bind, not_stillBrought_concat_bind, rebound_concat_bind]

theorem leaves_concat_bind (values : Values) {held : Binding} :
    Leaves token held (changes ++ [.bind values]) ↔ ∃ binding, Leaves token binding changes ∧ binding.bind values = held := by
  simp only [Leaves, not_stillBrought_concat_bind, rebound_concat_bind, false_or, brought_iff]
  constructor
  · rintro ⟨binding, _, ⟨rfl, still | ⟨earlier, rebound⟩⟩, rfl⟩
    · exact ⟨binding, Or.inl still, rfl⟩
    · exact ⟨binding.bind earlier, Or.inr ⟨binding, earlier, rebound, rfl⟩, binding.bind_bind earlier values⟩
  · rintro ⟨held, still | ⟨binding, earlier, rebound, rfl⟩, rfl⟩
    · exact ⟨held, values, ⟨rfl, Or.inl still⟩, rfl⟩
    · exact ⟨binding, values, ⟨rfl, Or.inr ⟨earlier, rebound⟩⟩, binding.bind_bind earlier values⟩

theorem leaves_concat_insert (other : String) (added : Binding) {held : Binding} :
    Leaves token held (changes ++ [.insert other added]) ↔
      Brings token held changes (.insert other added) ∨ Leaves token held changes := by
  simp only [Leaves, stillBrought_concat_insert, rebound_concat_insert, or_assoc]

end Step

theorem tokens_insert (table : Table) (token : String) (binding : Binding) :
    (table.insert token binding).2.tokens =
      if token ∈ table.tokens then table.tokens else table.tokens ++ [token] := by
  unfold insert
  split
  · next found hfound => rw [if_pos (mem_tokens_of_find? hfound)]
  · next hnone =>
    rw [if_neg (find?_eq_none_iff.1 hnone)]
    simp [tokens]

theorem fst_insert (table : Table) (token : String) (binding : Binding) :
    (table.insert token binding).1 = true ↔ token ∉ table.tokens := by
  rw [← find?_eq_none_iff]
  unfold insert
  split <;> simp_all

theorem tokens_changed (changes : List Change) :
    (changed changes).tokens = (changes.filterMap Change.token?).eraseDups := by
  induction changes using List.reverseRecOn with
  | nil => rfl
  | append_singleton changes change ih =>
    rw [changed_concat, List.filterMap_append]
    cases change with
    | bind values =>
      have hnone : [Change.bind values].filterMap Change.token? = [] := rfl
      rw [Table.change, tokens_bind, ih, hnone, List.append_nil]
    | insert token binding =>
      rw [Table.change, tokens_insert, ih]
      simp only [List.mem_eraseDups, List.filterMap_cons, List.filterMap_nil, Change.token?]
      by_cases h : token ∈ changes.filterMap Change.token?
      · rw [if_pos h, eraseDups_concat_of_mem h]
      · rw [if_neg h, eraseDups_concat_of_notMem h]

theorem find?_changed_eq_none_iff {changes : List Change} {token : String} :
    (changed changes).find? token = none ↔ ∀ binding, .insert token binding ∉ changes := by
  rw [find?_eq_none_iff, tokens_changed, List.mem_eraseDups, List.mem_filterMap]
  constructor
  · exact fun h binding hmem => h ⟨_, hmem, rfl⟩
  · rintro h ⟨_ | values, hmem, htoken⟩
    · obtain rfl := Option.some.inj htoken
      exact h _ hmem
    · cases htoken

/-- One more insertion adds its token only if none before it did. -/
theorem find?_changed (changes : List Change) (token : String) (held : Binding) :
    (changed changes).find? token = some held ↔ Leaves token held changes := by
  induction changes using List.reverseRecOn generalizing held with
  | nil => simp [changed, empty, find?, Leaves, StillBrought, Rebound, not_since_nil]
  | append_singleton changes change ih =>
    rw [changed_concat]
    cases change with
    | bind values =>
      rw [Table.change, find?_bind, Option.map_eq_some_iff, leaves_concat_bind]
      simp only [ih]
    | insert other added =>
      rw [Table.change, find?_insert, leaves_concat_insert, ← ih]
      cases hfound : (changed changes).find? token with
      | none =>
        have hnever := find?_changed_eq_none_iff.1 hfound
        simp [Brings, hnever]
      | some binding =>
        have hbrought : ¬ ∀ binding, .insert token binding ∉ changes := by
          rw [← find?_changed_eq_none_iff, hfound]
          exact Option.some_ne_none binding
        simp [Brings, hbrought]

theorem remembers (changes : List Change) : Remembers changes where
  once := by
    rw [tokens_changed]
    exact nodup_eraseDups _
  ordered := tokens_changed changes
  added := fst_insert (changed changes)
  refused token binding hrefused := by
    unfold insert at hrefused ⊢
    split
    · rfl
    · next hnone =>
      rw [hnone] at hrefused
      cases hrefused
  found := find?_changed changes
  absent _ := find?_changed_eq_none_iff

/-- The second insertion of a token is refused, and one after the binding stays as it came. -/
example :
    let city : Binding := { attributeName := "City", fallbackText := none, uppercase := true }
    let changes := [.insert "[CITY!]" city, .bind (.ofList [("City", some "Oslo")]),
      .insert "[CITY!]" { city with uppercase := false }, .insert "[TOWN]" city]
    (changed changes).entries =
      [⟨"[CITY!]", { city with resolvedValue := some "Oslo" }⟩, ⟨"[TOWN]", city⟩] := by
  decide

end Table

end SubjectMerge
