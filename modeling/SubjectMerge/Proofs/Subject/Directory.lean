import SubjectMerge.Proofs.Subject.Entries
import SubjectMerge.Proofs.Subject.Listed

/-! What a subject's table has from the directory: under the capitals of each of its tokens the name that is
listed first. Directories that list the same names first are read alike, and names listed behind the others add
entries and change none. -/

namespace SubjectMerge

/-- The name stands in the directory before all others with these capitals, and has them. -/
def FirstListed (names : List String) (capitals name : String) : Prop :=
  ∃ earlier later, names = earlier ++ name :: later ∧ Text.upper name = capitals ∧
    ∀ other ∈ earlier, Text.upper other ≠ capitals

/-- The directories have the same first name under these capitals, or neither has one. -/
def ListAlike (names others : List String) (capitals : String) : Prop :=
  ∀ name, FirstListed names capitals name ↔ FirstListed others capitals name

/-- How a subject is read against one directory and against others. -/
structure ReadByCapitals (names : List String) (subject : String) : Prop where
  /-- A directory that lists the same names first gives the same table. -/
  alike : ∀ others, (∀ capitals, ListAlike names others capitals) →
    Table.ofSubject others subject = Table.ofSubject names subject
  /-- More than that: it only has to agree on the names that the subject's tokens spell. -/
  asked : ∀ others, Table.ofSubject others subject = Table.ofSubject names subject ↔
    ∀ t : Token, t.WellFormed → t.chars <:+: subject.toList →
      ListAlike names others (Text.upper (String.ofList t.name))
  /-- Further names at the end leave every entry as it is, and in its order. -/
  kept : ∀ more, (Table.ofSubject names subject).entries.Sublist (Table.ofSubject (names ++ more) subject).entries
  /-- Of the entries there are then, the old ones are those that stand for one of the old names. -/
  added : ∀ more, ∀ entry ∈ (Table.ofSubject (names ++ more) subject).entries,
    entry ∈ (Table.ofSubject names subject).entries ↔ entry.binding.attributeName ∈ names

variable {names others : List String} {t : Token}

theorem Token.attribute?_eq_some_iff_firstListed {name : String} :
    t.attribute? names = some name ↔ FirstListed names (Text.upper (String.ofList t.name)) name :=
  Token.attribute?_eq_some_iff

/-- What a token asks of a directory is the first name under its capitals. -/
theorem listAlike_iff_attribute?_eq :
    ListAlike names others (Text.upper (String.ofList t.name)) ↔ t.attribute? names = t.attribute? others := by
  rw [Option.ext_iff]
  simp only [ListAlike, Token.attribute?_eq_some_iff_firstListed]

theorem Token.binding_injective (t : Token) : Function.Injective t.binding := fun _ _ h =>
  congrArg Binding.attributeName h

/-- Tables are equal if the directories answer the subject's tokens alike. -/
theorem Table.ofSubject_congr {subject : String}
    (h : ∀ t ∈ tokensOf subject.toList, t.attribute? names = t.attribute? others) :
    ofSubject names subject = ofSubject others subject := by
  apply eq_of_entries_eq
  rw [entries_ofSubject, entries_ofSubject]
  apply List.filterMap_congr
  intro t ht
  rw [Token.entry?, h t (List.mem_eraseDups.1 ht), Token.entry?]

/-- A subject's table shows what the directory answers each of its tokens. -/
theorem attribute?_eq_of_ofSubject_eq {subject : String} (ht : t ∈ tokensOf subject.toList)
    (h : Table.ofSubject names subject = Table.ofSubject others subject) :
    t.attribute? names = t.attribute? others := by
  have hfound := congrArg (fun table => table.find? t.literal) h
  simp only [Table.find?_ofSubject _ subject (mem_tokensOf_iff.1 ht).1, if_pos ht] at hfound
  exact Option.map_injective t.binding_injective hfound

/-- Names at the end of the directory answer only the tokens that the others leave unanswered. -/
theorem Token.attribute?_append (names more : List String) (t : Token) :
    t.attribute? (names ++ more) = (t.attribute? names).or (t.attribute? more) := by
  simp [attribute?, directoryName?, List.find?_append]

theorem Token.mem_of_attribute? {name : String} (h : t.attribute? names = some name) : name ∈ names :=
  List.mem_of_find?_eq_some h

theorem Token.notMem_of_attribute?_eq_none {more : List String} {name : String}
    (h : t.attribute? names = none) (hmore : t.attribute? more = some name) : name ∉ names := by
  intro hmem
  obtain ⟨-, -, -, hcapitals, -⟩ := Token.attribute?_eq_some_iff.1 hmore
  obtain ⟨first, hfirst⟩ := Token.exists_attribute?_iff.2 ⟨name, hmem, hcapitals⟩
  rw [h] at hfirst
  cases hfirst

theorem Token.filter_entry?_append (names more : List String) (t : Token) :
    (t.entry? (names ++ more)).filter (fun entry => entry.binding.attributeName ∈ names) = t.entry? names := by
  unfold entry?
  rw [attribute?_append]
  cases hname : t.attribute? names with
  | some name =>
    have hmem : name ∈ names := mem_of_attribute? hname
    simp [binding, hmem]
  | none =>
    cases hmore : t.attribute? more with
    | none => rfl
    | some name =>
      have hnot : name ∉ names := notMem_of_attribute?_eq_none hname hmore
      simp [binding, hnot]

/-- Of a table against a longer directory, the entries that stand for the names of its front. -/
theorem Table.filter_entries_append (names more : List String) (subject : String) :
    (ofSubject (names ++ more) subject).entries.filter (fun entry => entry.binding.attributeName ∈ names) =
      (ofSubject names subject).entries := by
  rw [entries_ofSubject, entries_ofSubject, List.filter_filterMap]
  exact List.filterMap_congr fun t _ => t.filter_entry?_append names more

/-- A subject is read against a directory by the names it lists first, and further names at the end change no
entry. -/
theorem readByCapitals (names : List String) (subject : String) : ReadByCapitals names subject := by
  constructor
  case alike =>
    intro others halike
    exact (Table.ofSubject_congr fun t _ => listAlike_iff_attribute?_eq.1 (halike _)).symm
  case asked =>
    intro others
    constructor
    · intro htable t wf hstands
      exact listAlike_iff_attribute?_eq.2
        (attribute?_eq_of_ofSubject_eq (mem_tokensOf_iff.2 ⟨wf, hstands⟩) htable.symm)
    · intro halike
      refine (Table.ofSubject_congr fun t ht => ?_).symm
      obtain ⟨wf, hstands⟩ := mem_tokensOf_iff.1 ht
      exact listAlike_iff_attribute?_eq.1 (halike t wf hstands)
  case kept =>
    intro more
    rw [← Table.filter_entries_append names more]
    exact List.filter_sublist
  case added =>
    intro more entry hentry
    rw [← Table.filter_entries_append names more, List.mem_filter, decide_eq_true_eq, and_iff_right hentry]

example : (Table.ofSubject ["City"] "[CITY] [NAME] [city!]").tokens = ["[CITY]", "[city!]"] ∧
    (Table.ofSubject ["City", "CITY", "Name"] "[CITY] [NAME] [city!]").tokens =
      ["[CITY]", "[NAME]", "[city!]"] := by
  decide

end SubjectMerge
