import SubjectMerge.Proofs.Distinct
import SubjectMerge.Proofs.Subject.Table

/-! A subject's table in closed form: the distinct tokens of the subject in the order in which they first stand
there, and of these the ones that name an attribute, each with the entry that its own text gives it. -/

namespace SubjectMerge

/-- The entry that a token gives by itself against a directory. -/
def Token.entry? (names : List String) (t : Token) : Option Entry :=
  (t.attribute? names).map fun name => ⟨t.literal, t.binding name⟩

/-- The tokens of a text that name an attribute, each at its first place. -/
def knownTokens (names : List String) (text : List Char) : List Token :=
  (tokensOf text).eraseDups.filter fun t => (t.entry? names).isSome

namespace Table

variable {names : List String}

theorem eq_of_entries_eq {a b : Table} (h : a.entries = b.entries) : a = b := by
  cases a
  cases b
  exact congrArg mk h

theorem addToken_of_found {table : Table} {t : Token}
    (h : ∀ name, t.attribute? names = some name → table.find? t.literal ≠ none) :
    table.addToken names t = table := by
  unfold addToken
  cases hname : t.attribute? names with
  | none => rfl
  | some name =>
    obtain ⟨binding, hfound⟩ := Option.ne_none_iff_exists'.1 (h name hname)
    simp [Table.insert, hfound]

theorem entries_addToken_of_absent {table : Table} {t : Token} (h : table.find? t.literal = none) :
    (table.addToken names t).entries = table.entries ++ (t.entry? names).toList := by
  unfold addToken Token.entry?
  cases t.attribute? names with
  | none => simp
  | some name => simp [Table.insert, h]

/-- One more token is entered if it names an attribute and has not stood among the tokens before. -/
theorem entries_foldl_addToken (names : List String) {ts : List Token} (hts : ∀ t ∈ ts, t.WellFormed) :
    (ts.foldl (addToken names) empty).entries = ts.eraseDups.filterMap (Token.entry? names) := by
  induction ts using List.reverseRecOn with
  | nil => rfl
  | append_singleton ts t ih =>
    have hts' : ∀ u ∈ ts, u.WellFormed := fun u hu => hts u (List.mem_append_left _ hu)
    have hfind := find?_foldl_addToken names hts' empty (hts t (by simp))
    rw [List.foldl_append, List.foldl_cons, List.foldl_nil]
    by_cases h : t ∈ ts
    · have hfound (name : String) (hname : t.attribute? names = some name) :
          (ts.foldl (addToken names) empty).find? t.literal ≠ none := by
        simp [hfind, h, hname]
      rw [addToken_of_found hfound, ih hts', eraseDups_concat_of_mem h]
    · have habsent : (ts.foldl (addToken names) empty).find? t.literal = none := by
        rw [hfind, if_neg h]
        rfl
      rw [entries_addToken_of_absent habsent, ih hts', eraseDups_concat_of_notMem h, List.filterMap_append]
      cases hentry : t.entry? names <;> simp [hentry]

/-- The entries of a subject's table, in closed form. -/
theorem entries_ofSubject (names : List String) (subject : String) :
    (ofSubject names subject).entries = (tokensOf subject.toList).eraseDups.filterMap (Token.entry? names) :=
  entries_foldl_addToken names fun _ ht => (mem_tokensOf_iff.1 ht).1

theorem mem_entries_ofSubject {subject : String} {entry : Entry} :
    entry ∈ (ofSubject names subject).entries ↔ ∃ t ∈ tokensOf subject.toList, t.entry? names = some entry := by
  rw [entries_ofSubject, List.mem_filterMap]
  simp only [List.mem_eraseDups]

theorem entries_ofSubject_eq_knownTokens (names : List String) (subject : String) :
    (ofSubject names subject).entries = (knownTokens names subject.toList).filterMap (Token.entry? names) := by
  rw [entries_ofSubject, knownTokens, List.filterMap_filter]
  apply List.filterMap_congr
  intro t _
  cases t.entry? names <;> rfl

theorem tokens_ofSubject (names : List String) (subject : String) :
    (ofSubject names subject).tokens = (knownTokens names subject.toList).map Token.literal := by
  rw [tokens, entries_ofSubject, List.map_filterMap, knownTokens, ← List.filterMap_eq_map, List.filterMap_filter]
  apply List.filterMap_congr
  intro t _
  unfold Token.entry?
  cases t.attribute? names <;> rfl

/-- A token that names an attribute is in a subject's table if it is in the subject. -/
theorem literal_mem_tokens_ofSubject (subject : String) {t : Token} (wf : t.WellFormed) {entry : Entry}
    (known : t.entry? names = some entry) :
    t.literal ∈ (ofSubject names subject).tokens ↔ t ∈ tokensOf subject.toList := by
  obtain ⟨name, hname, -⟩ := Option.map_eq_some_iff.1 known
  rw [← not_iff_not, ← find?_eq_none_iff, find?_ofSubject names subject wf, hname]
  simp

end Table

end SubjectMerge
