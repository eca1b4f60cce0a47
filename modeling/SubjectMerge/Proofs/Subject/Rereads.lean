import SubjectMerge.Proofs.Subject.Entries

/-! A table read again. A token gets its entry from its own text and the directory, wherever it stands; so the
tokens of a subject's table, written one after another, give the table again, and each of them alone gives its own
entry. -/

namespace SubjectMerge

/-- What a subject's table is good for when it is read again. -/
structure Table.Rereads (names : List String) (subject : String) (table : Table) : Prop where
  /-- Its tokens, written one after another, have this table. -/
  again : ofSubject names (String.join table.tokens) = table
  /-- Each of its tokens has its own entry for a table. -/
  alone : ∀ entry ∈ table.entries, ofSubject names entry.token = ⟨[entry]⟩
  /-- Wherever the text of such a token stands, it has the same binding. -/
  anywhere : ∀ entry ∈ table.entries, ∀ other : String, entry.token.toList <:+: other.toList →
    (ofSubject names other).find? entry.token = some entry.binding

/-- Tokens written one after another are read as these tokens. -/
theorem tokensOf_flatMap_chars {ts : List Token} (hts : ∀ t ∈ ts, t.WellFormed) :
    tokensOf (ts.flatMap Token.chars) = ts := by
  induction ts with
  | nil => rfl
  | cons t ts ih =>
    have hlater := ih fun u hu => hts u (List.mem_cons_of_mem t hu)
    rw [List.flatMap_cons, tokensOf, pieces_chars_append (hts t List.mem_cons_self), List.filterMap_cons]
    exact congrArg (t :: ·) hlater

theorem tokensOf_literal {t : Token} (wf : t.WellFormed) : tokensOf t.literal.toList = [t] := by
  have hone : ∀ u ∈ [t], u.WellFormed := by simpa using wf
  simpa [Token.literal] using tokensOf_flatMap_chars hone

/-- The table of a token that stands alone. -/
theorem Table.ofSubject_literal (names : List String) {t : Token} (wf : t.WellFormed) :
    ofSubject names t.literal = ⟨(t.entry? names).toList⟩ := by
  apply eq_of_entries_eq
  rw [entries_ofSubject, tokensOf_literal wf, eraseDups_of_nodup (List.nodup_singleton t), List.filterMap_cons]
  cases t.entry? names <;> rfl

theorem wellFormed_of_mem_knownTokens {names : List String} {text : List Char} {t : Token}
    (h : t ∈ knownTokens names text) : t.WellFormed :=
  (mem_tokensOf_iff.1 (List.mem_eraseDups.1 (List.mem_of_mem_filter h))).1

/-- The tokens of a subject's table written one after another. -/
theorem tokensOf_join_tokens (names : List String) (subject : String) :
    tokensOf (String.join (Table.ofSubject names subject).tokens).toList = knownTokens names subject.toList := by
  have hliteral : String.toList ∘ Token.literal = Token.chars := by
    funext t
    rw [Function.comp_apply, Token.literal, String.toList_ofList]
  rw [String.toList_join, Table.tokens_ofSubject, List.flatMap_map, ← Function.comp_def, hliteral]
  exact tokensOf_flatMap_chars fun t ht => wellFormed_of_mem_knownTokens ht

/-- A subject's table is the table of its own tokens, all together and each by itself, and no other place in any
subject gives one of them another binding. -/
theorem rereads_ofSubject (names : List String) (subject : String) :
    (Table.ofSubject names subject).Rereads names subject := by
  constructor
  case again =>
    have hdistinct : (knownTokens names subject.toList).Nodup := (nodup_eraseDups _).filter _
    have hentries : (Table.ofSubject names (String.join (Table.ofSubject names subject).tokens)).entries =
        (Table.ofSubject names subject).entries := by
      rw [Table.entries_ofSubject, tokensOf_join_tokens, eraseDups_of_nodup hdistinct,
        Table.entries_ofSubject_eq_knownTokens]
    exact Table.eq_of_entries_eq hentries
  case alone =>
    intro entry hentry
    obtain ⟨t, ht, hgiven⟩ := Table.mem_entries_ofSubject.1 hentry
    obtain ⟨name, -, rfl⟩ := Option.map_eq_some_iff.1 hgiven
    rw [Table.ofSubject_literal names (mem_tokensOf_iff.1 ht).1, hgiven]
    rfl
  case anywhere =>
    intro entry hentry other hstands
    obtain ⟨t, ht, hgiven⟩ := Table.mem_entries_ofSubject.1 hentry
    obtain ⟨name, hname, rfl⟩ := Option.map_eq_some_iff.1 hgiven
    have wf : t.WellFormed := (mem_tokensOf_iff.1 ht).1
    have hmem : t ∈ tokensOf other.toList := mem_tokensOf_iff.2 ⟨wf, by
      simpa [Token.literal] using hstands⟩
    rw [Table.find?_ofSubject names other wf, if_pos hmem, hname]
    rfl

end SubjectMerge
