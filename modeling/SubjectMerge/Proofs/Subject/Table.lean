import SubjectMerge.Proofs.Token.Spans
import SubjectMerge.Subject

/-! What a subject's table holds under a token: the binding of the token itself, wherever and however often
it stands in the subject. Binding values keeps what a token is and changes only what it is worth. -/

namespace SubjectMerge

namespace Entry

/-- What an entry has from its token alone, before any recipient's value. -/
def shape (entry : Entry) : String × String × Option String × Bool :=
  (entry.token, entry.binding.attributeName, entry.binding.fallbackText, entry.binding.uppercase)

end Entry

namespace Table

/-- A table without its values. -/
def shape (table : Table) : List (String × String × Option String × Bool) :=
  table.entries.map Entry.shape

@[simp] theorem shape_bind (table : Table) (values : Values) : (table.bind values).shape = table.shape := by
  simp only [shape, bind, List.map_map]
  rfl

@[simp] theorem tokens_bind (table : Table) (values : Values) : (table.bind values).tokens = table.tokens := by
  simp only [tokens, bind, List.map_map]
  rfl

theorem find?_insert (table : Table) (token key : String) (binding : Binding) :
    (table.insert token binding).2.find? key =
      (table.find? key).or (if token = key then some binding else none) := by
  unfold insert
  split
  · next found hfound =>
    by_cases h : token = key
    · subst h
      simp [hfound]
    · simp [h]
  · next hnone =>
    simp only [find?, List.find?_append, Option.map_or]
    by_cases h : token = key <;> simp [h]

theorem find?_bind (table : Table) (values : Values) (key : String) :
    (table.bind values).find? key = (table.find? key).map (Binding.bind values) := by
  simp only [find?, bind, List.find?_map, Option.map_map]
  rfl

theorem find?_addToken (names : List String) (table : Table) {t u : Token} (ht : t.WellFormed)
    (hu : u.WellFormed) :
    (table.addToken names u).find? t.literal =
      (table.find? t.literal).or (if t = u then (t.attribute? names).map t.binding else none) := by
  unfold addToken
  split
  · next hnone =>
    by_cases h : t = u
    · subst h
      simp [hnone]
    · simp [h]
  · next name hname =>
    rw [find?_insert]
    by_cases h : t = u
    · subst h
      simp [hname]
    · have hliteral : u.literal ≠ t.literal := fun e => h ((hu.literal_eq_iff ht).1 e).symm
      simp [h, hliteral]

theorem find?_foldl_addToken (names : List String) {tokens : List Token}
    (htokens : ∀ u ∈ tokens, u.WellFormed) (table : Table) {t : Token} (ht : t.WellFormed) :
    (tokens.foldl (addToken names) table).find? t.literal =
      (table.find? t.literal).or
        (if t ∈ tokens then (t.attribute? names).map t.binding else none) := by
  induction tokens generalizing table with
  | nil => simp
  | cons u tokens ih =>
    rw [List.foldl_cons, ih fun v hv => htokens v (List.mem_cons_of_mem u hv),
      find?_addToken names table ht (htokens u List.mem_cons_self)]
    by_cases h : t = u
    · subst h
      by_cases hmem : t ∈ tokens <;> simp [hmem, Option.or_assoc]
    · simp [h]

/-- A subject's table knows a token exactly when the subject holds it and it names an attribute. -/
theorem find?_ofSubject (names : List String) (subject : String) {t : Token} (ht : t.WellFormed) :
    (ofSubject names subject).find? t.literal =
      if t ∈ tokensOf subject.toList then (t.attribute? names).map t.binding else none := by
  have htokens : ∀ u ∈ tokensOf subject.toList, u.WellFormed := fun u hu => (mem_tokensOf_iff.1 hu).1
  rw [ofSubject, find?_foldl_addToken names htokens empty ht]
  rfl

/-- A table as a subject gives it: no value is bound, and each token is there once. -/
structure Bare (table : Table) : Prop where
  unbound : ∀ entry ∈ table.entries, entry.binding.resolvedValue = none
  distinct : table.tokens.Nodup

theorem find?_eq_none_iff {table : Table} {token : String} :
    table.find? token = none ↔ token ∉ table.tokens := by
  simp [find?, tokens, List.find?_eq_none]

theorem mem_tokens_of_find? {table : Table} {token : String} {binding : Binding}
    (h : table.find? token = some binding) : token ∈ table.tokens := by
  obtain ⟨entry, hentry, -⟩ := Option.map_eq_some_iff.1 h
  have htoken := List.find?_some hentry
  exact List.mem_map.2 ⟨entry, List.mem_of_find?_eq_some hentry, by simpa using htoken⟩

theorem Bare.insert {table : Table} (h : Bare table) {token : String} {binding : Binding}
    (unbound : binding.resolvedValue = none) : Bare (table.insert token binding).2 := by
  unfold Table.insert
  split
  · exact h
  · next hnone =>
    constructor
    · intro entry hentry
      rcases List.mem_append.1 hentry with hold | hnew
      · exact h.unbound entry hold
      · rw [List.mem_singleton.1 hnew]
        exact unbound
    · have hfresh : token ∉ table.tokens := find?_eq_none_iff.1 hnone
      have hdistinct : (table.tokens ++ [token]).Nodup :=
        List.nodup_append.2 ⟨h.distinct, by simp, by
          rintro a ha b hb rfl
          exact hfresh (List.mem_singleton.1 hb ▸ ha)⟩
      simpa [tokens] using hdistinct

theorem bare_foldl_addToken (names : List String) (ts : List Token) {table : Table} (h : Bare table) :
    Bare (ts.foldl (addToken names) table) := by
  induction ts generalizing table with
  | nil => exact h
  | cons t ts ih =>
    refine ih ?_
    unfold addToken
    split
    · exact h
    · exact h.insert rfl

theorem bare_ofSubject (names : List String) (subject : String) : Bare (ofSubject names subject) :=
  bare_foldl_addToken names _ ⟨by simp [empty], List.nodup_nil⟩

theorem find?_of_isEmpty {table : Table} (h : table.isEmpty) (key : String) : table.find? key = none := by
  have hentries : table.entries = [] := by simpa [isEmpty] using h
  simp [find?, hentries]

/-- A table without tokens leaves every text as it is. -/
theorem fill_of_isEmpty {table : Table} (h : table.isEmpty) (text : String) : table.fill text = text := by
  have hpiece : table.fillPiece = Piece.chars := by
    funext piece
    cases piece with
    | verbatim cs => rfl
    | token t => simp [fillPiece, find?_of_isEmpty h, Piece.chars]
  rw [fill, fillChars, hpiece, flatMap_chars_pieces, String.ofList_toList]

end Table

end SubjectMerge
