import SubjectMerge.Proofs.Subject.Directory
import SubjectMerge.Proofs.Subject.Rereads
import SubjectMerge.Proofs.Text.Capitals
import SubjectMerge.Proofs.Token.Positions

/-! How far the comparison by capitals reaches. A token may be spelled with the capitals of its name and stands for
the same; and of the names of a directory, subjects can reach those that a token can spell and that no earlier name
shadows. Both rest on what capitals keep: none of them is a character that ends a name, and none comes from one. -/

namespace SubjectMerge

open Token (isNameChar)

/-- The token with the capitals of its name. -/
def Token.inCapitals (t : Token) : Token := { t with name := Text.upperChars t.name }

/-- The name can stand in a token. -/
def Spellable (name : String) : Prop :=
  name ≠ "" ∧ ∀ c ∈ name.toList, c ≠ '[' ∧ c ≠ ']' ∧ c ≠ '?' ∧ c ≠ '!'

/-- One of the table's tokens stands for the attribute. -/
def Table.StandsFor (table : Table) (name : String) : Prop :=
  ∃ entry ∈ table.entries, entry.binding.attributeName = name

/-- What subjects can reach in a directory, and by which tokens. -/
structure Reaches (names : List String) : Prop where
  /-- What can be spelled can be spelled in capitals, -/
  capitals : ∀ t : Token, t.WellFormed → t.inCapitals.WellFormed
  /-- and wherever the two spellings stand, both are bound alike or neither is bound. -/
  alike : ∀ t : Token, t.WellFormed → ∀ subject other : String, t.chars <:+: subject.toList →
    t.inCapitals.chars <:+: other.toList →
    (Table.ofSubject names other).find? t.inCapitals.literal = (Table.ofSubject names subject).find? t.literal
  reached : ∀ name, (∃ subject, (Table.ofSubject names subject).StandsFor name) ↔
    Spellable name ∧ FirstListed names (Text.upper name) name
  /-- A name that any subject reaches is reached by itself between brackets. -/
  bracketed : ∀ name, Spellable name → FirstListed names (Text.upper name) name →
    Table.ofSubject names ("[" ++ name ++ "]") =
      ⟨[⟨"[" ++ name ++ "]", { attributeName := name, fallbackText := none, uppercase := false }⟩]⟩

namespace Token

/-- Capitals neither make nor unmake a character that ends a name. -/
theorem isNameChar_of_mem_capitals {c d : Char} (h : d ∈ Text.capitals c) : isNameChar d = isNameChar c := by
  rcases Text.range_of_mem_capitals h with rfl | hrange
  · rfl
  · have hd : isNameChar d = true := by
      rw [isNameChar_iff]
      refine ⟨?_, ?_, ?_, ?_⟩ <;> rintro rfl <;> simp at hrange
    cases hc : isNameChar c with
    | true => exact hd
    | false =>
      -- the four characters that are not allowed in a name are their own capitals
      have hends : c = '[' ∨ c = ']' ∨ c = '?' ∨ c = '!' := by
        simp only [isNameChar, isBracket] at hc
        grind
      have hself : Text.capitals c = [c] := by
        rcases hends with rfl | rfl | rfl | rfl <;> decide
      rw [hself, List.mem_singleton] at h
      rw [h, hc]

theorem forall_isNameChar_upperChars {cs : List Char} :
    (∀ d ∈ Text.upperChars cs, isNameChar d = true) ↔ ∀ c ∈ cs, isNameChar c = true := by
  constructor
  · intro h c hc
    obtain ⟨d, hd⟩ := List.exists_mem_of_ne_nil _ (Text.capitals_ne_nil c)
    rw [← isNameChar_of_mem_capitals hd]
    exact h d (List.mem_flatMap.2 ⟨c, hc, hd⟩)
  · intro h d hd
    obtain ⟨c, hc, hd⟩ := List.mem_flatMap.1 hd
    rw [isNameChar_of_mem_capitals hd]
    exact h c hc

theorem WellFormed.inCapitals {t : Token} (wf : t.WellFormed) : t.inCapitals.WellFormed where
  named h := wf.named (Text.upperChars_eq_nil_iff.1 h)
  plainName := forall_isNameChar_upperChars.2 wf.plainName
  plainFallback := wf.plainFallback
  marked := wf.marked

theorem attribute?_inCapitals (t : Token) (names : List String) :
    t.inCapitals.attribute? names = t.attribute? names := by
  simp only [attribute?, inCapitals, Text.upper, String.toList_ofList, Text.upperChars_upperChars]

end Token

theorem spellable_iff {name : String} :
    Spellable name ↔ name.toList ≠ [] ∧ ∀ c ∈ name.toList, isNameChar c = true := by
  simp only [Spellable, Token.isNameChar_iff, ne_eq, String.toList_eq_nil_iff]

/-- Names with the same capitals can be spelled both or neither. -/
theorem spellable_of_upper_eq {name : String} {t : Token} (wf : t.WellFormed)
    (h : Text.upper name = Text.upper (String.ofList t.name)) : Spellable name := by
  have hsame : Text.upperChars name.toList = Text.upperChars t.name := by
    simpa [Text.upper] using String.ofList_injective h
  refine spellable_iff.2 ⟨fun hempty => ?_, Token.forall_isNameChar_upperChars.1 ?_⟩
  · rw [hempty] at hsame
    exact wf.named (Text.upperChars_eq_nil_iff.1 hsame.symm)
  · rw [hsame]
    exact Token.forall_isNameChar_upperChars.2 wf.plainName

/-- A name between brackets is a token. -/
theorem exists_token_of_spellable {name : String} (h : Spellable name) :
    ∃ t : Token, t.WellFormed ∧ String.ofList t.name = name ∧ t.literal = "[" ++ name ++ "]" ∧
      ∀ attributeName, t.binding attributeName = { attributeName, fallbackText := none, uppercase := false } := by
  obtain ⟨named, plain⟩ := spellable_iff.1 h
  refine ⟨⟨false, name.toList, none, false⟩, ⟨named, plain, by simp, by simp⟩, String.ofList_toList, ?_,
    fun _ => rfl⟩
  apply String.toList_injective
  simp [Token.literal, Token.chars, Token.body, Token.marker, Token.fallbackChars]

/-- A directory is reached, by capitals, in every name that a token can spell and that no earlier one shadows. -/
theorem reaches (names : List String) : Reaches names := by
  have hbracketed : ∀ name, Spellable name → FirstListed names (Text.upper name) name →
      Table.ofSubject names ("[" ++ name ++ "]") =
        ⟨[⟨"[" ++ name ++ "]", { attributeName := name, fallbackText := none, uppercase := false }⟩]⟩ := by
    intro name hspell hfirst
    obtain ⟨t, wf, hname, hliteral, hbinding⟩ := exists_token_of_spellable hspell
    have hattribute : t.attribute? names = some name :=
      Token.attribute?_eq_some_iff_firstListed.2 (by rwa [hname])
    rw [← hliteral, Table.ofSubject_literal names wf, Token.entry?, hattribute, ← hbinding name]
    rfl
  constructor
  case capitals => exact fun t wf => wf.inCapitals
  case alike =>
    intro t wf subject other hsubject hother
    have hmem : t ∈ tokensOf subject.toList := mem_tokensOf_iff.2 ⟨wf, hsubject⟩
    have hmem' : t.inCapitals ∈ tokensOf other.toList := mem_tokensOf_iff.2 ⟨wf.inCapitals, hother⟩
    rw [Table.find?_ofSubject names other wf.inCapitals, Table.find?_ofSubject names subject wf, if_pos hmem,
      if_pos hmem', t.attribute?_inCapitals]
    rfl
  case reached =>
    intro name
    constructor
    · rintro ⟨subject, entry, hentry, rfl⟩
      obtain ⟨t, ht, hgiven⟩ := Table.mem_entries_ofSubject.1 hentry
      obtain ⟨name, hname, rfl⟩ := Option.map_eq_some_iff.1 hgiven
      have hfirst := Token.attribute?_eq_some_iff_firstListed.1 hname
      obtain ⟨-, -, -, hcapitals, -⟩ := id hfirst
      rw [← hcapitals] at hfirst
      exact ⟨spellable_of_upper_eq (mem_tokensOf_iff.1 ht).1 hcapitals, hfirst⟩
    · rintro ⟨hspell, hfirst⟩
      refine ⟨"[" ++ name ++ "]", ?_⟩
      rw [hbracketed name hspell hfirst]
      exact ⟨_, List.mem_singleton.2 rfl, rfl⟩
  case bracketed => exact hbracketed

/-- A name whose capitals are longer than itself, and a later one that it shadows. -/
example : (Table.ofSubject ["Straße", "STRASSE"] "[straße?] [STRASSE?]").entries.map
    (fun entry => (entry.token, entry.binding.attributeName)) =
      [("[straße?]", "Straße"), ("[STRASSE?]", "Straße")] := by
  decide +kernel

end SubjectMerge
