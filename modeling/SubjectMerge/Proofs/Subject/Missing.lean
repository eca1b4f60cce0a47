import Mathlib.Data.List.Flatten
import SubjectMerge.Proofs.Subject.Cut

/-! What is sent to a recipient without a value. An attribute may have no row, a row without a value, the empty
text or the sentinel. In all four cases a token falls back if it can, and in the first three it comes to nothing if
it cannot; only the sentinel is then written out. So of two recipients who differ in what is missing, the subjects
differ at these tokens and nowhere else. -/

namespace SubjectMerge

/-- Some entries with the sentinel or the empty text are gone, or are there without a value. -/
def Values.ClearedTo (values later : Values) : Prop :=
  ∀ name, later.get? name = values.get? name ∨
    (values.get? name = some (some nullSentinel) ∨ values.get? name = some (some "")) ∧
      (later.get? name = none ∨ later.get? name = some none)

namespace Values

variable {values later : Values}

theorem clearedTo_of_one {name : String}
    (hwas : values.get? name = some (some nullSentinel) ∨ values.get? name = some (some ""))
    (hnow : later.get? name = none ∨ later.get? name = some none)
    (hothers : ∀ other, other ≠ name → later.get? other = values.get? other) : values.ClearedTo later := by
  intro other
  by_cases hother : other = name
  · rw [hother]
    exact .inr ⟨hwas, hnow⟩
  · exact .inl (hothers other hother)

theorem clearedTo_erase {name : String}
    (hwas : values.get? name = some (some nullSentinel) ∨ values.get? name = some (some "")) :
    values.ClearedTo (values.erase name) := by
  have hgone : (values.erase name).get? name = none := by rw [Keyed.get?_erase, if_pos rfl]
  exact clearedTo_of_one hwas (.inl hgone) fun other hother => by rw [Keyed.get?_erase, if_neg hother]

theorem clearedTo_insert_none {name : String}
    (hwas : values.get? name = some (some nullSentinel) ∨ values.get? name = some (some "")) :
    values.ClearedTo (values.insert name none) := by
  have hgone : (values.insert name none).get? name = some none := by rw [Keyed.get?_insert, if_pos rfl]
  exact clearedTo_of_one hwas (.inr hgone) fun other hother => by rw [Keyed.get?_insert, if_neg hother]

/-- Entries may be cleared one by one. -/
theorem ClearedTo.trans {between : Values} (h : values.ClearedTo between) (h' : between.ClearedTo later) :
    values.ClearedTo later := by
  intro name
  rcases h' name with hsame | ⟨hwas, hnow⟩
  · rw [hsame]
    exact h name
  · rcases h name with hsame | ⟨-, hgone⟩
    · rw [hsame] at hwas
      exact .inr ⟨hwas, hnow⟩
    · rcases hgone with hgone | hgone <;> simp [hgone] at hwas

end Values

/-- A token of the subject without a fallback, whose attribute has lost the sentinel. -/
structure Token.Bared (names : List String) (subject : String) (values later : Values) (t : Token) : Prop where
  wellFormed : t.WellFormed
  stands : t.chars <:+: subject.toList
  bare : t.fallback = none
  lost : ∃ name ∈ t.attribute? names,
    values.get? name = some (some nullSentinel) ∧ later.get? name ≠ some (some nullSentinel)

theorem Token.bared_iff {names : List String} {subject : String} {values later : Values} {t : Token} :
    t.Bared names subject values later ↔ t ∈ tokensOf subject.toList ∧ t.fallback = none ∧
      ∃ name ∈ t.attribute? names,
        values.get? name = some (some nullSentinel) ∧ later.get? name ≠ some (some nullSentinel) := by
  rw [mem_tokensOf_iff]
  exact ⟨fun h => ⟨⟨h.wellFormed, h.stands⟩, h.bare, h.lost⟩, fun ⟨⟨wf, hstands⟩, hbare, hlost⟩ =>
    ⟨wf, hstands, hbare, hlost⟩⟩

instance {names : List String} {subject : String} {values later : Values} {t : Token} :
    Decidable (t.Bared names subject values later) :=
  decidable_of_iff _ Token.bared_iff.symm

/-- The message as the values fill it in, but with one text in the place of each bared token. -/
def fillExcept (names : List String) (subject : String) (values later : Values) (text message : String) : String :=
  String.ofList <| renderFrom (fun t =>
    if t.Bared names subject values later then text.toList
    else ((Table.ofSubject names subject).bind values).fillPiece (.token t)) 0 message.toList

section

variable {names : List String} {subject : String} {values later : Values} {t : Token}

/-- With something to fall back on, and without the sentinel, it is all one what is missing. -/
theorem Token.textFor_of_cleared (h : values.ClearedTo later) {name : String}
    (hkept : t.fallback = none → values.get? name = some (some nullSentinel) →
      later.get? name = some (some nullSentinel)) :
    t.textFor (later.get? name) = t.textFor (values.get? name) := by
  rcases h name with hsame | ⟨hwas, hnow⟩
  · rw [hsame]
  · cases hfallback : t.fallback with
    | none =>
      rcases hwas with hnull | hempty
      · rw [hkept hfallback hnull, hnull]
      · rcases hnow with hnow | hnow <;> simp [Token.textFor, hfallback, hempty, hnow]
    | some fallback =>
      rcases hwas with hwas | hwas <;> rcases hnow with hnow | hnow <;>
        simp [Token.textFor, nullSentinel, hfallback, hwas, hnow]

theorem Token.renderedFor?_of_cleared (h : values.ClearedTo later) (wf : t.WellFormed)
    (hstands : t.chars <:+: subject.toList) (hkept : ¬ t.Bared names subject values later) :
    t.renderedFor? names later = t.renderedFor? names values := by
  rw [renderedFor?_eq, renderedFor?_eq]
  apply Option.map_congr
  intro name hname
  rw [toList_replacement_bind, toList_replacement_bind, Token.textFor_of_cleared h]
  intro hbare hnull
  by_contra hlost
  exact hkept ⟨wf, hstands, hbare, name, hname, hnull, hlost⟩

theorem fillPiece_of_cleared (h : values.ClearedTo later) (wf : t.WellFormed)
    (hkept : ¬ t.Bared names subject values later) :
    ((Table.ofSubject names subject).bind later).fillPiece (.token t) =
      ((Table.ofSubject names subject).bind values).fillPiece (.token t) := by
  rw [fillPiece_token wf, fillPiece_token wf]
  by_cases hstands : t.chars <:+: subject.toList
  · rw [if_pos hstands, if_pos hstands, Token.renderedFor?_of_cleared h wf hstands hkept]
  · rw [if_neg hstands, if_neg hstands]

theorem fillPiece_of_textFor (wf : t.WellFormed) (hstands : t.chars <:+: subject.toList) {name text : String}
    (hname : t.attribute? names = some name) (htext : t.textFor (values.get? name) = text)
    (hupper : Text.upper text = text) :
    ((Table.ofSubject names subject).bind values).fillPiece (.token t) = text.toList := by
  rw [fillPiece_token wf, if_pos hstands, renderedFor?_eq, hname, Option.map_some, Option.getD_some,
    toList_replacement_bind, htext, hupper, ite_self]

/-- What a bared token was worth: the sentinel, which has no other capitals, -/
theorem fillPiece_bared (hbared : t.Bared names subject values later) :
    ((Table.ofSubject names subject).bind values).fillPiece (.token t) = nullSentinel.toList := by
  obtain ⟨name, hname, hnull, -⟩ := hbared.lost
  have htext : t.textFor (values.get? name) = nullSentinel := by simp [Token.textFor, hnull, hbared.bare]
  exact fillPiece_of_textFor hbared.wellFormed hbared.stands hname htext (by decide)

/-- and what it is worth after. -/
theorem fillPiece_bared_later (h : values.ClearedTo later) (hbared : t.Bared names subject values later) :
    ((Table.ofSubject names subject).bind later).fillPiece (.token t) = [] := by
  obtain ⟨name, hname, hnull, hlost⟩ := hbared.lost
  have htext : t.textFor (later.get? name) = "" := by
    rcases h name with hsame | ⟨-, hnow | hnow⟩
    · exact absurd (hsame.trans hnull) hlost
    · simp [Token.textFor, hnow, hbared.bare]
    · simp [Token.textFor, hnow, hbared.bare]
  exact fillPiece_of_textFor hbared.wellFormed hbared.stands hname htext (by decide)

theorem fill_eq_fillExcept (later : Values) (message : String) :
    ((Table.ofSubject names subject).bind values).fill message =
      fillExcept names subject values later nullSentinel message := by
  rw [Table.fill, fillExcept]
  congr 1
  apply fillChars_eq_renderFrom
  intro t _
  split
  case isTrue hbared => exact fillPiece_bared hbared
  case isFalse => rfl

theorem fill_later_eq_fillExcept (h : values.ClearedTo later) (message : String) :
    ((Table.ofSubject names subject).bind later).fill message =
      fillExcept names subject values later "" message := by
  rw [Table.fill, fillExcept]
  congr 1
  apply fillChars_eq_renderFrom
  intro t ht
  split
  case isTrue hbared => exact fillPiece_bared_later h hbared
  case isFalse hkept => exact fillPiece_of_cleared h (mem_tokensOf_iff.1 ht).1 hkept

end

/-- If each part of a text gives at most what it gave before, the text is the same only if each part is. -/
theorem flatMap_eq_flatMap_iff {α β : Type} {l : List α} {f g : α → List β}
    (h : ∀ a ∈ l, (g a).Sublist (f a)) : l.flatMap g = l.flatMap f ↔ ∀ a ∈ l, g a = f a := by
  refine ⟨fun heq => ?_, List.flatMap_congr⟩
  induction l with
  | nil => simp
  | cons a l ih =>
    rw [List.forall_mem_cons] at h ⊢
    have hrest : (l.flatMap g).Sublist (l.flatMap f) := List.Sublist.flatMap_right l h.2
    rw [List.flatMap_cons, List.flatMap_cons] at heq
    -- neither part can be shorter, for the other does not make up for it
    have hlength := congrArg List.length heq
    rw [List.length_append, List.length_append] at hlength
    have hfirst : (g a).length = (f a).length := by
      have hle := h.1.length_le
      have hrestLe := hrest.length_le
      omega
    obtain ⟨ha, hl⟩ := List.append_inj heq hfirst
    exact ⟨ha, ih h.2 hl⟩

/-- A text in the place of the bared tokens shows as soon as there is one. -/
theorem fillExcept_eq_iff {names : List String} {subject : String} {values later : Values} {text : String}
    (htext : text ≠ "") (message : String) :
    fillExcept names subject values later "" message = fillExcept names subject values later text message ↔
      ∀ t : Token, t.chars <:+: message.toList → ¬ t.Bared names subject values later := by
  have hlist : text.toList ≠ [] := fun h => htext (String.toList_inj.1 h)
  simp only [fillExcept, String.ofList_inj, ← flatMap_write_pieces]
  rw [flatMap_eq_flatMap_iff fun piece _ => ?less]
  case less =>
    cases piece with
    | verbatim cs => exact List.Sublist.refl cs
    | token t =>
      simp only [Piece.write]
      split
      · exact List.nil_sublist _
      · exact List.Sublist.refl _
  constructor
  · intro hsame t hstands hbared
    have ht : .token t ∈ pieces message.toList := mem_tokensOf.1 (mem_tokensOf_iff.2 ⟨hbared.wellFormed, hstands⟩)
    have hpiece := hsame _ ht
    simp only [Piece.write, if_pos hbared] at hpiece
    exact hlist hpiece.symm
  · intro hkept piece hpiece
    cases piece with
    | verbatim cs => rfl
    | token t =>
      have hstands := (mem_tokensOf_iff.1 (mem_tokensOf.2 hpiece)).2
      simp only [Piece.write, if_neg (hkept t hstands)]

/-- What the empty text and the sentinel are worth beside nothing at all. A message is filled in alike before and after
such entries are cleared, but for the bared tokens, which are the sentinel before and nothing after; so it is the same
unless it has one of them. -/
theorem fill_of_cleared {values later : Values} (h : values.ClearedTo later) (names : List String)
    (subject message : String) :
    let table := Table.ofSubject names subject
    (table.bind values).fill message = fillExcept names subject values later nullSentinel message ∧
      (table.bind later).fill message = fillExcept names subject values later "" message ∧
      ((table.bind later).fill message = (table.bind values).fill message ↔
        ∀ t : Token, t.chars <:+: message.toList → ¬ t.Bared names subject values later) := by
  have hsentinel : nullSentinel ≠ "" := by decide
  refine ⟨fill_eq_fillExcept later message, fill_later_eq_fillExcept h message, ?_⟩
  rw [fill_later_eq_fillExcept h message, fill_eq_fillExcept later message, fillExcept_eq_iff hsentinel]

/-- One attribute loses the sentinel and another the empty text, and a message shows neither. -/
theorem fill_of_cleared_guest :
    let values : Values := .ofList [("Name", some "NULL"), ("City", some "")]
    let later : Values := (values.erase "Name").insert "City" none
    let table := Table.ofSubject ["Name", "City"] "[NAME] [!NAME?guest] [CITY!]"
    values.ClearedTo later ∧ (table.bind later).fill "Dear [!NAME?guest] of [CITY!]" = "Dear GUEST of " ∧
      (table.bind values).fill "Dear [!NAME?guest] of [CITY!]" = "Dear GUEST of " := by
  intro values later table
  have hfirst : values.ClearedTo (values.erase "Name") := Values.clearedTo_erase (by decide)
  have hcleared : values.ClearedTo later := hfirst.trans (Values.clearedTo_insert_none (by decide))
  have hfill : (table.bind values).fill "Dear [!NAME?guest] of [CITY!]" = "Dear GUEST of " := by decide
  have hbare : ∀ t ∈ tokensOf "Dear [!NAME?guest] of [CITY!]".toList,
      ¬ t.Bared ["Name", "City"] "[NAME] [!NAME?guest] [CITY!]" values later := by decide
  refine ⟨hcleared, ?_, hfill⟩
  obtain ⟨-, -, hsame⟩ := fill_of_cleared hcleared ["Name", "City"] "[NAME] [!NAME?guest] [CITY!]"
    "Dear [!NAME?guest] of [CITY!]"
  rw [← hfill]
  exact hsame.2 fun t hstands hbared => hbare t (mem_tokensOf_iff.2 ⟨hbared.wellFormed, hstands⟩) hbared

/-- The sentinel does show where there is nothing to fall back on. -/
theorem fill_cleared_ne_bare : ¬ ∀ (names : List String) (subject message : String) (values later : Values),
    values.ClearedTo later → ((Table.ofSubject names subject).bind later).fill message =
      ((Table.ofSubject names subject).bind values).fill message := by
  intro h
  let values : Values := .ofList [("Name", some "NULL")]
  have hcleared : values.ClearedTo (values.erase "Name") := Values.clearedTo_erase (by decide)
  have hsame := h ["Name"] "Hi [NAME]" "Hi [NAME]" values (values.erase "Name") hcleared
  exact absurd hsame (by decide)

end SubjectMerge
