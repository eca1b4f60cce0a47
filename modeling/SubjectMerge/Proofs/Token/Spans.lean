import SubjectMerge.Proofs.Token.Grammar
import SubjectMerge.Token.Scan

/-! What the scan of a text finds. Its pieces put together are the text again, and its tokens are the
well-formed ones whose written form occurs anywhere in the text: a bracketed span is cut by no other. -/

namespace SubjectMerge

open Token (WellFormed isBracket)

/-- The characters of a text that the scan has read and not yet put into a piece. -/
def openedChars : Option (List Char) → List Char
  | none => []
  | some body => '[' :: body.reverse

/-- What the scan keeps between two characters: an opened body holds no bracket. -/
def OpenedPlain (opened : Option (List Char)) : Prop :=
  ∀ body ∈ opened, ∀ c ∈ body, isBracket c = false

theorem isBracket_eq_false_iff {c : Char} : isBracket c = false ↔ c ≠ '[' ∧ c ≠ ']' := by
  simp [isBracket]

namespace Piece

theorem chars_ofBody {body : List Char} (plain : ∀ c ∈ body, isBracket c = false) :
    (ofBody body).chars = '[' :: (body ++ [']']) := by
  unfold ofBody
  split
  · next t ht =>
    obtain ⟨-, rfl⟩ := (Token.ofBody?_eq_some_iff plain).1 ht
    rfl
  · rfl

theorem wellFormed_of_ofBody {body : List Char} (plain : ∀ c ∈ body, isBracket c = false) {t : Token}
    (h : ofBody body = .token t) : t.WellFormed := by
  unfold ofBody at h
  split at h
  · next ht =>
    cases h
    exact ((Token.ofBody?_eq_some_iff plain).1 ht).1
  · cases h

theorem ofBody_body {t : Token} (wf : t.WellFormed) : ofBody t.body = .token t := by
  unfold ofBody
  rw [wf.ofBody?_body]

end Piece

theorem openedPlain_none : OpenedPlain none := by
  intro body h
  cases h

theorem openedPlain_nil : OpenedPlain (some []) := by
  intro body h c hc
  cases h
  cases hc

theorem OpenedPlain.reverse {body : List Char} (h : OpenedPlain (some body)) :
    ∀ c ∈ body.reverse, isBracket c = false := fun c hc => h body rfl c (List.mem_reverse.1 hc)

theorem OpenedPlain.cons {body : List Char} {c : Char} (h : OpenedPlain (some body))
    (hopen : c ≠ '[') (hclose : c ≠ ']') : OpenedPlain (some (c :: body)) := by
  rintro _ ⟨⟩ d hd
  rcases List.mem_cons.1 hd with rfl | hd
  · exact isBracket_eq_false_iff.2 ⟨hopen, hclose⟩
  · exact h body rfl d hd

/-- The scan looks at one character at a time. Each case of the scan is one of five, and what holds of
a whole text need only be shown to pass through them. -/
theorem piecesFrom_induct {P : Option (List Char) → List Char → List Piece → Prop}
    (done : P none [] [])
    (unclosed : ∀ body, OpenedPlain (some body) →
      P (some body) [] [.verbatim (openedChars (some body))])
    (plain : ∀ c rest, c ≠ '[' → P none rest (piecesFrom none rest) →
      P none (c :: rest) (.verbatim [c] :: piecesFrom none rest))
    (opening : ∀ rest, P (some []) rest (piecesFrom (some []) rest) →
      P none ('[' :: rest) (piecesFrom (some []) rest))
    (reopening : ∀ body rest, OpenedPlain (some body) →
      P (some []) rest (piecesFrom (some []) rest) →
      P (some body) ('[' :: rest)
        (.verbatim (openedChars (some body)) :: piecesFrom (some []) rest))
    (closing : ∀ body rest, OpenedPlain (some body) → P none rest (piecesFrom none rest) →
      P (some body) (']' :: rest) (Piece.ofBody body.reverse :: piecesFrom none rest))
    (inside : ∀ body c rest, OpenedPlain (some body) → c ≠ '[' → c ≠ ']' →
      P (some (c :: body)) rest (piecesFrom (some (c :: body)) rest) →
      P (some body) (c :: rest) (piecesFrom (some (c :: body)) rest))
    {opened : Option (List Char)} (hopened : OpenedPlain opened) (text : List Char) :
    P opened text (piecesFrom opened text) := by
  induction text generalizing opened with
  | nil =>
    cases opened with
    | none => exact done
    | some body => exact unclosed body hopened
  | cons c rest ih =>
    cases opened with
    | none =>
      by_cases hc : c = '['
      · subst hc
        simpa [piecesFrom] using opening rest (ih openedPlain_nil)
      · simpa [piecesFrom, hc] using plain c rest hc (ih openedPlain_none)
    | some body =>
      by_cases hopen : c = '['
      · subst hopen
        simpa [piecesFrom, openedChars] using reopening body rest hopened (ih openedPlain_nil)
      · by_cases hclose : c = ']'
        · subst hclose
          simpa [piecesFrom] using closing body rest hopened (ih openedPlain_none)
        · simpa [piecesFrom, hopen, hclose] using
            inside body c rest hopened hopen hclose (ih (hopened.cons hopen hclose))

theorem flatMap_chars_piecesFrom {opened : Option (List Char)} (hopened : OpenedPlain opened)
    (text : List Char) : (piecesFrom opened text).flatMap Piece.chars = openedChars opened ++ text := by
  refine piecesFrom_induct (P := fun opened text found =>
    found.flatMap Piece.chars = openedChars opened ++ text)
    ?done ?unclosed ?plain ?opening ?reopening ?closing ?inside hopened text
  case done => rfl
  case unclosed => intro body _; simp [Piece.chars]
  case plain => intro c rest _ ih; simpa [Piece.chars, openedChars] using ih
  case opening => intro rest ih; simpa [openedChars] using ih
  case reopening => intro body rest _ ih; simp [Piece.chars, ih, openedChars]
  case closing =>
    intro body rest hbody ih
    simp [Piece.chars_ofBody hbody.reverse, ih, openedChars]
  case inside => intro body c rest _ _ _ ih; simpa [openedChars] using ih

/-- Put together, the pieces of a text are the text. -/
theorem flatMap_chars_pieces (text : List Char) : (pieces text).flatMap Piece.chars = text :=
  flatMap_chars_piecesFrom openedPlain_none text

theorem wellFormed_of_mem_pieces {text : List Char} {t : Token} (h : .token t ∈ pieces text) :
    t.WellFormed := by
  refine piecesFrom_induct (P := fun _ _ found => .token t ∈ found → t.WellFormed)
    ?done ?unclosed ?plain ?opening ?reopening ?closing ?inside openedPlain_none text h
  case done => simp
  case unclosed => simp
  case plain => intro c rest _ ih; simpa using ih
  case opening => intro rest ih; exact ih
  case reopening => intro body rest _ ih; simpa using ih
  case closing =>
    intro body rest hbody ih hmem
    rcases List.mem_cons.1 hmem with htok | hmem
    · exact Piece.wellFormed_of_ofBody hbody.reverse htok.symm
    · exact ih hmem
  case inside => intro body c rest _ _ _ ih; exact ih

theorem mem_tokensOf {text : List Char} {t : Token} : t ∈ tokensOf text ↔ .token t ∈ pieces text := by
  simp only [tokensOf, List.mem_filterMap]
  constructor
  · rintro ⟨piece, hmem, htok⟩
    cases piece with
    | verbatim cs => cases htok
    | token u => cases htok; exact hmem
  · exact fun h => ⟨_, h, rfl⟩

theorem piecesFrom_body {body : List Char} (plain : ∀ c ∈ body, isBracket c = false)
    (read rest : List Char) :
    piecesFrom (some read) (body ++ rest) = piecesFrom (some (body.reverse ++ read)) rest := by
  induction body generalizing read with
  | nil => rfl
  | cons c body ih =>
    obtain ⟨hopen, hclose⟩ := isBracket_eq_false_iff.1 (plain c List.mem_cons_self)
    rw [List.cons_append, piecesFrom]
    simp only [hopen, hclose, if_false]
    rw [ih fun d hd => plain d (List.mem_cons_of_mem c hd)]
    simp

/-- At a token's written form the scan finds that token and starts afresh behind it. -/
theorem pieces_chars_append {t : Token} (wf : t.WellFormed) (rest : List Char) :
    pieces (t.chars ++ rest) = .token t :: pieces rest := by
  have hchars : t.chars ++ rest = '[' :: (t.body ++ ']' :: rest) := by simp [Token.chars]
  rw [hchars, pieces, piecesFrom, if_pos rfl, piecesFrom_body wf.body_plain]
  simp [piecesFrom, Piece.ofBody_body wf, pieces]

/-- The scan starts afresh at an opening bracket, whatever body it has open. -/
theorem piecesFrom_append_opening (opened : Option (List Char)) (before rest : List Char) :
    piecesFrom opened (before ++ '[' :: rest) = piecesFrom opened before ++ pieces ('[' :: rest) := by
  induction before generalizing opened with
  | nil =>
    cases opened with
    | none => rfl
    | some body => simp [pieces, piecesFrom]
  | cons c before ih =>
    cases opened with
    | none =>
      rw [List.cons_append, piecesFrom, piecesFrom]
      split
      · exact ih _
      · rw [ih, List.cons_append]
    | some body =>
      rw [List.cons_append, piecesFrom, piecesFrom]
      split
      · rw [ih, List.cons_append]
      · split
        · rw [ih, List.cons_append]
        · exact ih _

/-- Wherever a well-formed token is written in a text, the scan finds it, and what stands before and
behind it is scanned as if it stood alone. -/
theorem pieces_append_token {t : Token} (wf : t.WellFormed) (before after : List Char) :
    pieces (before ++ (t.chars ++ after)) = pieces before ++ .token t :: pieces after := by
  rw [← pieces_chars_append wf]
  exact piecesFrom_append_opening none before _

theorem mem_tokensOf_iff {text : List Char} {t : Token} :
    t ∈ tokensOf text ↔ t.WellFormed ∧ t.chars <:+: text := by
  rw [mem_tokensOf]
  constructor
  · intro h
    refine ⟨wellFormed_of_mem_pieces h, ?_⟩
    obtain ⟨before, after, hsplit⟩ := List.append_of_mem h
    refine ⟨before.flatMap Piece.chars, after.flatMap Piece.chars, ?_⟩
    have htext := flatMap_chars_pieces text
    rw [hsplit, List.flatMap_append, List.flatMap_cons] at htext
    rw [← htext, List.append_assoc]
    rfl
  · rintro ⟨wf, before, after, rfl⟩
    rw [List.append_assoc, pieces_append_token wf]
    exact List.mem_append_right _ List.mem_cons_self

end SubjectMerge
