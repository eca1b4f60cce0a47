import Mathlib.Data.List.Infix
import Mathlib.Logic.ExistsUnique
import SubjectMerge.Proofs.Subject.Render

/-! A text cut at its tokens. Every text has one such cut, and filling in writes something for each token of
it and keeps the rest, so what is written is never read as a token. Of a table only the first entry under
each token counts, and only under tokens that a text can spell. -/

namespace SubjectMerge

open Token (WellFormed)

/-- Some token is written like this. -/
def Token.Spelled (literal : String) : Prop := ∃ t : Token, t.WellFormed ∧ t.literal = literal

/-- A text in parts: what stands before the first token, and each token with what follows it. -/
structure Cut where
  opening : List Char
  rest : List (Token × List Char)

namespace Cut

def tokens (cut : Cut) : List Token := cut.rest.map Prod.fst

def verbatims (cut : Cut) : List (List Char) := cut.opening :: cut.rest.map Prod.snd

/-- The parts put together, with something written for each token. -/
def write (emit : Token → List Char) (cut : Cut) : List Char :=
  cut.opening ++ cut.rest.flatMap fun part => emit part.1 ++ part.2

/-- The parts are those of this text, and no token is left in what stands between the tokens. -/
structure Cuts (cut : Cut) (text : List Char) : Prop where
  whole : cut.write Token.chars = text
  wellFormed : ∀ t ∈ cut.tokens, t.WellFormed
  bare : ∀ cs ∈ cut.verbatims, ∀ t : Token, t.WellFormed → ¬ t.chars <:+: cs

end Cut

/-- What a list of entries makes of a token: the replacement of the first entry that has it. -/
def textAmong (entries : List Entry) (t : Token) : List Char :=
  match entries.find? fun entry => entry.token = t.literal with
  | some entry => entry.binding.replacement.toList
  | none => t.chars

/-- An entry is idle behind others if one of them has its token, or if no token is written like that. -/
def Entry.Idle (earlier : List Entry) (entry : Entry) : Prop :=
  (∃ other ∈ earlier, other.token = entry.token) ∨ ¬ Token.Spelled entry.token

/-- How a text is filled in by any table: along its one cut, and from the entries that are not idle. -/
structure FilledAlongCut (text : String) : Prop where
  once : ∃! cut : Cut, cut.Cuts text.toList
  filled : ∀ cut : Cut, cut.Cuts text.toList → ∀ table : Table,
    (table.fill text).toList = cut.write (textAmong table.entries)
  idle : ∀ earlier entry later, Entry.Idle earlier entry →
    Table.fill ⟨earlier ++ entry :: later⟩ text = Table.fill ⟨earlier ++ later⟩ text

theorem tokensOf_eq_nil_iff {text : List Char} :
    tokensOf text = [] ↔ ∀ t : Token, t.WellFormed → ¬ t.chars <:+: text := by
  simp [List.eq_nil_iff_forall_not_mem, mem_tokensOf_iff]

/-- If a text holds a token, it holds one that no other comes before. -/
theorem exists_first_token (before after : List Char) {t : Token} (wf : t.WellFormed) :
    ∃ (before' : List Char) (u : Token) (after' : List Char), u.WellFormed ∧ tokensOf before' = [] ∧
      before ++ (t.chars ++ after) = before' ++ (u.chars ++ after') := by
  -- a token in what stands before is a token of the text that starts earlier
  induction hn : before.length using Nat.strong_induction_on generalizing before after t with
  | _ n ih =>
    by_cases hbare : tokensOf before = []
    · exact ⟨before, t, after, wf, hbare, rfl⟩
    · obtain ⟨u, hu⟩ := List.exists_mem_of_ne_nil _ hbare
      obtain ⟨uwf, x, y, rfl⟩ := mem_tokensOf_iff.1 hu
      have hlt : x.length < n := by
        rw [← hn]
        simp [Token.chars]
      obtain ⟨before', v, after', vwf, hbefore', hsame⟩ := ih x.length hlt x (y ++ (t.chars ++ after)) uwf rfl
      exact ⟨before', v, after', vwf, hbefore', by simpa using hsame⟩

/-- What holds of texts without tokens, and of a text if it holds of what follows its first token, holds of
every text. -/
theorem first_token_induct {P : List Char → Prop} (bare : ∀ text, tokensOf text = [] → P text)
    (token : ∀ before t after, tokensOf before = [] → WellFormed t → P after →
      P (before ++ (t.chars ++ after))) (text : List Char) : P text := by
  induction hn : text.length using Nat.strong_induction_on generalizing text with
  | _ n ih =>
    by_cases hbare : tokensOf text = []
    · exact bare text hbare
    · obtain ⟨u, hu⟩ := List.exists_mem_of_ne_nil _ hbare
      obtain ⟨uwf, x, y, rfl⟩ := mem_tokensOf_iff.1 hu
      obtain ⟨before, t, after, wf, hbefore, hsame⟩ := exists_first_token x y uwf
      rw [List.append_assoc, hsame] at hn ⊢
      have hlt : after.length < n := by
        rw [← hn]
        simp [Token.chars]
        omega
      exact token before t after hbefore wf (ih after.length hlt after rfl)

namespace Cut

variable {text opening behind : List Char} {t : Token} {rest : List (Token × List Char)} {cut : Cut}

theorem write_cons (emit : Token → List Char) :
    write emit ⟨opening, (t, behind) :: rest⟩ = opening ++ (emit t ++ write emit ⟨behind, rest⟩) := by
  simp [write]

theorem Cuts.tail (h : Cuts ⟨opening, (t, behind) :: rest⟩ text) :
    Cuts ⟨behind, rest⟩ (write Token.chars ⟨behind, rest⟩) :=
  ⟨rfl, fun u hu => h.wellFormed u (List.mem_cons_of_mem t hu),
    fun cs hcs => h.bare cs (List.mem_cons_of_mem opening hcs)⟩

theorem Cuts.tokensOf_opening (h : cut.Cuts text) : tokensOf cut.opening = [] :=
  tokensOf_eq_nil_iff.2 (h.bare cut.opening List.mem_cons_self)

/-- The scan of a text that is cut at a token. -/
theorem Cuts.pieces_eq (h : Cuts ⟨opening, (t, behind) :: rest⟩ text) :
    pieces text = pieces opening ++ .token t :: pieces (write Token.chars ⟨behind, rest⟩) := by
  rw [← h.whole, write_cons, pieces_append_token (h.wellFormed t List.mem_cons_self)]

theorem exists_cuts (text : List Char) : ∃ cut : Cut, cut.Cuts text := by
  induction text using first_token_induct with
  | bare text hbare =>
    exact ⟨⟨text, []⟩, by simp [write], by simp [tokens], by
      simpa [verbatims] using tokensOf_eq_nil_iff.1 hbare⟩
  | token before t after hbefore wf ih =>
    obtain ⟨⟨behind, rest⟩, hcut⟩ := ih
    refine ⟨⟨before, (t, behind) :: rest⟩, ?_, ?_, ?_⟩
    · rw [write_cons, hcut.whole]
    · intro u hu
      rcases List.mem_cons.1 hu with rfl | hu
      · exact wf
      · exact hcut.wellFormed u hu
    · intro cs hcs
      rcases List.mem_cons.1 hcs with rfl | hcs
      · exact tokensOf_eq_nil_iff.1 hbefore
      · exact hcut.bare cs hcs

/-- A piece without a token in it. -/
theorem token?_of_tokensOf_eq_nil (h : tokensOf text = []) :
    ∀ piece ∈ pieces text, piece.token?.isNone = true := by
  intro piece hpiece
  cases piece with
  | verbatim cs => rfl
  | token t =>
    have hmem := mem_tokensOf.2 hpiece
    simp [h] at hmem

theorem pieces_injective : Function.Injective pieces := by
  intro a b h
  rw [← flatMap_chars_pieces a, h, flatMap_chars_pieces]

/-- The tokens of a cut are all those of its text. -/
theorem Cuts.tokensOf_eq (h : cut.Cuts text) : tokensOf text = cut.tokens := by
  obtain ⟨opening, rest⟩ := cut
  induction rest generalizing opening text with
  | nil =>
    have hbare := h.tokensOf_opening
    have htext : opening = text := by simpa [write] using h.whole
    rw [← htext, hbare]
    rfl
  | cons part rest ih =>
    obtain ⟨t, behind⟩ := part
    have hopening := h.tokensOf_opening
    have htail := ih behind h.tail
    unfold tokensOf at hopening htail ⊢
    rw [h.pieces_eq, List.filterMap_append, List.filterMap_cons, hopening, htail]
    rfl

/-- Up to the first token a text is cut in one way: it is scanned in one way. -/
theorem Cuts.first_unique {opening' behind' : List Char} {t' : Token} {rest' : List (Token × List Char)}
    (h : Cuts ⟨opening, (t, behind) :: rest⟩ text) (h' : Cuts ⟨opening', (t', behind') :: rest'⟩ text) :
    opening = opening' ∧ t = t' ∧
      write Token.chars ⟨behind, rest⟩ = write Token.chars ⟨behind', rest'⟩ := by
  have hscan := h.pieces_eq.symm.trans h'.pieces_eq
  have hbefore := token?_of_tokensOf_eq_nil h.tokensOf_opening
  have hbefore' := token?_of_tokensOf_eq_nil h'.tokensOf_opening
  obtain ⟨hopening, hlater⟩ :=
    run_unique hbefore (by simp [Piece.token?]) hbefore' (by simp [Piece.token?]) hscan
  obtain ⟨htoken, hbehind⟩ := List.cons.inj hlater
  exact ⟨pieces_injective hopening, Piece.token.inj htoken, pieces_injective hbehind⟩

theorem Cuts.unique {other : Cut} (h : cut.Cuts text) (h' : other.Cuts text) : cut = other := by
  obtain ⟨opening, rest⟩ := cut
  obtain ⟨opening', rest'⟩ := other
  have htokens : rest.map Prod.fst = rest'.map Prod.fst := by
    simpa [tokens] using h.tokensOf_eq.symm.trans h'.tokensOf_eq
  induction rest generalizing opening opening' rest' text with
  | nil =>
    have hrest' : rest' = [] := by simpa using htokens.symm
    subst hrest'
    have hwhole := h.whole.trans h'.whole.symm
    simpa [write] using hwhole
  | cons part rest ih =>
    obtain ⟨part', rest', rfl⟩ : ∃ part' rest'', rest' = part' :: rest'' := by
      cases rest' with
      | nil => simp at htokens
      | cons part' rest'' => exact ⟨part', rest'', rfl⟩
    obtain ⟨t, behind⟩ := part
    obtain ⟨t', behind'⟩ := part'
    obtain ⟨rfl, rfl, hbehind⟩ := h.first_unique h'
    have htail' := h'.tail
    rw [← hbehind] at htail'
    have hrest := ih behind h.tail behind' rest' htail' (by simpa using htokens)
    cases hrest
    rfl

theorem flatMap_write_of_bare (emit : Token → List Char) (h : tokensOf text = []) :
    (pieces text).flatMap (Piece.write emit) = text := by
  conv_rhs => rw [← flatMap_chars_pieces text]
  apply List.flatMap_congr
  intro piece hpiece
  have hbare := token?_of_tokensOf_eq_nil h piece hpiece
  cases piece with
  | verbatim cs => rfl
  | token t => simp [Piece.token?] at hbare

/-- Writing out the pieces of the scan is writing out the cut. -/
theorem Cuts.flatMap_write (h : cut.Cuts text) (emit : Token → List Char) :
    (pieces text).flatMap (Piece.write emit) = cut.write emit := by
  obtain ⟨opening, rest⟩ := cut
  induction rest generalizing opening text with
  | nil =>
    have htext : opening = text := by simpa [write] using h.whole
    rw [← htext, flatMap_write_of_bare emit h.tokensOf_opening]
    simp [write]
  | cons part rest ih =>
    obtain ⟨t, behind⟩ := part
    rw [h.pieces_eq, List.flatMap_append, List.flatMap_cons, flatMap_write_of_bare emit h.tokensOf_opening,
      ih behind h.tail, write_cons]
    rfl

end Cut

theorem Table.fillPiece_eq (table : Table) : table.fillPiece = Piece.write (textAmong table.entries) := by
  funext piece
  cases piece with
  | verbatim cs => rfl
  | token t =>
    simp only [fillPiece, find?, Piece.write, textAmong, beq_eq_decide]
    cases table.entries.find? fun entry => decide (entry.token = t.literal) <;> rfl

theorem Table.fill_eq_flatMap (table : Table) (text : String) :
    table.fill text =
      String.ofList ((pieces text.toList).flatMap (Piece.write (textAmong table.entries))) := by
  rw [fill, fillChars, fillPiece_eq]

/-- Filling in is walking over the spans of the text once. -/
theorem Table.fill_eq_renderFrom (table : Table) (text : String) :
    table.fill text = String.ofList (renderFrom (textAmong table.entries) 0 text.toList) := by
  rw [fill_eq_flatMap, flatMap_write_pieces]

/-- An idle entry is not asked for under any token that a text can hold. -/
theorem textAmong_idle {earlier later : List Entry} {entry : Entry} (h : entry.Idle earlier) {t : Token}
    (wf : t.WellFormed) : textAmong (earlier ++ entry :: later) t = textAmong (earlier ++ later) t := by
  unfold textAmong
  by_cases hother : entry.token = t.literal
  · obtain ⟨other, hmem, hsame⟩ : ∃ other ∈ earlier, other.token = entry.token := by
      rcases h with h | h
      · exact h
      · exact absurd ⟨t, wf, hother.symm⟩ h
    have hfound : (earlier.find? fun e => e.token = t.literal) ≠ none := by
      simp only [ne_eq, List.find?_eq_none, decide_eq_true_eq, not_forall, not_not]
      exact ⟨other, hmem, hsame.trans hother⟩
    obtain ⟨found, hfound⟩ := Option.ne_none_iff_exists'.1 hfound
    simp [List.find?_append, hfound]
  · simp [List.find?_append, hother]

/-- What a table makes of a text is the text's own cut with something else for its tokens: nothing that is
written is read again, and idle entries have no part in it. -/
theorem filledAlongCut (text : String) : FilledAlongCut text := by
  constructor
  case once =>
    obtain ⟨cut, hcut⟩ := Cut.exists_cuts text.toList
    exact ⟨cut, hcut, fun other hother => hother.unique hcut⟩
  case filled =>
    intro cut hcut table
    rw [Table.fill_eq_flatMap, String.toList_ofList, hcut.flatMap_write]
  case idle =>
    intro earlier entry later hidle
    rw [Table.fill_eq_flatMap, Table.fill_eq_flatMap]
    congr 1
    apply List.flatMap_congr
    intro piece hpiece
    cases piece with
    | verbatim cs => rfl
    | token t => exact textAmong_idle hidle (wellFormed_of_mem_pieces hpiece)

end SubjectMerge
