import SubjectMerge.Proofs.Token.Ends
import SubjectMerge.Proofs.Token.Spans

/-! Where the tokens of a text stand. The grammar of a bracketed body is said here without the scan, and
loosely: one body may fit it in two ways, since a last `!` could end the fallback or mark the token. The scan
finds the places where the grammar fits, all of them from left to right and no two of them overlapping, and a
last `!` is always the marker. -/

namespace SubjectMerge

open Token (isBracket marker fallbackChars)

/-- A token and the place where it starts in a text. -/
structure Span where
  start : Nat
  token : Token
  deriving DecidableEq, Repr

/-- The place behind the token's closing bracket. -/
def Span.stop (span : Span) : Nat := span.start + span.token.chars.length

def spansFrom (start : Nat) : List Piece → List Span
  | [] => []
  | .verbatim cs :: rest => spansFrom (start + cs.length) rest
  | .token t :: rest => ⟨start, t⟩ :: spansFrom (start + t.chars.length) rest

/-- The tokens that the scan finds in a text, each with its place. -/
def spansOf (text : List Char) : List Span := spansFrom 0 (pieces text)

/-- The grammar of what stands between two brackets: an optional marker, a name, an optional question mark
with any text behind it, and an optional marker. -/
structure FitsGrammar (body : List Char) : Prop where
  plain : ∀ c ∈ body, c ≠ '[' ∧ c ≠ ']'
  parts : ∃ lead name fallback tail : List Char, body = lead ++ name ++ fallback ++ tail ∧
    (lead = [] ∨ lead = ['!']) ∧
    (name ≠ [] ∧ ∀ c ∈ name, c ≠ '[' ∧ c ≠ ']' ∧ c ≠ '?' ∧ c ≠ '!') ∧
    (fallback = [] ∨ ∃ text, fallback = '?' :: text) ∧
    (tail = [] ∨ tail = ['!'])

/-- The text has this body between brackets, from one place up to another. -/
def BracketedAt (text : List Char) (start stop : Nat) (body : List Char) : Prop :=
  ∃ before after, text = before ++ ('[' :: (body ++ [']']) ++ after) ∧ before.length = start ∧
    stop = start + (body.length + 2)

/-- How the parts of a token are read off its body. -/
structure Token.Dissects (t : Token) (body : List Char) : Prop where
  spelled : t.body = body
  lead : t.lead = true ↔ body.head? = some '!'
  /-- The name is the whole run up to the first `?` or `!` behind the leading marker. -/
  name : t.name = (body.drop (marker t.lead).length).takeWhile fun c => c != '?' && c != '!'
  tail : t.tail = true ↔ body.getLast? = some '!'
  noFallback : '?' ∉ body → t.fallback = none
  /-- The fallback runs from the first `?` to the last marker or the closing bracket. -/
  fallback : ∀ before after, body = before ++ '?' :: after → '?' ∉ before →
    ∃ text, t.fallback = some text ∧ after = text ++ marker t.tail

/-- What the scan of a text finds, against the grammar. -/
structure ScannedExactly (text : List Char) : Prop where
  tokens : (spansOf text).map Span.token = tokensOf text
  places : ∀ start stop, (∃ span ∈ spansOf text, span.start = start ∧ span.stop = stop) ↔
    ∃ body, BracketedAt text start stop body ∧ FitsGrammar body
  apart : (spansOf text).Pairwise fun a b => a.stop ≤ b.start
  parts : ∀ span ∈ spansOf text, ∀ body, BracketedAt text span.start span.stop body →
    span.token.Dissects body

namespace Token

variable {t : Token}

theorem isNameChar_iff {c : Char} :
    isNameChar c = true ↔ c ≠ '[' ∧ c ≠ ']' ∧ c ≠ '?' ∧ c ≠ '!' := by
  simp [isNameChar, isBracket, and_assoc]

theorem length_chars (t : Token) : t.chars.length = t.body.length + 2 := by
  simp [Token.chars]

theorem WellFormed.fitsGrammar (wf : t.WellFormed) : FitsGrammar t.body := by
  refine ⟨fun c hc => isBracket_eq_false_iff.1 (wf.body_plain c hc), marker t.lead, t.name,
    fallbackChars t.fallback, marker t.tail, rfl, ?_, ⟨wf.named, ?_⟩, ?_, ?_⟩
  · cases t.lead <;> simp [marker]
  · exact fun c hc => isNameChar_iff.1 (wf.plainName c hc)
  · cases t.fallback <;> simp [fallbackChars]
  · cases t.tail <;> simp [marker]

theorem exists_marker {mark : List Char} (h : mark = [] ∨ mark = ['!']) :
    ∃ present, marker present = mark := by
  rcases h with rfl | rfl
  · exact ⟨false, rfl⟩
  · exact ⟨true, rfl⟩

/-- A fallback and a marker can be told apart in one way only: a `!` at the end of both is the marker. -/
theorem exists_marked (text : List Char) (tail : Bool) :
    ∃ text' tail', text' ++ marker tail' = text ++ marker tail ∧
      (∀ c ∈ text', c ∈ text) ∧ (tail' = false → text'.getLast? ≠ some '!') := by
  by_cases h : tail = false ∧ text.getLast? = some '!'
  · obtain ⟨rfl, hlast⟩ := h
    refine ⟨text.dropLast, true, ?_, fun c hc => List.dropLast_subset text hc, by simp⟩
    simpa [marker] using List.dropLast_append_getLast? '!' hlast
  · refine ⟨text, tail, rfl, fun c hc => hc, fun htail hlast => h ⟨htail, hlast⟩⟩

/-- Whatever fits the grammar is the body of a token. -/
theorem exists_wellFormed_of_fitsGrammar {body : List Char} (h : FitsGrammar body) :
    ∃ t : Token, t.WellFormed ∧ t.body = body := by
  obtain ⟨plain, lead, name, fallback, tail, rfl, hlead, ⟨named, plainName⟩, hfallback, htail⟩ := h
  obtain ⟨lead, rfl⟩ := exists_marker hlead
  obtain ⟨tail, rfl⟩ := exists_marker htail
  have nameChars : ∀ c ∈ name, isNameChar c = true := fun c hc => isNameChar_iff.2 (plainName c hc)
  rcases hfallback with rfl | ⟨text, rfl⟩
  · exact ⟨⟨lead, name, none, tail⟩, ⟨named, nameChars, by simp, by simp⟩, by
      simp [Token.body, fallbackChars]⟩
  · obtain ⟨text', tail', hsame, hsub, hmarked⟩ := exists_marked text tail
    refine ⟨⟨lead, name, some text', tail'⟩, ⟨named, nameChars, ?_, ?_⟩, ?_⟩
    · rintro _ ⟨⟩ c hc
      exact isBracket_eq_false_iff.2 (plain c (by simp [hsub c hc]))
    · rintro htail' _ ⟨⟩
      exact hmarked htail'
    · simp [Token.body, fallbackChars, hsame]

/-- The first question mark of a body is the one before the fallback. -/
theorem WellFormed.question_notMem (wf : t.WellFormed) : '?' ∉ marker t.lead ++ t.name := by
  intro h
  rcases List.mem_append.1 h with h | h
  · cases hl : t.lead <;> simp [hl, marker] at h
  · exact ne_question_of_isNameChar (wf.plainName _ h) rfl

theorem WellFormed.dissects (wf : t.WellFormed) : t.Dissects t.body := by
  have hbody : t.body = marker t.lead ++ (t.name ++ (fallbackChars t.fallback ++ marker t.tail)) := by
    simp [Token.body]
  constructor
  case spelled => rfl
  case lead => rw [← head?_body wf, beq_iff_eq]
  case name =>
    have hrun : ∀ c ∈ t.name, (c != '?' && c != '!') = true := fun c hc => by
      obtain ⟨-, -, hquestion, hmark⟩ := isNameChar_iff.1 (wf.plainName c hc)
      simp [hquestion, hmark]
    have hstop : ∀ c ∈ (fallbackChars t.fallback ++ marker t.tail).head?,
        (c != '?' && c != '!') = false := by
      cases t.fallback <;> cases t.tail <;> simp [fallbackChars, marker]
    rw [hbody, List.drop_left, takeWhile_run hrun hstop]
  case tail =>
    have hne : t.name ++ (fallbackChars t.fallback ++ marker t.tail) ≠ [] := by simp [wf.named]
    have htail := getLast?_unled wf
    rw [List.append_assoc] at htail
    rw [hbody, List.getLast?_append_of_ne_nil _ hne]
    exact Iff.trans (by rw [htail]) beq_iff_eq
  case noFallback =>
    intro h
    cases hf : t.fallback with
    | none => rfl
    | some text => exact absurd (by simp [hbody, hf, fallbackChars]) h
  case fallback =>
    intro before after hsplit hbefore
    rw [hbody, ← List.append_assoc] at hsplit
    cases hf : t.fallback with
    | none =>
      have hmem : '?' ∈ marker t.lead ++ t.name ++ (fallbackChars t.fallback ++ marker t.tail) := by
        simp [hsplit]
      rw [hf, List.mem_append] at hmem
      rcases hmem with hmem | hmem
      · exact absurd hmem wf.question_notMem
      · cases htail : t.tail <;> simp [htail, fallbackChars, marker] at hmem
    | some text =>
      have hrun : ∀ c ∈ marker t.lead ++ t.name, (c != '?') = true := fun c hc => by
        simpa using ne_of_mem_of_not_mem hc wf.question_notMem
      have hrun' : ∀ c ∈ before, (c != '?') = true := fun c hc => by
        simpa using ne_of_mem_of_not_mem hc hbefore
      rw [hf, fallbackChars, List.cons_append] at hsplit
      obtain ⟨-, hafter⟩ := run_unique hrun (by simp) hrun' (by simp) hsplit
      exact ⟨text, rfl, (List.cons.inj hafter).2.symm⟩

end Token

variable {text : List Char} {start : Nat} {found : List Piece}

theorem spansFrom_append (start : Nat) (before after : List Piece) :
    spansFrom start (before ++ after) =
      spansFrom start before ++ spansFrom (start + (before.flatMap Piece.chars).length) after := by
  induction before generalizing start with
  | nil => rfl
  | cons piece before ih =>
    cases piece with
    | verbatim cs => simp [spansFrom, ih, Piece.chars, Nat.add_assoc]
    | token t => simp [spansFrom, ih, Piece.chars, Nat.add_assoc]

theorem map_token_spansFrom (start : Nat) (found : List Piece) :
    (spansFrom start found).map Span.token = found.filterMap Piece.token? := by
  induction found generalizing start with
  | nil => rfl
  | cons piece found ih =>
    cases piece with
    | verbatim cs => exact ih _
    | token t => exact congrArg (t :: ·) (ih _)

/-- A place is given to a token for the pieces that stand before it. -/
theorem mem_spansFrom {span : Span} :
    span ∈ spansFrom start found ↔ ∃ before after, found = before ++ .token span.token :: after ∧
      span.start = start + (before.flatMap Piece.chars).length := by
  constructor
  · intro h
    induction found generalizing start with
    | nil => cases h
    | cons piece found ih =>
      cases piece with
      | verbatim cs =>
        obtain ⟨before, after, rfl, hstart⟩ := ih h
        exact ⟨.verbatim cs :: before, after, rfl, by simp [hstart, Piece.chars, Nat.add_assoc]⟩
      | token t =>
        rcases List.mem_cons.1 h with rfl | h
        · exact ⟨[], found, rfl, rfl⟩
        · obtain ⟨before, after, rfl, hstart⟩ := ih h
          exact ⟨.token t :: before, after, rfl, by simp [hstart, Piece.chars, Nat.add_assoc]⟩
  · rintro ⟨before, after, rfl, hstart⟩
    rw [spansFrom_append, ← hstart]
    exact List.mem_append_right _ List.mem_cons_self

/-- The scan finds a token at a place exactly when the token is written there. -/
theorem mem_spansOf {span : Span} :
    span ∈ spansOf text ↔ span.token.WellFormed ∧
      ∃ before after, text = before ++ (span.token.chars ++ after) ∧ before.length = span.start := by
  rw [spansOf, mem_spansFrom]
  constructor
  · rintro ⟨before, after, hfound, hstart⟩
    have hmem : .token span.token ∈ pieces text := by simp [hfound]
    refine ⟨wellFormed_of_mem_pieces hmem, before.flatMap Piece.chars,
      after.flatMap Piece.chars, ?_, by simp [hstart]⟩
    rw [← flatMap_chars_pieces text, hfound, List.flatMap_append, List.flatMap_cons]
    rfl
  · rintro ⟨wf, before, after, rfl, hstart⟩
    exact ⟨pieces before, pieces after, pieces_append_token wf before after, by
      rw [flatMap_chars_pieces, hstart, Nat.zero_add]⟩

theorem start_le_of_mem {span : Span} (h : span ∈ spansFrom start found) : start ≤ span.start := by
  obtain ⟨before, after, -, hstart⟩ := mem_spansFrom.1 h
  omega

theorem spansFrom_apart (start : Nat) (found : List Piece) :
    (spansFrom start found).Pairwise fun a b => a.stop ≤ b.start := by
  induction found generalizing start with
  | nil => exact List.Pairwise.nil
  | cons piece found ih =>
    cases piece with
    | verbatim cs => exact ih _
    | token t => exact List.pairwise_cons.2 ⟨fun span hspan => start_le_of_mem hspan, ih _⟩

theorem bracketedAt_unique {stop : Nat} {body body' : List Char} (h : BracketedAt text start stop body)
    (h' : BracketedAt text start stop body') : body = body' := by
  obtain ⟨before, after, htext, hstart, hstop⟩ := h
  obtain ⟨before', after', htext', hstart', hstop'⟩ := h'
  rw [htext] at htext'
  obtain ⟨-, hrest⟩ := List.append_inj htext' (by omega)
  have hspan := (List.append_inj hrest (by simp; omega)).1
  simpa using hspan

theorem bracketedAt_of_mem {span : Span} (h : span ∈ spansOf text) :
    BracketedAt text span.start span.stop span.token.body := by
  obtain ⟨-, before, after, htext, hstart⟩ := mem_spansOf.1 h
  refine ⟨before, after, ?_, hstart, ?_⟩
  · rw [htext, Token.chars]
  · rw [Span.stop, Token.length_chars]

/-- The scan finds every bracketed span that fits the grammar and nothing else, in the order in which they
stand and without overlap, and reads each of them in one way. -/
theorem scannedExactly (text : List Char) : ScannedExactly text := by
  constructor
  case tokens => exact map_token_spansFrom 0 (pieces text)
  case places =>
    intro start stop
    constructor
    · rintro ⟨span, hspan, rfl, rfl⟩
      exact ⟨span.token.body, bracketedAt_of_mem hspan, (mem_spansOf.1 hspan).1.fitsGrammar⟩
    · rintro ⟨body, ⟨before, after, htext, hstart, hstop⟩, hfits⟩
      obtain ⟨t, wf, rfl⟩ := Token.exists_wellFormed_of_fitsGrammar hfits
      refine ⟨⟨start, t⟩, mem_spansOf.2 ⟨wf, before, after, ?_, hstart⟩, rfl, ?_⟩
      · rw [htext, Token.chars]
      · rw [hstop, Span.stop, Token.length_chars]
  case apart => exact spansFrom_apart 0 (pieces text)
  case parts =>
    intro span hspan body hbody
    rw [← bracketedAt_unique (bracketedAt_of_mem hspan) hbody]
    exact (mem_spansOf.1 hspan).1.dissects

example : spansOf "[a?b!] [[!c] [x!y] [".toList =
    [⟨0, ⟨false, ['a'], some ['b'], true⟩⟩, ⟨8, ⟨true, ['c'], none, false⟩⟩] := by
  decide

end SubjectMerge
