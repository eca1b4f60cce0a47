import Mathlib.Data.List.Infix
import SubjectMerge.Proofs.Subject.Table
import SubjectMerge.Proofs.Token.Ends

/-! Rendering without a table. A message can be walked from left to right, each token span replaced on the
spot by what its own characters and the recipient's values say. Scanning the subject, binding values and
filling in the message come to the same text. -/

namespace SubjectMerge

open Token (isBracket)

namespace Token

/-- What stands for a token when its attribute has this value; null is a row without a value. -/
def textFor (t : Token) (value : Option (Option String)) : String :=
  match value, t.fallback with
  | some (some value), none => value
  | some (some value), some fallback =>
    if value = "" ∨ value = "NULL" then String.ofList fallback else value
  | _, some fallback => String.ofList fallback
  | _, none => ""

/-- What a token becomes for a recipient, if its name is known: the value is the one of the first
directory name with the same capitals. -/
def renderedFor? (t : Token) (names : List String) (values : Values) : Option (List Char) :=
  (names.find? fun name => Text.upper name = Text.upper (String.ofList t.name)).map fun name =>
    let text := t.textFor (values.get? name)
    (if t.lead ∨ t.tail then Text.upper text else text).toList

end Token

/-- Walks a text once and writes something else for each token span. `skip` counts the characters of
a span that are still to be passed over. -/
def renderFrom (emit : Token → List Char) : Nat → List Char → List Char
  | _, [] => []
  | skip + 1, _ :: rest => renderFrom emit skip rest
  | 0, c :: rest =>
    match Token.atStart? (c :: rest) with
    | some t => emit t ++ renderFrom emit (t.chars.length - 1) rest
    | none => c :: renderFrom emit 0 rest

variable (emit : Token → List Char)

theorem renderFrom_skip (run rest : List Char) :
    renderFrom emit run.length (run ++ rest) = renderFrom emit 0 rest := by
  induction run with
  | nil => rfl
  | cons c run ih => simpa [renderFrom] using ih

theorem renderFrom_cons {c : Char} (hc : c ≠ '[') (rest : List Char) :
    renderFrom emit 0 (c :: rest) = c :: renderFrom emit 0 rest := by
  rw [renderFrom, Token.atStart?_eq_none_of_ne hc]

theorem renderFrom_plain {run : List Char} (plain : ∀ c ∈ run, isBracket c = false)
    (rest : List Char) : renderFrom emit 0 (run ++ rest) = run ++ renderFrom emit 0 rest := by
  induction run with
  | nil => rfl
  | cons c run ih =>
    have hc : c ≠ '[' := (isBracket_eq_false_iff.1 (plain c List.mem_cons_self)).1
    rw [List.cons_append, renderFrom_cons emit hc, ih fun d hd => plain d (List.mem_cons_of_mem c hd)]
    rfl

/-- An opening bracket whose body ends otherwise than in a closing one is a character like any other,
and so is its body. -/
theorem renderFrom_unclosed {body rest : List Char} (plain : ∀ c ∈ body, isBracket c = false)
    (hrest : ∀ c ∈ rest.head?, c = '[') :
    renderFrom emit 0 ('[' :: (body ++ rest)) = '[' :: (body ++ renderFrom emit 0 rest) := by
  have hstop : ∀ c ∈ rest.head?, isBracket c = true := fun c hc => by simp [hrest c hc, isBracket]
  have hclose : rest.head? ≠ some ']' := fun h => by simpa using hrest ']' h
  rw [renderFrom, Token.atStart?_bracket plain hstop, if_neg hclose]
  simp [renderFrom_plain emit plain]

/-- At a closed body the walk writes the token it is, or else the body as it stands. -/
theorem renderFrom_closed {body : List Char} (plain : ∀ c ∈ body, isBracket c = false)
    (rest : List Char) :
    renderFrom emit 0 ('[' :: (body ++ ']' :: rest)) =
      ((Token.ofBody? body).map emit).getD ('[' :: (body ++ [']'])) ++ renderFrom emit 0 rest := by
  have hstop : ∀ c ∈ (']' :: rest).head?, isBracket c = true := by simp [isBracket]
  rw [renderFrom, Token.atStart?_bracket plain hstop, List.head?_cons, if_pos rfl]
  cases h : Token.ofBody? body with
  | none =>
    simp [renderFrom_plain emit plain, renderFrom_cons emit (by decide : ']' ≠ '[')]
  | some t =>
    obtain ⟨-, rfl⟩ := (Token.ofBody?_eq_some_iff plain).1 h
    have hspan := renderFrom_skip emit (t.body ++ [']']) rest
    simpa [Token.chars] using hspan

theorem renderFrom_token {t : Token} (wf : t.WellFormed) (rest : List Char) :
    renderFrom emit 0 (t.chars ++ rest) = emit t ++ renderFrom emit 0 rest := by
  have hspan : t.chars ++ rest = '[' :: (t.body ++ ']' :: rest) := by simp [Token.chars]
  rw [hspan, renderFrom_closed emit wf.body_plain, wf.ofBody?_body]
  rfl

/-- Writing out a piece: a verbatim one as it is. -/
def Piece.write (emit : Token → List Char) : Piece → List Char
  | .verbatim cs => cs
  | .token t => emit t

theorem write_ofBody (body : List Char) :
    (Piece.ofBody body).write emit = ((Token.ofBody? body).map emit).getD ('[' :: (body ++ [']'])) := by
  unfold Piece.ofBody
  cases Token.ofBody? body <;> rfl

/-- The walk writes what the pieces of the scan give one by one. -/
theorem flatMap_write_pieces (text : List Char) :
    (pieces text).flatMap (Piece.write emit) = renderFrom emit 0 text := by
  refine piecesFrom_induct (P := fun opened text found =>
    found.flatMap (Piece.write emit) = renderFrom emit 0 (openedChars opened ++ text))
    ?done ?unclosed ?plain ?opening ?reopening ?closing ?inside openedPlain_none text
  case done => rfl
  case unclosed =>
    intro body hbody
    have hrest : ∀ c ∈ ([] : List Char).head?, c = '[' := by simp
    simpa [Piece.write, openedChars, renderFrom] using
      (renderFrom_unclosed emit hbody.reverse hrest).symm
  case plain =>
    intro c rest hc ih
    rw [List.flatMap_cons, ih, openedChars, List.nil_append, List.nil_append, renderFrom_cons emit hc]
    rfl
  case opening => intro rest ih; exact ih
  case reopening =>
    intro body rest hbody ih
    rw [List.flatMap_cons, ih]
    have hrest : ∀ c ∈ ('[' :: rest).head?, c = '[' := by simp
    simpa [Piece.write, openedChars] using (renderFrom_unclosed emit hbody.reverse hrest).symm
  case closing =>
    intro body rest hbody ih
    rw [List.flatMap_cons, ih, write_ofBody]
    simpa [openedChars] using (renderFrom_closed emit hbody.reverse rest).symm
  case inside => intro body c rest _ _ _ ih; simpa [openedChars] using ih

/-- Renders a message: a span is replaced if the same span occurs in the subject and its name is
known, and all else stays. -/
def render (names : List String) (values : Values) (subject message : String) : String :=
  String.ofList <| renderFrom (fun t =>
    if t.chars <:+: subject.toList then (t.renderedFor? names values).getD t.chars else t.chars)
    0 message.toList

/-- Renders a subject itself: every span whose name is known is replaced. -/
def renderSubject (names : List String) (values : Values) (subject : String) : String :=
  String.ofList <| renderFrom (fun t => (t.renderedFor? names values).getD t.chars) 0 subject.toList

/-- The replacement of a bound token says nothing that the token and the row do not. -/
theorem toList_replacement_bind (t : Token) (name : String) (values : Values) :
    (((t.binding name).bind values).replacement).toList =
      (if t.lead ∨ t.tail then Text.upper (t.textFor (values.get? name))
        else t.textFor (values.get? name)).toList := by
  have htext : ((t.binding name).bind values).plainReplacement = t.textFor (values.get? name) := by
    unfold Binding.plainReplacement Binding.hasValue Binding.bind Values.value? Token.binding
      Token.textFor nullSentinel
    cases t.fallback <;> rcases values.get? name with _ | _ | value <;> simp
    by_cases hempty : value = "" <;> by_cases hnull : value = "NULL" <;> simp [hempty, hnull]
  have hcase : ((t.binding name).bind values).uppercase = (t.lead || t.tail) := rfl
  rw [Binding.replacement, htext, hcase]
  cases t.lead <;> cases t.tail <;> rfl

theorem renderedFor?_eq (t : Token) (names : List String) (values : Values) :
    t.renderedFor? names values =
      (t.attribute? names).map fun name => ((t.binding name).bind values).replacement.toList := by
  simp only [Token.renderedFor?, Token.attribute?, directoryName?, toList_replacement_bind]
  congr 1

/-- What a subject's bound table makes of a token is what the token says by itself, if the subject has
it. -/
theorem fillPiece_token {t : Token} (wf : t.WellFormed) (names : List String) (values : Values)
    (subject : String) :
    ((Table.ofSubject names subject).bind values).fillPiece (.token t) =
      if t.chars <:+: subject.toList then (t.renderedFor? names values).getD t.chars else t.chars := by
  have hmem : t ∈ tokensOf subject.toList ↔ t.chars <:+: subject.toList := by
    simp [mem_tokensOf_iff, wf]
  simp only [Table.fillPiece, Table.find?_bind, Table.find?_ofSubject names subject wf, hmem,
    renderedFor?_eq]
  by_cases h : t.chars <:+: subject.toList
  · cases t.attribute? names <;> simp [h]
  · simp [h]

theorem fillChars_eq_renderFrom {table : Table} {text : List Char}
    (agree : ∀ t ∈ tokensOf text, table.fillPiece (.token t) = emit t) :
    table.fillChars text = renderFrom emit 0 text := by
  rw [← flatMap_write_pieces, Table.fillChars]
  apply List.flatMap_congr
  intro piece hpiece
  cases piece with
  | verbatim cs => rfl
  | token t => exact agree t (mem_tokensOf.2 hpiece)

/-- Parsing a subject, binding a recipient's values and filling in a message is rendering the message
in one pass; on the subject itself every span with a known name is replaced and nothing else. -/
theorem fill_bind_ofSubject (names : List String) (values : Values) (subject message : String) :
    ((Table.ofSubject names subject).bind values).fill message = render names values subject message ∧
      ((Table.ofSubject names subject).bind values).fill subject = renderSubject names values subject := by
  constructor
  · rw [Table.fill, render]
    congr 1
    apply fillChars_eq_renderFrom
    intro t ht
    exact fillPiece_token (mem_tokensOf_iff.1 ht).1 names values subject
  · rw [Table.fill, renderSubject]
    congr 1
    apply fillChars_eq_renderFrom
    intro t ht
    obtain ⟨wf, hsub⟩ := mem_tokensOf_iff.1 ht
    rw [fillPiece_token wf, if_pos hsub]

example : render ["Name", "NAME"] (.ofList [("Name", some "Ann"), ("NAME", some "Bob")])
    "Hi [NAME?you] [CITY]" "[NAME?you] [!NAME] [CITY] [[NAME?you]]" = "Ann [!NAME] [CITY] [Ann]" := by
  decide

end SubjectMerge
