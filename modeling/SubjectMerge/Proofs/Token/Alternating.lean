import Mathlib.Data.List.Basic
import SubjectMerge.Proofs.Token.Spans

/-! Texts whose brackets do not nest. If a closing bracket stands between any two opening ones, a text is made
of plain characters and closed bodies, and at most its last body is left open. -/

namespace SubjectMerge

open Token (isBracket)

/-- Between any two opening brackets of the text there is a closing one. -/
def Alternating (text : List Char) : Prop :=
  ∀ before between after, text = before ++ '[' :: (between ++ '[' :: after) → ']' ∈ between

/-- How such a text is made up, from its front. -/
inductive Alternates : List Char → Prop where
  | nil : Alternates []
  | plain (c : Char) {rest : List Char} (notOpening : c ≠ '[') (later : Alternates rest) :
      Alternates (c :: rest)
  | closed {body rest : List Char} (plain : ∀ c ∈ body, isBracket c = false) (later : Alternates rest) :
      Alternates ('[' :: (body ++ ']' :: rest))
  | unclosed {body : List Char} (plain : ∀ c ∈ body, isBracket c = false) : Alternates ('[' :: body)

theorem Alternates.append {run rest : List Char} (hrun : ∀ c ∈ run, isBracket c = false)
    (h : Alternates rest) : Alternates (run ++ rest) := by
  induction run with
  | nil => exact h
  | cons c run ih =>
    have hc : c ≠ '[' := (isBracket_eq_false_iff.1 (hrun c List.mem_cons_self)).1
    exact .plain c hc (ih fun d hd => hrun d (List.mem_cons_of_mem c hd))

theorem Alternating.of_append (before : List Char) {text : List Char} (h : Alternating (before ++ text)) :
    Alternating text := by
  rintro x between after rfl
  exact h (before ++ x) between after (by simp)

/-- An opening bracket of a text in which a body is closed is the body's own or stands behind it. -/
theorem append_opening_cases {body rest before after : List Char} (plain : ∀ c ∈ body, isBracket c = false)
    (h : body ++ ']' :: rest = before ++ '[' :: after) :
    ∃ later, before = body ++ ']' :: later ∧ rest = later ++ '[' :: after := by
  rcases List.append_eq_append_iff.1 h with ⟨more, rfl, hmore⟩ | ⟨more, rfl, hmore⟩
  · cases more with
    | nil => simp at hmore
    | cons c later =>
      obtain ⟨rfl, hrest⟩ := List.cons.inj hmore
      exact ⟨later, rfl, hrest⟩
  · cases more with
    | nil => simp at hmore
    | cons c later =>
      obtain ⟨rfl, -⟩ := List.cons.inj hmore
      simpa [isBracket] using plain '[' (by simp)

theorem Alternates.alternating {text : List Char} (h : Alternates text) : Alternating text := by
  induction h with
  | nil =>
    intro before between after htext
    simp at htext
  | plain c hc _ ih =>
    intro before between after htext
    cases before with
    | nil => exact absurd (List.cons.inj htext).1 hc
    | cons d before => exact ih before between after (List.cons.inj htext).2
  | closed hbody _ ih =>
    intro before between after htext
    cases before with
    | nil =>
      obtain ⟨later, rfl, -⟩ := append_opening_cases hbody (List.cons.inj htext).2
      simp
    | cons d before =>
      obtain ⟨later, -, hrest⟩ := append_opening_cases hbody (List.cons.inj htext).2
      exact ih later between after hrest
  | @unclosed body hbody =>
    intro before between after htext
    -- a second opening bracket would stand in the body
    have hopening : '[' ∈ body := by
      cases before with
      | nil => simp [(List.cons.inj htext).2]
      | cons d before => simp [(List.cons.inj htext).2]
    simpa [isBracket] using hbody '[' hopening

theorem Alternating.alternates {text : List Char} (h : Alternating text) : Alternates text := by
  refine piecesFrom_induct (P := fun opened text _ =>
    Alternating (openedChars opened ++ text) → Alternates (openedChars opened ++ text))
    ?done ?unclosed ?plain ?opening ?reopening ?closing ?inside openedPlain_none text h
  case done => exact fun _ => .nil
  case unclosed =>
    intro body hbody _
    simpa [openedChars] using Alternates.unclosed hbody.reverse
  case plain =>
    intro c rest hc ih h
    exact .plain c hc (ih (Alternating.of_append [c] h))
  case opening => intro rest ih h; exact ih h
  case reopening =>
    intro body rest hbody _ h
    have hclose := h [] body.reverse rest (by simp [openedChars])
    simpa [isBracket] using hbody.reverse ']' hclose
  case closing =>
    intro body rest hbody ih h
    have htext : openedChars (some body) ++ ']' :: rest = '[' :: (body.reverse ++ ']' :: rest) := rfl
    have hbefore : '[' :: (body.reverse ++ ']' :: rest) = ('[' :: (body.reverse ++ [']'])) ++ rest := by simp
    rw [htext] at h ⊢
    rw [hbefore] at h
    exact .closed hbody.reverse (ih (h.of_append _))
  case inside => intro body c rest _ _ _ ih; simpa [openedChars] using ih

end SubjectMerge
