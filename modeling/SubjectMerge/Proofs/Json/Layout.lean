import SubjectMerge.Proofs.Json.Grammar
import SubjectMerge.Proofs.Json.Numbers

/-! How a text is laid out. Blanks in front of anything are passed over, and the parts of a list or an object are
met one by one, each with the mark behind it. -/

namespace SubjectMerge.Json

theorem Blanks.isSpace (b : Blanks) {c : Char} (h : c ∈ b.chars) : isSpace c = true := by
  rcases b.blank c h with rfl | rfl | rfl | rfl <;> rfl

theorem skipSpace_blanks (b : Blanks) (s : List Char) : skipSpace (b.chars ++ s) = skipSpace s :=
  List.dropWhile_append_of_pos fun _ h => b.isSpace h

theorem skipSpace_skipSpace (s : List Char) : skipSpace (skipSpace s) = skipSpace s := by
  induction s with
  | nil => rfl
  | cons c s ih =>
    cases h : isSpace c with
    | false => simp [skipSpace, h]
    | true => simpa [skipSpace, h] using ih

/-- What stands behind blanks is met next. -/
theorem skipSpace_blanks_cons (b : Blanks) {c : Char} (h : isSpace c = false) (s : List Char) :
    skipSpace (b.chars ++ c :: s) = c :: s := by
  rw [skipSpace_blanks, skipSpace_cons h]

theorem endsNumber_blanks (b : Blanks) {rest : List Char} (h : EndsNumber rest) : EndsNumber (b.chars ++ rest) := by
  intro c hc
  cases hb : b.chars with
  | nil => exact h c (by rwa [hb] at hc)
  | cons d ds =>
    rw [hb] at hc
    obtain rfl : d = c := Option.some.inj hc
    rcases b.blank d (hb ▸ List.mem_cons_self) with rfl | rfl | rfl | rfl <;> decide

theorem followed_cons (part : List Char) (parts : List (List Char)) (rest : List Char) :
    followed (part :: parts) ++ rest = part ++ ',' :: (followed parts ++ rest) := by
  simp [followed]

theorem length_le_followed (parts : List (List Char)) : parts.length ≤ (followed parts).length := by
  induction parts with
  | nil => exact Nat.le_refl 0
  | cons part parts ih =>
    simp only [followed, List.flatMap_cons, List.length_append, List.length_cons, List.length_nil] at ih ⊢
    omega

theorem inside_nil (blank : Blanks) : inside blank [] = blank.chars := rfl

theorem inside_concat (blank : Blanks) (parts : List (List Char)) (last : List Char) :
    inside blank (parts ++ [last]) = followed parts ++ last := by
  have hne : parts ++ [last] ≠ [] := by simp
  rw [inside, if_neg hne]
  induction parts with
  | nil => simp [followed]
  | cons part parts ih =>
    have hrest : parts ++ [last] ≠ [] := by simp
    rw [List.cons_append, List.intercalate_cons_of_ne_nil hrest, ih hrest, followed_cons]
    simp

theorem length_le_inside (blank : Blanks) (parts : List (List Char)) :
    parts.length ≤ (inside blank parts).length + 1 := by
  rcases parts.eq_nil_or_concat' with rfl | ⟨parts, last, rfl⟩
  · exact Nat.zero_le _
  · have hle := length_le_followed parts
    simp only [inside_concat, List.length_append, List.length_singleton]
    omega

theorem inside_cons (blank : Blanks) (part : List Char) (parts : List (List Char)) :
    ∃ more, inside blank (part :: parts) = part ++ more := by
  rw [inside, if_neg (List.cons_ne_nil part parts)]
  cases parts with
  | nil => exact ⟨[], by simp⟩
  | cons next parts => exact ⟨_, by rw [List.intercalate_cons_cons, List.append_assoc]⟩

theorem nameChars_append (before : Blanks) (label : List Char) (behind : Blanks) (rest : List Char) :
    nameChars before label behind ++ rest =
      before.chars ++ '"' :: (label ++ '"' :: (behind.chars ++ ':' :: rest)) := by
  simp [nameChars]

end SubjectMerge.Json
