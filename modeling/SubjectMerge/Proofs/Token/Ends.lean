import SubjectMerge.Proofs.Token.Grammar

/-! A second way to read a token. The scan reads a body from its front; here the markers are taken off both
ends first and what is left is cut at its first question mark. Both readings find the same token. -/

namespace SubjectMerge.Token

/-- Reads a body from its two ends: first the markers come off, then the first question mark of what
is left begins the fallback. -/
def ofEnds? (body : List Char) : Option Token :=
  let lead := body.head? == some '!'
  let unled := if lead then body.tail else body
  let tail := unled.getLast? == some '!'
  let core := if tail then unled.dropLast else unled
  let name := core.takeWhile (· != '?')
  if name ≠ [] ∧ name.all isNameChar then
    some ⟨lead, name, (core.dropWhile (· != '?')).tail?, tail⟩
  else none

/-- The token span a text starts with: an opening bracket, a body up to the next bracket, and that
bracket a closing one. -/
def atStart? : List Char → Option Token
  | '[' :: rest =>
    if (rest.dropWhile fun c => !isBracket c).head? = some ']' then
      ofEnds? (rest.takeWhile fun c => !isBracket c)
    else none
  | _ => none

theorem ne_question_of_mem_name {t : Token} (wf : t.WellFormed) :
    ∀ c ∈ t.name, (c != '?') = true := fun c hc => by
  simpa using ne_question_of_isNameChar (wf.plainName c hc)

/-- The last character of what stands between the markers of a token without a last marker. -/
theorem getLast?_unmarked {t : Token} (wf : t.WellFormed) (htail : t.tail = false) :
    (t.name ++ fallbackChars t.fallback).getLast? ≠ some '!' := by
  cases hf : t.fallback with
  | none =>
    intro h
    have hmem : '!' ∈ t.name := by
      simpa [fallbackChars] using List.mem_of_getLast? h
    exact ne_mark_of_isNameChar (wf.plainName _ hmem) rfl
  | some text =>
    have hlast : text.getLast? ≠ some '!' := wf.marked htail text hf
    cases text with
    | nil => simp [fallbackChars]
    | cons c text => simpa [fallbackChars, List.getLast?_append, List.getLast?_cons_cons] using hlast

theorem head?_body {t : Token} (wf : t.WellFormed) : (t.body.head? == some '!') = t.lead := by
  cases hl : t.lead with
  | true => simp [Token.body, marker, hl]
  | false =>
    obtain ⟨c, name, hcons⟩ := List.exists_cons_of_ne_nil wf.named
    have hc : c ≠ '!' := ne_mark_of_isNameChar (wf.plainName c (by simp [hcons]))
    simp [Token.body, marker, hl, hcons, hc]

theorem getLast?_unled {t : Token} (wf : t.WellFormed) :
    ((t.name ++ fallbackChars t.fallback ++ marker t.tail).getLast? == some '!') = t.tail := by
  cases ht : t.tail with
  | true => simp [marker]
  | false => simpa [marker] using getLast?_unmarked wf ht

theorem ofEnds?_body {t : Token} (wf : t.WellFormed) : ofEnds? t.body = some t := by
  have hlead := head?_body wf
  have hunled : (if t.lead then t.body.tail else t.body) =
      t.name ++ fallbackChars t.fallback ++ marker t.tail := by
    cases hl : t.lead <;> simp [Token.body, marker, hl]
  have htail := getLast?_unled wf
  have hcore : (if t.tail then (t.name ++ fallbackChars t.fallback ++ marker t.tail).dropLast
      else t.name ++ fallbackChars t.fallback ++ marker t.tail) = t.name ++ fallbackChars t.fallback := by
    cases ht : t.tail <;> simp [marker]
  have hquestion : ∀ c ∈ (fallbackChars t.fallback).head?, (c != '?') = false := by
    cases t.fallback <;> simp [fallbackChars]
  have hname := takeWhile_run (ne_question_of_mem_name wf) hquestion
  have hrest := dropWhile_run (ne_question_of_mem_name wf) hquestion
  have hall : t.name.all isNameChar = true := List.all_eq_true.2 wf.plainName
  have hfallback : (fallbackChars t.fallback).tail? = t.fallback := by
    cases t.fallback <;> rfl
  simp only [ofEnds?, hlead, hunled, htail, hcore, hname, hrest, hall, hfallback, ne_eq, wf.named,
    not_false_eq_true, and_self, if_true]

/-- A marker that was looked for at the front of a body and taken off is the one that was there. -/
theorem marker_append_tail (body : List Char) :
    marker (body.head? == some '!') ++ (if body.head? == some '!' then body.tail else body) = body := by
  cases body with
  | nil => rfl
  | cons c body =>
    by_cases h : c = '!' <;> simp [marker, h]

theorem dropLast_append_marker (body : List Char) :
    (if body.getLast? == some '!' then body.dropLast else body) ++ marker (body.getLast? == some '!') =
      body := by
  by_cases h : body.getLast? = some '!'
  · simpa [marker, h] using List.dropLast_append_getLast? '!' h
  · simp [marker, h]

/-- The first question mark and what follows it are a written fallback. -/
theorem fallbackChars_dropWhile (core : List Char) :
    fallbackChars (core.dropWhile (· != '?')).tail? = core.dropWhile (· != '?') := by
  cases h : core.dropWhile (· != '?') with
  | nil => rfl
  | cons c rest =>
    have hc : c = '?' := by
      have := List.head?_dropWhile_not (· != '?') core
      simpa [h] using this
    simp [fallbackChars, hc]

theorem wellFormed_of_ofEnds? {body : List Char} (plain : ∀ c ∈ body, isBracket c = false) {t : Token}
    (h : ofEnds? body = some t) : t.WellFormed ∧ t.body = body := by
  simp only [ofEnds?] at h
  generalize hunled : (if body.head? == some '!' then body.tail else body) = unled at h
  generalize hcore : (if unled.getLast? == some '!' then unled.dropLast else unled) = core at h
  split at h
  case isFalse => cases h
  case isTrue hname =>
    cases h
    have hfront := marker_append_tail body
    have hback := dropLast_append_marker unled
    rw [hunled] at hfront
    rw [hcore] at hback
    have hcut : core.takeWhile (· != '?') ++ fallbackChars (core.dropWhile (· != '?')).tail? = core := by
      rw [fallbackChars_dropWhile, List.takeWhile_append_dropWhile]
    have hbody : body = marker (body.head? == some '!') ++ core.takeWhile (· != '?') ++
        fallbackChars (core.dropWhile (· != '?')).tail? ++ marker (unled.getLast? == some '!') := by
      rw [List.append_assoc (marker _), hcut, List.append_assoc, hback, hfront]
    refine ⟨⟨hname.1, List.all_eq_true.1 hname.2, ?_, ?_⟩, hbody.symm⟩
    · intro text htext c hc
      replace htext : (core.dropWhile (· != '?')).tail? = some text := htext
      apply plain c
      rw [hbody, htext]
      simp [fallbackChars, hc]
    · intro htail text htext hlast
      replace htext : (core.dropWhile (· != '?')).tail? = some text := htext
      replace htail : (unled.getLast? == some '!') = false := htail
      -- then the whole of what was left would have ended in a marker
      have hcore_last : core.getLast? = some '!' := by
        rw [← hcut, htext, fallbackChars, List.getLast?_append, List.getLast?_cons]
        simp [hlast]
      have hnone : unled = core := by
        rw [← hback, htail]
        simp [marker]
      simp [hnone, hcore_last] at htail

/-- Reading a body from its ends and from its front is the same. -/
theorem ofEnds?_eq_ofBody? {body : List Char} (plain : ∀ c ∈ body, isBracket c = false) :
    ofEnds? body = ofBody? body := by
  apply Option.ext
  intro t
  rw [ofBody?_eq_some_iff plain]
  constructor
  · exact wellFormed_of_ofEnds? plain
  · rintro ⟨wf, rfl⟩
    exact ofEnds?_body wf

/-- What starts at an opening bracket is decided at the next bracket. -/
theorem atStart?_bracket {body rest : List Char} (plain : ∀ c ∈ body, isBracket c = false)
    (hrest : ∀ c ∈ rest.head?, isBracket c = true) :
    atStart? ('[' :: (body ++ rest)) = if rest.head? = some ']' then ofBody? body else none := by
  have hrun : ∀ c ∈ body, (!isBracket c) = true := fun c hc => by simp [plain c hc]
  have hstop : ∀ c ∈ rest.head?, (!isBracket c) = false := fun c hc => by simp [hrest c hc]
  rw [atStart?, takeWhile_run hrun hstop, dropWhile_run hrun hstop, ofEnds?_eq_ofBody? plain]

theorem atStart?_eq_none_of_ne {c : Char} (h : c ≠ '[') (rest : List Char) :
    atStart? (c :: rest) = none := by
  unfold atStart?
  split
  · next heq => exact absurd (List.cons.inj heq).1 h
  · rfl

/-- A text starts with a token span exactly when a well-formed token is written at its front. -/
theorem atStart?_eq_some_iff {text : List Char} {t : Token} :
    atStart? text = some t ↔ t.WellFormed ∧ t.chars <+: text := by
  constructor
  · intro h
    unfold atStart? at h
    split at h
    · next rest =>
      split at h
      · next hclose =>
        have plain : ∀ c ∈ rest.takeWhile fun c => !isBracket c, isBracket c = false := fun c hc => by
          simpa using List.mem_takeWhile_imp hc
        obtain ⟨wf, hbody⟩ := wellFormed_of_ofEnds? plain h
        obtain ⟨after, hafter⟩ := List.head?_eq_some_iff.1 hclose
        refine ⟨wf, after, ?_⟩
        have hsplit := List.takeWhile_append_dropWhile (p := fun c => !isBracket c) (l := rest)
        rw [hafter, ← hbody] at hsplit
        rw [← hsplit]
        simp [Token.chars]
      · cases h
    · cases h
  · rintro ⟨wf, after, rfl⟩
    have htext : t.chars ++ after = '[' :: (t.body ++ ']' :: after) := by simp [Token.chars]
    rw [htext, atStart?_bracket wf.body_plain (by simp [isBracket]), List.head?_cons, if_pos rfl,
      wf.ofBody?_body]

end SubjectMerge.Token
