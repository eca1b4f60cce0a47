import SubjectMerge.Proofs.Runs
import SubjectMerge.Token

/-! The written form of a token. A bracketed body is read as a token exactly when it is the body of a
well-formed one, and no two well-formed tokens are written alike. -/

namespace SubjectMerge.Token

/-- A token as a subject can spell it. -/
structure WellFormed (t : Token) : Prop where
  named : t.name ≠ []
  plainName : ∀ c ∈ t.name, isNameChar c = true
  plainFallback : ∀ text ∈ t.fallback, ∀ c ∈ text, isBracket c = false
  /-- A last `!` is the marker, not the end of the fallback. -/
  marked : t.tail = false → ∀ text ∈ t.fallback, text.getLast? ≠ some '!'

theorem isBracket_of_isNameChar {c : Char} (h : isNameChar c = true) : isBracket c = false := by
  simp only [isNameChar, Bool.and_eq_true, Bool.not_eq_true'] at h
  exact h.1.1

theorem ne_mark_of_isNameChar {c : Char} (h : isNameChar c = true) : c ≠ '!' := by
  rintro rfl
  simp [isNameChar] at h

theorem ne_question_of_isNameChar {c : Char} (h : isNameChar c = true) : c ≠ '?' := by
  rintro rfl
  simp [isNameChar] at h

/-- Nothing after the name of a body could belong to it. -/
theorem head?_suffix (fallback : Option (List Char)) (tail : Bool) :
    ∀ c ∈ (fallbackChars fallback ++ marker tail).head?, isNameChar c = false := by
  cases fallback <;> cases tail <;> simp [fallbackChars, marker, isNameChar]

theorem ofRest?_eq_some_iff {lead : Bool} {name rest : List Char} {t : Token} :
    ofRest? lead name rest = some t ↔
      t.lead = lead ∧ t.name = name ∧ rest = fallbackChars t.fallback ++ marker t.tail ∧
        (t.tail = false → ∀ text ∈ t.fallback, text.getLast? ≠ some '!') := by
  constructor
  · intro h
    unfold ofRest? at h
    split at h
    · cases h
      simp [fallbackChars, marker]
    · cases h
      simp [fallbackChars, marker]
    · next text =>
      split at h
      · next hlast =>
        cases h
        refine ⟨rfl, rfl, ?_, by simp⟩
        have htext : text.dropLast ++ ['!'] = text := List.dropLast_append_getLast? '!' hlast
        simp [fallbackChars, marker, htext]
      · next hlast =>
        cases h
        refine ⟨rfl, rfl, by simp [fallbackChars, marker], ?_⟩
        simpa using hlast
    · cases h
  · obtain ⟨lead', name', fallback, tail⟩ := t
    rintro ⟨rfl, rfl, rfl, hmarked⟩
    cases fallback with
    | none => cases tail <;> rfl
    | some text =>
      cases tail with
      | true => simp [ofRest?, fallbackChars, marker]
      | false =>
        have hlast : text.getLast? ≠ some '!' := hmarked rfl text rfl
        simp [ofRest?, fallbackChars, marker, hlast]

theorem ofUnled?_eq_some_iff {lead : Bool} {body : List Char} {t : Token} :
    ofUnled? lead body = some t ↔
      t.lead = lead ∧ t.name ≠ [] ∧ (∀ c ∈ t.name, isNameChar c = true) ∧
        body = t.name ++ (fallbackChars t.fallback ++ marker t.tail) ∧
        (t.tail = false → ∀ text ∈ t.fallback, text.getLast? ≠ some '!') := by
  constructor
  · intro h
    unfold ofUnled? at h
    split at h
    · cases h
    · next c name hname =>
      obtain ⟨hlead, hn, hrest, hmarked⟩ := ofRest?_eq_some_iff.1 h
      refine ⟨hlead, by simp [hn], ?_, ?_, hmarked⟩
      · intro d hd
        rw [hn, ← hname] at hd
        exact List.mem_takeWhile_imp hd
      · rw [hn, ← hname, ← hrest, List.takeWhile_append_dropWhile]
  · rintro ⟨hlead, hne, hplain, rfl, hmarked⟩
    have hname := takeWhile_run hplain (head?_suffix t.fallback t.tail)
    have hrest := dropWhile_run hplain (head?_suffix t.fallback t.tail)
    obtain ⟨c, name, hcons⟩ := List.exists_cons_of_ne_nil hne
    unfold ofUnled?
    rw [hname, hrest, hcons]
    exact ofRest?_eq_some_iff.2 ⟨hlead, hcons, rfl, hmarked⟩

/-- A body without brackets is read as a token exactly when it is that token's body. -/
theorem ofBody?_eq_some_iff {body : List Char} (plain : ∀ c ∈ body, isBracket c = false) {t : Token} :
    ofBody? body = some t ↔ t.WellFormed ∧ t.body = body := by
  constructor
  · intro h
    have hshape : t.name ≠ [] ∧ (∀ c ∈ t.name, isNameChar c = true) ∧ body = t.body ∧
        (t.tail = false → ∀ text ∈ t.fallback, text.getLast? ≠ some '!') := by
      unfold ofBody? at h
      split at h
      · obtain ⟨hlead, hne, hplain, hbody, hmarked⟩ := ofUnled?_eq_some_iff.1 h
        exact ⟨hne, hplain, by simp [Token.body, hlead, hbody, marker], hmarked⟩
      · obtain ⟨hlead, hne, hplain, hbody, hmarked⟩ := ofUnled?_eq_some_iff.1 h
        exact ⟨hne, hplain, by simp [Token.body, hlead, hbody, marker], hmarked⟩
    obtain ⟨hne, hname, hbody, hmarked⟩ := hshape
    refine ⟨⟨hne, hname, fun text htext c hc => plain c ?_, hmarked⟩, hbody.symm⟩
    rw [Option.mem_def] at htext
    simp [hbody, Token.body, htext, fallbackChars, hc]
  · rintro ⟨wf, rfl⟩
    have hread {lead : Bool} (h : t.lead = lead) :
        ofUnled? lead (t.name ++ (fallbackChars t.fallback ++ marker t.tail)) = some t :=
      ofUnled?_eq_some_iff.2 ⟨h, wf.named, wf.plainName, rfl, wf.marked⟩
    cases hl : t.lead with
    | true =>
      have hbody : t.body = '!' :: (t.name ++ (fallbackChars t.fallback ++ marker t.tail)) := by
        simp [Token.body, hl, marker]
      rw [hbody]
      exact hread hl
    | false =>
      -- the name's first character is no marker, so nothing is taken off the front
      obtain ⟨c, name, hcons⟩ := List.exists_cons_of_ne_nil wf.named
      have hc : c ≠ '!' := ne_mark_of_isNameChar (wf.plainName c (by simp [hcons]))
      have hbody : t.body = c :: (name ++ (fallbackChars t.fallback ++ marker t.tail)) := by
        simp [Token.body, hl, marker, hcons]
      have hun := hread hl
      rw [hcons, List.cons_append] at hun
      rw [hbody]
      unfold ofBody?
      split
      · next rest heq => exact absurd (List.cons.inj heq).1 hc
      · exact hun

namespace WellFormed

variable {s t : Token}

theorem body_plain (wf : t.WellFormed) : ∀ c ∈ t.body, isBracket c = false := by
  intro c hc
  simp only [Token.body, List.mem_append] at hc
  have hmarker {present : Bool} (h : c ∈ marker present) : isBracket c = false := by
    cases present <;> simp_all [marker, isBracket]
  rcases hc with ((hc | hc) | hc) | hc
  · exact hmarker hc
  · exact isBracket_of_isNameChar (wf.plainName c hc)
  · cases hf : t.fallback with
    | none => simp [hf, fallbackChars] at hc
    | some text =>
      rw [hf, fallbackChars, List.mem_cons] at hc
      rcases hc with rfl | hc
      · rfl
      · exact wf.plainFallback text hf c hc
  · exact hmarker hc

theorem ofBody?_body (wf : t.WellFormed) : ofBody? t.body = some t :=
  (ofBody?_eq_some_iff wf.body_plain).2 ⟨wf, rfl⟩

theorem eq_of_chars_eq (hs : s.WellFormed) (ht : t.WellFormed) (h : s.chars = t.chars) : s = t := by
  have hbody : s.body = t.body := by simpa [Token.chars] using h
  have := hs.ofBody?_body
  rw [hbody, ht.ofBody?_body] at this
  exact (Option.some.inj this).symm

theorem literal_eq_iff (hs : s.WellFormed) (ht : t.WellFormed) : s.literal = t.literal ↔ s = t := by
  constructor
  · intro h
    exact eq_of_chars_eq hs ht (String.ofList_injective h)
  · rintro rfl
    rfl

end WellFormed

end SubjectMerge.Token
