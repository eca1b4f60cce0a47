import SubjectMerge.Json.Lexical
import SubjectMerge.Proofs.Json.Grammar

/-! Strings read in whatever way they are written. Each way to write a character is read as that character, and a
string that is passed over ends at its closing quote even where its codes are halves of pairs. -/

namespace SubjectMerge.Json

theorem le_foldl_utf8Size (n : Nat) (s : List Char) : n ≤ s.foldl (fun n c => n + c.utf8Size) n := by
  induction s generalizing n with
  | nil => exact Nat.le_refl n
  | cons c s ih => exact Nat.le_trans (Nat.le_add_right n c.utf8Size) (ih (n + c.utf8Size))

/-- Four characters take four bytes at least. -/
theorem fewerThanFourBytes_eq_false (a b c d : Char) (s : List Char) :
    fewerThanFourBytes (a :: b :: c :: d :: s) = false := by
  have hrest := le_foldl_utf8Size (0 + a.utf8Size + b.utf8Size + c.utf8Size + d.utf8Size) s
  have ha := a.utf8Size_pos
  have hb := b.utf8Size_pos
  have hc := c.utf8Size_pos
  have hd := d.utf8Size_pos
  have hfour : ¬ (a :: b :: c :: d :: s).foldl (fun n c => n + c.utf8Size) 0 < 4 := by
    simp only [List.foldl_cons]
    omega
  exact decide_eq_false hfour

theorem Code.fewerThanFourBytes_eq_false {digits : List Char} {n : Nat} (h : Code digits n) (s : List Char) :
    fewerThanFourBytes (digits ++ s) = false := by
  cases h
  exact Json.fewerThanFourBytes_eq_false _ _ _ _ s

theorem hexDigit?_eq {c : Char} {n : Nat} (h : Text.IsHexDigit c n) : hexDigit? c = some n :=
  h.forall (p := fun n c => hexDigit? c = some n) (by decide)

theorem simpleEscape?_eq {e c : Char} (h : (e, c) ∈ shortEscapes) : simpleEscape? e = some c :=
  (by decide : ∀ pair ∈ shortEscapes, simpleEscape? pair.1 = some pair.2) _ h

theorem isHighSurrogate_iff {n : Nat} : isHighSurrogate n = true ↔ 0xd800 ≤ n ∧ n < 0xdc00 := by
  simp [isHighSurrogate]

theorem isLowSurrogate_iff {n : Nat} : isLowSurrogate n = true ↔ 0xdc00 ≤ n ∧ n < 0xe000 := by
  simp [isLowSurrogate]

/-- Four digits read where no first half of a pair stands before them. -/
theorem Code.unquote_single {digits : List Char} {n : Nat} (h : Code digits n) (paired : Bool) (s : List Char) :
    unquote paired (.digits 4 0 none) (digits ++ s) =
      if paired && isLowSurrogate n then .error .malformed
      else if paired && isHighSurrogate n then unquote paired (.beforeSlash n) s
      else (unquote paired .plain s).map fun (cs, s) => (Char.ofNat n :: cs, s) := by
  cases h with
  | digits ha hb hc hd => simp [unquote, hexDigit?_eq ha, hexDigit?_eq hb, hexDigit?_eq hc, hexDigit?_eq hd]

/-- Four digits read behind the first half of a pair. -/
theorem Code.unquote_second {digits : List Char} {low : Nat} (h : Code digits low) (paired : Bool) (high : Nat)
    (hlow : isLowSurrogate low = true) (s : List Char) :
    unquote paired (.digits 4 0 (some high)) (digits ++ s) =
      (unquote paired .plain s).map fun (cs, s) => (Char.ofNat (pairCode high low) :: cs, s) := by
  cases h with
  | digits ha hb hc hd =>
    simp [unquote, hexDigit?_eq ha, hexDigit?_eq hb, hexDigit?_eq hc, hexDigit?_eq hd, hlow]

theorem unquote_plain {c : Char} (h : IsPlain c) (paired : Bool) (s : List Char) :
    unquote paired .plain (c :: s) = (unquote paired .plain s).map fun (cs, s) => (c :: cs, s) := by
  obtain ⟨hquote, hslash, hcontrol⟩ := h
  rw [unquote, if_neg hquote, if_neg hslash, if_neg (Nat.not_lt.2 hcontrol)]

theorem unquote_short {e c : Char} (h : (e, c) ∈ shortEscapes) (paired : Bool) (s : List Char) :
    unquote paired .plain ('\\' :: e :: s) = (unquote paired .plain s).map fun (cs, s) => (c :: cs, s) := by
  have hcode : e ≠ 'u' := (by decide : ∀ pair ∈ shortEscapes, pair.1 ≠ 'u') _ h
  simp [unquote, simpleEscape?_eq h, hcode]

theorem unquote_escapedCode {digits : List Char} {n : Nat} (h : Code digits n) (paired : Bool) (s : List Char) :
    unquote paired .plain ('\\' :: 'u' :: (digits ++ s)) = unquote paired (.digits 4 0 none) (digits ++ s) := by
  simp [unquote, h.fewerThanFourBytes_eq_false]

/-- A character is read however it is written. -/
theorem unquote_spellsChar {spelling : List Char} {c : Char} (h : SpellsChar spelling c) (s : List Char) :
    unquote true .plain (spelling ++ s) = (unquote true .plain s).map fun (cs, s) => (c :: cs, s) := by
  cases h with
  | plain h => exact unquote_plain h true s
  | short h => exact unquote_short h true s
  | @code digits n h single =>
    have high : isHighSurrogate n = false := by
      rw [Bool.eq_false_iff, ne_eq, isHighSurrogate_iff]
      omega
    have low : isLowSurrogate n = false := by
      rw [Bool.eq_false_iff, ne_eq, isLowSurrogate_iff]
      omega
    rw [List.cons_append, List.cons_append, unquote_escapedCode h, h.unquote_single]
    simp [high, low]
  | @pair first second high low hfirst hsecond hhigh hlow =>
    have hnotLow : isLowSurrogate high = false := by
      rw [Bool.eq_false_iff, ne_eq, isLowSurrogate_iff]
      omega
    have hpair : 0x10000 + (high - 0xd800) * 0x400 + (low - 0xdc00) = pairCode high low := by
      rw [pairCode]
      omega
    have hbytes := hsecond.fewerThanFourBytes_eq_false s
    have hread := hsecond.unquote_second true high (isLowSurrogate_iff.2 hlow) s
    simp only [List.cons_append, List.append_assoc]
    rw [unquote_escapedCode hfirst, hfirst.unquote_single, hpair]
    simp [isHighSurrogate_iff.2 hhigh, hnotLow, unquote, hbytes, hread]

/-- A text is read however it is written, and no further. -/
theorem stringRest_spells {spelling cs : List Char} (h : Spells spelling cs) (rest : List Char) :
    stringRest (spelling ++ '"' :: rest) = .ok (String.ofList cs, rest) := by
  have hread : unquote true .plain (spelling ++ '"' :: rest) = .ok (cs, rest) := by
    induction h with
    | nil => simp [unquote]
    | cons hc _ ih =>
      rw [List.append_assoc, unquote_spellsChar hc, ih]
      rfl
  rw [stringRest, hread]
  rfl

theorem skipStringRest_quotable {body : List Char} (h : Quotable body) (rest : List Char) :
    skipStringRest (body ++ '"' :: rest) = .ok rest := by
  have hread : ∃ cs, unquote false .plain (body ++ '"' :: rest) = .ok (cs, rest) := by
    induction h with
    | nil => exact ⟨[], by simp [unquote]⟩
    | @plain c body h _ ih =>
      obtain ⟨cs, hcs⟩ := ih
      exact ⟨c :: cs, by rw [List.cons_append, unquote_plain h, hcs]; rfl⟩
    | @short e c body h _ ih =>
      obtain ⟨cs, hcs⟩ := ih
      exact ⟨c :: cs, by rw [List.cons_append, List.cons_append, unquote_short h, hcs]; rfl⟩
    | @code digits body n h _ ih =>
      obtain ⟨cs, hcs⟩ := ih
      refine ⟨Char.ofNat n :: cs, ?_⟩
      rw [List.cons_append, List.cons_append, List.append_assoc, unquote_escapedCode h, h.unquote_single, hcs]
      rfl
  obtain ⟨cs, hcs⟩ := hread
  rw [skipStringRest, hcs]
  rfl

end SubjectMerge.Json
