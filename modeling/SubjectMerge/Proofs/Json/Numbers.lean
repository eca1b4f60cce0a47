import Mathlib.Tactic.Common
import SubjectMerge.Json.Read
import SubjectMerge.Json.Value
import SubjectMerge.Proofs.Runs

/-! Numbers read back. A decimal goes on as far as its text allows, so a written number is read to its end
only where nothing follows that could belong to it. -/

namespace SubjectMerge.Json

/-- What can follow a number without being taken for more of it. -/
def EndsNumber (rest : List Char) : Prop :=
  ∀ c ∈ rest.head?, isDigit c = false ∧ c ≠ '.' ∧ isExponentLetter c = false

theorem isDigit_of_mem_toDigits {n : Nat} {c : Char} (h : c ∈ Nat.toDigits 10 n) : isDigit c = true := by
  have hdigit := Nat.isDigit_of_mem_toDigits (by omega) (by omega) h
  simp only [Char.isDigit, ge_iff_le, Bool.and_eq_true, decide_eq_true_eq] at hdigit
  simp only [isDigit, Bool.and_eq_true, decide_eq_true_eq, Char.le_def]
  exact hdigit

theorem skipSpace_cons {c : Char} (h : isSpace c = false) (s : List Char) : skipSpace (c :: s) = c :: s := by
  simp [skipSpace, h]

/-- A digit is neither a blank nor a sign. -/
theorem ne_of_isDigit {c : Char} (h : isDigit c = true) : isSpace c = false ∧ c ≠ '-' := by
  constructor
  · by_contra hspace
    simp only [isSpace, Bool.not_eq_false, Bool.or_eq_true, beq_iff_eq] at hspace
    rcases hspace with ((rfl | rfl) | rfl) | rfl <;> exact absurd h (by decide)
  · rintro rfl
    exact absurd h (by decide)

theorem digitChar_ne_zero : ∀ n < 10, n ≠ 0 → n.digitChar ≠ '0' := by decide

/-- Only zero is written with a zero in front. -/
theorem eq_of_toDigits_zero {n : Nat} {cs : List Char} (h : Nat.toDigits 10 n = '0' :: cs) :
    n = 0 ∧ cs = [] := by
  induction n using Nat.strongRecOn generalizing cs with
  | ind n ih =>
    rw [Nat.toDigits_eq_if (by omega)] at h
    split at h
    · next hlt =>
      obtain ⟨hchar, hnil⟩ := List.cons.inj h
      have hzero : n = 0 := by
        by_contra hne
        exact digitChar_ne_zero n hlt hne hchar
      exact ⟨hzero, hnil.symm⟩
    · next hge =>
      cases hmore : Nat.toDigits 10 (n / 10) with
      | nil => exact absurd hmore Nat.toDigits_ne_nil
      | cons d ds =>
        rw [hmore] at h
        obtain ⟨rfl, -⟩ := List.cons.inj h
        obtain ⟨hsmall, -⟩ := ih (n / 10) (by omega) hmore
        omega

theorem le_ofDigitChars (ds : List Char) (n : Nat) : n ≤ Nat.ofDigitChars 10 ds n := by
  induction ds generalizing n with
  | nil => exact Nat.le_refl n
  | cons d ds ih =>
    have hle : n ≤ 10 * n + (d.toNat - '0'.toNat) := by omega
    exact Nat.le_trans hle (ih (10 * n + (d.toNat - '0'.toNat)))

/-- As long as the number fits, no digit is left over. -/
theorem takeDigits_eq {ds : List Char} {n : Nat} (h : Nat.ofDigitChars 10 ds n < significandLimit) :
    takeDigits n ds = (Nat.ofDigitChars 10 ds n, 0) := by
  induction ds generalizing n with
  | nil => rfl
  | cons d ds ih =>
    have hnext : n * 10 + digitValue d = 10 * n + (d.toNat - '0'.toNat) := by
      rw [digitValue, Nat.mul_comm]
    have hstep : Nat.ofDigitChars 10 (d :: ds) n = Nat.ofDigitChars 10 ds (n * 10 + digitValue d) := by
      rw [hnext]
      rfl
    rw [hstep] at h ⊢
    have hfits : n * 10 + digitValue d < significandLimit :=
      Nat.lt_of_le_of_lt (le_ofDigitChars ds (n * 10 + digitValue d)) h
    rw [takeDigits, if_pos hfits, ih h]

/-- A number that stops after its whole part is kept as it is. -/
theorem numberRest_eq {n : Nat} (fits : n < significandLimit) {rest : List Char} (ends : EndsNumber rest) :
    numberRest false (Nat.toDigits 10 n ++ rest) = .ok (.natural n, rest) := by
  have digits : ∀ c ∈ Nat.toDigits 10 n, isDigit c = true := fun c => isDigit_of_mem_toDigits
  have stop : ∀ c ∈ rest.head?, isDigit c = false := fun c hc => (ends c hc).1
  have taken : takeDigits 0 (Nat.toDigits 10 n) = (n, 0) := by
    rw [takeDigits_eq (by rwa [Nat.ofDigitChars_ten_toDigits]), Nat.ofDigitChars_ten_toDigits]
  cases hds : Nat.toDigits 10 n with
  | nil => exact absurd hds Nat.toDigits_ne_nil
  | cons c cs =>
    rw [hds] at digits taken
    have hc : isDigit c = true := digits c List.mem_cons_self
    -- a zero stands alone, and of other digits all are taken
    have hlead : (c == '0' && (cs ++ rest).head?.any isDigit) = false := by
      by_cases hzero : c = '0'
      · obtain ⟨-, rfl⟩ := eq_of_toDigits_zero (hzero ▸ hds)
        cases rest with
        | nil => simp
        | cons d rest => simp [stop d rfl]
      · simp [hzero]
    have hdigits : (if c == '0' then [c] else ((c :: cs) ++ rest).takeWhile isDigit) = c :: cs := by
      by_cases hzero : c = '0'
      · obtain ⟨-, rfl⟩ := eq_of_toDigits_zero (hzero ▸ hds)
        simp [hzero]
      · simp only [beq_iff_eq, hzero, if_false]
        exact takeWhile_run digits stop
    have hafter : (if c == '0' then cs ++ rest else ((c :: cs) ++ rest).dropWhile isDigit) = rest := by
      by_cases hzero : c = '0'
      · obtain ⟨-, rfl⟩ := eq_of_toDigits_zero (hzero ▸ hds)
        simp [hzero]
      · simp only [beq_iff_eq, hzero, if_false]
        exact dropWhile_run digits stop
    rw [List.cons_append] at hdigits hafter ⊢
    rw [numberRest]
    simp only [hc, hlead, hdigits, hafter, taken, Bool.not_true, Bool.false_eq_true, if_false, if_true]
    cases rest with
    | nil => rfl
    | cons d rest =>
      obtain ⟨-, hpoint, hletter⟩ := ends d rfl
      split
      · next h => exact absurd (List.cons.inj h).1 hpoint
      · next h =>
        obtain ⟨rfl, rfl⟩ := List.cons.inj h
        simp [hletter]
      · rfl

/-- A written number is read back, if nothing follows that could belong to it. -/
theorem readUInt32_toDigits (n : UInt32) {rest : List Char} (ends : EndsNumber rest) :
    readUInt32 (Nat.toDigits 10 n.toNat ++ rest) = .ok (.number n, rest) := by
  have hlt : n.toNat < UInt32.size := n.toNat_lt
  have fits : n.toNat < significandLimit := Nat.lt_trans hlt (by decide)
  have hnumber := numberRest_eq fits ends
  cases hds : Nat.toDigits 10 n.toNat with
  | nil => exact absurd hds Nat.toDigits_ne_nil
  | cons c cs =>
    rw [hds] at hnumber
    have hc : isDigit c = true := isDigit_of_mem_toDigits (hds ▸ List.mem_cons_self)
    obtain ⟨hspace, hminus⟩ := ne_of_isDigit hc
    have hread : number (c :: (cs ++ rest)) = .ok (.natural n.toNat, rest) := by
      rw [number]
      · exact hnumber
      · rintro s ⟨⟩
        exact hminus rfl
    rw [List.cons_append, readUInt32, skipSpace_cons hspace]
    simp [hc, hread, bind, Except.bind, hlt]

end SubjectMerge.Json
