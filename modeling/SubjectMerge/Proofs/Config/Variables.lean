import Mathlib.Data.List.Induction
import Mathlib.Tactic.Common
import SubjectMerge.Config.Load
import SubjectMerge.Proofs.Runs

/-! The texts that a variable can be set to. A port is written as its numeral, which may have zeros and a plus sign
before it; a policy is written as one of its names in letters of any case, with any blanks around it. -/

namespace SubjectMerge

/-- The text is the number's numeral, with any zeros before it and before them perhaps a plus sign. -/
def Spells (s : String) (n : UInt16) : Prop :=
  ∃ sign zeros, (sign = [] ∨ sign = ['+']) ∧
    s.toList = sign ++ List.replicate zeros '0' ++ Nat.toDigits 10 n.toNat

def Policy.spellings : Policy → List String
  | .failOpen => ["fail_open", "fail-open"]
  | .surface => ["surface"]

/-- Between its blanks the text has a name of the policy, whose letters may be capitals. -/
def Policy.IsNamedBy (policy : Policy) (s : String) : Prop :=
  ∃ before name after, s.toList = before ++ name ++ after ∧
    (∀ c ∈ before, Text.isBlank c = true) ∧ (∀ c ∈ after, Text.isBlank c = true) ∧
    String.ofList (name.map Char.toLower) ∈ policy.spellings

/-! Numerals. -/

def IsDigit (c : Char) : Prop := '0' ≤ c ∧ c ≤ '9'

theorem decimalValue_eq (digits : List Char) : decimalValue digits = Nat.ofDigitChars 10 digits 0 := by
  simp only [decimalValue, Nat.ofDigitChars, Nat.mul_comm]

theorem decimalValue_zeros_append (zeros n : Nat) :
    decimalValue (List.replicate zeros '0' ++ Nat.toDigits 10 n) = n := by
  rw [decimalValue_eq, Nat.ofDigitChars_append, Nat.ofDigitChars_replicate_zero, Nat.mul_zero,
    Nat.ofDigitChars_ten_toDigits]

theorem isDigit_of_mem_zeros_append {zeros n : Nat} {c : Char}
    (h : c ∈ List.replicate zeros '0' ++ Nat.toDigits 10 n) : IsDigit c := by
  rcases List.mem_append.1 h with hzero | hdigit
  · obtain rfl := (List.mem_replicate.1 hzero).2
    exact ⟨by decide, by decide⟩
  · have := Nat.isDigit_of_mem_toDigits (by omega) (by omega) hdigit
    simpa [Char.isDigit, IsDigit, Char.le_def] using this

theorem IsDigit.exists_digitChar {c : Char} (h : IsDigit c) :
    ∃ d < 10, c = d.digitChar ∧ c.toNat - '0'.toNat = d := by
  obtain ⟨hlow, hhigh⟩ := h
  have hlow : 48 ≤ c.toNat := hlow
  have hhigh : c.toNat ≤ 57 := hhigh
  refine ⟨c.toNat - 48, by omega, Char.toNat_inj.1 ?_, rfl⟩
  rw [Nat.toNat_digitChar_of_lt_ten (by omega)]
  omega

/-- Digits are the numeral of their value, but for the zeros in front. -/
theorem exists_eq_zeros_append {digits : List Char} (hne : digits ≠ []) (h : ∀ c ∈ digits, IsDigit c) :
    ∃ zeros, digits = List.replicate zeros '0' ++ Nat.toDigits 10 (decimalValue digits) := by
  induction digits using List.reverseRecOn with
  | nil => exact absurd rfl hne
  | append_singleton front c ih =>
    obtain ⟨d, hlt, rfl, hd⟩ := (h c (by simp)).exists_digitChar
    have hvalue : decimalValue (front ++ [d.digitChar]) = 10 * decimalValue front + d := by
      simp only [decimalValue_eq, Nat.ofDigitChars_append, Nat.ofDigitChars_cons, Nat.ofDigitChars_nil, hd]
    rw [hvalue]
    rcases eq_or_ne front [] with rfl | hfront
    · refine ⟨0, ?_⟩
      rw [show decimalValue [] = 0 from rfl, Nat.mul_zero, Nat.zero_add, Nat.toDigits_of_lt_base hlt]
      rfl
    · obtain ⟨zeros, hzeros⟩ := ih hfront fun c hc => h c (List.mem_append_left _ hc)
      rcases Nat.eq_zero_or_pos (decimalValue front) with hzero | hpos
      · -- so far there are only zeros, and the one that stood for their value is one more of them
        refine ⟨zeros + 1, ?_⟩
        rw [hzero] at hzeros ⊢
        rw [hzeros, Nat.mul_zero, Nat.zero_add, Nat.toDigits_of_lt_base hlt, List.replicate_succ']
        rfl
      · refine ⟨zeros, ?_⟩
        rw [← Nat.toDigits_append_toDigits (by omega) hpos hlt, Nat.toDigits_of_lt_base hlt, ← List.append_assoc,
          ← hzeros]

/-- The digits that stand for a number are those of its numeral with zeros in front. -/
theorem decimalValue_eq_iff {digits : List Char} {n : Nat} :
    (digits ≠ [] ∧ (∀ c ∈ digits, IsDigit c) ∧ decimalValue digits = n) ↔
      ∃ zeros, digits = List.replicate zeros '0' ++ Nat.toDigits 10 n := by
  constructor
  · rintro ⟨hne, hdigits, rfl⟩
    exact exists_eq_zeros_append hne hdigits
  · rintro ⟨zeros, rfl⟩
    refine ⟨fun hnil => ?_, fun c hc => isDigit_of_mem_zeros_append hc, decimalValue_zeros_append zeros n⟩
    exact Nat.toDigits_ne_nil (List.append_eq_nil_iff.1 hnil).2

theorem sixteenBits_eq_some_iff {m : Nat} {n : UInt16} :
    (if m < UInt16.size then some (UInt16.ofNat m) else none) = some n ↔ m = n.toNat := by
  constructor
  · intro h
    split_ifs at h with hlt
    rw [← Option.some.inj h, UInt16.toNat_ofNat_of_lt' hlt]
  · intro h
    rw [h, if_pos n.toNat_lt, UInt16.ofNat_toNat]

theorem tcpPortOfText?_eq_some_iff {s : String} {n : UInt16} : tcpPortOfText? s = some n ↔ Spells s n := by
  have hnumber (digits : List Char) :
      (if digits.isEmpty || !digits.all (fun c => '0' ≤ c && c ≤ '9') then none
        else if decimalValue digits < UInt16.size then some (UInt16.ofNat (decimalValue digits)) else none) =
          some n ↔ ∃ zeros, digits = List.replicate zeros '0' ++ Nat.toDigits 10 n.toNat := by
    have hguard : (digits.isEmpty || !digits.all fun c => '0' ≤ c && c ≤ '9') = false ↔
        digits ≠ [] ∧ ∀ c ∈ digits, IsDigit c := by
      simp [IsDigit]
    rw [← decimalValue_eq_iff, ← sixteenBits_eq_some_iff, ← and_assoc, ← hguard]
    cases digits.isEmpty || !digits.all fun c => '0' ≤ c && c ≤ '9' <;> simp
  have hsign : ¬ IsDigit '+' := by
    rintro ⟨h, -⟩
    exact absurd h (by decide)
  rw [tcpPortOfText?]
  split
  · next cs hcs =>
    rw [hnumber, Spells, hcs]
    constructor
    · rintro ⟨zeros, rfl⟩
      exact ⟨['+'], zeros, .inr rfl, rfl⟩
    · rintro ⟨sign, zeros, rfl | rfl, h⟩
      · exact absurd (isDigit_of_mem_zeros_append (h ▸ List.mem_cons_self)) hsign
      · exact ⟨zeros, (List.cons.inj h).2⟩
  · next cs hcs =>
    rw [hnumber, Spells]
    constructor
    · rintro ⟨zeros, h⟩
      exact ⟨[], zeros, .inl rfl, h⟩
    · rintro ⟨sign, zeros, rfl | rfl, h⟩
      · exact ⟨zeros, h⟩
      · exact absurd h (hcs _)

example : tcpPortOfText? "+00443" = some 443 := by decide

/-! Names with blanks around them. -/

theorem exists_eq_trimChars (cs : List Char) : ∃ before after, cs = before ++ Text.trimChars cs ++ after ∧
    (∀ c ∈ before, Text.isBlank c = true) ∧ ∀ c ∈ after, Text.isBlank c = true := by
  have hfront := List.takeWhile_append_dropWhile (p := Text.isBlank) (l := cs)
  have hback := List.takeWhile_append_dropWhile (p := Text.isBlank) (l := (cs.dropWhile Text.isBlank).reverse)
  refine ⟨cs.takeWhile Text.isBlank, ((cs.dropWhile Text.isBlank).reverse.takeWhile Text.isBlank).reverse, ?_, ?_,
    ?_⟩
  · rw [List.append_assoc, Text.trimChars, ← List.reverse_append, hback, List.reverse_reverse, hfront]
  · exact fun c hc => List.mem_takeWhile_imp hc
  · exact fun c hc => List.mem_takeWhile_imp (List.mem_reverse.1 hc)

/-- Blanks are cut off as far as there is nothing else. -/
theorem trimChars_append {before name after : List Char} (hbefore : ∀ c ∈ before, Text.isBlank c = true)
    (hafter : ∀ c ∈ after, Text.isBlank c = true) (hne : name ≠ [])
    (hname : ∀ c ∈ name, Text.isBlank c = false) : Text.trimChars (before ++ name ++ after) = name := by
  have hfront : (before ++ name ++ after).dropWhile Text.isBlank = name ++ after := by
    rw [List.append_assoc]
    refine dropWhile_run hbefore fun c hc => hname c ?_
    rw [List.head?_append_of_ne_nil _ hne] at hc
    exact List.mem_of_mem_head? hc
  have hback : (after.reverse ++ name.reverse).dropWhile Text.isBlank = name.reverse :=
    dropWhile_run (fun c hc => hafter c (List.mem_reverse.1 hc)) fun c hc =>
      hname c (List.mem_reverse.1 (List.mem_of_mem_head? hc))
  rw [Text.trimChars, hfront, List.reverse_append, hback, List.reverse_reverse]

theorem toLower_of_isBlank {c : Char} (h : Text.isBlank c = true) : c.toLower = c := by
  have hcode : ¬ (65 ≤ c.toNat ∧ c.toNat ≤ 90) := by
    intro hcapital
    simp [Text.isBlank, Text.inRanges, Text.blankRanges] at h
    omega
  exact dif_neg hcode

theorem isBlank_of_mem_spellings {policy : Policy} {name : String} (h : name ∈ policy.spellings) :
    name ≠ "" ∧ ∀ c ∈ name.toList, Text.isBlank c = false := by
  have hspellings : ∀ name ∈ policy.spellings,
      name ≠ "" ∧ name.toList.all (fun c => !Text.isBlank c) = true := by
    cases policy <;> decide +kernel
  obtain ⟨hne, hblank⟩ := hspellings name h
  exact ⟨hne, fun c hc => Bool.not_eq_true' _ ▸ List.all_eq_true.1 hblank c hc⟩

theorem Policy.ofText?_eq_some_iff {s : String} {policy : Policy} :
    Policy.ofText? s = some policy ↔ policy.IsNamedBy s := by
  have hmem : Policy.ofText? s = some policy ↔ Text.asciiLower (Text.trim s) ∈ policy.spellings := by
    rw [Policy.ofText?]
    split <;> cases policy <;> simp_all [spellings]
  rw [hmem, Text.asciiLower, Text.trim, String.toList_ofList]
  constructor
  · intro h
    obtain ⟨before, after, hsplit, hbefore, hafter⟩ := exists_eq_trimChars s.toList
    exact ⟨before, _, after, hsplit, hbefore, hafter, h⟩
  · rintro ⟨before, name, after, hsplit, hbefore, hafter, h⟩
    obtain ⟨hne, hblank⟩ := isBlank_of_mem_spellings h
    have hname : ∀ c ∈ name, Text.isBlank c = false := by
      intro c hc
      by_contra hc'
      have hlower := toLower_of_isBlank (Bool.not_eq_false _ ▸ hc')
      have := hblank c (by
        rw [String.toList_ofList]
        exact List.mem_map.2 ⟨c, hc, hlower⟩)
      exact hc' this
    rw [hsplit, trimChars_append hbefore hafter (fun hnil => hne (by rw [hnil]; rfl)) hname]
    exact h

example : Policy.ofText? "\t Fail-Open\u00a0" = some .failOpen := by decide

end SubjectMerge
