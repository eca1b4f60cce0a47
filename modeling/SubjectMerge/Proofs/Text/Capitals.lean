import Mathlib.Data.List.Basic
import Mathlib.Tactic.Common
import SubjectMerge.Text.UpperCase

/-! Capitals of capitals. No letter of the tables is the capital of another, so a text in capitals stays as it is
when it is upper-cased again. Every character has a capital, and of the ASCII characters only the letters
`A` to `Z` are capitals of others. -/

namespace SubjectMerge.Text

/-- The codes of a run. -/
def CaseRun.letters (run : CaseRun) : List Nat :=
  (List.range ((run.last - run.first) / run.step + 1)).map fun n => run.first + n * run.step

/-- Their capitals. -/
def CaseRun.images (run : CaseRun) : List Nat :=
  (List.range ((run.last - run.first) / run.step + 1)).map fun n => run.image + n * run.step

/-- Every code that the tables change. -/
def letterCodes : List Nat :=
  caseRuns.flatMap CaseRun.letters ++ caseExpansions.map fun entry => entry.1.toNat

/-- Every code that they change one into. -/
def capitalCodes : List Nat :=
  caseRuns.flatMap CaseRun.images ++ caseExpansions.flatMap fun entry => entry.2.map Char.toNat

/-- A set of codes as the bits of a number. Two of them are compared in one step, where two lists take a step for
each pair. -/
def bits (codes : List Nat) : Nat := codes.foldr (fun code set => 1 <<< code ||| set) 0

theorem testBit_bits (codes : List Nat) (code : Nat) : (bits codes).testBit code = decide (code ∈ codes) := by
  induction codes with
  | nil => simp [bits]
  | cons first codes ih =>
    have hfirst : (1 <<< first).testBit code = decide (code = first) := by
      rw [Nat.one_shiftLeft, Nat.testBit_two_pow]
      exact decide_eq_decide.2 eq_comm
    rw [bits, List.foldr_cons, Nat.testBit_or, hfirst, ← bits, ih, ← Bool.decide_or]
    exact decide_eq_decide.2 List.mem_cons.symm

theorem notMem_letterCodes {code : Nat} (h : code ∈ capitalCodes) : code ∉ letterCodes := by
  intro hletter
  have hdisjoint : bits letterCodes &&& bits capitalCodes = 0 := by decide +kernel
  have hboth : (bits letterCodes &&& bits capitalCodes).testBit code = true := by
    rw [Nat.testBit_and, testBit_bits, testBit_bits]
    simp [h, hletter]
  rw [hdisjoint, Nat.zero_testBit] at hboth
  cases hboth

/-- Capitals are characters, and the ASCII ones are the letters from `A` to `Z`. -/
theorem range_capitalCodes : ∀ code ∈ capitalCodes,
    0x41 ≤ code ∧ code ≤ 0x5a ∨ 0x80 ≤ code ∧ code.isValidChar := by
  decide +kernel

theorem toNat_ofNat_of_mem {code : Nat} (h : code ∈ capitalCodes) : (Char.ofNat code).toNat = code := by
  have hvalid : code.isValidChar := by
    rcases range_capitalCodes code h with ⟨-, hle⟩ | ⟨-, hvalid⟩
    · exact Or.inl (by omega)
    · exact hvalid
  rw [Char.ofNat, dif_pos hvalid]
  rfl

/-- A code of a run and its capital stand at the same place. -/
theorem CaseRun.mem_of_image? {run : CaseRun} {code capital : Nat} (h : run.image? code = some capital) :
    code ∈ run.letters ∧ capital ∈ run.images := by
  unfold image? at h
  split at h
  case isFalse => cases h
  case isTrue hin =>
    obtain ⟨hfirst, hlast, hstep⟩ := hin
    cases h
    have hplace : (code - run.first) / run.step * run.step = code - run.first :=
      Nat.div_mul_cancel (Nat.dvd_of_mod_eq_zero hstep)
    have hmem : (code - run.first) / run.step ∈ List.range ((run.last - run.first) / run.step + 1) :=
      List.mem_range.2 (Nat.lt_succ_of_le (Nat.div_le_div_right (by omega)))
    exact ⟨List.mem_map.2 ⟨_, hmem, by rw [hplace]; omega⟩, List.mem_map.2 ⟨_, hmem, by rw [hplace]⟩⟩

theorem mem_of_lookup {c : Char} {several : List Char} (h : caseExpansions.lookup c = some several) :
    (c, several) ∈ caseExpansions := by
  obtain ⟨before, after, hsplit, -⟩ := List.lookup_eq_some_iff.1 h
  rw [hsplit]
  exact List.mem_append_right _ List.mem_cons_self

/-- The ASCII characters that have a capital are in the first run. -/
theorem toUpper_ascii : ∀ code < 0x80,
    (Char.ofNat code).toUpper = Char.ofNat code ∨
      code ∈ letterCodes ∧ (Char.ofNat code).toUpper.toNat ∈ capitalCodes := by
  decide +kernel

/-- A character is its own capital, or the tables have all of its capitals. -/
theorem capitals_cases (c : Char) :
    capitals c = [c] ∨ c.toNat ∈ letterCodes ∧ capitals c ≠ [] ∧ ∀ d ∈ capitals c, d.toNat ∈ capitalCodes := by
  unfold capitals
  split
  case isTrue hascii =>
    have hcases := toUpper_ascii c.toNat hascii
    rw [Char.ofNat_toNat] at hcases
    rcases hcases with hsame | ⟨hletter, hcapital⟩
    · exact Or.inl (by rw [hsame])
    · exact Or.inr ⟨hletter, by simp, by simpa using hcapital⟩
  case isFalse =>
    split
    case h_1 several hseveral =>
      have hentry := mem_of_lookup hseveral
      refine Or.inr ⟨List.mem_append_right _ (List.mem_map.2 ⟨_, hentry, rfl⟩), ?_, ?_⟩
      · have hfilled : ∀ entry ∈ caseExpansions, entry.2 ≠ [] := by decide
        exact hfilled _ hentry
      · intro d hd
        exact List.mem_append_right _ (List.mem_flatMap.2 ⟨_, hentry, List.mem_map_of_mem hd⟩)
    case h_2 =>
      split
      case h_1 code hcode =>
        obtain ⟨run, hrun, himage⟩ := List.exists_of_findSome?_eq_some hcode
        obtain ⟨hletter, hcapital⟩ := CaseRun.mem_of_image? himage
        have hcodes : code ∈ capitalCodes := List.mem_append_left _ (List.mem_flatMap.2 ⟨run, hrun, hcapital⟩)
        refine Or.inr ⟨List.mem_append_left _ (List.mem_flatMap.2 ⟨run, hrun, hletter⟩), by simp, ?_⟩
        simpa [toNat_ofNat_of_mem hcodes] using hcodes
      case h_2 => exact Or.inl rfl

theorem capitals_ne_nil (c : Char) : capitals c ≠ [] := by
  rcases capitals_cases c with h | ⟨-, h, -⟩
  · simp [h]
  · exact h

theorem capitals_of_mem {c d : Char} (h : d ∈ capitals c) : capitals d = [d] := by
  have hself : d.toNat ∈ capitalCodes → capitals d = [d] := fun hd => by
    rcases capitals_cases d with hsame | ⟨hletter, -⟩
    · exact hsame
    · exact absurd hletter (notMem_letterCodes hd)
  rcases capitals_cases c with hsame | ⟨-, -, hcapitals⟩
  · rw [hsame, List.mem_singleton] at h
    rwa [h]
  · exact hself (hcapitals d h)

/-- A capital other than the character itself is a letter from `A` to `Z` or no ASCII character at all. -/
theorem range_of_mem_capitals {c d : Char} (h : d ∈ capitals c) :
    d = c ∨ 0x41 ≤ d.toNat ∧ d.toNat ≤ 0x5a ∨ 0x80 ≤ d.toNat := by
  rcases capitals_cases c with hsame | ⟨-, -, hcapitals⟩
  · rw [hsame, List.mem_singleton] at h
    exact Or.inl h
  · rcases range_capitalCodes d.toNat (hcapitals d h) with hletter | ⟨hlarge, -⟩
    · exact Or.inr (Or.inl hletter)
    · exact Or.inr (Or.inr hlarge)

/-- Text in capitals is upper-cased already. -/
theorem upperChars_upperChars (cs : List Char) : upperChars (upperChars cs) = upperChars cs := by
  unfold upperChars
  rw [List.flatMap_assoc]
  apply List.flatMap_congr
  intro c _
  calc (capitals c).flatMap capitals
      = (capitals c).flatMap fun d => [d] := List.flatMap_congr fun d hd => capitals_of_mem hd
    _ = capitals c := List.flatMap_singleton' _

theorem upperChars_eq_nil_iff {cs : List Char} : upperChars cs = [] ↔ cs = [] := by
  unfold upperChars
  rw [List.flatMap_eq_nil_iff]
  constructor
  · intro h
    exact List.eq_nil_iff_forall_not_mem.2 fun c hc => capitals_ne_nil c (h c hc)
  · rintro rfl
    simp

end SubjectMerge.Text
