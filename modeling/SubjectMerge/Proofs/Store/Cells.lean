import Mathlib.Tactic.Common
import SubjectMerge.Proofs.Text.Utf8
import SubjectMerge.Store.Database.Cell

/-! What a query makes of texts and integers in cells: they match what they equal, and a text is read as it was
stored. Nothing else matches a text, and nothing else is read. -/

namespace SubjectMerge

theorem compareBytes_eq_eq_iff {a b : List UInt8} : compareBytes a b = .eq ↔ a = b := by
  induction a generalizing b with
  | nil => cases b <;> simp [compareBytes]
  | cons x a ih =>
    cases b with
    | nil => simp [compareBytes]
    | cons y b =>
      simp only [compareBytes, Ordering.then_eq_eq, Nat.compare_eq_eq, ih, UInt8.toNat_inj, List.cons.injEq]

namespace Cell

theorem matchesCell_ofString {s t : String} : (ofString s).matchesCell (.ofString t) = true ↔ s = t := by
  have hkind : ofString s ≠ .null := nofun
  simp only [matchesCell, bne_iff_ne.2 hkind, Bool.true_and, beq_iff_eq]
  exact compareBytes_eq_eq_iff.trans Text.encodeUtf8_inj

theorem matchesCell_integer {m n : Int} : (integer m).matchesCell (.integer n) = true ↔ m = n := by
  have hkind : integer m ≠ .null := nofun
  simp only [matchesCell, bne_iff_ne.2 hkind, Bool.true_and, beq_iff_eq]
  exact Int.compare_eq_eq

/-- Only the very text matches a text, and no blob with its bytes. -/
theorem matchesCell_eq_true_iff {c : Cell} {s : String} : c.matchesCell (.ofString s) = true ↔ c = .ofString s := by
  refine ⟨fun h => ?_, fun h => h ▸ matchesCell_ofString.2 rfl⟩
  simp only [matchesCell, Bool.and_eq_true, beq_iff_eq] at h
  cases c with
  | text bytes => rw [compareBytes_eq_eq_iff.1 h.2, ofString]
  | null => cases h.2
  | integer n => cases h.2
  | real x => cases h.2
  | blob bytes => cases h.2

theorem eq_of_integer_matchesCell {n : Int} {c : Cell} (h : (integer n).matchesCell c = true)
    (whole : c.kind = .integer) : c = .integer n := by
  cases c with
  | integer m => rw [matchesCell_integer.1 h]
  | null => cases whole
  | real x => cases whole
  | text bytes => cases whole
  | blob bytes => cases whole

theorem ofString_inj {s t : String} : ofString s = .ofString t ↔ s = t := by
  rw [ofString, ofString, text.injEq, Text.encodeUtf8_inj]

theorem readText_ofString (index : Nat) (column s : String) : (ofString s).readText index column = .ok s := by
  simp only [ofString, readText, Text.decodeUtf8_encodeUtf8]

/-- How a text, or its absence, is stored. -/
def ofOption : Option String → Cell
  | none => .null
  | some s => .ofString s

theorem readOptionalText_ofOption (index : Nat) (column : String) (s : Option String) :
    (ofOption s).readOptionalText index column = .ok s := by
  cases s with
  | none => rfl
  | some s =>
    have hread := readText_ofString index column s
    simp only [ofString] at hread
    simp only [ofOption, ofString, readOptionalText, hread, Except.map]

theorem ofOption_injective : Function.Injective ofOption := by
  intro s t h
  have hread := readOptionalText_ofOption 0 "value" s
  rw [h, readOptionalText_ofOption] at hread
  exact (Except.ok.inj hread).symm

/-- A cell is read if it is a text, and then as that. -/
theorem readText_eq_ok_iff {index : Nat} {column : String} {c : Cell} {s : String} :
    c.readText index column = .ok s ↔ c = .ofString s := by
  refine ⟨fun h => ?_, fun h => h ▸ readText_ofString index column s⟩
  cases c with
  | text bytes =>
    rw [readText] at h
    cases hdecoded : Text.decodeUtf8 bytes with
    | error fault => simp [hdecoded] at h
    | ok t =>
      obtain rfl : t = s := by simpa [hdecoded] using h
      rw [ofString, Text.decodeUtf8_eq_ok_iff.1 hdecoded]
  | null => cases h
  | integer n => cases h
  | real x => cases h
  | blob bytes => cases h

theorem readOptionalText_eq_ok_iff {index : Nat} {column : String} {c : Cell} {s : Option String} :
    c.readOptionalText index column = .ok s ↔ c = .ofOption s := by
  refine ⟨fun h => ?_, fun h => h ▸ readOptionalText_ofOption index column s⟩
  cases c with
  | null =>
    obtain rfl : none = s := Except.ok.inj h
    rfl
  | text bytes =>
    change ((text bytes).readText index column).map some = .ok s at h
    cases htext : (text bytes).readText index column with
    | error fault => simp [htext, Except.map] at h
    | ok t =>
      obtain rfl : some t = s := by simpa [htext, Except.map] using h
      exact readText_eq_ok_iff.1 htext
  | integer n => cases h
  | real x => cases h
  | blob bytes => cases h

end Cell

end SubjectMerge
