import Mathlib.Data.List.Nodup
import SubjectMerge.Json.Value
import SubjectMerge.Proofs.Json.RecordText
import SubjectMerge.Proofs.Json.Spellings

/-! The writer's own texts. What is written for a value is one of the texts that stand for it, without a blank in it
and with its fields in their order. -/

namespace SubjectMerge.Json

/-! Texts in quotes. -/

theorem isHexDigit_hexDigitChar : ∀ n < 16, Text.IsHexDigit (hexDigitChar n) n := by
  unfold Text.IsHexDigit
  decide

theorem code_control {n : Nat} (control : n < 0x20) :
    Code ['0', '0', hexDigitChar (n / 16), hexDigitChar (n % 16)] n := by
  have hzero : Text.IsHexDigit '0' 0 := isHexDigit_hexDigitChar 0 (by decide)
  have code := Code.digits hzero hzero (isHexDigit_hexDigitChar (n / 16) (by omega))
    (isHexDigit_hexDigitChar (n % 16) (by omega))
  have hcode : ((0 * 16 + 0) * 16 + n / 16) * 16 + n % 16 = n := by omega
  rwa [hcode] at code

/-- A character is spelled by what is written for it. -/
theorem spellsChar_escapeChar (c : Char) : SpellsChar (escapeChar c) c := by
  unfold escapeChar
  split
  case h_8 hquote hslash _ _ _ _ _ =>
    split
    · next control =>
      have spells := SpellsChar.code (code_control control) (.inl (by omega))
      rwa [Char.ofNat_toNat] at spells
    · next plain => exact .plain ⟨hquote, hslash, Nat.not_lt.1 plain⟩
  all_goals exact .short (by decide)

theorem spells_flatMap_escapeChar (cs : List Char) : Spells (cs.flatMap escapeChar) cs := by
  induction cs with
  | nil => exact .nil
  | cons c cs ih => exact .cons (spellsChar_escapeChar c) ih

/-- A written text is read back and no further. -/
theorem stringRest_flatMap_escapeChar (s : String) (rest : List Char) :
    stringRest (s.toList.flatMap escapeChar ++ '"' :: rest) = .ok (s, rest) := by
  rw [stringRest_spells (spells_flatMap_escapeChar s.toList), String.ofList_toList]

theorem Texts.text_written (s : String) : Texts.text.Gives s (Value.text s).chars :=
  ⟨_, spells_flatMap_escapeChar s.toList, by rw [Value.chars, writeText]⟩

theorem Texts.flag_written (b : Bool) : Texts.flag.Gives b (Value.flag b).chars := by
  cases b with
  | true => rw [Value.chars]; rfl
  | false => rw [Value.chars]; rfl

/-! Lists and objects. -/

def Padded.bare (text : List Char) : Padded := ⟨.none, text, .none⟩

theorem Padded.chars_bare (text : List Char) : (Padded.bare text).chars = text := by
  simp [Padded.chars, Padded.bare, Blanks.none]

def Named.bare (m : String × Value) : Named where
  before := .none
  label := m.1.toList.flatMap escapeChar
  behind := .none
  value := .bare m.2.chars
  name := m.1
  spells := spells_flatMap_escapeChar m.1.toList

theorem Named.chars_bare (m : String × Value) : (Named.bare m).chars = writeText m.1 ++ ':' :: m.2.chars := by
  rw [Member.chars, Named.bare, Padded.chars_bare, nameChars, writeText]
  simp [Blanks.none]

theorem itemChars_eq (vs : List Value) :
    Value.itemChars vs = inside .none ((vs.map fun v => Padded.bare v.chars).map Padded.chars) := by
  induction vs with
  | nil => rw [Value.itemChars]; rfl
  | cons v vs ih =>
    cases vs with
    | nil => simp [Value.itemChars, inside, Padded.chars_bare]
    | cons w vs =>
      rw [Value.itemChars, ih]
      simp [inside, Padded.chars_bare]

theorem memberChars_eq (ms : List (String × Value)) :
    Value.memberChars ms = inside .none ((ms.map Named.bare).map fun m => m.chars) := by
  induction ms with
  | nil => rw [Value.memberChars]; rfl
  | cons m ms ih =>
    cases ms with
    | nil => simp [Value.memberChars, inside, Named.chars_bare]
    | cons n ms =>
      rw [Value.memberChars, ih]
      simp [inside, Named.chars_bare]

variable {α : Type}

theorem Texts.list_written {item : Texts α} {value : α → Value} (h : ∀ a, item.Gives a (value a).chars) (as : List α) :
    item.list.Gives as (Value.list (as.map value)).chars := by
  refine ⟨.none, (as.map value).map fun v => Padded.bare v.chars, ?_, by rw [Value.chars, itemChars_eq]⟩
  rw [List.map_map, List.forall₂_map_right_iff, List.forall₂_same]
  exact fun a _ => h a

theorem exists_of_forall₂ {β : Type} {R : α → β → Prop} {as : List α} {bs : List β} (h : List.Forall₂ R as bs) {b : β}
    (hb : b ∈ bs) : ∃ a ∈ as, R a b := by
  induction h with
  | nil => cases hb
  | cons hab _ ih =>
    rcases List.mem_cons.1 hb with rfl | hb
    · exact ⟨_, List.mem_cons_self, hab⟩
    · obtain ⟨a, mem, h⟩ := ih hb
      exact ⟨a, List.mem_cons_of_mem _ mem, h⟩

/-- The members are the fields of a record, but for some at the end that may be left out. -/
structure Writes (parts : List Part) (ms : List (String × Value)) : Prop where
  gives : List.Forall₂ (fun part m => m.1 = part.name ∧ part.Gives m.2.chars) (parts.take ms.length) ms
  absent : ∀ part ∈ parts.drop ms.length, part.Absent

theorem Writes.recordText {parts : List Part} {ms : List (String × Value)} (distinct : (parts.map Part.name).Nodup)
    (h : Writes parts ms) : RecordText parts (Value.object ms).chars := by
  obtain ⟨gives, absent⟩ := h
  have hnames : (ms.map Named.bare).map Named.name = (parts.take ms.length).map Part.name := by
    rw [List.map_map, ← List.forall₂_eq_eq_eq, List.forall₂_map_left_iff, List.forall₂_map_right_iff]
    exact gives.flip.imp fun _ _ h => h.1
  have begins : Begins parts (ms.map Named.bare) := by
    refine ⟨fun m hm => ?_, fun part mem => ?_⟩
    · obtain ⟨m, hmem, rfl⟩ := List.mem_map.1 hm
      obtain ⟨part, mem, hname, hpart⟩ := exists_of_forall₂ gives hmem
      have mem := List.mem_of_mem_take mem
      refine ⟨fun other hother hsame => ?_, fun none => absurd hname (none part mem)⟩
      obtain rfl := List.inj_on_of_nodup_map distinct mem hother (hname.symm.trans hsame)
      exact hpart
    · rw [hnames, List.map_take]
      exact List.nodup_iff_count_le_one.1 (distinct.sublist (List.take_sublist _ _)) part.name
  rw [Value.chars, memberChars_eq]
  refine .object .none _ begins fun part mem => ?_
  rw [← List.take_append_drop ms.length parts] at mem
  rcases List.mem_append.1 mem with mem | mem
  · exact .inr (hnames ▸ List.mem_map_of_mem mem)
  · exact .inl (absent part mem)

end SubjectMerge.Json
