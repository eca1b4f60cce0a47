import Mathlib.Data.List.Induction
import Mathlib.Data.List.Nodup

/-! The distinct elements of a list, each at its first place. A list grows by its last element, which is new among
them or has been there before. -/

namespace SubjectMerge

variable {α : Type*} [BEq α] [LawfulBEq α] {a : α} {l : List α}

theorem eraseDups_concat_of_mem (h : a ∈ l) : (l ++ [a]).eraseDups = l.eraseDups := by
  simp [List.eraseDups_append, List.removeAll, h]

theorem eraseDups_concat_of_notMem (h : a ∉ l) : (l ++ [a]).eraseDups = l.eraseDups ++ [a] := by
  simp [List.eraseDups_append, List.removeAll, List.eraseDups_cons, h]

theorem nodup_eraseDups (l : List α) : l.eraseDups.Nodup := by
  induction l using List.reverseRecOn with
  | nil => exact List.nodup_nil
  | append_singleton l a ih =>
    by_cases h : a ∈ l
    · rwa [eraseDups_concat_of_mem h]
    · rw [eraseDups_concat_of_notMem h]
      exact List.nodup_append.2 ⟨ih, List.nodup_singleton a, by
        rintro b hb c hc rfl
        exact h (List.mem_singleton.1 hc ▸ List.mem_eraseDups.1 hb)⟩

theorem eraseDups_of_nodup (h : l.Nodup) : l.eraseDups = l := by
  induction l using List.reverseRecOn with
  | nil => rfl
  | append_singleton l a ih =>
    obtain ⟨hl, -, hfresh⟩ := List.nodup_append.1 h
    have ha : a ∉ l := fun hmem => hfresh a hmem a (List.mem_singleton_self a) rfl
    rw [eraseDups_concat_of_notMem ha, ih hl]

theorem eraseDups_filter (p : α → Bool) (l : List α) : (l.filter p).eraseDups = l.eraseDups.filter p := by
  induction l using List.reverseRecOn with
  | nil => rfl
  | append_singleton l a ih =>
    have hmem : a ∈ l.filter p ↔ a ∈ l ∧ p a = true := List.mem_filter
    rw [List.filter_append, List.filter_singleton]
    by_cases h : a ∈ l
    · rw [eraseDups_concat_of_mem h, ← ih]
      cases hp : p a with
      | false => simp
      | true => simpa using eraseDups_concat_of_mem (hmem.2 ⟨h, hp⟩)
    · rw [eraseDups_concat_of_notMem h, List.filter_append, List.filter_singleton, ← ih]
      cases hp : p a with
      | false => simp
      | true => simpa using eraseDups_concat_of_notMem fun hkept => h (hmem.1 hkept).1

end SubjectMerge
