import Mathlib.Data.List.Basic

/-! What a history remembers. Histories are lists with the oldest entry first; a condition on an entry may
look at everything that came before it. -/

namespace SubjectMerge

variable {α : Type} {event reset : List α → α → Prop}

/-- There is an entry with `event`, and no later one with `reset`. -/
def Since (event reset : List α → α → Prop) (history : List α) : Prop :=
  ∃ before entry after, history = before ++ entry :: after ∧ event before entry ∧
    ∀ mid later rest, after = mid ++ later :: rest → ¬ reset (before ++ entry :: mid) later

theorem not_since_nil : ¬ Since event reset [] := by
  rintro ⟨before, entry, after, h, -⟩
  simp at h

/-- One more entry either is the event itself or leaves it remembered by not being a reset. -/
theorem since_concat (history : List α) (entry : α) :
    Since event reset (history ++ [entry]) ↔
      event history entry ∨ (Since event reset history ∧ ¬ reset history entry) := by
  constructor
  · rintro ⟨before, first, after, h, hevent, hafter⟩
    rcases List.eq_nil_or_concat' after with rfl | ⟨mid, last, rfl⟩
    · obtain ⟨rfl, hlast⟩ := List.append_inj' h rfl
      obtain ⟨rfl, -⟩ := List.cons.inj hlast
      exact Or.inl hevent
    · have hsplit : history ++ [entry] = (before ++ first :: mid) ++ [last] := by simpa using h
      obtain ⟨rfl, hlast⟩ := List.append_inj' hsplit rfl
      obtain ⟨rfl, -⟩ := List.cons.inj hlast
      refine Or.inr ⟨⟨before, first, mid, rfl, hevent, ?_⟩, hafter mid entry [] (by simp)⟩
      rintro mid' later rest rfl
      exact hafter mid' later (rest ++ [entry]) (by simp)
  · rintro (hevent | ⟨⟨before, first, after, rfl, hevent, hafter⟩, hreset⟩)
    · exact ⟨history, entry, [], rfl, hevent, by simp⟩
    · refine ⟨before, first, after ++ [entry], by simp, hevent, ?_⟩
      intro mid later rest h
      rcases List.eq_nil_or_concat' rest with rfl | ⟨rest', last, rfl⟩
      · obtain ⟨rfl, hlast⟩ := List.append_inj' h rfl
        obtain ⟨rfl, -⟩ := List.cons.inj hlast
        exact hreset
      · have hsplit : after ++ [entry] = (mid ++ later :: rest') ++ [last] := by simpa using h
        obtain ⟨rfl, -⟩ := List.append_inj' hsplit rfl
        exact hafter mid later rest' rfl

end SubjectMerge
