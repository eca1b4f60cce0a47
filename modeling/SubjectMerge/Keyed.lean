/-! Finite maps from names. Each name occurs once, so the number of entries is the number of names; a
map is read through `get?`, and the order of the entries carries no meaning. -/

namespace SubjectMerge

structure Keyed (α : Type) where
  entries : List (String × α)
  distinct : (entries.map Prod.fst).Nodup

namespace Keyed

variable {α : Type}

def empty : Keyed α := ⟨[], List.nodup_nil⟩

instance : Inhabited (Keyed α) := ⟨empty⟩

def get? (m : Keyed α) (key : String) : Option α := m.entries.lookup key

def erase (m : Keyed α) (key : String) : Keyed α :=
  ⟨m.entries.filter fun entry => entry.1 != key,
    m.distinct.sublist (List.filter_sublist.map _)⟩

def insert (m : Keyed α) (key : String) (value : α) : Keyed α :=
  ⟨(key, value) :: (m.erase key).entries, by
    refine List.nodup_cons.2 ⟨fun h => ?_, (m.erase key).distinct⟩
    obtain ⟨entry, mem, rfl⟩ := List.mem_map.1 h
    simp [erase] at mem⟩

/-- A later entry of the list wins over an earlier one with its name. -/
def ofList (entries : List (String × α)) : Keyed α :=
  entries.foldl (fun m entry => m.insert entry.1 entry.2) empty

def size (m : Keyed α) : Nat := m.entries.length

def keys (m : Keyed α) : List String := m.entries.map Prod.fst

@[simp] theorem get?_empty (key : String) : (empty : Keyed α).get? key = none := rfl

theorem get?_erase (m : Keyed α) (key other : String) :
    (m.erase key).get? other = if other = key then none else m.get? other := by
  simp only [erase, get?]
  induction m.entries with
  | nil => simp
  | cons entry rest ih =>
    obtain ⟨name, value⟩ := entry
    by_cases hk : name = key
    · subst hk
      by_cases ho : other = name
      · simpa [ho] using ih
      · have hne : (other == name) = false := by simpa using ho
        simpa [List.lookup_cons, ho, hne] using ih
    · rw [List.filter_cons_of_pos (by simpa using hk), List.lookup_cons, List.lookup_cons, ih]
      by_cases ho : other = name
      · subst ho; simp [hk]
      · have hne : (other == name) = false := by simpa using ho
        simp [hne]

theorem get?_insert (m : Keyed α) (key other : String) (value : α) :
    (m.insert key value).get? other = if other = key then some value else m.get? other := by
  by_cases h : other = key
  · subst h; simp [insert, get?]
  · have hne : (other == key) = false := by simpa using h
    have := get?_erase m key other
    simp only [get?, if_neg h] at this
    simp [insert, get?, List.lookup_cons, hne, h, this]

end Keyed

end SubjectMerge
