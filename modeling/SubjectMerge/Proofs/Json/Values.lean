import SubjectMerge.Json.Read
import SubjectMerge.Proofs.Json.Numbers

/-! Reading a value from the front of a text. What is left begins with something that ends a number, a mark of a list
or an object or nothing, and the value's own text begins with neither a blank nor such a mark. -/

namespace SubjectMerge.Json

/-- The reader finds this value behind the text and stops right after it. -/
def Reads (read : Reader Value) (text : List Char) (v : Value) : Prop :=
  ∀ rest, EndsNumber rest → read (text ++ rest) = .ok (v, rest)

/-- No mark of a list or an object follows a number as more of it. -/
theorem endsNumber_cons {c : Char} (h : c ∈ [',', ']', '}']) (rest : List Char) : EndsNumber (c :: rest) := by
  rintro d ⟨⟩
  simp only [List.mem_cons, List.not_mem_nil, or_false] at h
  rcases h with rfl | rfl | rfl <;> decide

theorem endsNumber_nil : EndsNumber [] := by
  rintro c ⟨⟩

theorem Reads.readWhole_eq {read : Reader Value} {v w : Value} (h : Reads read v.chars w) :
    readWhole read v.write = .ok w := by
  have hread := h [] endsNumber_nil
  rw [List.append_nil] at hread
  simp [readWhole, Value.write, hread, bind, Except.bind, skipSpace]

theorem keyword_append (word rest : List Char) : keyword word (word ++ rest) = .ok rest := by
  induction word with
  | nil => rfl
  | cons c word ih => simpa [keyword] using ih

theorem reads_uint32 (n : UInt32) : Reads readUInt32 (Value.number n).chars (.number n) := by
  intro rest ends
  rw [Value.chars]
  exact readUInt32_toDigits n ends

/-- A text that has neither a blank nor a mark of a list at its front. -/
def Opens (text : List Char) : Prop :=
  ∃ c cs, text = c :: cs ∧ isSpace c = false ∧ c ≠ ']' ∧ c ≠ ','

end SubjectMerge.Json
