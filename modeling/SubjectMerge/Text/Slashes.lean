/-! Cutting a text at its slashes. -/

namespace SubjectMerge.Text

/-- The parts between slashes; there is one more of them than of slashes. -/
def slashParts : List Char → List (List Char)
  | [] => [[]]
  | c :: cs => match slashParts cs with
    | [] => [[c]]
    | part :: parts => if c = '/' then [] :: part :: parts else (c :: part) :: parts

theorem slashParts_ne_nil (cs : List Char) : slashParts cs ≠ [] := by
  cases cs with
  | nil => simp [slashParts]
  | cons c cs => unfold slashParts; split <;> (try split) <;> simp

end SubjectMerge.Text
