import SubjectMerge.Text.Blank

/-! What becomes of a campaign whose attribute directory cannot be read. -/

namespace SubjectMerge

inductive Policy where
  /-- Start without attributes; the subject goes out as written. -/
  | failOpen
  /-- Refuse the start. -/
  | surface
  deriving DecidableEq, Repr

/-- The policy named by a text, whatever its letters' case and the blanks around it. -/
def Policy.ofText? (s : String) : Option Policy :=
  match Text.asciiLower (Text.trim s) with
  | "fail_open" | "fail-open" => some .failOpen
  | "surface" => some .surface
  | _ => none

end SubjectMerge
