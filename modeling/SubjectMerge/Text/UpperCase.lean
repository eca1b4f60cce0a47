import SubjectMerge.Text.UpperCase.Runs

/-! Upper-casing by the full default conversion: a letter may become several capitals, and no locale
is asked. -/

namespace SubjectMerge.Text

/-- The capital of a code in the run. -/
def CaseRun.image? (run : CaseRun) (code : Nat) : Option Nat :=
  if run.first ≤ code ∧ code ≤ run.last ∧ (code - run.first) % run.step = 0 then
    some (run.image + (code - run.first))
  else none

/-- The capitals of one character; ASCII needs no table. -/
def capitals (c : Char) : List Char :=
  if c.toNat < 0x80 then [c.toUpper]
  else match caseExpansions.lookup c with
    | some several => several
    | none => match caseRuns.findSome? (·.image? c.toNat) with
      | some code => [Char.ofNat code]
      | none => [c]

def upperChars (cs : List Char) : List Char := cs.flatMap capitals

def upper (s : String) : String := String.ofList (upperChars s.toList)

end SubjectMerge.Text
