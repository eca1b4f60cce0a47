/-! How far a running preview is, in percent. Counts of finished rows come from several workers and may
arrive out of order; only a count above all earlier ones is reported, so that progress never goes
back. -/

namespace SubjectMerge

/-- The share of rows that are done, rounded down. Without rows all is done. -/
def percent (done total : UInt64) : UInt32 :=
  if total = 0 then 100 else (done * 100 / total).toUInt32

/-- The highest count seen. -/
structure Progress where
  highest : UInt64 := 0
  deriving DecidableEq, Repr

namespace Progress

/-- Takes in one count; the answer is what to report of it, if anything. -/
def observe (progress : Progress) (done total : UInt64) : Option UInt32 × Progress :=
  if done ≤ progress.highest then (none, progress)
  else (some (percent done total), { highest := done })

/-- What is reported of a sequence of counts. -/
def reports (total : UInt64) : Progress → List UInt64 → List UInt32
  | _, [] => []
  | progress, done :: rest =>
    let (report, progress) := progress.observe done total
    report.toList ++ progress.reports total rest

end Progress

end SubjectMerge
