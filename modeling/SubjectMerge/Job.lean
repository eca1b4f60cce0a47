import SubjectMerge.Keyed

/-! Background jobs: the status of each by its id. Workers send updates through a queue, and a single
updater writes them down in the order of the queue. -/

namespace SubjectMerge

inductive JobStatus where
  | pending
  | inProgress (percent : UInt32)
  /-- The result, as JSON text. -/
  | completed (result : String)
  | failed (reason : String)
  deriving DecidableEq, Repr

def JobStatus.isFinal : JobStatus → Bool
  | .completed _ | .failed _ => true
  | .pending | .inProgress _ => false

structure JobUpdate where
  jobId : String
  status : JobStatus
  deriving DecidableEq, Repr

/-- The latest status of every job. -/
abbrev JobBoard := Keyed JobStatus

def JobBoard.apply (board : JobBoard) (update : JobUpdate) : JobBoard :=
  board.insert update.jobId update.status

/-- The updater at work on a queue, first in first out. -/
def JobBoard.drain (board : JobBoard) (queue : List JobUpdate) : JobBoard :=
  queue.foldl JobBoard.apply board

end SubjectMerge
