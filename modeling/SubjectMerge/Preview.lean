import SubjectMerge.Preview.Progress
import SubjectMerge.Registry
import SubjectMerge.Text.Quoted
import SubjectMerge.Wire

/-! A preview renders a campaign's subject for every recipient of the store. It works on a copy of what
the campaign was when the preview was asked for, and parks nothing. Its job reports that it runs, then
how far it is, and last its rows or why there are none. -/

namespace SubjectMerge

/-- What a preview renders. -/
structure Preview where
  subject : String
  table : Table
  deriving DecidableEq, Repr

def Campaign.preview (campaign : Campaign) : Preview :=
  { subject := campaign.subject, table := campaign.table }

inductive PreviewOutcome where
  /-- One row per recipient, in the order of the listing. -/
  | rows (messages : List Message)
  | unlisted (error : StoreError)
  /-- A lookup crashed with these last words. -/
  | crashed (words : String)
  deriving DecidableEq, Repr

/-- The last status of a preview's job. The number of the task that crashed is not told. -/
def PreviewOutcome.status : PreviewOutcome → JobStatus
  | .rows messages => .completed ((Format.list Message.format).encode messages)
  | .unlisted e => .failed s!"Could not list recipients: {e.message}"
  | .crashed words =>
    .failed s!"Task join error: task N panicked with message {Text.quoted words}"

namespace Preview

/-- The row of a recipient with a bound table. -/
def row (preview : Preview) (recipient : String) (bound : Table) : Message :=
  { recipientId := recipient, subject := bound.fill preview.subject }

/-- How far a preview came: the rows done, the last words of a lookup that crashed, and the lookups
made. -/
structure Run where
  done : List Message := []
  crash : Option String := none
  lookups : Nat := 0
  deriving DecidableEq, Repr

/-- Renders one recipient after the other, up to the first crash. -/
def run (preview : Preview) (store : Store) : List String → Run
  | [] => {}
  | recipient :: rest =>
    let resolution := store.resolve preview.table recipient
    match resolution.bound with
    | .error words => { crash := some words, lookups := resolution.lookups }
    | .ok bound =>
      let run := preview.run store rest
      { run with
        done := preview.row recipient bound :: run.done
        lookups := resolution.lookups + run.lookups }

def Run.outcome (run : Run) : PreviewOutcome :=
  match run.crash with
  | some words => .crashed words
  | none => .rows run.done

/-- The counts that so many finished rows give, one after the other. -/
def counts (finished : Nat) : List UInt64 := (List.range finished).map fun n => UInt64.ofNat (n + 1)

/-- The statuses of a preview's job in their order, and the lookups made for them. -/
def statuses (preview : Preview) (store : Store) : List JobStatus × Nat :=
  match store.ids with
  | .error e => ([.inProgress 0, (PreviewOutcome.unlisted e).status], 0)
  | .ok recipients =>
    let run := preview.run store recipients
    let reports := Progress.reports (UInt64.ofNat recipients.length) {} (counts run.done.length)
    ([.inProgress 0] ++ reports.map .inProgress ++ [run.outcome.status], run.lookups)

end Preview

end SubjectMerge
