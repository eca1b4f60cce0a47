import SubjectMerge.Job
import SubjectMerge.Preview

/-! The parties to a preview's job. A task lists the recipients and has workers render a row each, in any
order; a worker counts its row before it reports the count, so that counts may be reported out of order. A
listener hears the reports first in, first out, and passes on what is news; once it is gone the task says how
it ended. What jobs say goes through one queue to one updater, which writes it on the board. Any party may move
next, of any job, and a party that is not ready stands still. A full queue only makes a party wait. -/

namespace SubjectMerge

namespace Jobs

/-- What becomes of one listed recipient. -/
inductive Worker where
  | idle (recipient : String)
  | rendered (row : Message)
  /-- The row is counted, and the count still to be reported. -/
  | counted (row : Message) (count : UInt64)
  | reported (row : Message)
  /-- The lookup crashed with these last words. -/
  | crashed (words : String)
  deriving DecidableEq, Repr

def Worker.isCounted : Worker → Bool
  | .counted _ _ | .reported _ => true
  | .idle _ | .rendered _ | .crashed _ => false

/-- The worker has begun and will yet report. -/
def Worker.isMidway : Worker → Bool
  | .rendered _ | .counted _ _ => true
  | .idle _ | .reported _ | .crashed _ => false

def Worker.finished? : Worker → Option Message
  | .reported row => some row
  | .idle _ | .rendered _ | .counted _ _ | .crashed _ => none

/-- All are finished when each has reported its row. -/
theorem mapM_finished?_eq_some {workers : List Worker} {rows : List Message} :
    workers.mapM Worker.finished? = some rows ↔ workers = rows.map .reported := by
  induction workers generalizing rows with
  | nil => cases rows <;> simp
  | cons worker rest ih =>
    cases worker with
    | reported row =>
      cases rows with
      | nil => simp [Worker.finished?, Option.bind_eq_some_iff]
      | cons first rows =>
        simp only [List.mapM_cons, Worker.finished?, Option.bind_eq_bind, Option.bind_some,
          Option.bind_eq_some_iff, ih, Option.pure_def, Option.some.injEq, List.map_cons, List.cons.injEq,
          Worker.reported.injEq]
        constructor
        · rintro ⟨_, rfl, rfl, rfl⟩
          exact ⟨rfl, rfl⟩
        · rintro ⟨rfl, rfl⟩
          exact ⟨rows, rfl, rfl, rfl⟩
    | idle _ | rendered _ | counted _ _ | crashed _ => cases rows <;> simp [Worker.finished?]

/-- What a task tells its listener. -/
inductive Report where
  | status (status : JobStatus)
  | count (done total : UInt64)
  deriving DecidableEq, Repr

/-- What a listener makes of a report: a status to pass on, if any. -/
def Report.taken (progress : Progress) : Report → Option JobStatus × Progress
  | .status said => (some said, progress)
  | .count done total =>
    let (percent, progress) := progress.observe done total
    (percent.map .inProgress, progress)

inductive Listener where
  | listening (progress : Progress)
  /-- A status has been taken from the reports and not yet passed on. -/
  | holding (progress : Progress) (status : JobStatus)
  | gone
  deriving DecidableEq, Repr

inductive Phase where
  | opening
  | listing
  /-- The counter is shared by the workers. -/
  | rendering (counter : UInt64) (workers : List Worker)
  /-- No more reports will come. -/
  | returned (outcome : PreviewOutcome)
  | concluded (outcome : PreviewOutcome)
  deriving DecidableEq, Repr

structure Task where
  preview : Preview
  phase : Phase := .opening
  /-- What the listener has not heard yet, oldest first. -/
  reports : List Report := []
  listener : Listener := .listening {}
  deriving DecidableEq, Repr

/-- One move of one of a job's parties. Workers are told by their places in the listing. -/
inductive Act where
  | announce
  | list
  | render (worker : Nat)
  | count (worker : Nat)
  | report (worker : Nat)
  | finish
  /-- A crash ends the task, but only when no worker is midway. -/
  | unwind (worker : Nat)
  | hear
  | passOn
  | hangUp
  | conclude
  deriving DecidableEq, Repr

namespace Task

def announce (task : Task) : Task :=
  match task.phase with
  | .opening => { task with phase := .listing, reports := task.reports ++ [.status (.inProgress 0)] }
  | _ => task

def list (task : Task) (store : Store) : Task :=
  match task.phase, store.ids with
  | .listing, .ok recipients => { task with phase := .rendering 0 (recipients.map .idle) }
  | .listing, .error e => { task with phase := .returned (.unlisted e) }
  | _, _ => task

def render (task : Task) (store : Store) (worker : Nat) : Task :=
  match task.phase with
  | .rendering counter workers => match workers[worker]? with
    | some (.idle recipient) =>
      let result := match (store.resolve task.preview.table recipient).bound with
        | .ok bound => .rendered (task.preview.row recipient bound)
        | .error words => .crashed words
      { task with phase := .rendering counter (workers.set worker result) }
    | _ => task
  | _ => task

def count (task : Task) (worker : Nat) : Task :=
  match task.phase with
  | .rendering counter workers => match workers[worker]? with
    | some (.rendered row) =>
      { task with phase := .rendering (counter + 1) (workers.set worker (.counted row (counter + 1))) }
    | _ => task
  | _ => task

def report (task : Task) (worker : Nat) : Task :=
  match task.phase with
  | .rendering counter workers => match workers[worker]? with
    | some (.counted row done) =>
      { task with
        phase := .rendering counter (workers.set worker (.reported row))
        reports := task.reports ++ [.count done (.ofNat workers.length)] }
    | _ => task
  | _ => task

def finish (task : Task) : Task :=
  match task.phase with
  | .rendering _ workers => match workers.mapM Worker.finished? with
    | some rows => { task with phase := .returned (.rows rows) }
    | none => task
  | _ => task

def unwind (task : Task) (worker : Nat) : Task :=
  match task.phase with
  | .rendering _ workers => match workers[worker]?, workers.any Worker.isMidway with
    | some (.crashed words), false => { task with phase := .returned (.crashed words) }
    | _, _ => task
  | _ => task

def hear (task : Task) : Task :=
  match task.listener, task.reports with
  | .listening progress, report :: rest => match report.taken progress with
    | (some status, progress) => { task with listener := .holding progress status, reports := rest }
    | (none, progress) => { task with listener := .listening progress, reports := rest }
  | _, _ => task

def passOn (task : Task) : Option JobStatus × Task :=
  match task.listener with
  | .holding progress status => (some status, { task with listener := .listening progress })
  | _ => (none, task)

/-- The listener leaves when all is heard and no more can come. -/
def hangUp (task : Task) : Task :=
  match task.listener, task.reports, task.phase with
  | .listening _, [], .returned _ => { task with listener := .gone }
  | _, _, _ => task

/-- The task has its last say after its listener is gone. -/
def conclude (task : Task) : Option JobStatus × Task :=
  match task.listener, task.phase with
  | .gone, .returned outcome => (some outcome.status, { task with phase := .concluded outcome })
  | _, _ => (none, task)

/-- One move of a job's parties, and what is said to the updater in it. -/
def step (task : Task) (store : Store) : Act → Option JobStatus × Task
  | .announce => (none, task.announce)
  | .list => (none, task.list store)
  | .render worker => (none, task.render store worker)
  | .count worker => (none, task.count worker)
  | .report worker => (none, task.report worker)
  | .finish => (none, task.finish)
  | .unwind worker => (none, task.unwind worker)
  | .hear => (none, task.hear)
  | .passOn => task.passOn
  | .hangUp => (none, task.hangUp)
  | .conclude => task.conclude

/-- Everything a task or one of its workers can do: from one phase to the next, with these reports. -/
inductive Next (store : Store) (preview : Preview) : Phase → List Report → Phase → Prop where
  | announces : Next store preview .opening [.status (.inProgress 0)] .listing
  | lists (recipients : List String) (listed : store.ids = .ok recipients) :
      Next store preview .listing [] (.rendering 0 (recipients.map .idle))
  | unlisted (e : StoreError) (failed : store.ids = .error e) :
      Next store preview .listing [] (.returned (.unlisted e))
  | renders (counter : UInt64) (workers : List Worker) (worker : Nat) (recipient : String) (bound : Table)
      (found : workers[worker]? = some (.idle recipient))
      (resolved : (store.resolve preview.table recipient).bound = .ok bound) :
      Next store preview (.rendering counter workers) []
        (.rendering counter (workers.set worker (.rendered (preview.row recipient bound))))
  | crashes (counter : UInt64) (workers : List Worker) (worker : Nat) (recipient words : String)
      (found : workers[worker]? = some (.idle recipient))
      (resolved : (store.resolve preview.table recipient).bound = .error words) :
      Next store preview (.rendering counter workers) []
        (.rendering counter (workers.set worker (.crashed words)))
  | counts (counter : UInt64) (workers : List Worker) (worker : Nat) (row : Message)
      (found : workers[worker]? = some (.rendered row)) :
      Next store preview (.rendering counter workers) []
        (.rendering (counter + 1) (workers.set worker (.counted row (counter + 1))))
  | reports (counter : UInt64) (workers : List Worker) (worker : Nat) (row : Message) (done : UInt64)
      (found : workers[worker]? = some (.counted row done)) :
      Next store preview (.rendering counter workers) [.count done (.ofNat workers.length)]
        (.rendering counter (workers.set worker (.reported row)))
  | finishes (counter : UInt64) (workers : List Worker) (rows : List Message)
      (all : workers.mapM Worker.finished? = some rows) :
      Next store preview (.rendering counter workers) [] (.returned (.rows rows))
  | unwinds (counter : UInt64) (workers : List Worker) (worker : Nat) (words : String)
      (found : workers[worker]? = some (.crashed words)) (halted : workers.any Worker.isMidway = false) :
      Next store preview (.rendering counter workers) [] (.returned (.crashed words))

/-- Everything a move can do: the task and its workers go on, the listener hears a report or passes a status
on, and at the end it leaves and the task concludes. -/
inductive Deed (store : Store) (task : Task) : Option JobStatus → Task → Prop where
  | stands : Deed store task none task
  | goesOn (reports : List Report) (phase : Phase) (next : Next store task.preview task.phase reports phase) :
      Deed store task none { task with phase := phase, reports := task.reports ++ reports }
  | hears (progress progress' : Progress) (report : Report) (rest : List Report) (status : JobStatus)
      (listener : task.listener = .listening progress) (first : task.reports = report :: rest)
      (taken : report.taken progress = (some status, progress')) :
      Deed store task none { task with listener := .holding progress' status, reports := rest }
  | ignores (progress progress' : Progress) (report : Report) (rest : List Report)
      (listener : task.listener = .listening progress) (first : task.reports = report :: rest)
      (taken : report.taken progress = (none, progress')) :
      Deed store task none { task with listener := .listening progress', reports := rest }
  | passesOn (progress : Progress) (status : JobStatus) (listener : task.listener = .holding progress status) :
      Deed store task (some status) { task with listener := .listening progress }
  | hangsUp (progress : Progress) (outcome : PreviewOutcome) (listener : task.listener = .listening progress)
      (heard : task.reports = []) (phase : task.phase = .returned outcome) :
      Deed store task none { task with listener := .gone }
  | concludes (outcome : PreviewOutcome) (listener : task.listener = .gone)
      (phase : task.phase = .returned outcome) :
      Deed store task (some outcome.status) { task with phase := .concluded outcome }

variable {store : Store} {task : Task}

theorem Deed.quiet {before after : Phase} (phase : task.phase = before)
    (next : Next store task.preview before [] after) : Deed store task none { task with phase := after } := by
  subst phase
  simpa using Deed.goesOn [] after next

theorem Deed.loud {before after : Phase} {report : Report} (phase : task.phase = before)
    (next : Next store task.preview before [report] after) :
    Deed store task none { task with phase := after, reports := task.reports ++ [report] } := by
  subst phase
  exact Deed.goesOn [report] after next

theorem deed_step (store : Store) (task : Task) (act : Act) :
    Deed store task (task.step store act).1 (task.step store act).2 := by
  cases act with
  | announce =>
    simp only [step, announce]
    split
    · next phase => exact .loud phase .announces
    · exact .stands
  | list =>
    simp only [step, list]
    split
    · next recipients phase listed => exact .quiet phase (.lists recipients listed)
    · next e phase failed => exact .quiet phase (.unlisted e failed)
    · exact .stands
  | render worker =>
    simp only [step, render]
    split
    · next counter workers phase =>
      split
      · next recipient found =>
        cases resolved : (store.resolve task.preview.table recipient).bound with
        | ok bound => exact .quiet phase (.renders counter workers worker recipient bound found resolved)
        | error words => exact .quiet phase (.crashes counter workers worker recipient words found resolved)
      · exact .stands
    · exact .stands
  | count worker =>
    simp only [step, count]
    split
    · next counter workers phase =>
      split
      · next row found => exact .quiet phase (.counts counter workers worker row found)
      · exact .stands
    · exact .stands
  | report worker =>
    simp only [step, report]
    split
    · next counter workers phase =>
      split
      · next row done found => exact .loud phase (.reports counter workers worker row done found)
      · exact .stands
    · exact .stands
  | finish =>
    simp only [step, finish]
    split
    · next counter workers phase =>
      split
      · next rows all => exact .quiet phase (.finishes counter workers rows all)
      · exact .stands
    · exact .stands
  | unwind worker =>
    simp only [step, unwind]
    split
    · next counter workers phase =>
      split
      · next words found halted => exact .quiet phase (.unwinds counter workers worker words found halted)
      · exact .stands
    · exact .stands
  | hear =>
    simp only [step, hear]
    split
    · next progress report rest listener first =>
      split
      · next status progress' taken => exact .hears progress progress' report rest status listener first taken
      · next progress' taken => exact .ignores progress progress' report rest listener first taken
    · exact .stands
  | passOn =>
    simp only [step, passOn]
    split
    · next progress status listener => exact .passesOn progress status listener
    · exact .stands
  | hangUp =>
    simp only [step, hangUp]
    split
    · next progress outcome listener heard phase => exact .hangsUp progress outcome listener heard phase
    · exact .stands
  | conclude =>
    simp only [step, conclude]
    split
    · next outcome listener phase => exact .concludes outcome listener phase
    · exact .stands

end Task

/-- What can happen next: a preview is asked for under a job's id, a party of a job moves, or the updater
writes down the oldest update of the queue. -/
inductive Action where
  | request (job : String) (preview : Preview)
  | work (job : String) (act : Act)
  | update
  deriving DecidableEq, Repr

/-- An action, and the store as it answers at that moment. -/
structure Event where
  store : Store
  action : Action

end Jobs

/-- All jobs at work. -/
structure Jobs where
  tasks : String → Option Jobs.Task
  /-- What the jobs have said and is not yet written down, oldest first. -/
  queue : List JobUpdate
  board : JobBoard

namespace Jobs

def initial : Jobs := ⟨fun _ => none, [], .empty⟩

def setTask (jobs : Jobs) (job : String) (task : Task) : Jobs :=
  { jobs with tasks := fun other => if other = job then some task else jobs.tasks other }

/-- Writes an update on the board. -/
def write (jobs : Jobs) (update : JobUpdate) : Option JobUpdate × Jobs :=
  (some update, { jobs with board := jobs.board.apply update })

/-- One event, and what is written on the board in it. An id is given to one job only. -/
def step (jobs : Jobs) (event : Event) : Option JobUpdate × Jobs :=
  match event.action with
  | .request job preview => match jobs.tasks job with
    | some _ => (none, jobs)
    | none => (jobs.setTask job { preview }).write ⟨job, .pending⟩
  | .work job act => match jobs.tasks job with
    | none => (none, jobs)
    | some task =>
      let (said, task) := task.step event.store act
      (none, { jobs.setTask job task with queue := jobs.queue ++ (said.map (JobUpdate.mk job)).toList })
  | .update => match jobs.queue with
    | [] => (none, jobs)
    | update :: rest => { jobs with queue := rest }.write update

def run (jobs : Jobs) (events : List Event) : Jobs :=
  events.foldl (fun jobs event => (jobs.step event).2) jobs

def reached (events : List Event) : Jobs := initial.run events

/-- Everything that is written on the board along the way, oldest first. -/
def written : Jobs → List Event → List JobUpdate
  | _, [] => []
  | jobs, event :: rest => (jobs.step event).1.toList ++ (jobs.step event).2.written rest

/-- What a list of updates says of one job. -/
def statusesOf (job : String) (updates : List JobUpdate) : List JobStatus :=
  (updates.filter fun update => update.jobId = job).map JobUpdate.status

/-- The statuses that a job has had on the board. -/
def history (job : String) (events : List Event) : List JobStatus := statusesOf job (initial.written events)

end Jobs

end SubjectMerge
