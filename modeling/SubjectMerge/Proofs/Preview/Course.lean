import Mathlib.Data.List.Induction
import SubjectMerge.Proofs.Preview.Stream

/-! The course of a job. Whatever order the parties of all jobs move in, the board shows of each job that it
is pending, then percentages that never go back, and last how it ended; and nothing after that. What is written
of a job is the beginning of its stream, since the queue and the reports are both first in, first out, and only
the job's own moves lengthen the stream. -/

namespace SubjectMerge

namespace Jobs

section Lists

variable {job : String}

@[simp] theorem statusesOf_nil : statusesOf job [] = [] := rfl

@[simp] theorem statusesOf_append (updates more : List JobUpdate) :
    statusesOf job (updates ++ more) = statusesOf job updates ++ statusesOf job more := by
  simp [statusesOf]

@[simp] theorem statusesOf_cons (update : JobUpdate) (rest : List JobUpdate) :
    statusesOf job (update :: rest) =
      (if update.jobId = job then [update.status] else []) ++ statusesOf job rest := by
  by_cases h : update.jobId = job <;> simp [statusesOf, h]

@[simp] theorem statusesOf_map_mk (statuses : List JobStatus) :
    statusesOf job (statuses.map (JobUpdate.mk job)) = statuses := by
  induction statuses with
  | nil => rfl
  | cons status rest ih => simp [ih]

theorem reached_concat (events : List Event) (event : Event) :
    reached (events ++ [event]) = ((reached events).step event).2 := by
  simp [reached, run]

theorem written_append (jobs : Jobs) (events more : List Event) :
    jobs.written (events ++ more) = jobs.written events ++ (jobs.run events).written more := by
  induction events generalizing jobs with
  | nil => rfl
  | cons first rest ih => simp [written, ih, run]

/-- What a job has been on the board is never taken back. -/
theorem history_append (job : String) (events more : List Event) :
    history job (events ++ more) = history job events ++ statusesOf job ((reached events).written more) := by
  rw [history, written_append, statusesOf_append]
  rfl

theorem history_concat (job : String) (events : List Event) (event : Event) :
    history job (events ++ [event]) =
      history job events ++ statusesOf job ((reached events).step event).1.toList := by
  simp [history_append, written]

end Lists

/-- Everything an event can do to one job: to its task, to what is written of it, and to what waits to be
written. -/
inductive Turn (jobs : Jobs) (event : Event) (job : String) (next : Jobs) (wrote : List JobStatus) : Prop where
  | aside (task : next.tasks job = jobs.tasks job) (silent : wrote = [])
      (queue : statusesOf job next.queue = statusesOf job jobs.queue)
  | opens (preview : Preview) (action : event.action = .request job preview) (free : jobs.tasks job = none)
      (task : next.tasks job = some { preview }) (pending : wrote = [.pending])
      (queue : statusesOf job next.queue = statusesOf job jobs.queue)
  | works (act : Act) (task task' : Task) (said : Option JobStatus) (action : event.action = .work job act)
      (found : jobs.tasks job = some task) (deed : Task.Deed event.store task said task')
      (after : next.tasks job = some task') (silent : wrote = [])
      (queue : statusesOf job next.queue = statusesOf job jobs.queue ++ said.toList)
  | updates (status : JobStatus) (task : next.tasks job = jobs.tasks job) (written : wrote = [status])
      (queue : statusesOf job jobs.queue = status :: statusesOf job next.queue)

theorem turn_step (jobs : Jobs) (event : Event) (job : String) :
    Turn jobs event job (jobs.step event).2 (statusesOf job (jobs.step event).1.toList) := by
  obtain ⟨store, action⟩ := event
  cases action with
  | request other preview =>
    simp only [step]
    split
    · exact .aside rfl rfl rfl
    · next free =>
      by_cases h : other = job
      · subst h
        exact .opens preview rfl free (by simp [write, setTask]) (by simp [write]) rfl
      · have hne : job ≠ other := Ne.symm h
        exact .aside (by simp [write, setTask, hne]) (by simp [write, h]) rfl
  | work other act =>
    simp only [step]
    split
    · exact .aside rfl rfl rfl
    · next task found =>
      by_cases h : other = job
      · subst h
        refine .works act task _ _ rfl found (Task.deed_step store task act) (by simp [setTask]) rfl ?_
        cases (task.step store act).1 <;> simp
      · have hne : job ≠ other := Ne.symm h
        refine .aside (by simp [setTask, hne]) rfl ?_
        cases (task.step store act).1 <;> simp [h]
  | update =>
    simp only [step]
    split
    · exact .aside rfl rfl rfl
    · next update rest queued =>
      by_cases h : update.jobId = job
      · exact .updates update.status rfl (by simp [write, h]) (by simp [write, queued, h])
      · exact .aside rfl (by simp [write, h]) (by simp [write, queued, h])

/-- The board holds what was written of a job last. -/
theorem board_step (jobs : Jobs) (event : Event) (job : String) :
    (jobs.step event).2.board.get? job =
      (statusesOf job (jobs.step event).1.toList).getLast?.or (jobs.board.get? job) := by
  have written (jobs : Jobs) (update : JobUpdate) : (jobs.write update).2.board.get? job =
      (statusesOf job (jobs.write update).1.toList).getLast?.or (jobs.board.get? job) := by
    by_cases h : update.jobId = job
    · simp [write, JobBoard.apply, Keyed.get?_insert, h]
    · have hne : job ≠ update.jobId := Ne.symm h
      simp [write, JobBoard.apply, Keyed.get?_insert, h, hne]
  obtain ⟨store, action⟩ := event
  cases action with
  | request other preview =>
    simp only [step]
    split
    · rfl
    · exact written _ _
  | work other act =>
    simp only [step]
    split <;> rfl
  | update =>
    simp only [step]
    split
    · rfl
    · exact written _ _

/-- Any listing that the job was given can be counted in percent. -/
def Listable (job : String) (events : List Event) : Prop :=
  ∀ event ∈ events, ∀ act, event.action = .work job act → ∀ ids, event.store.ids = .ok ids →
    Countable ids.length

/-- What holds of a job after any events. -/
structure Tracked (events : List Event) (job : String) : Prop where
  unknown : (reached events).tasks job = none →
    history job events = [] ∧ statusesOf job (reached events).queue = []
  known : ∀ task, (reached events).tasks job = some task → ∃ percents, task.Kept (Listable job events)
    (history job events ++ statusesOf job (reached events).queue) percents
  board : (reached events).board.get? job = (history job events).getLast?

variable {events : List Event} {job : String}

theorem Tracked.concat (h : Tracked events job) (event : Event) :
    Tracked (events ++ [event]) job := by
  have weaker : Listable job (events ++ [event]) → Listable job events :=
    fun hl other hother => hl other (List.mem_append_left _ hother)
  have turn := turn_step (reached events) event job
  have hboard := board_step (reached events) event job
  rw [← reached_concat] at turn hboard
  have hhistory := history_concat job events event
  generalize statusesOf job ((reached events).step event).1.toList = wrote at turn hboard hhistory
  refine ⟨?_, ?_, ?_⟩
  · intro free
    cases turn with
    | aside task silent queue =>
      obtain ⟨hnone, hqueue⟩ := h.unknown (task.symm.trans free)
      simp [hhistory, silent, queue, hnone, hqueue]
    | opens preview action _ task pending queue => simp [task] at free
    | works act task task' said action found deed after silent queue => simp [after] at free
    | updates status task written queue =>
      obtain ⟨-, hqueue⟩ := h.unknown (task.symm.trans free)
      simp [hqueue] at queue
  · intro task' found'
    cases turn with
    | aside task silent queue =>
      obtain ⟨percents, kept⟩ := h.known task' (task.symm.trans found')
      refine ⟨percents, ?_⟩
      rw [hhistory, silent, List.append_nil, queue]
      exact ⟨kept.stream, kept.sound, fun hl => kept.measured (weaker hl)⟩
    | opens preview action free task pending queue =>
      obtain ⟨hnone, hqueue⟩ := h.unknown free
      obtain rfl := Option.some.inj (task.symm.trans found')
      rw [hhistory, hnone, pending, queue, hqueue]
      exact ⟨[], .initial _ preview⟩
    | works act task task'' said action found deed after silent queue =>
      obtain ⟨percents, kept⟩ := h.known task found
      obtain rfl := Option.some.inj (after.symm.trans found')
      have countable : Listable job (events ++ [event]) →
          ∀ ids, event.store.ids = .ok ids → Countable ids.length :=
        fun hl => hl event (by simp) act action
      -- what is said in the move joins the end of the queue, so that the stream stays one
      rw [hhistory, silent, List.append_nil, queue, ← List.append_assoc]
      exact kept.deed weaker countable deed
    | updates status task written queue =>
      obtain ⟨percents, kept⟩ := h.known task' (task.symm.trans found')
      refine ⟨percents, ?_⟩
      rw [queue] at kept
      rw [hhistory, written, List.append_assoc]
      exact ⟨kept.stream, kept.sound, fun hl => kept.measured (weaker hl)⟩
  · rw [hboard, hhistory, List.getLast?_append, h.board]

theorem tracked (events : List Event) (job : String) : Tracked events job := by
  induction events using List.reverseRecOn with
  | nil =>
    refine ⟨fun _ => ⟨rfl, rfl⟩, fun task h => ?_, rfl⟩
    cases h
  | append_singleton events event ih => exact ih.concat event

/-- The statuses of a job in their order: it waits, reports how far it is, and says last how it ended. -/
def Course (percents : List UInt32) (last : Option JobStatus) (statuses : List JobStatus) : Prop :=
  statuses = .pending :: percents.map .inProgress ++ last.toList ∧ ∀ status ∈ last, status.isFinal

/-- What has been said of a course so far, if anything, is a course. -/
theorem Course.of_append {percents : List UInt32} {last : Option JobStatus} {said rest : List JobStatus}
    (h : Course percents last (said ++ rest)) :
    said = [] ∨ ∃ percents' last', Course percents' last' said ∧ percents' <+: percents := by
  obtain ⟨heq, hfinal⟩ := h
  rcases List.append_eq_append_iff.1 heq with ⟨mid, hopen, -⟩ | ⟨mid, rfl, hlast⟩
  · cases said with
    | nil => exact Or.inl rfl
    | cons first said =>
      obtain ⟨rfl, hpercents⟩ := List.cons.inj hopen
      obtain ⟨early, late, rfl, rfl, -⟩ := List.map_eq_append_iff.1 hpercents
      exact Or.inr ⟨early, none, ⟨by simp, by simp⟩, List.prefix_append early late⟩
  · right
    cases last with
    | none =>
      obtain ⟨rfl, -⟩ := List.nil_eq_append_iff.1 hlast
      exact ⟨percents, none, ⟨by simp, by simp⟩, List.prefix_rfl⟩
    | some status =>
      rcases List.singleton_eq_append_iff.1 hlast with ⟨rfl, -⟩ | ⟨rfl, -⟩
      · exact ⟨percents, none, ⟨by simp, by simp⟩, List.prefix_rfl⟩
      · exact ⟨percents, some status, ⟨by simp, hfinal⟩, List.prefix_rfl⟩

/-- Nothing is said after a last status. -/
theorem Course.eq_nil_of_final {percents : List UInt32} {last : Option JobStatus} {status : JobStatus}
    {said rest : List JobStatus} (h : Course percents last (said ++ status :: rest)) (final : status.isFinal) :
    rest = [] := by
  obtain ⟨heq, -⟩ := h
  have unfinished : ∀ other ∈ JobStatus.pending :: percents.map .inProgress, other.isFinal = false := by
    simp [JobStatus.isFinal]
  rcases List.append_eq_append_iff.1 heq with ⟨mid, hopen, hrest⟩ | ⟨mid, -, hlast⟩
  · cases mid with
    | nil => cases last <;> simp_all
    | cons first mid =>
      obtain ⟨rfl, -⟩ := List.cons.inj hrest
      have := unfinished status (by simp [hopen])
      simp [final] at this
  · cases last with
    | none => simp at hlast
    | some other =>
      rcases List.singleton_eq_append_iff.1 hlast with ⟨-, hrest⟩ | ⟨-, hrest⟩
      · exact (List.cons.inj hrest).2
      · cases hrest

/-- The task of the job has concluded, its listener is gone, and all its updates are written down. -/
def Done (jobs : Jobs) (job : String) (outcome : PreviewOutcome) : Prop :=
  ∃ task, jobs.tasks job = some task ∧ task.phase = .concluded outcome ∧ task.listener = .gone ∧
    ∀ update ∈ jobs.queue, update.jobId ≠ job

/-- A task ends with a last status. -/
theorem isFinal_status (outcome : PreviewOutcome) : outcome.status.isFinal := by
  cases outcome <;> rfl

namespace Tracked

theorem course (h : Tracked events job) : history job events = [] ∨ ∃ percents last,
    Course percents last (history job events) ∧
      (Listable job events → percents.Pairwise (· ≤ ·) ∧ ∀ p ∈ percents, p ≤ 100) := by
  cases found : (reached events).tasks job with
  | none => exact Or.inl (h.unknown found).1
  | some task =>
    obtain ⟨percents, kept⟩ := h.known task found
    have final : ∀ status ∈ task.verdict, status.isFinal := by
      intro status hstatus
      unfold Task.verdict at hstatus
      split at hstatus
      · next outcome _ =>
        obtain rfl := Option.some.inj hstatus
        exact isFinal_status outcome
      · cases hstatus
    have whole : Course percents task.verdict
        (history job events ++ (statusesOf job (reached events).queue ++ task.coming)) :=
      ⟨by rw [← List.append_assoc, kept.stream], final⟩
    rcases whole.of_append with silent | ⟨percents', last, course, early⟩
    · exact Or.inl silent
    · refine Or.inr ⟨percents', last, course, fun listable => ?_⟩
      have measured := kept.measured listable
      exact ⟨measured.rising.sublist early.sublist, fun p hp => measured.bounded p (early.subset hp)⟩

theorem done (h : Tracked events job) {outcome : PreviewOutcome} (done : (reached events).Done job outcome) :
    ∃ percents, Course percents (some outcome.status) (history job events) := by
  obtain ⟨task, found, phase, gone, written⟩ := done
  obtain ⟨percents, kept⟩ := h.known task found
  have hqueue : statusesOf job (reached events).queue = [] := by simpa [statusesOf] using written
  have hcoming : task.coming = [] := by
    simp [Task.coming, gone, (kept.sound.gone gone).1, Listener.hand, Listener.progress, heard]
  have hverdict : task.verdict = some outcome.status := by simp [Task.verdict, phase]
  have stream := kept.stream
  rw [hqueue, hcoming, hverdict, List.append_nil, List.append_nil] at stream
  exact ⟨percents, stream, by simp [isFinal_status]⟩

theorem shown (h : Tracked events job) {outcome : PreviewOutcome} (done : (reached events).Done job outcome) :
    (reached events).board.get? job = some outcome.status := by
  obtain ⟨percents, statuses, -⟩ := h.done done
  rw [h.board, statuses, Option.toList_some, List.getLast?_concat]

end Tracked

/-- What the board shows of a job. -/
structure Orderly (events : List Event) (job : String) : Prop where
  /-- First nothing, then the statuses in their order, the last one once and at the end. -/
  course : history job events = [] ∨ ∃ percents last, Course percents last (history job events) ∧
    (Listable job events → percents.Pairwise (· ≤ ·) ∧ ∀ p ∈ percents, p ≤ 100)
  latest : (reached events).board.get? job = (history job events).getLast?
  /-- A last status is never changed again. -/
  settled : ∀ status, (reached events).board.get? job = some status → status.isFinal → ∀ more,
    history job (events ++ more) = history job events ∧
      (reached (events ++ more)).board.get? job = some status
  done : ∀ outcome, (reached events).Done job outcome →
    (∃ percents, Course percents (some outcome.status) (history job events)) ∧
      (reached events).board.get? job = some outcome.status
  /-- What is written of other jobs, or nothing at all, leaves the status alone. -/
  apart : ∀ event, (∀ update ∈ ((reached events).step event).1, update.jobId ≠ job) →
    (reached (events ++ [event])).board.get? job = (reached events).board.get? job

theorem orderly_reached (events : List Event) (job : String) : Orderly events job where
  course := (tracked events job).course
  latest := (tracked events job).board
  settled status shown final more := by
    have hlast := (tracked events job).board.symm.trans shown
    obtain ⟨front, hfront⟩ := List.getLast?_eq_some_iff.1 hlast
    have hsame : history job (events ++ more) = history job events := by
      have hlater := history_append job events more
      rcases (tracked (events ++ more) job).course with hnone | ⟨percents, last, course, -⟩
      · rw [hnone, hfront] at hlater
        simp at hlater
      · rw [hlater, hfront, List.append_assoc] at course
        have hrest : statusesOf job ((reached events).written more) = [] := course.eq_nil_of_final final
        rw [hlater, hrest, List.append_nil]
    exact ⟨hsame, by rw [(tracked (events ++ more) job).board, hsame, hlast]⟩
  done outcome done := ⟨(tracked events job).done done, (tracked events job).shown done⟩
  apart event aside := by
    have hsilent : statusesOf job ((reached events).step event).1.toList = [] := by
      simpa [statusesOf] using aside
    rw [reached_concat, board_step, hsilent]
    rfl

end Jobs

end SubjectMerge
