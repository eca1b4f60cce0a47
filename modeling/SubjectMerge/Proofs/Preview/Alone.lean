import SubjectMerge.Proofs.Preview.Rows

/-! A job alone. When its parties move one after the other, every row rendered, counted, reported and heard
before the next is begun, a job says what `Preview.statuses` lists. So that list is one course of the parties
among the others, and every preview has one that ends. -/

namespace SubjectMerge

namespace Jobs

/-- Moves of a job's parties lead from one task to another, and this is said to the updater in them. -/
inductive Goes (store : Store) : Task → List JobStatus → Task → Prop where
  | stays (task : Task) : Goes store task [] task
  | moves {task mid task' : Task} {status : Option JobStatus} {said : List JobStatus} (act : Act)
      (step : task.step store act = (status, mid)) (rest : Goes store mid said task') :
      Goes store task (status.toList ++ said) task'

namespace Goes

variable {store : Store} {preview : Preview} {task task' task'' : Task} {said more : List JobStatus}

theorem trans (h : Goes store task said task') (h' : Goes store task' more task'') :
    Goes store task (said ++ more) task'' := by
  induction h with
  | stays => exact h'
  | moves act step _ ih => simpa using Goes.moves act step (ih h')

theorem quiet {mid : Task} (act : Act) (step : task.step store act = (none, mid))
    (rest : Goes store mid said task') : Goes store task said task' :=
  .moves act step rest

theorem aloud {mid : Task} {status : JobStatus} (act : Act) (step : task.step store act = (some status, mid))
    (rest : Goes store mid said task') : Goes store task (status :: said) task' :=
  .moves act step rest

/-- A listener hears the one report there is, and passes on what it makes of it. -/
theorem report_heard (preview : Preview) (phase : Phase) (report : Report) (progress : Progress) :
    Goes store ⟨preview, phase, [report], .listening progress⟩ (report.taken progress).1.toList
      ⟨preview, phase, [], .listening (report.taken progress).2⟩ := by
  cases taken : report.taken progress with
  | mk status progress' =>
    cases status with
    | none => exact .quiet .hear (by simp only [Task.step, Task.hear, taken]) (.stays _)
    | some status =>
      let holding : Task := ⟨preview, phase, [], .holding progress' status⟩
      have pass : Goes store holding [status] ⟨preview, phase, [], .listening progress'⟩ :=
        .aloud .passOn rfl (.stays _)
      exact .quiet .hear (by simp only [Task.step, Task.hear, taken, holding]) pass

/-- An idle worker renders its row and reports it, and the listener hears of it. -/
theorem row {counter : UInt64} {front back : List Worker} {progress : Progress} {recipient : String}
    {bound : Table} (resolved : (store.resolve preview.table recipient).bound = .ok bound) {total : Nat}
    (htotal : total = (front ++ .idle recipient :: back).length) :
    let heard := progress.observe (counter + 1) (.ofNat total)
    Goes store ⟨preview, .rendering counter (front ++ .idle recipient :: back), [], .listening progress⟩
      (heard.1.map .inProgress).toList
      ⟨preview, .rendering (counter + 1) (front ++ .reported (preview.row recipient bound) :: back), [],
        .listening heard.2⟩ := by
  intro heard
  let place (counter : UInt64) (worker : Worker) (reports : List Report) : Task :=
    ⟨preview, .rendering counter (front ++ worker :: back), reports, .listening progress⟩
  have render : (place counter (.idle recipient) []).step store (.render front.length) =
      (none, place counter (.rendered (preview.row recipient bound)) []) := by
    simp [place, Task.step, Task.render, resolved]
  have count : (place counter (.rendered (preview.row recipient bound)) []).step store (.count front.length) =
      (none, place (counter + 1) (.counted (preview.row recipient bound) (counter + 1)) []) := by
    simp [place, Task.step, Task.count]
  have report : (place (counter + 1) (.counted (preview.row recipient bound) (counter + 1)) []).step store
      (.report front.length) = (none, place (counter + 1) (.reported (preview.row recipient bound))
        [.count (counter + 1) (.ofNat total)]) := by
    simp [place, Task.step, Task.report, htotal]
  exact .quiet _ render (.quiet _ count (.quiet _ report (report_heard _ _ _ progress)))

/-- An idle worker's lookup crashes and the task ends, when no other worker is midway. -/
theorem crash {counter : UInt64} {front back : List Worker} {progress : Progress} {recipient words : String}
    (resolved : (store.resolve preview.table recipient).bound = .error words)
    (still : ∀ worker ∈ front ++ back, worker.isMidway = false) :
    Goes store ⟨preview, .rendering counter (front ++ .idle recipient :: back), [], .listening progress⟩ []
      ⟨preview, .returned (.crashed words), [], .listening progress⟩ := by
  let place (worker : Worker) : Task :=
    ⟨preview, .rendering counter (front ++ worker :: back), [], .listening progress⟩
  have render : (place (.idle recipient)).step store (.render front.length) =
      (none, place (.crashed words)) := by
    simp [place, Task.step, Task.render, resolved]
  have halted : (front ++ .crashed words :: back).any Worker.isMidway = false := by
    have hfront : front.any Worker.isMidway = false := by simpa using fun w hw => still w (by simp [hw])
    have hback : back.any Worker.isMidway = false := by simpa using fun w hw => still w (by simp [hw])
    simp only [List.any_append, List.any_cons, hfront, hback, Worker.isMidway, Bool.or_self]
  have unwind : (place (.crashed words)).step store (.unwind front.length) =
      (none, ⟨preview, .returned (.crashed words), [], .listening progress⟩) := by
    simp only [place, Task.step, Task.unwind, halted]
    simp
  exact .quiet _ render (.quiet _ unwind (.stays _))

/-- The rows that are left are rendered one after the other, up to the first crash. -/
theorem rows (store : Store) (preview : Preview) {total : Nat} (recipients : List String) (rows : List Message)
    (htotal : total = rows.length + recipients.length) (progress : Progress) :
    let run := preview.run store recipients
    let counts := (List.range' rows.length run.done.length).map fun n => UInt64.ofNat (n + 1)
    ∃ last, Goes store
      ⟨preview, .rendering (.ofNat rows.length) (rows.map .reported ++ recipients.map .idle), [],
        .listening progress⟩
      ((progress.reports (.ofNat total) counts).map .inProgress)
      ⟨preview, .returned (Preview.Run.outcome { run with done := rows ++ run.done }), [], .listening last⟩ := by
  -- the rows that are done stand before the rest of the listing, and count up to their number
  induction recipients generalizing rows progress with
  | nil =>
    refine ⟨progress, .quiet .finish ?_ (.stays _)⟩
    have all : (rows.map Worker.reported).mapM Worker.finished? = some rows := mapM_finished?_eq_some.2 rfl
    simp [Task.step, Task.finish, all, Preview.run, Preview.Run.outcome]
  | cons recipient rest ih =>
    cases resolved : (store.resolve preview.table recipient).bound with
    | error words =>
      simp only [Preview.run, resolved]
      refine ⟨progress, crash resolved fun worker others => ?_⟩
      simp only [List.mem_append, List.mem_map] at others
      obtain ⟨row, -, rfl⟩ | ⟨other, -, rfl⟩ := others <;> rfl
    | ok bound =>
      have next : UInt64.ofNat rows.length + 1 = .ofNat (rows.length + 1) := (UInt64.ofNat_add ..).symm
      obtain ⟨last, onward⟩ := ih (rows ++ [preview.row recipient bound]) (by simp at htotal ⊢; omega)
        (progress.observe (.ofNat rows.length + 1) (.ofNat total)).2
      simp only [List.length_append, List.length_cons, List.length_nil, Nat.zero_add, List.map_append,
        List.map_cons, List.map_nil, List.append_assoc, List.singleton_append] at onward
      rw [← next] at onward
      have both := (row resolved (by simp [htotal])).trans onward
      rw [next] at both
      refine ⟨last, ?_⟩
      simpa [Preview.run, resolved, List.range'_succ, Progress.reports, Preview.Run.outcome, Option.toList_map]
        using both

/-- A whole job, from its request to its conclusion. -/
theorem whole (store : Store) (preview : Preview) : ∃ outcome,
    Goes store { preview } (preview.statuses store).1 ⟨preview, .concluded outcome, [], .gone⟩ := by
  have ended (outcome : PreviewOutcome) (progress : Progress) :
      Goes store ⟨preview, .returned outcome, [], .listening progress⟩ [outcome.status]
        ⟨preview, .concluded outcome, [], .gone⟩ :=
    .quiet .hangUp rfl (.aloud .conclude rfl (.stays _))
  have opened : Goes store { preview } [.inProgress 0] ⟨preview, .listing, [], .listening {}⟩ :=
    .quiet .announce rfl (report_heard preview .listing (.status (.inProgress 0)) {})
  cases listed : store.ids with
  | error e =>
    refine ⟨.unlisted e, ?_⟩
    have unlisted : Task.step ⟨preview, .listing, [], .listening {}⟩ store .list =
        (none, ⟨preview, .returned (.unlisted e), [], .listening {}⟩) := by
      simp [Task.step, Task.list, listed]
    simpa [Preview.statuses, listed] using opened.trans (.quiet _ unlisted (ended _ _))
  | ok recipients =>
    obtain ⟨last, rendered⟩ := rows store preview recipients [] (Nat.zero_add _).symm {}
    refine ⟨(preview.run store recipients).outcome, ?_⟩
    have list : Task.step ⟨preview, .listing, [], .listening {}⟩ store .list =
        (none, ⟨preview, .rendering 0 (recipients.map .idle), [], .listening {}⟩) := by
      simp [Task.step, Task.list, listed]
    have all := opened.trans (.quiet _ list (rendered.trans (ended _ _)))
    simpa [Preview.statuses, listed, Preview.counts, List.range_eq_range'] using all

end Goes

variable {store : Store} {preview : Preview} {job : String}

/-- What a job says in its moves waits in the queue, behind what was there. -/
theorem Goes.events {task task' : Task} {said : List JobStatus} (h : Goes store task said task')
    (preview : Preview) {jobs : Jobs} (found : jobs.tasks job = some task) :
    ∃ events : List Event, (∀ event ∈ events, event.Steady job preview store) ∧ jobs.written events = [] ∧
      (jobs.run events).tasks job = some task' ∧
      (jobs.run events).queue = jobs.queue ++ said.map (JobUpdate.mk job) := by
  induction h generalizing jobs with
  | stays => exact ⟨[], by simp, rfl, found, by simp [run]⟩
  | @moves task mid task' status said act step rest ih =>
    let event : Event := ⟨store, .work job act⟩
    have moved : jobs.step event = (none, { jobs.setTask job mid with
        queue := jobs.queue ++ (status.map (JobUpdate.mk job)).toList }) := by
      simp [event, Jobs.step, found, step]
    have foundMid : (jobs.step event).2.tasks job = some mid := by simp [moved, setTask]
    obtain ⟨events, steady, silent, last, queue⟩ := ih foundMid
    refine ⟨event :: events, ?_, ?_, last, ?_⟩
    · have here : event.Steady job preview store := ⟨by simp [event], fun _ _ => rfl⟩
      simpa using ⟨here, steady⟩
    · rw [written, silent, moved]
      rfl
    · rw [run, List.foldl_cons, ← run, queue, moved]
      cases status <;> simp

/-- The updater writes down all that waits, in its order. -/
theorem drained (store : Store) (jobs : Jobs) :
    let updates := List.replicate jobs.queue.length (⟨store, .update⟩ : Event)
    jobs.written updates = jobs.queue ∧ (jobs.run updates).queue = [] ∧
      (jobs.run updates).tasks = jobs.tasks := by
  induction queued : jobs.queue generalizing jobs with
  | nil => simp [written, run, queued]
  | cons update rest ih =>
    have wrote : jobs.step ⟨store, .update⟩ = { jobs with queue := rest }.write update := by
      simp [step, queued]
    obtain ⟨hwritten, hqueue, htasks⟩ := ih ({ jobs with queue := rest }.write update).2 rfl
    simp only [List.length_cons, List.replicate_succ, written, wrote, run, List.foldl_cons]
    exact ⟨congrArg (update :: ·) hwritten, hqueue, htasks⟩

/-- The statuses that a preview lists are those of a job alone, from its request until it is done. -/
theorem exists_alone (store : Store) (preview : Preview) (job : String) :
    ∃ events, (∀ event ∈ events, event.Steady job preview store) ∧
      history job events = .pending :: (preview.statuses store).1 ∧
      ∃ outcome, (reached events).Done job outcome := by
  let request : Event := ⟨store, .request job preview⟩
  have asked : initial.step request = (initial.setTask job { preview }).write ⟨job, .pending⟩ := rfl
  obtain ⟨outcome, goes⟩ := Goes.whole store preview
  have opened : (initial.step request).2.tasks job = some { preview } := by simp [asked, write, setTask]
  obtain ⟨moves, steady, silent, found, queue⟩ := goes.events preview opened
  let worked := (initial.step request).2.run moves
  let updates : List Event := .replicate worked.queue.length ⟨store, .update⟩
  obtain ⟨hwritten, hqueue, htasks⟩ := drained store worked
  have hreached : reached (request :: (moves ++ updates)) = worked.run updates := by
    simp [reached, run, worked]
  refine ⟨request :: (moves ++ updates), ?_, ?_, outcome,
    ⟨preview, .concluded outcome, [], .gone⟩, ?_, rfl, rfl, ?_⟩
  · intro event hevent
    rcases List.mem_cons.1 hevent with rfl | hevent
    · exact ⟨fun asked h => by cases h; rfl, fun act h => by cases h⟩
    · rcases List.mem_append.1 hevent with hevent | hevent
      · exact steady event hevent
      · rw [List.eq_of_mem_replicate hevent]
        exact ⟨by simp, by simp⟩
  · have hqueued : worked.queue = (preview.statuses store).1.map (JobUpdate.mk job) := queue
    have hall : initial.written (request :: (moves ++ updates)) = ⟨job, .pending⟩ :: worked.queue := by
      rw [written, written_append, silent, List.nil_append, hwritten]
      rfl
    simp [history, hall, hqueued]
  · rw [hreached, htasks]
    exact found
  · rw [hreached, hqueue]
    simp

end Jobs

end SubjectMerge
