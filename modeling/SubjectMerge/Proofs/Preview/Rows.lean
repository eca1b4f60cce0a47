import Mathlib.Data.List.Forall2
import SubjectMerge.Proofs.Preview.Course

/-! What a preview comes to while the store stays as it is: a row for each listed recipient in the order of the
listing, whichever workers render them and when, or the reason why there are none. -/

namespace SubjectMerge

namespace Preview

/-- The row of a recipient whose lookup does not crash. -/
def Renders (preview : Preview) (store : Store) (recipient : String) (row : Message) : Prop :=
  ∃ bound, (store.resolve preview.table recipient).bound = .ok bound ∧ row = preview.row recipient bound

/-- What a preview can come to. -/
inductive ComesTo (preview : Preview) (store : Store) : PreviewOutcome → Prop where
  | rows (ids : List String) (messages : List Message) (listed : store.ids = .ok ids)
      (each : List.Forall₂ (preview.Renders store) ids messages) : ComesTo preview store (.rows messages)
  | unlisted (e : StoreError) (failed : store.ids = .error e) : ComesTo preview store (.unlisted e)
  | crashed (ids : List String) (recipient words : String) (listed : store.ids = .ok ids)
      (mem : recipient ∈ ids) (resolved : (store.resolve preview.table recipient).bound = .error words) :
      ComesTo preview store (.crashed words)

end Preview

namespace Jobs

variable {preview : Preview} {store : Store}

/-- The worker has this recipient to render, or has rendered it. -/
def Worker.Serves (preview : Preview) (store : Store) (recipient : String) : Worker → Prop
  | .idle other => other = recipient
  | .rendered row | .counted row _ | .reported row => preview.Renders store recipient row
  | .crashed words => (store.resolve preview.table recipient).bound = .error words

/-- The workers serve the listed recipients in their order, and an outcome is one that the preview can come
to. -/
def Phase.Follows (preview : Preview) (store : Store) : Phase → Prop
  | .opening | .listing => True
  | .rendering _ workers => ∃ ids, store.ids = .ok ids ∧ List.Forall₂ (Worker.Serves preview store) ids workers
  | .returned outcome | .concluded outcome => preview.ComesTo store outcome

/-- A worker goes on for the recipient that it serves. -/
theorem serves_set {ids : List String} {workers : List Worker}
    (h : List.Forall₂ (Worker.Serves preview store) ids workers) {worker : Nat} {before after : Worker}
    (found : workers[worker]? = some before)
    (goesOn : ∀ recipient, before.Serves preview store recipient → after.Serves preview store recipient) :
    List.Forall₂ (Worker.Serves preview store) ids (workers.set worker after) := by
  induction h generalizing worker with
  | nil => simp at found
  | cons serves rest ih =>
    cases worker with
    | zero =>
      obtain rfl := Option.some.inj found
      exact .cons (goesOn _ serves) rest
    | succ worker => exact .cons serves (ih found)

theorem Task.Next.follows {before after : Phase} {reports : List Report}
    (next : Task.Next store preview before reports after) (h : before.Follows preview store) :
    after.Follows preview store := by
  cases next with
  | announces => trivial
  | lists recipients listed =>
    refine ⟨recipients, listed, List.forall₂_map_right_iff.2 (List.forall₂_same.2 fun recipient _ => ?_)⟩
    rfl
  | unlisted e failed => exact .unlisted e failed
  | renders counter workers worker recipient bound found resolved =>
    obtain ⟨ids, listed, serves⟩ := h
    refine ⟨ids, listed, serves_set serves found ?_⟩
    rintro _ rfl
    exact ⟨bound, resolved, rfl⟩
  | crashes counter workers worker recipient words found resolved =>
    obtain ⟨ids, listed, serves⟩ := h
    refine ⟨ids, listed, serves_set serves found ?_⟩
    rintro _ rfl
    exact resolved
  | counts counter workers worker row found =>
    obtain ⟨ids, listed, serves⟩ := h
    exact ⟨ids, listed, serves_set serves found fun _ renders => renders⟩
  | reports counter workers worker row done found =>
    obtain ⟨ids, listed, serves⟩ := h
    exact ⟨ids, listed, serves_set serves found fun _ renders => renders⟩
  | finishes counter workers rows all =>
    obtain ⟨ids, listed, serves⟩ := h
    obtain rfl := mapM_finished?_eq_some.1 all
    have each := List.forall₂_map_right_iff.1 serves
    exact .rows ids rows listed each
  | unwinds counter workers worker words found halted =>
    -- the worker that crashed stands where its recipient does in the listing
    obtain ⟨ids, listed, serves⟩ := h
    obtain ⟨hlt, hcrashed⟩ := List.getElem?_eq_some_iff.1 found
    obtain ⟨hlength, heach⟩ := List.forall₂_iff_get.1 serves
    have resolved := heach worker (hlength ▸ hlt) hlt
    simp only [List.get_eq_getElem, hcrashed] at resolved
    exact .crashed ids _ words listed (List.getElem_mem _) resolved

theorem Task.Deed.follows {task task' : Task} {said : Option JobStatus} (deed : Task.Deed store task said task')
    (h : task.phase.Follows task.preview store) :
    task'.preview = task.preview ∧ task'.phase.Follows task.preview store := by
  cases deed with
  | stands => exact ⟨rfl, h⟩
  | goesOn reports phase next => exact ⟨rfl, next.follows h⟩
  | hears progress progress' report rest status listener first taken => exact ⟨rfl, h⟩
  | ignores progress progress' report rest listener first taken => exact ⟨rfl, h⟩
  | passesOn progress status listener => exact ⟨rfl, h⟩
  | hangsUp progress outcome listener heard phase => exact ⟨rfl, h⟩
  | concludes outcome listener phase =>
    rw [phase] at h
    exact ⟨rfl, h⟩

/-- The job is asked for this preview, and finds the store as it is here. -/
structure Event.Steady (job : String) (preview : Preview) (store : Store) (event : Event) : Prop where
  asked : ∀ asked, event.action = .request job asked → asked = preview
  met : ∀ act, event.action = .work job act → event.store = store

theorem follows {job : String} {events : List Event} (steady : ∀ event ∈ events, event.Steady job preview store)
    {task : Task} (found : (reached events).tasks job = some task) :
    task.preview = preview ∧ task.phase.Follows preview store := by
  induction events using List.reverseRecOn generalizing task with
  | nil => cases found
  | append_singleton events event ih =>
    have earlier : ∀ other ∈ events, other.Steady job preview store :=
      fun other hother => steady other (List.mem_append_left _ hother)
    have here := steady event (by simp)
    have turn := turn_step (reached events) event job
    rw [← reached_concat] at turn
    cases turn with
    | aside same silent queue => exact ih earlier (same.symm.trans found)
    | opens asked action free opened pending queue =>
      obtain rfl := Option.some.inj (opened.symm.trans found)
      exact ⟨here.asked asked action, trivial⟩
    | works act before after said action foundBefore deed foundAfter silent queue =>
      obtain rfl := Option.some.inj (foundAfter.symm.trans found)
      obtain ⟨rfl, hfollows⟩ := ih earlier foundBefore
      rw [here.met act action] at deed
      exact deed.follows hfollows
    | updates status same written queue => exact ih earlier (same.symm.trans found)

/-- A job that is done has come to what its preview can come to, and shows it. -/
theorem comesTo_of_done {job : String} {events : List Event}
    (steady : ∀ event ∈ events, event.Steady job preview store) {outcome : PreviewOutcome}
    (done : (reached events).Done job outcome) :
    preview.ComesTo store outcome ∧ (reached events).board.get? job = some outcome.status := by
  refine ⟨?_, (tracked events job).shown done⟩
  obtain ⟨task, found, concluded, -⟩ := done
  have hfollows := (follows steady found).2
  rwa [concluded] at hfollows

end Jobs

end SubjectMerge
