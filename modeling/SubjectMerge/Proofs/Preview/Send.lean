import SubjectMerge.Proofs.Preview.Alone
import SubjectMerge.Proofs.Registry.Operations
import SubjectMerge.Proofs.Subject.Table
import SubjectMerge.Service

/-! A preview foretells the sending. Its rows are what an eligibility request and a finalization would have made
of the campaign's subject, one recipient after the other, when the preview was asked for. The preview goes by a
copy of the campaign, so the campaign may end or be replaced while the job waits or runs. -/

namespace SubjectMerge

/-- What a text would go out as to a recipient that is found eligible first. -/
def Registry.sent (registry : Registry) (store : Store) (id recipient text : String) :
    Except CampaignError Message :=
  ((registry.eligible { store } id recipient).registry.finalize id ⟨recipient, text⟩).map Prod.fst

/-- Unless the lookup crashes, the text goes out filled in from the recipient's own bound table. -/
theorem Registry.sent_eq {registry : Registry} {id : String} {campaign : Campaign}
    (running : registry.get? id = some campaign) {store : Store} {recipient : String} {bound : Table}
    (resolved : (store.resolve campaign.table recipient).bound = .ok bound) (text : String) :
    registry.sent store id recipient text = .ok ⟨recipient, bound.fill text⟩ := by
  rw [sent, eligible_eq, running]
  cases h : campaign.table.isEmpty with
  | true =>
    -- neither request looks at the recipient, and a table without tokens fills in nothing
    have hbound : bound = campaign.table := by simpa [Store.resolve, h] using resolved.symm
    simp [finalize_eq, running, Campaign.fst_finalize, h, hbound, Table.fill_of_isEmpty h, Except.map]
  | false =>
    have parked : (registry.park id recipient bound).get? id = some (campaign.park recipient bound) := by
      simp [get?_park, running]
    have hempty : (campaign.park recipient bound).table.isEmpty = false := h
    have htable : (campaign.park recipient bound).tableFor recipient = bound := by
      simp [Campaign.tableFor, Campaign.get?_parked_park]
    simp [h, resolved, finalize_eq, parked, Campaign.fst_finalize, hempty, htable, Except.map]

/-- A lookup that the preview makes crashes with these last words. -/
def Preview.Crashes (preview : Preview) (store : Store) (words : String) : Prop :=
  preview.table.isEmpty = false ∧
    ∃ ids, store.ids = .ok ids ∧ ∃ recipient ∈ ids, store.lookUp recipient = .crashed words

/-- A job's last status tells what sending would come to. -/
structure Foretells (registry : Registry) (store : Store) (id : String) (campaign : Campaign)
    (status : JobStatus) : Prop where
  completes : (∀ words, ¬ campaign.preview.Crashes store words) →
    ((∃ result, status = .completed result) ↔ ∃ ids, store.ids = .ok ids)
  rows : ∀ result, status = .completed result → ∃ ids rows, store.ids = .ok ids ∧
    result = (Format.list Message.format).encode rows ∧ rows.map Message.recipientId = ids ∧
    rows.map Except.ok = ids.map fun recipient => registry.sent store id recipient campaign.subject
  unlisted : ∀ e, store.ids = .error e → status = .failed s!"Could not list recipients: {e.message}"
  crashed : (∃ words, campaign.preview.Crashes store words) → ∃ words, campaign.preview.Crashes store words ∧
    status = .failed s!"Task join error: task N panicked with message {Text.quoted words}"

variable {registry : Registry} {store : Store} {id : String} {campaign : Campaign}

/-- Each recipient of the listing has a row, and it is what sending would make of the subject. -/
theorem rows_eq_sent (running : registry.get? id = some campaign) {ids : List String} {rows : List Message}
    (each : List.Forall₂ (campaign.preview.Renders store) ids rows) :
    rows.map Message.recipientId = ids ∧
      rows.map Except.ok = ids.map fun recipient => registry.sent store id recipient campaign.subject := by
  induction each with
  | nil => exact ⟨rfl, rfl⟩
  | @cons recipient row ids rows renders _ ih =>
    obtain ⟨bound, resolved, rfl⟩ := renders
    have hsent : registry.sent store id recipient campaign.subject =
        .ok (campaign.preview.row recipient bound) := Registry.sent_eq running resolved campaign.subject
    exact ⟨congrArg (recipient :: ·) ih.1, by rw [List.map_cons, List.map_cons, hsent, ih.2]⟩

/-- Where every row is rendered no lookup crashes. -/
theorem not_crashes_of_renders {ids : List String} {rows : List Message} (listed : store.ids = .ok ids)
    (each : List.Forall₂ (campaign.preview.Renders store) ids rows) (words : String) :
    ¬ campaign.preview.Crashes store words := by
  rintro ⟨hempty, ids', listed', recipient, mem, crash⟩
  obtain rfl := Except.ok.inj (listed.symm.trans listed')
  have failed := Store.resolve_bound_eq_error.2 ⟨hempty, crash⟩
  clear listed listed'
  induction each with
  | nil => cases mem
  | cons renders _ ih =>
    rcases List.mem_cons.1 mem with rfl | mem
    · obtain ⟨bound, resolved, -⟩ := renders
      cases failed.symm.trans resolved
    · exact ih mem

/-- Whatever a preview comes to foretells the sending. -/
theorem foretells_of_comesTo (running : registry.get? id = some campaign) {outcome : PreviewOutcome}
    (h : campaign.preview.ComesTo store outcome) : Foretells registry store id campaign outcome.status := by
  cases h with
  | rows ids messages listed each =>
    have uncrashed := not_crashes_of_renders listed each
    obtain ⟨hids, hsent⟩ := rows_eq_sent running each
    refine ⟨fun _ => ⟨fun _ => ⟨ids, listed⟩, fun _ => ⟨_, rfl⟩⟩, fun result completed => ?_,
      fun e failed => ?_, fun ⟨words, crashes⟩ => absurd crashes (uncrashed words)⟩
    · exact ⟨ids, messages, listed, (JobStatus.completed.inj completed).symm, hids, hsent⟩
    · cases listed.symm.trans failed
  | unlisted e failed =>
    refine ⟨fun _ => ⟨fun ⟨_, completed⟩ => ?_, fun ⟨_, listed⟩ => ?_⟩, fun _ completed => ?_,
      fun e' failed' => ?_, fun ⟨_, _, _, listed, _⟩ => ?_⟩
    · cases completed
    · cases failed.symm.trans listed
    · cases completed
    · obtain rfl := Except.error.inj (failed.symm.trans failed')
      rfl
    · cases failed.symm.trans listed
  | crashed ids recipient words listed mem resolved =>
    obtain ⟨hempty, crash⟩ := Store.resolve_bound_eq_error.1 resolved
    have crashes : campaign.preview.Crashes store words := ⟨hempty, ids, listed, recipient, mem, crash⟩
    refine ⟨fun uncrashed => absurd crashes (uncrashed words), fun _ completed => ?_, fun e failed => ?_,
      fun _ => ⟨words, crashes, rfl⟩⟩
    · cases completed
    · cases listed.symm.trans failed

/-- The last status that a preview lists tells what it comes to. -/
theorem Preview.getLast?_statuses (preview : Preview) (store : Store) :
    ∃ outcome, preview.ComesTo store outcome ∧ (preview.statuses store).1.getLast? = some outcome.status := by
  obtain ⟨events, steady, hhistory, outcome, done⟩ := Jobs.exists_alone store preview ""
  obtain ⟨comesTo, shown⟩ := Jobs.comesTo_of_done steady done
  refine ⟨outcome, comesTo, ?_⟩
  rw [(Jobs.tracked events "").board, hhistory] at shown
  cases hlast : (preview.statuses store).1.getLast? with
  | none =>
    rw [List.getLast?_eq_none_iff.1 hlast] at shown
    have := Jobs.isFinal_status outcome
    rw [← Option.some.inj shown] at this
    cases this
  | some status => rwa [List.getLast?_cons, hlast] at shown

namespace Service

/-- What can happen at the service: a request is answered, or the oldest preview that waits is run. -/
inductive Event where
  | request (around : Surroundings) (fresh : String) (request : Http.Request)
  | work (around : Surroundings)

def Event.isWork : Event → Bool
  | .request _ _ _ => false
  | .work _ => true

def take (service : Service) : Event → Service
  | .request around fresh request => (service.handle around fresh request).service
  | .work around => (service.runPreview around).1

def after (service : Service) (events : List Event) : Service := events.foldl take service

/-- A request may put a preview behind those that wait, and leaves these where they are. -/
theorem waiting_handle (service : Service) (around : Surroundings) (fresh : String) (request : Http.Request) :
    ∃ more, (service.handle around fresh request).service.waiting = service.waiting ++ more := by
  have same {reply : Reply} (h : reply.service.waiting = service.waiting) :
      ∃ more, reply.service.waiting = service.waiting ++ more := ⟨[], by rw [h, List.append_nil]⟩
  unfold handle
  split
  · exact same rfl
  · refine same ?_
    unfold start
    repeat' split
    all_goals rfl
  · refine same ?_
    unfold jobStatus
    split <;> rfl
  · refine same ?_
    unfold summary
    split <;> rfl
  · refine same ?_
    unfold finish
    split <;> rfl
  · exact same rfl
  · refine same ?_
    unfold finalize
    repeat' split
    all_goals rfl
  · unfold preview
    split
    · exact same rfl
    · exact ⟨_, rfl⟩

theorem waiting_runPreview (service : Service) (around : Surroundings) :
    (service.runPreview around).1.waiting = service.waiting.tail := by
  unfold runPreview
  split
  · next h => simp [h]
  · next h => simp [h]

/-- A preview waits until all that were asked for before it have run. -/
theorem waiting_after {service : Service} {earlier later : List (String × Preview)} {asked : String × Preview}
    (waiting : service.waiting = earlier ++ asked :: later) (events : List Event)
    (turns : events.countP Event.isWork ≤ earlier.length) : ∃ more,
      (service.after events).waiting = earlier.drop (events.countP Event.isWork) ++ asked :: more := by
  induction events generalizing service earlier later with
  | nil => exact ⟨later, waiting⟩
  | cons event rest ih =>
    cases event with
    | request around fresh request =>
      obtain ⟨more, handled⟩ := service.waiting_handle around fresh request
      rw [waiting, List.append_assoc, List.cons_append] at handled
      exact ih handled turns
    | work around =>
      rw [List.countP_cons_of_pos rfl] at turns ⊢
      cases earlier with
      | nil => simp at turns
      | cons first earlier =>
        have ran : (service.runPreview around).1.waiting = earlier ++ asked :: later := by
          rw [waiting_runPreview, waiting]
          rfl
        exact ih ran (by simpa using turns)

/-- A preview runs on its own copy: nothing of the registry changes but by what happens meanwhile. -/
theorem registry_runPreview (service : Service) (around : Surroundings) :
    (service.runPreview around).1.registry = service.registry ∨
      (service.runPreview around).1.registry = around.meanwhile service.registry := by
  unfold runPreview
  split
  · exact Or.inl rfl
  · next job preview rest h =>
    by_cases h : (preview.statuses around.store).2 = 0
    · exact Or.inl (if_pos h)
    · exact Or.inr (if_neg h)

/-- The updates of a job are written down one over the other, so that the last one stays. -/
theorem get?_drain (board : JobBoard) (job : String) (statuses : List JobStatus) :
    (board.drain (statuses.map (JobUpdate.mk job))).get? job = statuses.getLast?.or (board.get? job) := by
  induction statuses using List.reverseRecOn with
  | nil => rfl
  | append_singleton statuses status ih =>
    simp [JobBoard.drain, JobBoard.apply, Keyed.get?_insert]

/-- What a preview that is asked for comes to. -/
structure Foretold (service : Service) (fresh id : String) (campaign : Campaign) : Prop where
  /-- Asking for it changes no campaign and nothing that is parked. -/
  asked : (service.preview fresh id).service.registry = service.registry
  /-- Nor does running it, whatever else happens to the registry meanwhile. -/
  aside : ∀ (later : Service) (around : Surroundings), (later.runPreview around).1.registry = later.registry ∨
    (later.runPreview around).1.registry = around.meanwhile later.registry
  /-- Whatever happens until its turn comes, the status it is left with foretells the sending. -/
  ran : ∀ events : List Event, events.countP Event.isWork = service.waiting.length →
    ∀ around : Surroundings, ∃ status,
    (((service.preview fresh id).service.after events).runPreview around).1.board.get? fresh = some status ∧
      Foretells service.registry around.store id campaign status
  /-- So does the status that it is left with by its parties, in whatever order they move. -/
  scheduled : ∀ (store : Store) (job : String) (events : List Jobs.Event),
    (∀ event ∈ events, event.Steady job campaign.preview store) →
    ∀ outcome, (Jobs.reached events).Done job outcome → ∃ status,
      (Jobs.reached events).board.get? job = some status ∧ Foretells service.registry store id campaign status

theorem foretold {service : Service} {id : String} {campaign : Campaign}
    (running : service.registry.get? id = some campaign) (fresh : String) :
    Foretold service fresh id campaign where
  asked := by rw [preview, running]
  aside := registry_runPreview
  ran events turn around := by
    have waiting : (service.preview fresh id).service.waiting =
        service.waiting ++ [(fresh, campaign.preview)] := by
      rw [preview, running]
    obtain ⟨more, hwaiting⟩ := waiting_after waiting events turn.le
    rw [turn, List.drop_length, List.nil_append] at hwaiting
    obtain ⟨outcome, comesTo, hlast⟩ := campaign.preview.getLast?_statuses around.store
    refine ⟨outcome.status, ?_, foretells_of_comesTo running comesTo⟩
    rw [runPreview, hwaiting]
    simp only
    rw [get?_drain, hlast]
    rfl
  scheduled store job events steady outcome done := by
    obtain ⟨comesTo, shown⟩ := Jobs.comesTo_of_done steady done
    exact ⟨outcome.status, shown, foretells_of_comesTo running comesTo⟩

/-- One recipient is known, another's lookup fails, and the campaign ends while the preview runs. -/
theorem foretold_ended :
    let campaign : Campaign := .opened "c1" "Hi [NAME?you]" ["Name"]
    let service : Service := { policy := .failOpen, registry := Keyed.empty.insert "c1" campaign }
    let store : Store := ⟨.ok ["Name"], .ok ["ann", "bob"], fun recipient =>
      if recipient = "ann" then .found (.ofList [("Name", some "Ann")]) else .failed (.unavailable "offline")⟩
    let ended := ((service.preview "j1" "c1").service.runPreview ⟨store, fun registry => registry.erase "c1"⟩).1
    service.registry.get? "c1" = some campaign ∧ Foretold service "j1" "c1" campaign ∧
      ended.registry.get? "c1" = none ∧ ended.board.get? "j1" = some
        (.completed ((Format.list Message.format).encode [⟨"ann", "Hi Ann"⟩, ⟨"bob", "Hi you"⟩])) := by
  intro campaign service store ended
  have running : service.registry.get? "c1" = some campaign := rfl
  exact ⟨running, foretold running "j1", by decide +kernel, by decide +kernel⟩

end Service

end SubjectMerge
