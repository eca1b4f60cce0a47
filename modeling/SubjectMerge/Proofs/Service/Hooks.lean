import SubjectMerge.Proofs.Preview.Send
import SubjectMerge.Proofs.Service.Failure

/-! The service is its registry behind a translation. A run of requests takes the registry where the operations
asked for take it, and the two hooks on the way of a message answer well in every state that a run can reach,
whatever the store does and whatever becomes of the campaign during a lookup. -/

namespace SubjectMerge

open Http (Request Response)

namespace Service

/-- The answer to one request, as far as it concerns the campaigns. -/
structure Serves (service : Service) (around : Surroundings) (fresh : String) (request : Request) : Prop where
  /-- It is the answer to the operation asked for, and does to the campaigns what the operation does. -/
  carried : ∀ operation, request.operation? fresh = some operation →
    service.Carries around operation (service.handle around fresh request)
  /-- A request that asks for no operation leaves the campaigns alone. -/
  aside : request.operation? fresh = none →
    (service.handle around fresh request).service.registry = service.registry
  eligible : ∀ id recipient, request.operation? fresh = some (.eligible id recipient) →
    (service.handle around fresh request).response = .ok EligibilityResponse.format ⟨true⟩
  finalize : ∀ id message, request.operation? fresh = some (.finalize id message) → ∃ answered : Message,
    (service.handle around fresh request).response = .ok Message.format answered ∧
    answered.recipientId = message.recipientId ∧
    (∀ rewritten registry, service.registry.finalize id message = .ok (rewritten, registry) →
      answered = rewritten) ∧
    (service.registry.get? id = none → answered = message)
  /-- Only a directory that cannot be read, and that the policy insists on, keeps a campaign from starting. -/
  start : ∀ id subject, request.operation? fresh = some (.start id subject) →
    (∃ tokens, (service.handle around fresh request).response = .ok StartResponse.format ⟨id, tokens⟩) ∧
        ¬ (service.policy = .surface ∧ ∃ e, Store.names around.store = .error e) ∨
      ∃ e, Store.names around.store = .error e ∧ service.policy = .surface ∧
        (service.handle around fresh request).response = ⟨503, .plain (CampaignError.directory e).message⟩

variable {service : Service} {around : Surroundings} {fresh : String} {request : Request}

/-- A request that asks for no operation changes the jobs at most. -/
theorem handle_of_none (h : request.operation? fresh = none) :
    (service.handle around fresh request).service.registry = service.registry ∧
      (service.handle around fresh request).service.policy = service.policy := by
  unfold Request.operation? at h
  unfold handle
  cases route : Http.Route.find? request.method request.target with
  | none => exact ⟨rfl, rfl⟩
  | some asked =>
    rw [route] at h
    cases asked with
    | start =>
      have read : request.content? StartRequest.format = none := by simpa using h
      simp [start, read]
    | jobStatus job =>
      simp only [jobStatus]
      split <;> exact ⟨rfl, rfl⟩
    | summary id => cases h
    | finish id => cases h
    | eligible id recipient => cases h
    | finalize id =>
      have read : request.content? Message.format = none := by simpa using h
      simp [finalize, read]
    | preview id =>
      simp only [preview]
      split <;> exact ⟨rfl, rfl⟩

theorem recipientId_finalize (campaign : Campaign) (message : Message) :
    (campaign.finalize message).1.recipientId = message.recipientId := by
  rw [Campaign.fst_finalize]
  split <;> rfl

/-- No recipient of a running campaign is found ineligible. -/
theorem answer_eligible (registry : Registry) (around : Surroundings) (id recipient : String) :
    (registry.eligible around id recipient).answer = .ok true ∨
      (registry.eligible around id recipient).answer = .error (.notFound id) := by
  rw [Registry.eligible_amid_eq]
  cases registry.get? id with
  | none => exact Or.inr rfl
  | some campaign =>
    refine Or.inl ?_
    simp only
    split
    · rfl
    · split <;> rfl

theorem serves (service : Service) (around : Surroundings) (fresh : String) (request : Request) :
    Serves service around fresh request where
  carried operation asked := service.carries_handle around asked
  aside unasked := (handle_of_none unasked).1
  eligible id recipient asked := by
    have told := (service.carries_handle around asked).told
    simp only [Registry.carryOut] at told
    generalize (service.handle around fresh request).response = response at told ⊢
    rcases answer_eligible service.registry around id recipient with h | h
    · rw [h] at told
      cases told
      rfl
    · rw [h] at told
      cases told
      rfl
  finalize id message asked := by
    have told := (service.carries_handle around asked).told
    simp only [Registry.carryOut, Registry.perform, Registry.finalize_eq] at told
    rw [Registry.finalize_eq]
    generalize (service.handle around fresh request).response = response at told ⊢
    cases hget : service.registry.get? id with
    | none =>
      rw [hget] at told
      cases told
      refine ⟨message, rfl, rfl, ?_, fun _ => rfl⟩
      rintro rewritten registry h
      cases h
    | some campaign =>
      rw [hget] at told
      cases told
      refine ⟨(campaign.finalize message).1, rfl, recipientId_finalize campaign message, ?_, ?_⟩
      · rintro rewritten registry h
        cases h
        rfl
      · rintro absent
        cases absent
  start id subject asked := by
    have told := (service.carries_handle around asked).told
    simp only [Registry.carryOut, Registry.perform, Registry.start_eq] at told
    generalize (service.handle around fresh request).response = response at told ⊢
    cases hdir : Campaign.directory service.policy around.store with
    | error e =>
      obtain ⟨surface, names⟩ := Campaign.directory_eq_error_iff.1 hdir
      rw [hdir] at told
      cases told
      exact Or.inr ⟨e, names, surface, rfl⟩
    | ok names =>
      rw [hdir] at told
      cases told
      exact Or.inl ⟨⟨_, rfl⟩, Campaign.not_surface_of_directory_eq_ok hdir⟩

/-- Where a run of the service takes the registry: each request takes it where its operation does, and during a
preview it may change only by what happens meanwhile. -/
inductive Follows (policy : Policy) : Registry → List Event → Registry → Prop
  | done (registry : Registry) : Follows policy registry [] registry
  | operation {registry last : Registry} {around : Surroundings} {fresh : String} {request : Request}
      {events : List Event} (operation : Operation) (asked : request.operation? fresh = some operation)
      (rest : Follows policy (registry.carryOut policy around operation).registry events last) :
    Follows policy registry (.request around fresh request :: events) last
  | aside {registry last : Registry} {around : Surroundings} {fresh : String} {request : Request}
      {events : List Event} (unasked : request.operation? fresh = none)
      (rest : Follows policy registry events last) :
    Follows policy registry (.request around fresh request :: events) last
  | quiet {registry last : Registry} {around : Surroundings} {events : List Event}
      (rest : Follows policy registry events last) : Follows policy registry (.work around :: events) last
  | meanwhile {registry last : Registry} {around : Surroundings} {events : List Event}
      (rest : Follows policy (around.meanwhile registry) events last) :
    Follows policy registry (.work around :: events) last

theorem policy_take (service : Service) (event : Event) : (service.take event).policy = service.policy := by
  cases event with
  | request around fresh request =>
    cases asked : request.operation? fresh with
    | none => exact (handle_of_none asked).2
    | some operation => rw [take, (service.carries_handle around asked).after]
  | work around =>
    simp only [take, runPreview]
    split <;> rfl

theorem follows_after (service : Service) (events : List Event) :
    Follows service.policy service.registry events (service.after events).registry := by
  induction events generalizing service with
  | nil => exact .done service.registry
  | cons event events ih =>
    have rest : Follows service.policy (service.take event).registry events
        (service.after (event :: events)).registry := policy_take service event ▸ ih (service.take event)
    cases event with
    | request around fresh request =>
      cases asked : request.operation? fresh with
      | none =>
        have same : (service.handle around fresh request).service.registry = service.registry :=
          (handle_of_none asked).1
        exact .aside asked (same ▸ rest)
      | some operation =>
        have moved : (service.take (.request around fresh request)).registry =
            (service.registry.carryOut service.policy around operation).registry :=
          congrArg Service.registry (service.carries_handle around asked).after
        exact .operation operation asked (moved ▸ rest)
    | work around =>
      rcases service.registry_runPreview around with h | h
      · exact .quiet (h ▸ rest)
      · exact .meanwhile (h ▸ rest)

/-- Any run takes the campaigns where the operations asked for take them, and whatever is asked then is answered
as the campaigns have it. -/
theorem follows_and_serves (service : Service) (events : List Event) :
    Follows service.policy service.registry events (service.after events).registry ∧
      ∀ around fresh request, Serves (service.after events) around fresh request :=
  ⟨follows_after service events, serves (service.after events)⟩

example :
    let eligible : Request := { method := "POST", target := "/api/campaigns/c%31/recipients/a%2Fb/eligible" }
    let finalize : Request :=
      { method := "POST", target := "/api/campaigns/c1/finalize", contentType := some "application/json"
        body := "\x7b\"recipient_id\": \"a/b\", \"subject\": \"Hi [NAME]\"\x7d" }
    eligible.operation? "c2" = some (.eligible "c1" "a/b") ∧
      finalize.operation? "c2" = some (.finalize "c1" ⟨"a/b", "Hi [NAME]"⟩) := by
  decide +kernel

end Service

end SubjectMerge
