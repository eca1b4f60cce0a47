import SubjectMerge.Proofs.Registry.Calls
import SubjectMerge.Service

/-! What a request asks of the registry. Most routes are one operation each, and their handlers add nothing to
it but a way to tell its answer: an operation that fails on a message's way is told as if it had not. Every
other request leaves the registry alone. -/

namespace SubjectMerge

open Http (Request Response Route)

/-- Carries out an operation amid whatever else happens to the registry during a lookup. -/
def Registry.carryOut (policy : Policy) (around : Surroundings) (registry : Registry) : Operation → Outcome
  | .eligible id recipient =>
    let eligibility := registry.eligible around id recipient
    ⟨.eligible eligibility.answer, eligibility.registry, eligibility.lookups⟩
  | .start id subject => registry.perform policy ⟨around.store, .start id subject⟩
  | .finalize id message => registry.perform policy ⟨around.store, .finalize id message⟩
  | .finish id => registry.perform policy ⟨around.store, .finish id⟩
  | .summary id => registry.perform policy ⟨around.store, .summary id⟩

/-- The operation that a well-formed request asks for. A campaign is started under a fresh id. -/
def Http.Request.operation? (request : Request) (fresh : String) : Option Operation :=
  match Route.find? request.method request.target with
  | some .start => (request.content? StartRequest.format).map fun body => .start fresh body.subject
  | some (.eligible id recipient) => some (.eligible id recipient)
  | some (.finalize id) => (request.content? Message.format).map (Operation.finalize id)
  | some (.finish id) => some (.finish id)
  | some (.summary id) => some (.summary id)
  | some (.jobStatus _) | some (.preview _) | none => none

/-- How the answer to an operation is told. -/
inductive Told : Operation → Answer → Response → Prop
  | started {id subject : String} (tokens : List String) :
    Told (.start id subject) (.started (.ok tokens)) (.ok StartResponse.format ⟨id, tokens⟩)
  | unstarted {id subject : String} (e : CampaignError) :
    Told (.start id subject) (.started (.error e)) ⟨503, .plain e.message⟩
  | eligible {id recipient : String} (eligible : Bool) :
    Told (.eligible id recipient) (.eligible (.ok eligible)) (.ok EligibilityResponse.format ⟨eligible⟩)
  /-- A recipient of an unknown campaign is eligible. -/
  | unhindered {id recipient : String} (e : CampaignError) :
    Told (.eligible id recipient) (.eligible (.error e)) (.ok EligibilityResponse.format ⟨true⟩)
  | finalized {id : String} {message : Message} (rewritten : Message) :
    Told (.finalize id message) (.finalized (.ok rewritten)) (.ok Message.format rewritten)
  /-- A message of an unknown campaign comes back as it was. -/
  | unchanged {id : String} {message : Message} (e : CampaignError) :
    Told (.finalize id message) (.finalized (.error e)) (.ok Message.format message)
  | finished {id : String} : Told (.finish id) (.finished (.ok ())) ⟨204, .plain ""⟩
  | unfinished {id : String} (e : CampaignError) :
    Told (.finish id) (.finished (.error e)) (.notFound e.message)
  | shown {id : String} (summary : Summary) :
    Told (.summary id) (.summary (some summary)) (.ok Summary.format summary)
  | unshown {id : String} : Told (.summary id) (.summary none) (.notFound "Campaign ID not found")

namespace Service

/-- The reply is that of an operation of the registry, and the rest of the service stays as it is. -/
structure Carries (service : Service) (around : Surroundings) (operation : Operation) (reply : Reply) :
    Prop where
  told : Told operation (service.registry.carryOut service.policy around operation).answer reply.response
  after : reply.service =
    { service with registry := (service.registry.carryOut service.policy around operation).registry }
  lookups : reply.lookups = (service.registry.carryOut service.policy around operation).lookups

variable (service : Service) (around : Surroundings) (fresh : String) (request : Request)

theorem carries_start {body : StartRequest} (read : request.content? StartRequest.format = some body) :
    service.Carries around (.start fresh body.subject) (service.start around fresh request) := by
  unfold start
  rw [read]
  simp only
  cases h : service.registry.start service.policy around.store fresh body.subject with
  | error e =>
    constructor <;> simp only [Registry.carryOut, Registry.perform, h]
    exact .unstarted e
  | ok started =>
    constructor <;> simp only [Registry.carryOut, Registry.perform, h]
    exact .started started.1

theorem carries_eligible (id recipient : String) :
    service.Carries around (.eligible id recipient) (service.eligible around id recipient) := by
  unfold eligible
  constructor <;> simp only [Registry.carryOut]
  cases (service.registry.eligible around id recipient).answer with
  | error e => exact .unhindered e
  | ok eligible => exact .eligible eligible

theorem carries_finalize {id : String} {message : Message}
    (read : request.content? Message.format = some message) :
    service.Carries around (.finalize id message) (service.finalize id request) := by
  unfold finalize
  rw [read]
  simp only
  cases h : service.registry.finalize id message with
  | error e =>
    constructor <;> simp only [Registry.carryOut, Registry.perform, h]
    exact .unchanged e
  | ok finalized =>
    constructor <;> simp only [Registry.carryOut, Registry.perform, h]
    exact .finalized finalized.1

theorem carries_finish (id : String) : service.Carries around (.finish id) (service.finish id) := by
  unfold finish
  cases h : service.registry.finish id with
  | error e =>
    constructor <;> simp only [Registry.carryOut, Registry.perform, h]
    exact .unfinished e
  | ok registry =>
    constructor <;> simp only [Registry.carryOut, Registry.perform, h]
    exact .finished

theorem carries_summary (id : String) : service.Carries around (.summary id) (service.summary id) := by
  unfold summary
  cases h : service.registry.summary? id with
  | none =>
    constructor <;> simp only [Registry.carryOut, Registry.perform, h]
    exact .unshown
  | some summary =>
    constructor <;> simp only [Registry.carryOut, Registry.perform, h]
    exact .shown summary

variable {request fresh}

/-- A request that asks for an operation is answered by carrying it out. -/
theorem carries_handle {operation : Operation} (asked : request.operation? fresh = some operation) :
    service.Carries around operation (service.handle around fresh request) := by
  unfold Request.operation? at asked
  unfold handle
  cases hroute : Route.find? request.method request.target with
  | none => simp [hroute] at asked
  | some route =>
    rw [hroute] at asked
    cases route with
    | start =>
      obtain ⟨body, read, rfl⟩ := Option.map_eq_some_iff.1 asked
      exact carries_start service around fresh request read
    | jobStatus job => cases asked
    | summary id =>
      cases asked
      exact carries_summary service around id
    | finish id =>
      cases asked
      exact carries_finish service around id
    | eligible id recipient =>
      cases asked
      exact carries_eligible service around id recipient
    | finalize id =>
      obtain ⟨message, read, rfl⟩ := Option.map_eq_some_iff.1 asked
      exact carries_finalize service around request read
    | preview id => cases asked

end Service

end SubjectMerge
