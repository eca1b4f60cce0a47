import SubjectMerge.Proofs.Registry.Effect
import SubjectMerge.Proofs.Service.Hooks

/-! What is kept for a recipient stays until it is used. A table that is parked for a recipient of a running campaign
is touched by nothing that is about another recipient or another campaign, and the recipient's next message is filled
in from it. -/

namespace SubjectMerge

open Http (Request)

/-- Whether an operation may take away what is kept for a recipient of a campaign, or put something in its place. -/
def Operation.Concerns (id recipient : String) : Operation → Prop
  | .start id' _ | .finish id' => id' = id
  | .eligible id' recipient' => id' = id ∧ recipient' = recipient
  | .finalize id' message => id' = id ∧ message.recipientId = recipient
  | .summary _ => False

namespace Registry

/-- The table that is kept for a recipient of a campaign. -/
def parkedFor (registry : Registry) (id recipient : String) : Option Table :=
  (registry.get? id).bind fun campaign => campaign.parked.get? recipient

/-- The campaign runs, fills in messages, and keeps the table for the recipient. -/
def Keeps (registry : Registry) (id recipient : String) (table : Table) : Prop :=
  ∃ campaign, registry.get? id = some campaign ∧ campaign.table.isEmpty = false ∧
    campaign.parked.get? recipient = some table

variable {registry : Registry} {id recipient : String} {table : Table}

theorem parkedFor_park {campaign : Campaign} (running : registry.get? id = some campaign) (recipient : String)
    (bound : Table) (id' recipient' : String) : (registry.park id recipient bound).parkedFor id' recipient' =
      if id' = id ∧ recipient' = recipient then some bound else registry.parkedFor id' recipient' := by
  rw [parkedFor, get?_park, parkedFor]
  by_cases hid : id' = id
  · subst hid
    simp [running, Campaign.get?_parked_park]
  · simp [hid]

theorem keeps_park {campaign : Campaign} (running : registry.get? id = some campaign)
    (tokens : campaign.table.isEmpty = false) (recipient : String) (bound : Table) :
    (registry.park id recipient bound).Keeps id recipient bound :=
  ⟨campaign.park recipient bound, by rw [get?_park, if_pos rfl, running, Option.map_some], tokens,
    by rw [Campaign.get?_parked_park, if_pos rfl]⟩

/-- What is parked elsewhere does not touch the table. -/
theorem Keeps.park (keeps : registry.Keeps id recipient table) {id' recipient' : String}
    (apart : ¬ (id' = id ∧ recipient' = recipient)) (bound : Table) :
    (registry.park id' recipient' bound).Keeps id recipient table := by
  obtain ⟨campaign, running, tokens, parked⟩ := keeps
  by_cases hid : id = id'
  · subst hid
    have hrecipient : recipient ≠ recipient' := fun h => apart ⟨rfl, h.symm⟩
    exact ⟨campaign.park recipient' bound, by rw [get?_park, if_pos rfl, running, Option.map_some], tokens,
      by rw [Campaign.get?_parked_park, if_neg hrecipient, parked]⟩
  · exact ⟨campaign, by rw [get?_park, if_neg hid, running], tokens, parked⟩

/-- A call that is about something else leaves the table where it is. -/
theorem Keeps.perform (keeps : registry.Keeps id recipient table) (policy : Policy) {call : Call}
    (spares : ¬ call.operation.Concerns id recipient) :
    (registry.perform policy call).registry.Keeps id recipient table := by
  obtain ⟨campaign, running, tokens, parked⟩ := keeps
  have effect := effect_perform policy registry id call
  rw [running] at effect
  cases effect with
  | started subject names starts =>
    rw [starts.1] at spares
    exact absurd rfl spares
  | ended finishes =>
    rw [finishes] at spares
    exact absurd rfl spares
  | passed stays passes =>
    generalize hafter : (registry.perform policy call).registry.get? id = after at passes
    cases passes with
    | @some _ d passes =>
      refine ⟨d, hafter, passes.core.table ▸ tokens, ?_⟩
      rw [passes.kept recipient, parked]
      · intro bound binds
        rw [binds.1] at spares
        exact spares ⟨rfl, rfl⟩
      · rintro ⟨text, hfinalize⟩
        rw [hfinalize] at spares
        exact absurd ⟨rfl, rfl⟩ spares

/-- The same amid whatever happens during a lookup, if that leaves the table as well. -/
theorem Keeps.carryOut (keeps : registry.Keeps id recipient table) (policy : Policy) {around : Surroundings}
    (meanwhile : ∀ registry : Registry, registry.Keeps id recipient table →
      (around.meanwhile registry).Keeps id recipient table)
    {operation : Operation} (spares : ¬ operation.Concerns id recipient) :
    (registry.carryOut policy around operation).registry.Keeps id recipient table := by
  cases operation with
  | eligible id' recipient' =>
    simp only [Registry.carryOut, eligible_amid_eq]
    cases registry.get? id' with
    | none => exact keeps
    | some campaign =>
      simp only
      split
      · exact keeps
      · split
        · exact meanwhile registry keeps
        · exact (meanwhile registry keeps).park spares _
  | start | finalize | finish | summary => exact keeps.perform policy spares

end Registry

/-- What happens to the registry meanwhile leaves every table that is kept for the recipient. -/
def Surroundings.Spare (around : Surroundings) (id recipient : String) : Prop :=
  ∀ (registry : Registry) table, registry.Keeps id recipient table →
    (around.meanwhile registry).Keeps id recipient table

namespace Service

/-- Nothing that an event does is about the recipient, and the campaign is neither ended nor started anew. -/
inductive Spares (id recipient : String) : Event → Prop where
  | request {around : Surroundings} {fresh : String} {request : Request}
      (other : ∀ operation, request.operation? fresh = some operation → ¬ operation.Concerns id recipient)
      (meanwhile : around.Spare id recipient) : Spares id recipient (.request around fresh request)
  | work {around : Surroundings} (meanwhile : around.Spare id recipient) : Spares id recipient (.work around)

variable {service : Service} {id recipient : String} {table : Table}

theorem keeps_take (keeps : service.registry.Keeps id recipient table) {event : Event}
    (spares : Spares id recipient event) : (service.take event).registry.Keeps id recipient table := by
  cases spares with
  | @request around fresh request other meanwhile =>
    rw [take]
    cases asked : request.operation? fresh with
    | none =>
      rw [(handle_of_none asked).1]
      exact keeps
    | some operation =>
      rw [(service.carries_handle around asked).after]
      exact keeps.carryOut service.policy (fun registry => meanwhile registry table) (other operation asked)
  | @work around meanwhile =>
    rw [take]
    rcases service.registry_runPreview around with h | h <;> rw [h]
    · exact keeps
    · exact meanwhile _ _ keeps

/-- A table is kept however long it takes until something is about its recipient. -/
theorem keeps_after (keeps : service.registry.Keeps id recipient table) {events : List Event}
    (spares : ∀ event ∈ events, Spares id recipient event) :
    (service.after events).registry.Keeps id recipient table := by
  induction events generalizing service with
  | nil => exact keeps
  | cons event events ih =>
    obtain ⟨first, rest⟩ := List.forall_mem_cons.1 spares
    exact ih (keeps_take keeps first) rest

variable {around : Surroundings} {fresh : String} {request : Request}

/-- What comes back of a message that is to be finalized. -/
theorem response_finalize {message : Message} (asked : request.operation? fresh = some (.finalize id message)) :
    (service.handle around fresh request).response = .ok Message.format
      (((service.registry.get? id).map fun campaign => (campaign.finalize message).1).getD message) := by
  have told := (service.carries_handle around asked).told
  simp only [Registry.carryOut, Registry.perform, Registry.finalize_eq] at told
  generalize (service.handle around fresh request).response = response at told ⊢
  cases running : service.registry.get? id <;>
  · rw [running] at told
    cases told
    rfl

/-- A message is filled in from the table that is kept for its recipient. -/
theorem response_finalize_of_keeps {text : String}
    (asked : request.operation? fresh = some (.finalize id ⟨recipient, text⟩))
    (keeps : service.registry.Keeps id recipient table) :
    (service.handle around fresh request).response = .ok Message.format ⟨recipient, table.fill text⟩ := by
  obtain ⟨campaign, running, tokens, parked⟩ := keeps
  simp [response_finalize asked, running, Campaign.fst_finalize, tokens, Campaign.tableFor, parked]

end Service

end SubjectMerge
