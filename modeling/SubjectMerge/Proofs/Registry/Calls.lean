import SubjectMerge.Proofs.Registry.Operations

/-! Requests of the registry as data, each carried out whole, and what can be said of one from outside. -/

namespace SubjectMerge

inductive Operation where
  | start (id subject : String)
  | eligible (id recipient : String)
  | finalize (id : String) (message : Message)
  | finish (id : String)
  | summary (id : String)
  deriving DecidableEq, Repr

/-- The id of the campaign that an operation is about. -/
def Operation.id : Operation → String
  | .start id _ | .eligible id _ | .finalize id _ | .finish id | .summary id => id

/-- An operation, and the store as it answers while the operation is carried out. -/
structure Call where
  store : Store
  operation : Operation

inductive Answer where
  | started (tokens : Except CampaignError (List String))
  | eligible (answer : Except CampaignError Bool)
  | finalized (message : Except CampaignError Message)
  | finished (done : Except CampaignError Unit)
  | summary (summary : Option Summary)

structure Outcome where
  answer : Answer
  registry : Registry
  /-- How often the store was asked for a recipient's values. -/
  lookups : Nat

namespace Registry

/-- Carries out one call. -/
def perform (policy : Policy) (registry : Registry) (call : Call) : Outcome :=
  match call.operation with
  | .start id subject =>
    match registry.start policy call.store id subject with
    | .error e => ⟨.started (.error e), registry, 0⟩
    | .ok (tokens, registry) => ⟨.started (.ok tokens), registry, 0⟩
  | .eligible id recipient =>
    let eligibility := registry.eligible { store := call.store } id recipient
    ⟨.eligible eligibility.answer, eligibility.registry, eligibility.lookups⟩
  | .finalize id message =>
    match registry.finalize id message with
    | .error e => ⟨.finalized (.error e), registry, 0⟩
    | .ok (message, registry) => ⟨.finalized (.ok message), registry, 0⟩
  | .finish id =>
    match registry.finish id with
    | .error e => ⟨.finished (.error e), registry, 0⟩
    | .ok registry => ⟨.finished (.ok ()), registry, 0⟩
  | .summary id => ⟨.summary (registry.summary? id), registry, 0⟩

/-- The registry that a history of calls leads to. -/
def reached (policy : Policy) (history : List Call) : Registry :=
  history.foldl (fun registry call => (registry.perform policy call).registry) .empty

theorem reached_concat (policy : Policy) (history : List Call) (call : Call) :
    reached policy (history ++ [call]) = ((reached policy history).perform policy call).registry := by
  simp [reached]

end Registry

namespace Call

/-- The call starts a campaign and the directory gives it these names. -/
def Starts (policy : Policy) (call : Call) (id subject : String) (names : List String) : Prop :=
  call.operation = .start id subject ∧ Campaign.directory policy call.store = .ok names

/-- The call puts an end to what ran under the id, if only to start it again. -/
def Replaces (policy : Policy) (call : Call) (id : String) : Prop :=
  (∃ subject names, call.Starts policy id subject names) ∨ call.operation = .finish id

/-- The call finds the recipient eligible and gets as far as a table bound from this one. -/
def Binds (call : Call) (id recipient : String) (table bound : Table) : Prop :=
  call.operation = .eligible id recipient ∧ table.isEmpty = false ∧
    (call.store.resolve table recipient).bound = .ok bound

def Finalizes (call : Call) (id recipient : String) : Prop :=
  ∃ text, call.operation = .finalize id ⟨recipient, text⟩

end Call

end SubjectMerge
