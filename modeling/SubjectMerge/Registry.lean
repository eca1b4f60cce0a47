import SubjectMerge.Campaign

/-! The running campaigns by id, and the requests made of them. An eligibility request takes three
steps, between which other requests may run: it copies the campaign's table, looks the recipient up,
and parks the bound table in whatever campaign then runs under the id. -/

namespace SubjectMerge

abbrev Registry := Keyed Campaign

inductive CampaignError where
  | notFound (id : String)
  | directory (error : StoreError)
  deriving DecidableEq, Repr

def CampaignError.message : CampaignError → String
  | .notFound id => s!"campaign {id} not found"
  | .directory error => s!"could not read the attribute directory: {error.message}"

namespace Registry

def find (registry : Registry) (id : String) : Except CampaignError Campaign :=
  match registry.get? id with
  | some campaign => .ok campaign
  | none => .error (.notFound id)

/-- Starts a campaign, in place of any that runs under the id; the answer lists its tokens. -/
def start (policy : Policy) (store : Store) (registry : Registry) (id subject : String) :
    Except CampaignError (List String × Registry) :=
  match Campaign.start policy store id subject with
  | .error e => .error (.directory e)
  | .ok campaign => .ok (campaign.table.tokens, registry.insert id campaign)

/-- First step of an eligibility request: a copy of the campaign's table. -/
def snapshot (registry : Registry) (id : String) : Except CampaignError Table :=
  (registry.find id).map Campaign.table

/-- Last step of an eligibility request. A campaign that has ended meanwhile stays ended. -/
def park (registry : Registry) (id recipient : String) (bound : Table) : Registry :=
  match registry.get? id with
  | some campaign => registry.insert id (campaign.park recipient bound)
  | none => registry

def finalize (registry : Registry) (id : String) (message : Message) :
    Except CampaignError (Message × Registry) :=
  (registry.find id).map fun campaign =>
    let (message, campaign) := campaign.finalize message
    (message, registry.insert id campaign)

def finish (registry : Registry) (id : String) : Except CampaignError Registry :=
  (registry.find id).map fun _ => registry.erase id

def summary? (registry : Registry) (id : String) : Option Summary :=
  (registry.get? id).map Campaign.summary

/-- The parked recipients of all campaigns together. -/
def parkedCount (registry : Registry) : Nat :=
  registry.entries.foldl (fun n entry => n + entry.2.parked.size) 0

end Registry

/-- What surrounds a request: the store as it answers now, and what else happens to the registry in
the middle of the first lookup. -/
structure Surroundings where
  store : Store
  meanwhile : Registry → Registry := id

/-- What an eligibility request came to. -/
structure Eligibility where
  answer : Except CampaignError Bool
  registry : Registry
  lookups : Nat

/-- A whole eligibility request. Every recipient of a running campaign is eligible; one whose lookup
crashed has nothing parked. -/
def Registry.eligible (around : Surroundings) (registry : Registry) (id recipient : String) :
    Eligibility :=
  match registry.snapshot id with
  | .error e => ⟨.error e, registry, 0⟩
  | .ok table =>
    if table.isEmpty then ⟨.ok true, registry, 0⟩
    else
      let resolution := around.store.resolve table recipient
      let registry := around.meanwhile registry
      match resolution.bound with
      | .error _ => ⟨.ok true, registry, resolution.lookups⟩
      | .ok bound => ⟨.ok true, registry.park id recipient bound, resolution.lookups⟩

end SubjectMerge
