import SubjectMerge.Proofs.Store.Resolution
import SubjectMerge.Registry

/-! What each request of the registry does to the campaigns. A request looks at the campaign under one id
and touches no other; a campaign keeps its subject and its table from its start to its end. -/

namespace SubjectMerge

namespace Campaign

/-- A campaign at its start. -/
def opened (id subject : String) (names : List String) : Campaign :=
  { id, subject, table := .ofSubject names subject, parked := .empty }

theorem start_eq (policy : Policy) (store : Store) (id subject : String) :
    start policy store id subject = (directory policy store).map (opened id subject) := rfl

/-- What never changes while a campaign runs. -/
structure SameCore (c d : Campaign) : Prop where
  id : d.id = c.id
  subject : d.subject = c.subject
  table : d.table = c.table

theorem SameCore.refl (c : Campaign) : SameCore c c := ⟨rfl, rfl, rfl⟩

theorem sameCore_park (c : Campaign) (recipient : String) (bound : Table) :
    SameCore c (c.park recipient bound) := ⟨rfl, rfl, rfl⟩

theorem sameCore_finalize (c : Campaign) (message : Message) : SameCore c (c.finalize message).2 := by
  unfold finalize
  split
  · exact SameCore.refl c
  · exact ⟨rfl, rfl, rfl⟩

theorem get?_parked_park (c : Campaign) (recipient other : String) (bound : Table) :
    (c.park recipient bound).parked.get? other =
      if other = recipient then some bound else c.parked.get? other :=
  Keyed.get?_insert _ _ _ _

theorem get?_parked_finalize (c : Campaign) (message : Message) (other : String) :
    (c.finalize message).2.parked.get? other =
      if c.table.isEmpty = false ∧ other = message.recipientId then none else c.parked.get? other := by
  unfold finalize
  cases h : c.table.isEmpty with
  | true => simp
  | false => simp [Keyed.get?_erase]

/-- The message that finalizing gives: unchanged by an empty table, and otherwise filled in from the
table kept for its recipient. -/
theorem fst_finalize (c : Campaign) (message : Message) :
    (c.finalize message).1 =
      if c.table.isEmpty then message
      else { message with subject := (c.tableFor message.recipientId).fill message.subject } := by
  unfold finalize
  split <;> rfl

end Campaign

namespace Registry

variable (registry : Registry)

theorem find_eq (id : String) :
    registry.find id = match registry.get? id with
      | some campaign => .ok campaign
      | none => .error (.notFound id) := rfl

theorem start_eq (policy : Policy) (store : Store) (id subject : String) :
    registry.start policy store id subject = match Campaign.directory policy store with
      | .error e => .error (.directory e)
      | .ok names => .ok ((Table.ofSubject names subject).tokens,
          registry.insert id (Campaign.opened id subject names)) := by
  rw [start, Campaign.start_eq]
  cases Campaign.directory policy store <;> rfl

theorem snapshot_eq (id : String) :
    registry.snapshot id = match registry.get? id with
      | some campaign => .ok campaign.table
      | none => .error (.notFound id) := by
  rw [snapshot, find_eq]
  cases registry.get? id <;> rfl

theorem finalize_eq (id : String) (message : Message) :
    registry.finalize id message = match registry.get? id with
      | some campaign => .ok ((campaign.finalize message).1,
          registry.insert id (campaign.finalize message).2)
      | none => .error (.notFound id) := by
  rw [finalize, find_eq]
  cases registry.get? id <;> rfl

theorem finish_eq (id : String) :
    registry.finish id = match registry.get? id with
      | some _ => .ok (registry.erase id)
      | none => .error (.notFound id) := by
  rw [finish, find_eq]
  cases registry.get? id <;> rfl

theorem get?_park (id recipient : String) (bound : Table) (other : String) :
    (registry.park id recipient bound).get? other =
      if other = id then (registry.get? id).map fun campaign => campaign.park recipient bound
      else registry.get? other := by
  unfold park
  cases h : registry.get? id with
  | none => split <;> simp_all
  | some campaign => simp [Keyed.get?_insert]

/-- A whole eligibility request. What happens meanwhile counts only where a lookup is made, and comes before
the bound table is parked. -/
theorem eligible_amid_eq (around : Surroundings) (id recipient : String) :
    registry.eligible around id recipient = match registry.get? id with
      | none => ⟨.error (.notFound id), registry, 0⟩
      | some campaign =>
        if campaign.table.isEmpty then ⟨.ok true, registry, 0⟩
        else match (around.store.resolve campaign.table recipient).bound with
          | .error _ => ⟨.ok true, around.meanwhile registry, 1⟩
          | .ok bound => ⟨.ok true, (around.meanwhile registry).park id recipient bound, 1⟩ := by
  rw [eligible, snapshot_eq]
  cases registry.get? id with
  | none => rfl
  | some campaign =>
    cases h : campaign.table.isEmpty with
    | true => simp [h]
    | false =>
      cases bound : (around.store.resolve campaign.table recipient).bound with
      | error words => simp [h, bound, Store.lookups_resolve h]
      | ok table => simp [h, bound, Store.lookups_resolve h]

/-- A whole eligibility request with nothing else going on. -/
theorem eligible_eq (store : Store) (id recipient : String) :
    registry.eligible { store } id recipient = match registry.get? id with
      | none => ⟨.error (.notFound id), registry, 0⟩
      | some campaign =>
        if campaign.table.isEmpty then ⟨.ok true, registry, 0⟩
        else match (store.resolve campaign.table recipient).bound with
          | .error _ => ⟨.ok true, registry, 1⟩
          | .ok bound => ⟨.ok true, registry.park id recipient bound, 1⟩ :=
  registry.eligible_amid_eq { store } id recipient

end Registry

end SubjectMerge
