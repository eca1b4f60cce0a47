import SubjectMerge.Proofs.Registry.Schedule

/-! Registries alike to one recipient. They run the same campaigns and have the same parked for that
recipient; what they have parked for others plays no part in the answers the recipient gets. -/

namespace SubjectMerge

/-- The parts of a campaign that one recipient's messages are made from. -/
def Campaign.seenBy (recipient : String) (c : Campaign) : Summary × Option Table :=
  (c.summary, c.parked.get? recipient)

/-- The registries differ at most in the tables parked for other recipients. -/
def Registry.Alike (recipient : String) (left right : Registry) : Prop :=
  ∀ id, (left.get? id).map (Campaign.seenBy recipient) = (right.get? id).map (Campaign.seenBy recipient)

/-- The stores give the same directory and the same answer about the recipient. -/
structure Store.Agree (recipient : String) (left right : Store) : Prop where
  names : left.names = right.names
  lookUp : left.lookUp recipient = right.lookUp recipient

/-- Whether the answer to a step is any of the recipient's business: only other recipients' messages and
inquiries are not. -/
def Step.concerns (recipient : String) : Step → Bool
  | .start _ _ | .finish _ | .summary _ => true
  | .finalize _ message => message.recipientId == recipient
  | .snapshot inquiry | .lookUp inquiry | .park inquiry => inquiry.recipient == recipient

namespace Campaign

variable {recipient : String} {c d : Campaign}

theorem summary_eq_of_seenBy (h : c.seenBy recipient = d.seenBy recipient) : c.summary = d.summary :=
  congrArg Prod.fst h

theorem table_eq_of_seenBy (h : c.seenBy recipient = d.seenBy recipient) : c.table = d.table :=
  congrArg Summary.table (summary_eq_of_seenBy h)

theorem parked_eq_of_seenBy (h : c.seenBy recipient = d.seenBy recipient) :
    c.parked.get? recipient = d.parked.get? recipient :=
  congrArg Prod.snd h

theorem seenBy_of_sameCore (h : SameCore c d) (hparked : d.parked.get? recipient = c.parked.get? recipient) :
    d.seenBy recipient = c.seenBy recipient := by
  simp [seenBy, summary, h.id, h.subject, h.table, hparked]

theorem seenBy_park_self (h : c.seenBy recipient = d.seenBy recipient) (bound : Table) :
    (c.park recipient bound).seenBy recipient = (d.park recipient bound).seenBy recipient := by
  have hsummary := summary_eq_of_seenBy h
  simp only [summary, Summary.mk.injEq] at hsummary
  simp [seenBy, summary, park, hsummary, Keyed.get?_insert]

theorem seenBy_park_other {other : String} (hne : recipient ≠ other) (bound : Table) :
    (c.park other bound).seenBy recipient = c.seenBy recipient :=
  seenBy_of_sameCore (c.sameCore_park other bound) (by simp [get?_parked_park, hne])

theorem finalize_self (h : c.seenBy recipient = d.seenBy recipient) (subject : String) :
    (c.finalize ⟨recipient, subject⟩).1 = (d.finalize ⟨recipient, subject⟩).1 ∧
      (c.finalize ⟨recipient, subject⟩).2.seenBy recipient =
        (d.finalize ⟨recipient, subject⟩).2.seenBy recipient := by
  have htable := table_eq_of_seenBy h
  have hparked := parked_eq_of_seenBy h
  constructor
  · simp [fst_finalize, tableFor, htable, hparked]
  · have hc := c.sameCore_finalize ⟨recipient, subject⟩
    have hd := d.sameCore_finalize ⟨recipient, subject⟩
    have hsummary := summary_eq_of_seenBy h
    simp only [summary, Summary.mk.injEq] at hsummary
    simp [seenBy, summary, hc.id, hc.subject, hc.table, hd.id, hd.subject, hd.table, hsummary,
      get?_parked_finalize, hparked]

theorem seenBy_finalize_other {message : Message} (hne : recipient ≠ message.recipientId) :
    (c.finalize message).2.seenBy recipient = c.seenBy recipient :=
  seenBy_of_sameCore (c.sameCore_finalize message) (by simp [get?_parked_finalize, hne])

end Campaign

namespace Registry

variable {recipient : String} {left right : Registry}

theorem Alike.refl (registry : Registry) : Alike recipient registry registry := fun _ => rfl

theorem Alike.cases (h : Alike recipient left right) (id : String) :
    (left.get? id = none ∧ right.get? id = none) ∨
      ∃ c d, left.get? id = some c ∧ right.get? id = some d ∧
        c.seenBy recipient = d.seenBy recipient := by
  have hid := h id
  cases hleft : left.get? id with
  | none =>
    rw [hleft] at hid
    exact Or.inl ⟨rfl, Option.map_eq_none_iff.1 hid.symm⟩
  | some c =>
    rw [hleft] at hid
    obtain ⟨d, hd, hseen⟩ := Option.map_eq_some_iff.1 hid.symm
    exact Or.inr ⟨c, d, rfl, hd, hseen.symm⟩

theorem Alike.insert (h : Alike recipient left right) (id : String) {c d : Campaign}
    (hseen : c.seenBy recipient = d.seenBy recipient) :
    Alike recipient (left.insert id c) (right.insert id d) := by
  intro other
  simp only [Keyed.get?_insert]
  split
  · simp [hseen]
  · exact h other

theorem Alike.erase (h : Alike recipient left right) (id : String) :
    Alike recipient (left.erase id) (right.erase id) := by
  intro other
  simp only [Keyed.get?_erase]
  split
  · rfl
  · exact h other

theorem Alike.summary?_eq (h : Alike recipient left right) (id : String) :
    left.summary? id = right.summary? id := by
  unfold summary?
  rcases h.cases id with ⟨hl, hr⟩ | ⟨c, d, hl, hr, hseen⟩
  · rw [hl, hr]
  · rw [hl, hr, Option.map_some, Option.map_some, Campaign.summary_eq_of_seenBy hseen]

theorem Alike.snapshot_eq (h : Alike recipient left right) (id : String) :
    left.snapshot id = right.snapshot id := by
  rw [Registry.snapshot_eq, Registry.snapshot_eq]
  rcases h.cases id with ⟨hl, hr⟩ | ⟨c, d, hl, hr, hseen⟩
  · rw [hl, hr]
  · simp only [hl, hr, Campaign.table_eq_of_seenBy hseen]

theorem Alike.park (h : Alike recipient left right) (id : String) (bound : Table) :
    Alike recipient (left.park id recipient bound) (right.park id recipient bound) := by
  intro other
  simp only [get?_park]
  split
  · rcases h.cases id with ⟨hl, hr⟩ | ⟨c, d, hl, hr, hseen⟩
    · rw [hl, hr]
    · simp [hl, hr, Campaign.seenBy_park_self hseen]
  · exact h other

/-- What is parked for another recipient is not seen. -/
theorem alike_park_other (registry : Registry) (id : String) {other : String} (hne : recipient ≠ other)
    (bound : Table) : Alike recipient (registry.park id other bound) registry := by
  intro name
  simp only [get?_park]
  split
  · next hid =>
    subst hid
    cases registry.get? name with
    | none => rfl
    | some c => simp [Campaign.seenBy_park_other hne]
  · rfl

/-- A request that takes one step is answered alike, unless it finalizes another recipient's message. -/
theorem Alike.perform (h : Alike recipient left right) (policy : Policy) {s t : Store}
    (agree : s.Agree recipient t) {step : Step} {operation : Operation}
    (whole : step.operation? = some operation) :
    (step.concerns recipient → (left.perform policy ⟨s, operation⟩).answer =
        (right.perform policy ⟨t, operation⟩).answer) ∧
      Alike recipient (left.perform policy ⟨s, operation⟩).registry
        (right.perform policy ⟨t, operation⟩).registry := by
  cases step with
  | start id subject =>
    cases whole
    have hdir : Campaign.directory policy s = Campaign.directory policy t := by
      unfold Campaign.directory
      rw [agree.names]
    simp only [Registry.perform, start_eq, hdir]
    cases Campaign.directory policy t with
    | error e => exact ⟨fun _ => rfl, h⟩
    | ok names => exact ⟨fun _ => rfl, h.insert id rfl⟩
  | finish id =>
    cases whole
    simp only [Registry.perform, finish_eq]
    rcases h.cases id with ⟨hl, hr⟩ | ⟨c, d, hl, hr, -⟩
    · rw [hl, hr]
      exact ⟨fun _ => rfl, h⟩
    · rw [hl, hr]
      exact ⟨fun _ => rfl, h.erase id⟩
  | finalize id message =>
    cases whole
    obtain ⟨name, subject⟩ := message
    simp only [Registry.perform, finalize_eq]
    rcases h.cases id with ⟨hl, hr⟩ | ⟨c, d, hl, hr, hseen⟩
    · rw [hl, hr]
      exact ⟨fun _ => rfl, h⟩
    · rw [hl, hr]
      by_cases hname : recipient = name
      · subst hname
        obtain ⟨hmessage, hafter⟩ := Campaign.finalize_self hseen subject
        exact ⟨fun _ => congrArg (fun after => Answer.finalized (.ok after)) hmessage, h.insert id hafter⟩
      · have hne : recipient ≠ (⟨name, subject⟩ : Message).recipientId := hname
        refine ⟨fun hconcerns => ?_, h.insert id ?_⟩
        · simp [Step.concerns, Ne.symm hname] at hconcerns
        · rw [Campaign.seenBy_finalize_other hne, Campaign.seenBy_finalize_other hne, hseen]
  | summary id =>
    cases whole
    exact ⟨fun _ => by simp only [Registry.perform, h.summary?_eq id], h⟩
  | snapshot inquiry => cases whole
  | lookUp inquiry => cases whole
  | park inquiry => cases whole

end Registry

end SubjectMerge
