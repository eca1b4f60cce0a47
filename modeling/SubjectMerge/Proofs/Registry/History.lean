import Mathlib.Data.List.Induction
import SubjectMerge.Proofs.Past
import SubjectMerge.Proofs.Registry.Effect
import SubjectMerge.Proofs.Subject.Table

/-! The registry after any sequence of requests, each carried out whole before the next. Which campaigns
run, which recipients have a table parked and what a message becomes can be read off the requests made so
far, without following the registry. -/

namespace SubjectMerge

/-- The latest successful start under the id was of this subject against these names, and the campaign
has not ended since. -/
def Running (policy : Policy) (id subject : String) (names : List String) : List Call → Prop :=
  Since (fun _ call => call.Starts policy id subject names) fun _ call => call.Replaces policy id

/-- After `history` the call finds its campaign running and parks a table. -/
def Parks (policy : Policy) (id recipient : String) (bound : Table) (history : List Call) (call : Call) :
    Prop :=
  ∃ subject names, Running policy id subject names history ∧
    call.Binds id recipient (.ofSubject names subject) bound

/-- The latest eligibility request that parked a table for the recipient parked this one, and since then
neither was the campaign started again or ended nor a message finalized for the recipient. -/
def Awaiting (policy : Policy) (id recipient : String) (bound : Table) : List Call → Prop :=
  Since (Parks policy id recipient bound) fun before call =>
    call.Replaces policy id ∨ call.Finalizes id recipient ∨
      ∃ other, Parks policy id recipient other before call

/-- An eligibility request on a running campaign with tokens. -/
def Asks (policy : Policy) (history : List Call) (call : Call) (recipient : String) : Prop :=
  ∃ id subject names, call.operation = .eligible id recipient ∧
    Running policy id subject names history ∧ (Table.ofSubject names subject).isEmpty = false

/-- What a history of calls says about the registry it leads to and about the next call. -/
structure Accounted (policy : Policy) (history : List Call) : Prop where
  running : ∀ id, (∃ campaign, (Registry.reached policy history).get? id = some campaign) ↔
    ∃ subject names, Running policy id subject names history
  parked : ∀ id campaign recipient bound, (Registry.reached policy history).get? id = some campaign →
    (campaign.parked.get? recipient = some bound ↔ Awaiting policy id recipient bound history)
  finalized : ∀ id subject names recipient text store, Running policy id subject names history →
    ∃ rewritten, ((Registry.reached policy history).perform policy
        ⟨store, .finalize id ⟨recipient, text⟩⟩).answer = .finalized (.ok ⟨recipient, rewritten⟩) ∧
      ((Table.ofSubject names subject).isEmpty → rewritten = text) ∧
      (∀ bound, Awaiting policy id recipient bound history → rewritten = bound.fill text) ∧
      ((∀ bound, ¬ Awaiting policy id recipient bound history) →
        rewritten = (Table.ofSubject names subject).fill text)
  /-- An eligibility request on a running campaign with tokens asks for values once. -/
  asked : ∀ call, (∃ recipient, Asks policy history call recipient) →
    ((Registry.reached policy history).perform policy call).lookups = 1
  /-- No other call does, -/
  unasked : ∀ call, (∀ recipient, ¬ Asks policy history call recipient) →
    ((Registry.reached policy history).perform policy call).lookups = 0
  /-- and what a call comes to depends on no values but those it asks for. -/
  asked_only : ∀ call lookUp, (∀ recipient, Asks policy history call recipient →
      lookUp recipient = call.store.lookUp recipient) →
    (Registry.reached policy history).perform policy { call with store := { call.store with lookUp } } =
      (Registry.reached policy history).perform policy call

/-- What holds between a history and its registry after every call. -/
structure Keeps (policy : Policy) (history : List Call) : Prop where
  found : ∀ id subject names, Running policy id subject names history →
    ∃ c, (Registry.reached policy history).get? id = some c ∧ c.subject = subject ∧
      c.table = .ofSubject names subject
  known : ∀ id c, (Registry.reached policy history).get? id = some c →
    ∃ names, Running policy id c.subject names history
  parked : ∀ id c, (Registry.reached policy history).get? id = some c → ∀ recipient bound,
    c.parked.get? recipient = some bound ↔ Awaiting policy id recipient bound history
  /-- Nothing is parked in a campaign without tokens. -/
  idle : ∀ id c, (Registry.reached policy history).get? id = some c → c.table.isEmpty →
    ∀ recipient, c.parked.get? recipient = none

theorem starts_unique {policy : Policy} {call : Call} {id subject subject' : String}
    {names names' : List String} (h : call.Starts policy id subject names)
    (h' : call.Starts policy id subject' names') : subject = subject' ∧ names = names' := by
  obtain ⟨hop, hdir⟩ := h
  obtain ⟨hop', hdir'⟩ := h'
  rw [hop] at hop'
  rw [hdir] at hdir'
  cases hop'
  cases hdir'
  exact ⟨rfl, rfl⟩

theorem binds_unique {call : Call} {id recipient : String} {table bound bound' : Table}
    (h : call.Binds id recipient table bound) (h' : call.Binds id recipient table bound') :
    bound = bound' := by
  have := h.2.2.symm.trans h'.2.2
  cases this
  rfl

theorem keeps_nil (policy : Policy) : Keeps policy [] where
  found _ _ _ h := absurd h not_since_nil
  known _ _ h := by cases h
  parked _ _ h := by cases h
  idle _ _ h := by cases h

section Step

variable {policy : Policy} {history : List Call} {call : Call}

theorem running_of_stays {id : String} (stays : ¬ call.Replaces policy id) (subject : String)
    (names : List String) :
    Running policy id subject names (history ++ [call]) ↔ Running policy id subject names history := by
  unfold Running
  rw [since_concat]
  constructor
  · rintro (h | h)
    · exact absurd (Or.inl ⟨subject, names, h⟩) stays
    · exact h.1
  · exact fun h => Or.inr ⟨h, stays⟩

theorem Keeps.running_eq (keeps : Keeps policy history) {id subject : String} {names : List String}
    {c : Campaign} (hc : (Registry.reached policy history).get? id = some c)
    (h : Running policy id subject names history) :
    c.subject = subject ∧ c.table = .ofSubject names subject := by
  obtain ⟨d, hd, hsubject, htable⟩ := keeps.found id subject names h
  rw [hc] at hd
  cases hd
  exact ⟨hsubject, htable⟩

/-- Whether a call parks a table is decided by the campaign that runs. -/
theorem Keeps.parks_iff (keeps : Keeps policy history) {id : String} {c : Campaign}
    (hc : (Registry.reached policy history).get? id = some c) (recipient : String) (bound : Table) :
    Parks policy id recipient bound history call ↔ call.Binds id recipient c.table bound := by
  constructor
  · rintro ⟨subject, names, hrun, hbinds⟩
    rwa [(keeps.running_eq hc hrun).2]
  · intro hbinds
    obtain ⟨names, hrun⟩ := keeps.known id c hc
    refine ⟨c.subject, names, hrun, ?_⟩
    rwa [← (keeps.running_eq hc hrun).2]

theorem Keeps.asks_of_get? (keeps : Keeps policy history) {id recipient : String} {c : Campaign}
    (hc : (Registry.reached policy history).get? id = some c) (hempty : c.table.isEmpty = false)
    (hop : call.operation = .eligible id recipient) : Asks policy history call recipient := by
  obtain ⟨names, hrun⟩ := keeps.known id c hc
  refine ⟨id, c.subject, names, hop, hrun, ?_⟩
  rwa [← (keeps.running_eq hc hrun).2]

/-- The parked tables after a call that lets the campaign run on. -/
theorem Keeps.parked_step (keeps : Keeps policy history) {id : String} {c d : Campaign}
    (hc : (Registry.reached policy history).get? id = some c) (stays : ¬ call.Replaces policy id)
    (passes : Passes call id c d) (recipient : String) (bound : Table) :
    d.parked.get? recipient = some bound ↔ Awaiting policy id recipient bound (history ++ [call]) := by
  unfold Awaiting
  rw [since_concat, keeps.parks_iff hc]
  simp only [keeps.parks_iff hc, stays, false_or, not_or]
  by_cases hbinds : ∃ other, call.Binds id recipient c.table other
  · obtain ⟨other, hother⟩ := hbinds
    rw [passes.bound recipient other hother]
    constructor
    · rintro ⟨⟩
      exact Or.inl hother
    · rintro (h | ⟨-, -, h⟩)
      · rw [binds_unique hother h]
      · exact absurd ⟨other, hother⟩ h
  · have hnone : ∀ other, ¬ call.Binds id recipient c.table other := fun other h => hbinds ⟨other, h⟩
    by_cases hfinalizes : call.Finalizes id recipient
    · have hgone : d.parked.get? recipient = none := by
        cases hempty : c.table.isEmpty with
        | true => rw [passes.kept recipient hnone fun _ => hempty, keeps.idle id c hc hempty]
        | false => exact passes.used recipient hfinalizes hempty
      simp [hgone, hnone, hfinalizes]
    · rw [passes.kept recipient hnone fun h => absurd h hfinalizes, keeps.parked id c hc]
      simp [hnone, hfinalizes, Awaiting]

theorem keeps_concat (keeps : Keeps policy history) (call : Call) : Keeps policy (history ++ [call]) := by
  have effect (id : String) := effect_perform policy (Registry.reached policy history) id call
  simp only [← Registry.reached_concat] at effect
  constructor
  case found =>
    intro id subject names hrun
    cases effect id with
    | started subject' names' starts opened =>
      rcases (since_concat history call).1 hrun with h | ⟨-, h⟩
      · obtain ⟨rfl, rfl⟩ := starts_unique starts h
        exact ⟨_, opened, rfl, rfl⟩
      · exact absurd (Or.inl ⟨subject', names', starts⟩) h
    | ended finishes gone =>
      rcases (since_concat history call).1 hrun with h | ⟨-, h⟩
      · rw [h.1] at finishes
        cases finishes
      · exact absurd (Or.inr finishes) h
    | passed stays passes =>
      obtain ⟨c, hc, hsubject, htable⟩ :=
        keeps.found id subject names ((running_of_stays stays subject names).1 hrun)
      rw [hc] at passes
      generalize hd : (Registry.reached policy (history ++ [call])).get? id = after at passes
      cases passes with
      | @some _ d passes =>
        exact ⟨d, rfl, passes.core.subject.trans hsubject, passes.core.table.trans htable⟩
  case known =>
    intro id d hd
    rcases (effect id).of_running hd with ⟨subject, names, starts, rfl⟩ | ⟨stays, c, hc, passes⟩
    · exact ⟨names, (since_concat history call).2 (Or.inl starts)⟩
    · obtain ⟨names, hrun⟩ := keeps.known id c hc
      rw [passes.core.subject]
      exact ⟨names, (running_of_stays stays c.subject names).2 hrun⟩
  case parked =>
    intro id d hd recipient bound
    rcases (effect id).of_running hd with ⟨subject, names, starts, rfl⟩ | ⟨stays, c, hc, passes⟩
    · -- a campaign starts with nothing parked, and its start forgets what was parked before it
      constructor
      · intro h
        cases h
      · intro h
        rcases (since_concat history call).1 h with ⟨_, _, -, hbinds⟩ | ⟨-, hreset⟩
        · have := starts.1.symm.trans hbinds.1
          cases this
        · exact absurd (Or.inl (Or.inl ⟨subject, names, starts⟩)) hreset
    · exact keeps.parked_step hc stays passes recipient bound
  case idle =>
    intro id d hd hempty recipient
    rcases (effect id).of_running hd with ⟨subject, names, starts, rfl⟩ | ⟨stays, c, hc, passes⟩
    · rfl
    · rw [passes.core.table] at hempty
      have hnone : ∀ bound, ¬ call.Binds id recipient c.table bound := fun _ h => by
        simp [h.2.1] at hempty
      rw [passes.kept recipient hnone fun _ => hempty]
      exact keeps.idle id c hc hempty recipient

end Step

theorem keeps_reached (policy : Policy) (history : List Call) : Keeps policy history := by
  induction history using List.reverseRecOn with
  | nil => exact keeps_nil policy
  | append_singleton history call ih => exact keeps_concat ih call

/-- Every history accounts for its registry and for the answers to come. -/
theorem accounted (policy : Policy) (history : List Call) : Accounted policy history := by
  have keeps := keeps_reached policy history
  constructor
  case running =>
    intro id
    constructor
    · rintro ⟨c, hc⟩
      obtain ⟨names, hrun⟩ := keeps.known id c hc
      exact ⟨c.subject, names, hrun⟩
    · rintro ⟨subject, names, hrun⟩
      obtain ⟨c, hc, -⟩ := keeps.found id subject names hrun
      exact ⟨c, hc⟩
  case parked => exact fun id c recipient bound hc => keeps.parked id c hc recipient bound
  case finalized =>
    intro id subject names recipient text store hrun
    obtain ⟨c, hc, -, htable⟩ := keeps.found id subject names hrun
    have hparked := keeps.parked id c hc recipient
    refine ⟨(c.finalize ⟨recipient, text⟩).1.subject, ?_, ?_, ?_, ?_⟩
    · simp only [Registry.perform, Registry.finalize_eq, hc, Campaign.fst_finalize]
      split <;> rfl
    · intro hempty
      rw [← htable] at hempty
      simp [Campaign.fst_finalize, hempty]
    · intro bound hawaiting
      have hget := (hparked bound).2 hawaiting
      have hempty : c.table.isEmpty = false := by
        cases h : c.table.isEmpty with
        | false => rfl
        | true => simp [keeps.idle id c hc h recipient] at hget
      simp [Campaign.fst_finalize, hempty, Campaign.tableFor, hget]
    · intro hnone
      have hget : c.parked.get? recipient = none := by
        cases h : c.parked.get? recipient with
        | none => rfl
        | some bound => exact absurd ((hparked bound).1 h) (hnone bound)
      rw [← htable, Campaign.fst_finalize]
      split
      · next hempty => exact (Table.fill_of_isEmpty hempty text).symm
      · simp [Campaign.tableFor, hget]
  case asked =>
    rintro ⟨store, operation⟩ ⟨recipient, id, subject, names, hop, hrun, hempty⟩
    obtain ⟨c, hc, -, htable⟩ := keeps.found id subject names hrun
    rw [← htable] at hempty
    cases hop
    simp only [Registry.perform, Registry.eligible_eq, hc, hempty]
    cases (store.resolve c.table recipient).bound <;> rfl
  case unasked =>
    rintro ⟨store, operation⟩ hnone
    cases operation with
    | start id subject =>
      simp only [Registry.perform]
      split <;> rfl
    | eligible id recipient =>
      simp only [Registry.perform, Registry.eligible_eq]
      cases hc : (Registry.reached policy history).get? id with
      | none => rfl
      | some c =>
        cases hempty : c.table.isEmpty with
        | true => simp [hempty]
        | false => exact absurd (keeps.asks_of_get? hc hempty rfl) (hnone recipient)
    | finalize id message =>
      simp only [Registry.perform]
      split <;> rfl
    | finish id =>
      simp only [Registry.perform]
      split <;> rfl
    | summary id => rfl
  case asked_only =>
    rintro ⟨store, operation⟩ lookUp hsame
    cases operation with
    | start id subject => rfl
    | eligible id recipient =>
      simp only [Registry.perform, Registry.eligible_eq]
      cases hc : (Registry.reached policy history).get? id with
      | none => rfl
      | some c =>
        cases hempty : c.table.isEmpty with
        | true => simp [hempty]
        | false =>
          have hlook := hsame recipient (keeps.asks_of_get? hc hempty rfl)
          simp only [Store.resolve_eq hempty, hlook]
    | finalize id message => rfl
    | finish id => rfl
    | summary id => rfl

end SubjectMerge
