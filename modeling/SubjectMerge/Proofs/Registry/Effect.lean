import SubjectMerge.Proofs.Registry.Calls

/-! What a call does to the campaign under an id. It does one of three things: it starts it anew, it ends it,
or it lets it run on and changes at most what is parked for one recipient. -/

namespace SubjectMerge

/-- A running campaign before and after a call that does not replace it. -/
structure Passes (call : Call) (id : String) (c d : Campaign) : Prop where
  core : c.SameCore d
  bound : ∀ recipient bound, call.Binds id recipient c.table bound →
    d.parked.get? recipient = some bound
  used : ∀ recipient, call.Finalizes id recipient → c.table.isEmpty = false →
    d.parked.get? recipient = none
  kept : ∀ recipient, (∀ bound, ¬ call.Binds id recipient c.table bound) →
    (call.Finalizes id recipient → c.table.isEmpty) → d.parked.get? recipient = c.parked.get? recipient

theorem passes_refl {call : Call} {id : String} {c : Campaign}
    (hbinds : ∀ recipient bound, ¬ call.Binds id recipient c.table bound)
    (hfinalizes : ∀ recipient, call.Finalizes id recipient → c.table.isEmpty) : Passes call id c c where
  core := Campaign.SameCore.refl c
  bound recipient bound h := absurd h (hbinds recipient bound)
  used recipient h hempty := by simp [hfinalizes recipient h] at hempty
  kept _ _ _ := rfl

theorem passes_park {store : Store} {id recipient : String} {c : Campaign} {bound : Table}
    (hempty : c.table.isEmpty = false) (hbound : (store.resolve c.table recipient).bound = .ok bound) :
    Passes ⟨store, .eligible id recipient⟩ id c (c.park recipient bound) where
  core := c.sameCore_park recipient bound
  bound := by
    rintro _ other ⟨heq, -, hother⟩
    cases heq
    rw [hbound] at hother
    cases hother
    simp [Campaign.get?_parked_park]
  used := by rintro _ ⟨text, h⟩ _; cases h
  kept := by
    intro other hbinds _
    have hne : other ≠ recipient := by
      rintro rfl
      exact hbinds bound ⟨rfl, hempty, hbound⟩
    simp [Campaign.get?_parked_park, hne]

theorem passes_finalize (store : Store) (id : String) (c : Campaign) (message : Message) :
    Passes ⟨store, .finalize id message⟩ id c (c.finalize message).2 where
  core := c.sameCore_finalize message
  bound := by rintro _ _ ⟨h, -⟩; cases h
  used := by
    rintro _ ⟨text, h⟩ hempty
    cases h
    simp [Campaign.get?_parked_finalize, hempty]
  kept := by
    intro other _ hused
    rw [Campaign.get?_parked_finalize]
    split
    · next h =>
      obtain ⟨recipient, text⟩ := message
      obtain ⟨hempty, rfl⟩ := h
      simp [hused ⟨text, rfl⟩] at hempty
    · rfl

/-- Apart from eligibility requests no call parks anything. -/
theorem Passes.parked_of_parked {call : Call} {id : String} {c d : Campaign} (h : Passes call id c d)
    (whole : ∀ recipient, call.operation ≠ .eligible id recipient) {recipient : String} {bound : Table}
    (hd : d.parked.get? recipient = some bound) : c.parked.get? recipient = some bound := by
  have hbinds : ∀ other, ¬ call.Binds id recipient c.table other := fun _ hb => whole recipient hb.1
  rw [← hd]
  refine (h.kept recipient hbinds fun hfinalizes => ?_).symm
  cases hempty : c.table.isEmpty with
  | true => rfl
  | false =>
    rw [h.used recipient hfinalizes hempty] at hd
    cases hd

/-- Everything a call can do to what runs under an id. -/
inductive Effect (policy : Policy) (call : Call) (id : String) (before after : Option Campaign) : Prop where
  | started (subject : String) (names : List String) (starts : call.Starts policy id subject names)
      (opened : after = some (.opened id subject names))
  | ended (finishes : call.operation = .finish id) (gone : after = none)
  | passed (stays : ¬ call.Replaces policy id) (passes : Option.Rel (Passes call id) before after)

/-- Where a campaign that runs after a call comes from. -/
theorem Effect.of_running {policy : Policy} {call : Call} {id : String} {before after : Option Campaign}
    {d : Campaign} (effect : Effect policy call id before after) (hd : after = some d) :
    (∃ subject names, call.Starts policy id subject names ∧ d = .opened id subject names) ∨
      (¬ call.Replaces policy id ∧ ∃ c, before = some c ∧ Passes call id c d) := by
  subst hd
  cases effect with
  | started subject names starts opened => exact Or.inl ⟨subject, names, starts, Option.some.inj opened⟩
  | ended finishes gone => cases gone
  | passed stays passes =>
    cases passes with
    | some passes => exact Or.inr ⟨stays, _, rfl, passes⟩

/-- A call that starts, ends, binds and finalizes nothing under the id leaves what runs there alone. -/
theorem effect_aside {policy : Policy} {call : Call} {id : String} (stays : ¬ call.Replaces policy id)
    (hbinds : ∀ recipient, call.operation ≠ .eligible id recipient)
    (hfinalizes : ∀ message, call.operation ≠ .finalize id message) (slot : Option Campaign) :
    Effect policy call id slot slot := by
  refine .passed stays ?_
  cases slot with
  | none => exact .none
  | some c =>
    refine .some (passes_refl ?_ ?_)
    · intro recipient bound h
      exact hbinds recipient h.1
    · intro recipient h
      obtain ⟨text, hop⟩ := h
      exact absurd hop (hfinalizes ⟨recipient, text⟩)

variable (policy : Policy) (registry : Registry)

/-- A call touches no campaign but the one under its own id. -/
theorem get?_perform_of_ne {call : Call} {id : String} (hne : call.operation.id ≠ id) :
    (registry.perform policy call).registry.get? id = registry.get? id := by
  obtain ⟨store, operation⟩ := call
  have hid : id ≠ operation.id := Ne.symm hne
  cases operation with
  | start other subject =>
    have hother : id ≠ other := hid
    simp only [Registry.perform, Registry.start_eq]
    cases Campaign.directory policy store with
    | error e => rfl
    | ok names => simp [Keyed.get?_insert, hother]
  | eligible other recipient =>
    have hother : id ≠ other := hid
    simp only [Registry.perform, Registry.eligible_eq]
    cases registry.get? other with
    | none => rfl
    | some c =>
      simp only
      split
      · rfl
      · split
        · rfl
        · simp [Registry.get?_park, hother]
  | finalize other message =>
    have hother : id ≠ other := hid
    simp only [Registry.perform, Registry.finalize_eq]
    cases registry.get? other with
    | none => rfl
    | some c => simp [Keyed.get?_insert, hother]
  | finish other =>
    have hother : id ≠ other := hid
    simp only [Registry.perform, Registry.finish_eq]
    cases registry.get? other with
    | none => rfl
    | some c => simp [Keyed.get?_erase, hother]
  | summary other => rfl

variable (store : Store) (id : String)

theorem effect_start (subject : String) :
    Effect policy ⟨store, .start id subject⟩ id (registry.get? id)
      ((registry.perform policy ⟨store, .start id subject⟩).registry.get? id) := by
  simp only [Registry.perform, Registry.start_eq]
  cases hdir : Campaign.directory policy store with
  | error e =>
    have stays : ¬ Call.Replaces policy ⟨store, .start id subject⟩ id := by
      intro h
      rcases h with ⟨subject', names, -, hok⟩ | hop
      · rw [hdir] at hok
        cases hok
      · cases hop
    exact effect_aside stays (by simp) (by simp) _
  | ok names => exact .started subject names ⟨rfl, hdir⟩ (by simp [Keyed.get?_insert])

theorem effect_eligible (recipient : String) :
    Effect policy ⟨store, .eligible id recipient⟩ id (registry.get? id)
      ((registry.perform policy ⟨store, .eligible id recipient⟩).registry.get? id) := by
  refine .passed (by simp [Call.Replaces, Call.Starts]) ?_
  simp only [Registry.perform, Registry.eligible_eq]
  cases hget : registry.get? id with
  | none => simp [hget]
  | some c =>
    -- the two ways to park nothing, and the one to park a table
    have hsame (hnone : ∀ r bound, ¬ Call.Binds ⟨store, .eligible id recipient⟩ id r c.table bound) :
        Passes ⟨store, .eligible id recipient⟩ id c c :=
      passes_refl hnone (by simp [Call.Finalizes])
    cases hempty : c.table.isEmpty with
    | true =>
      have hnone := hsame (by simp [Call.Binds, hempty])
      simpa [hget, hempty] using hnone
    | false =>
      cases hbound : (store.resolve c.table recipient).bound with
      | error words =>
        have hnone := hsame fun r bound h => by
          obtain ⟨heq, -, hok⟩ := h
          cases heq
          rw [hbound] at hok
          cases hok
        simpa [hget, hempty, hbound] using hnone
      | ok bound => simpa [hget, hempty, hbound, Registry.get?_park] using passes_park hempty hbound

theorem effect_finalize (message : Message) :
    Effect policy ⟨store, .finalize id message⟩ id (registry.get? id)
      ((registry.perform policy ⟨store, .finalize id message⟩).registry.get? id) := by
  refine .passed (by simp [Call.Replaces, Call.Starts]) ?_
  simp only [Registry.perform, Registry.finalize_eq]
  cases hget : registry.get? id with
  | none => simp [hget]
  | some c => simpa [Keyed.get?_insert] using passes_finalize store id c message

theorem effect_finish :
    Effect policy ⟨store, .finish id⟩ id (registry.get? id)
      ((registry.perform policy ⟨store, .finish id⟩).registry.get? id) := by
  refine .ended rfl ?_
  simp only [Registry.perform, Registry.finish_eq]
  cases hget : registry.get? id with
  | none => exact hget
  | some c => simp [Keyed.get?_erase]

theorem effect_summary :
    Effect policy ⟨store, .summary id⟩ id (registry.get? id)
      ((registry.perform policy ⟨store, .summary id⟩).registry.get? id) :=
  effect_aside (by simp [Call.Replaces, Call.Starts]) (by simp) (by simp) _

theorem effect_perform (call : Call) :
    Effect policy call id (registry.get? id) ((registry.perform policy call).registry.get? id) := by
  by_cases hid : call.operation.id = id
  · obtain ⟨store, operation⟩ := call
    subst hid
    cases operation with
    | start id subject => exact effect_start policy registry store id subject
    | eligible id recipient => exact effect_eligible policy registry store id recipient
    | finalize id message => exact effect_finalize policy registry store id message
    | finish id => exact effect_finish policy registry store id
    | summary id => exact effect_summary policy registry store id
  · rw [get?_perform_of_ne policy registry hid]
    refine effect_aside ?_ ?_ ?_ _
    · intro h
      rcases h with ⟨subject, names, hop, -⟩ | hop
      · exact hid (by rw [hop]; rfl)
      · exact hid (by rw [hop]; rfl)
    · intro recipient hop
      exact hid (by rw [hop]; rfl)
    · intro message hop
      exact hid (by rw [hop]; rfl)

end SubjectMerge
