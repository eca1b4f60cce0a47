import SubjectMerge.Proofs.Registry.Effect

/-! Requests that overlap. An eligibility request holds no lock while it looks its recipient up, so between
its three steps any others may come, of the same campaign and the same recipient too. A schedule is a list of
such steps, each with the store as it answers then. Every other request takes effect in one step: a start
reads the directory before it holds the lock, but the registry plays no part in what it reads. -/

namespace SubjectMerge

/-- An eligibility request, told by its number from others for the same recipient. -/
structure Inquiry where
  number : Nat
  id : String
  recipient : String
  deriving DecidableEq, Repr

/-- What an inquiry under way holds: a copy of its campaign's table, or a table bound from it. -/
inductive Stage where
  | copied (table : Table)
  | bound (table : Table)
  deriving DecidableEq, Repr

def Stage.table : Stage → Table
  | .copied table => table
  | .bound table => table

inductive Step where
  | start (id subject : String)
  | finish (id : String)
  | finalize (id : String) (message : Message)
  | summary (id : String)
  /-- The first step of an inquiry copies the campaign's table, -/
  | snapshot (inquiry : Inquiry)
  /-- the second looks the recipient up, -/
  | lookUp (inquiry : Inquiry)
  /-- and the last parks the bound table. -/
  | park (inquiry : Inquiry)
  deriving DecidableEq, Repr

/-- The operation of a step that is a whole request. -/
def Step.operation? : Step → Option Operation
  | .start id subject => some (.start id subject)
  | .finish id => some (.finish id)
  | .finalize id message => some (.finalize id message)
  | .summary id => some (.summary id)
  | .snapshot _ | .lookUp _ | .park _ => none

theorem Step.operation?_ne_eligible (step : Step) (id recipient : String) :
    step.operation? ≠ some (.eligible id recipient) := by
  cases step <;> simp [operation?]

theorem Step.operation?_eq_start_iff {step : Step} {id subject : String} :
    step.operation? = some (.start id subject) ↔ step = .start id subject := by
  cases step <;> simp [operation?]

theorem Step.operation?_eq_finish_iff {step : Step} {id : String} :
    step.operation? = some (.finish id) ↔ step = .finish id := by
  cases step <;> simp [operation?]

theorem Step.operation?_eq_finalize_iff {step : Step} {id : String} {message : Message} :
    step.operation? = some (.finalize id message) ↔ step = .finalize id message := by
  cases step <;> simp [operation?]

/-- A step, and the store as it answers at that moment. -/
structure Move where
  store : Store
  step : Step

structure System where
  registry : Registry
  underway : Inquiry → Option Stage

namespace System

def initial : System := ⟨.empty, fun _ => none⟩

/-- The inquiry comes to this stage, or to its end. -/
def advance (system : System) (inquiry : Inquiry) (stage : Option Stage) : System :=
  { system with underway := fun other => if other = inquiry then stage else system.underway other }

/-- Carries out a request that takes one step. -/
def perform (policy : Policy) (system : System) (call : Call) : Option Answer × System :=
  let outcome := system.registry.perform policy call
  (some outcome.answer, { system with registry := outcome.registry })

/-- An inquiry of an unknown campaign or of one without tokens is answered at once. -/
def snapshot (system : System) (inquiry : Inquiry) : Option Answer × System :=
  match system.underway inquiry, system.registry.snapshot inquiry.id with
  | some _, _ => (none, system)
  | none, .error e => (some (.eligible (.error e)), system)
  | none, .ok table =>
    if table.isEmpty then (some (.eligible (.ok true)), system)
    else (none, system.advance inquiry (some (.copied table)))

/-- An inquiry whose lookup crashes is answered and parks nothing. -/
def lookUp (system : System) (store : Store) (inquiry : Inquiry) : Option Answer × System :=
  match system.underway inquiry with
  | some (.copied table) =>
    match (store.resolve table inquiry.recipient).bound with
    | .error _ => (some (.eligible (.ok true)), system.advance inquiry none)
    | .ok bound => (none, system.advance inquiry (some (.bound bound)))
  | _ => (none, system)

def park (system : System) (inquiry : Inquiry) : Option Answer × System :=
  match system.underway inquiry with
  | some (.bound bound) =>
    let parked := { system with registry := system.registry.park inquiry.id inquiry.recipient bound }
    (some (.eligible (.ok true)), parked.advance inquiry none)
  | _ => (none, system)

/-- One step of a schedule. A step that an inquiry is not ready for does nothing. -/
def step (policy : Policy) (system : System) (move : Move) : Option Answer × System :=
  match move.step with
  | .start id subject => system.perform policy ⟨move.store, .start id subject⟩
  | .finish id => system.perform policy ⟨move.store, .finish id⟩
  | .finalize id message => system.perform policy ⟨move.store, .finalize id message⟩
  | .summary id => system.perform policy ⟨move.store, .summary id⟩
  | .snapshot inquiry => system.snapshot inquiry
  | .lookUp inquiry => system.lookUp move.store inquiry
  | .park inquiry => system.park inquiry

/-- A step that is a whole request is that request carried out. -/
theorem step_whole (policy : Policy) (system : System) (store : Store) {step : Step} {operation : Operation}
    (hwhole : step.operation? = some operation) :
    system.step policy ⟨store, step⟩ = system.perform policy ⟨store, operation⟩ := by
  cases step <;> cases hwhole <;> rfl

def run (policy : Policy) (system : System) (moves : List Move) : System :=
  moves.foldl (fun system move => (system.step policy move).2) system

def reached (policy : Policy) (moves : List Move) : System := initial.run policy moves

theorem reached_concat (policy : Policy) (moves : List Move) (move : Move) :
    reached policy (moves ++ [move]) = ((reached policy moves).step policy move).2 := by
  simp [reached, run]

variable (policy : Policy) (system : System) (move : Move)

/-- Everything a step can do to an inquiry. -/
inductive Turn (inquiry : Inquiry) (after : Option Stage) : Prop where
  | stands (same : after = system.underway inquiry)
  | opens (table : Table) (step : move.step = .snapshot inquiry) (free : system.underway inquiry = none)
      (found : (system.registry.get? inquiry.id).map Campaign.table = some table)
      (tokens : table.isEmpty = false) (copied : after = some (.copied table))
  | binds (table bound : Table) (step : move.step = .lookUp inquiry)
      (copied : system.underway inquiry = some (.copied table))
      (resolved : (move.store.resolve table inquiry.recipient).bound = .ok bound)
      (holds : after = some (.bound bound))
  | ends (step : move.step = .lookUp inquiry ∨ move.step = .park inquiry) (gone : after = none)

/-- An inquiry of a running campaign with tokens begins with a copy of its table. -/
theorem underway_snapshot {system : System} {inquiry : Inquiry} {table : Table}
    (free : system.underway inquiry = none)
    (found : (system.registry.get? inquiry.id).map Campaign.table = some table)
    (tokens : table.isEmpty = false) :
    (system.snapshot inquiry).2.underway inquiry = some (.copied table) := by
  obtain ⟨c, hc, rfl⟩ := Option.map_eq_some_iff.1 found
  simp [snapshot, free, Registry.snapshot_eq, hc, tokens, advance]

theorem turn_snapshot (store : Store) (acting inquiry : Inquiry) :
    Turn system ⟨store, .snapshot acting⟩ inquiry ((system.snapshot acting).2.underway inquiry) := by
  unfold snapshot
  rw [Registry.snapshot_eq]
  split
  · exact .stands rfl
  · exact .stands rfl
  · next table hfree hfound =>
    split
    · exact .stands rfl
    · next hempty =>
      by_cases h : inquiry = acting
      · subst h
        refine .opens table rfl hfree ?_ (by simpa using hempty) (by simp [advance])
        cases hget : system.registry.get? inquiry.id with
        | none => simp [hget] at hfound
        | some c => simpa [hget] using hfound
      · exact .stands (by simp [advance, h])

theorem turn_lookUp (store : Store) (acting inquiry : Inquiry) :
    Turn system ⟨store, .lookUp acting⟩ inquiry ((system.lookUp store acting).2.underway inquiry) := by
  unfold lookUp
  split
  · next table hcopied =>
    by_cases h : inquiry = acting
    · subst h
      split
      · exact .ends (Or.inl rfl) (by simp [advance])
      · next bound hbound => exact .binds table bound rfl hcopied hbound (by simp [advance])
    · split
      · exact .stands (by simp [advance, h])
      · exact .stands (by simp [advance, h])
  · exact .stands rfl

theorem turn_park (store : Store) (acting inquiry : Inquiry) :
    Turn system ⟨store, .park acting⟩ inquiry ((system.park acting).2.underway inquiry) := by
  unfold park
  split
  · by_cases h : inquiry = acting
    · subst h
      exact .ends (Or.inr rfl) (by simp [advance])
    · exact .stands (by simp [advance, h])
  · exact .stands rfl

theorem turn_step (inquiry : Inquiry) :
    Turn system move inquiry ((system.step policy move).2.underway inquiry) := by
  obtain ⟨store, step⟩ := move
  cases step with
  | start id subject => exact .stands rfl
  | finish id => exact .stands rfl
  | finalize id message => exact .stands rfl
  | summary id => exact .stands rfl
  | snapshot acting => exact turn_snapshot system store acting inquiry
  | lookUp acting => exact turn_lookUp system store acting inquiry
  | park acting => exact turn_park system store acting inquiry

/-- Everything a step can do to the registry: carry out a request other than an inquiry, park a table, or
leave the registry alone. -/
inductive Change (after : Registry) : Prop where
  | called (operation : Operation) (whole : move.step.operation? = some operation)
      (performed : after = (system.registry.perform policy ⟨move.store, operation⟩).registry)
  | parked (inquiry : Inquiry) (bound : Table) (step : move.step = .park inquiry)
      (held : system.underway inquiry = some (.bound bound))
      (park : after = system.registry.park inquiry.id inquiry.recipient bound)
  | same (inquiries : move.step.operation? = none) (unchanged : after = system.registry)

theorem change_step : Change policy system move (system.step policy move).2.registry := by
  obtain ⟨store, step⟩ := move
  cases step with
  | start id subject => exact .called (.start id subject) rfl rfl
  | finish id => exact .called (.finish id) rfl rfl
  | finalize id message => exact .called (.finalize id message) rfl rfl
  | summary id => exact .called (.summary id) rfl rfl
  | snapshot acting =>
    refine .same rfl ?_
    simp only [System.step, snapshot]
    split
    · rfl
    · rfl
    · split <;> rfl
  | lookUp acting =>
    refine .same rfl ?_
    simp only [System.step, lookUp]
    split
    · split <;> rfl
    · rfl
  | park acting =>
    simp only [System.step, park]
    split
    · next bound hheld => exact .parked acting bound rfl hheld rfl
    · exact .same rfl rfl

/-- Everything a step can do to what is captured of the campaign under an id. -/
inductive Succession (id : String) (before after : Option Summary) : Prop where
  | opened (subject : String) (names : List String) (step : move.step = .start id subject)
      (listed : Campaign.directory policy move.store = .ok names)
      (captured : after = some ⟨id, subject, .ofSubject names subject⟩)
  | ended (step : move.step = .finish id) (gone : after = none)
  | stays (quiet : ∀ subject names, move.step = .start id subject →
      Campaign.directory policy move.store ≠ .ok names) (unfinished : move.step ≠ .finish id)
      (same : after = before)

/-- A campaign keeps what it captured at its start until it is started again or ends. -/
theorem succession_step (id : String) :
    Succession policy move id (system.registry.summary? id)
      ((system.step policy move).2.registry.summary? id) := by
  cases system.change_step policy move with
  | called operation whole performed =>
    rw [performed, Registry.summary?, Registry.summary?]
    cases effect_perform policy system.registry id ⟨move.store, operation⟩ with
    | started subject names starts opened =>
      obtain ⟨hop, listed⟩ := starts
      have hstep := Step.operation?_eq_start_iff.1 (whole.trans (congrArg some hop))
      exact .opened subject names hstep listed (by rw [opened]; rfl)
    | ended finishes gone =>
      have hstep := Step.operation?_eq_finish_iff.1 (whole.trans (congrArg some finishes))
      exact .ended hstep (by rw [gone]; rfl)
    | passed stays passes =>
      have hop {other : Operation} (h : move.step.operation? = some other) : operation = other :=
        Option.some.inj (whole.symm.trans h)
      refine .stays ?_ ?_ ?_
      · intro subject names hstep listed
        exact stays (Or.inl ⟨subject, names, hop (Step.operation?_eq_start_iff.2 hstep), listed⟩)
      · intro hstep
        exact stays (Or.inr (hop (Step.operation?_eq_finish_iff.2 hstep)))
      · generalize system.registry.get? id = before at passes ⊢
        generalize (system.registry.perform policy _).registry.get? id = after at passes ⊢
        cases passes with
        | none => rfl
        | some passes =>
          simp [Campaign.summary, passes.core.id, passes.core.subject, passes.core.table]
  | parked inquiry bound step held park =>
    refine .stays (by simp [step]) (by simp [step]) ?_
    rw [park, Registry.summary?, Registry.summary?, Registry.get?_park]
    split
    · next hid =>
      subst hid
      rw [Option.map_map]
      rfl
    · rfl
  | same inquiries unchanged =>
    rw [unchanged]
    refine .stays ?_ ?_ rfl
    · rintro subject names hstep
      simp [hstep, Step.operation?] at inquiries
    · rintro hstep
      simp [hstep, Step.operation?] at inquiries

/-- The step is one of this inquiry's own. -/
def Belongs (inquiry : Inquiry) (step : Step) : Prop :=
  step = .snapshot inquiry ∨ step = .lookUp inquiry ∨ step = .park inquiry

variable {policy system move}

/-- An inquiry under way is where it was after any steps but its own. -/
theorem underway_run {inquiry : Inquiry} {moves : List Move}
    (aside : ∀ move ∈ moves, ¬ Belongs inquiry move.step) :
    (system.run policy moves).underway inquiry = system.underway inquiry := by
  induction moves generalizing system with
  | nil => rfl
  | cons move moves ih =>
    have hmove : ¬ Belongs inquiry move.step := aside move List.mem_cons_self
    have hrest : ∀ move ∈ moves, ¬ Belongs inquiry move.step :=
      fun other hother => aside other (List.mem_cons_of_mem move hother)
    have hstands : (system.step policy move).2.underway inquiry = system.underway inquiry := by
      cases turn_step policy system move inquiry with
      | stands same => exact same
      | opens table step free found tokens copied => exact absurd (Or.inl step) hmove
      | binds table bound step copied resolved holds => exact absurd (Or.inr (Or.inl step)) hmove
      | ends step gone => exact absurd (Or.inr step) hmove
    exact (ih hrest).trans hstands

/-- An eligibility request is its three steps, and what happens meanwhile is all the steps that come between
the first two. -/
theorem eligible_eq_steps {inquiry : Inquiry} {c : Campaign} (free : system.underway inquiry = none)
    (found : system.registry.get? inquiry.id = some c) (tokens : c.table.isEmpty = false) (store : Store)
    {moves : List Move} (aside : ∀ move ∈ moves, ¬ Belongs inquiry move.step) :
    let opened := (system.snapshot inquiry).2
    let looked := (opened.run policy moves).lookUp store inquiry
    let parked := looked.2.park inquiry
    let eligibility := system.registry.eligible ⟨store, fun _ => (opened.run policy moves).registry⟩
      inquiry.id inquiry.recipient
    looked.1.or parked.1 = some (.eligible eligibility.answer) ∧
      parked.2.registry = eligibility.registry := by
  intro opened looked parked eligibility
  have hcopied : (opened.run policy moves).underway inquiry = some (.copied c.table) := by
    rw [underway_run aside]
    exact underway_snapshot free (by rw [found]; rfl) tokens
  have heligible : eligibility = match (store.resolve c.table inquiry.recipient).bound with
      | .error _ => ⟨.ok true, (opened.run policy moves).registry, 1⟩
      | .ok bound =>
        ⟨.ok true, (opened.run policy moves).registry.park inquiry.id inquiry.recipient bound, 1⟩ := by
    simp only [eligibility, Registry.eligible, Registry.snapshot_eq, found, tokens,
      Store.lookups_resolve tokens]
    rfl
  rw [heligible]
  cases hbound : (store.resolve c.table inquiry.recipient).bound with
  | error words => simp [parked, looked, lookUp, hcopied, hbound, park, advance]
  | ok bound => simp [parked, looked, lookUp, hcopied, hbound, park, advance]

end System

end SubjectMerge
