import Mathlib.Data.List.Induction
import SubjectMerge.Proofs.Past
import SubjectMerge.Proofs.Registry.Schedule
import SubjectMerge.Proofs.Subject.Table

/-! What the running campaigns are, whatever overlaps. The starts and ends of a schedule tell which ids run,
and the latest start under an id tells its campaign's subject and table. An inquiry that parks late brings no
campaign back, and no recipient's value gets into a campaign's own table or its summary. -/

namespace SubjectMerge

/-- A start under the policy goes by these names: the directory's, or none at all if the directory cannot be
read and the policy lets that pass. -/
def Store.Lists (policy : Policy) (store : Store) (names : List String) : Prop :=
  store.names = .ok names ∨ policy = .failOpen ∧ names = [] ∧ ∃ e, store.names = .error e

theorem directory_eq_ok_iff {policy : Policy} {store : Store} {names : List String} :
    Campaign.directory policy store = .ok names ↔ store.Lists policy names := by
  unfold Campaign.directory Store.Lists
  cases store.names with
  | ok listed => simp
  | error e => cases policy <;> simp [eq_comm]

/-- The step starts a campaign of this subject under the id, against these names. -/
def Opens (policy : Policy) (id subject : String) (names : List String) (move : Move) : Prop :=
  move.step = .start id subject ∧ move.store.Lists policy names

/-- The latest successful start under the id was of this subject against these names, and the campaign has
not ended since. -/
def Runs (policy : Policy) (id subject : String) (names : List String) : List Move → Prop :=
  Since (fun _ move => Opens policy id subject names move) fun _ move =>
    (∃ subject names, Opens policy id subject names move) ∨ move.step = .finish id

/-- What a schedule says about the campaigns that run after it, and about their summaries. -/
structure Captured (policy : Policy) (moves : List Move) : Prop where
  registered : ∀ id, (∃ c, (System.reached policy moves).registry.get? id = some c) ↔
    ∃ subject names, Runs policy id subject names moves
  context : ∀ id c subject names, (System.reached policy moves).registry.get? id = some c →
    Runs policy id subject names moves → c.id = id ∧ c.subject = subject ∧
      c.table = .ofSubject names subject
  /-- Its own table binds no value, and has each token once. -/
  bare : ∀ id c, (System.reached policy moves).registry.get? id = some c → c.table.Bare
  shown : ∀ id store summary, ((System.reached policy moves).step policy ⟨store, .summary id⟩).1 =
      some (.summary (some summary)) ↔
    ∃ subject names, Runs policy id subject names moves ∧ summary = ⟨id, subject, .ofSubject names subject⟩
  /-- No summary has a recipient's value in it. -/
  valueless : ∀ id store summary, ((System.reached policy moves).step policy ⟨store, .summary id⟩).1 =
    some (.summary (some summary)) → ∀ entry ∈ summary.table.entries, entry.binding.resolvedValue = none
  unshown : ∀ id store, ((System.reached policy moves).step policy ⟨store, .summary id⟩).1 =
      some (.summary none) ↔ ∀ subject names, ¬ Runs policy id subject names moves

variable {policy : Policy} {moves : List Move}

theorem opens_unique {move : Move} {id subject subject' : String} {names names' : List String}
    (h : Opens policy id subject names move) (h' : Opens policy id subject' names' move) :
    subject = subject' ∧ names = names' := by
  obtain ⟨hstep, hlists⟩ := h
  obtain ⟨hstep', hlists'⟩ := h'
  rw [hstep] at hstep'
  cases hstep'
  have hnames := (directory_eq_ok_iff.2 hlists).symm.trans (directory_eq_ok_iff.2 hlists')
  cases hnames
  exact ⟨rfl, rfl⟩

/-- One more step, and the campaign that runs was started by it or ran before. -/
theorem runs_concat {id subject : String} {names : List String} {move : Move} :
    Runs policy id subject names (moves ++ [move]) ↔ Opens policy id subject names move ∨
      (Runs policy id subject names moves ∧ (∀ subject names, ¬ Opens policy id subject names move) ∧
        move.step ≠ .finish id) := by
  unfold Runs
  rw [since_concat]
  simp only [not_or, not_exists, ne_eq]

/-- What is captured under an id is what the latest start captured there. -/
theorem summary?_reached_iff (policy : Policy) (moves : List Move) (id : String) (summary : Summary) :
    (System.reached policy moves).registry.summary? id = some summary ↔
      ∃ subject names, Runs policy id subject names moves ∧
        summary = ⟨id, subject, .ofSubject names subject⟩ := by
  induction moves using List.reverseRecOn with
  | nil =>
    constructor
    · intro h
      cases h
    · rintro ⟨subject, names, h, -⟩
      exact absurd h not_since_nil
  | append_singleton moves move ih =>
    rw [System.reached_concat]
    cases System.succession_step policy (System.reached policy moves) move id with
    | opened subject names step listed captured =>
      have opens : Opens policy id subject names move := ⟨step, directory_eq_ok_iff.1 listed⟩
      rw [captured]
      constructor
      · rintro ⟨⟩
        exact ⟨subject, names, runs_concat.2 (Or.inl opens), rfl⟩
      · rintro ⟨subject', names', hruns, rfl⟩
        rcases runs_concat.1 hruns with h | ⟨-, h, -⟩
        · obtain ⟨rfl, rfl⟩ := opens_unique opens h
          rfl
        · exact absurd opens (h subject names)
    | ended step gone =>
      rw [gone]
      constructor
      · intro h
        cases h
      · rintro ⟨subject, names, hruns, -⟩
        rcases runs_concat.1 hruns with ⟨hstep, -⟩ | ⟨-, -, h⟩
        · rw [step] at hstep
          cases hstep
        · exact absurd step h
    | stays quiet unfinished same =>
      have unopened (subject : String) (names : List String) : ¬ Opens policy id subject names move :=
        fun opens => quiet subject names opens.1 (directory_eq_ok_iff.2 opens.2)
      rw [same, ih]
      simp [runs_concat, unopened, unfinished]

/-- Every schedule tells what its campaigns captured, and summaries show just that. -/
theorem captured (policy : Policy) (moves : List Move) : Captured policy moves := by
  have summaryOf {id : String} {c : Campaign}
      (hc : (System.reached policy moves).registry.get? id = some c) :
      (System.reached policy moves).registry.summary? id = some c.summary := by
    rw [Registry.summary?, hc]
    rfl
  have reply (id : String) (store : Store) :
      ((System.reached policy moves).step policy ⟨store, .summary id⟩).1 =
        some (.summary ((System.reached policy moves).registry.summary? id)) := rfl
  constructor
  case registered =>
    intro id
    constructor
    · rintro ⟨c, hc⟩
      obtain ⟨subject, names, hruns, -⟩ := (summary?_reached_iff policy moves id _).1 (summaryOf hc)
      exact ⟨subject, names, hruns⟩
    · rintro ⟨subject, names, hruns⟩
      have hsummary := (summary?_reached_iff policy moves id _).2 ⟨subject, names, hruns, rfl⟩
      obtain ⟨c, hc, -⟩ := Option.map_eq_some_iff.1 hsummary
      exact ⟨c, hc⟩
  case context =>
    intro id c subject names hc hruns
    have hsummary := (summary?_reached_iff policy moves id _).2 ⟨subject, names, hruns, rfl⟩
    rw [summaryOf hc] at hsummary
    simpa [Campaign.summary] using hsummary
  case bare =>
    intro id c hc
    obtain ⟨subject, names, -, hsummary⟩ := (summary?_reached_iff policy moves id _).1 (summaryOf hc)
    have htable : c.table = .ofSubject names subject := congrArg Summary.table hsummary
    rw [htable]
    exact Table.bare_ofSubject names subject
  case shown =>
    intro id store summary
    rw [reply, ← summary?_reached_iff]
    simp
  case valueless =>
    intro id store summary hshown
    rw [reply] at hshown
    have hsummary := Answer.summary.inj (Option.some.inj hshown)
    obtain ⟨subject, names, -, rfl⟩ := (summary?_reached_iff policy moves id summary).1 hsummary
    exact (Table.bare_ofSubject names subject).unbound
  case unshown =>
    intro id store
    rw [reply]
    cases hsummary : (System.reached policy moves).registry.summary? id with
    | none =>
      simp only [true_iff]
      intro subject names hruns
      have hsome := (summary?_reached_iff policy moves id _).2 ⟨subject, names, hruns, rfl⟩
      rw [hsummary] at hsome
      cases hsome
    | some summary =>
      obtain ⟨subject, names, hruns, -⟩ := (summary?_reached_iff policy moves id _).1 hsummary
      simp only [Option.some.injEq, Answer.summary.injEq, reduceCtorEq, false_iff, not_forall, not_not]
      exact ⟨subject, names, hruns⟩

end SubjectMerge
