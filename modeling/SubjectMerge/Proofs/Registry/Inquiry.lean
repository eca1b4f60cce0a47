import Mathlib.Data.List.Induction
import SubjectMerge.Proofs.Past
import SubjectMerge.Proofs.Registry.Effect
import SubjectMerge.Proofs.Registry.Schedule
import SubjectMerge.Proofs.Subject.Table

/-! What an inquiry holds while it is under way. It copied its campaign's table at its first step, and keeps
the placeholders it copied to its last, whatever has become of the campaign. -/

namespace SubjectMerge

/-- A stage never changes the placeholders that an inquiry copied. -/
theorem shape_of_turn {system : System} {move : Move} {inquiry : Inquiry} {stage stage' : Stage}
    (turn : System.Turn system move inquiry (some stage')) (h : system.underway inquiry = some stage) :
    stage'.table.shape = stage.table.shape := by
  cases turn with
  | stands same =>
    rw [h] at same
    cases same
    rfl
  | opens table step free found tokens copied =>
    rw [h] at free
    cases free
  | binds table bound step copied resolved holds =>
    rw [h] at copied
    cases copied
    cases holds
    exact Store.shape_of_bound resolved
  | ends step gone => cases gone

variable (policy : Policy) (inquiry : Inquiry)

/-- The table of the campaign under an id, if one runs. -/
def tableAt (id : String) (moves : List Move) : Option Table :=
  ((System.reached policy moves).registry.get? id).map Campaign.table

/-- The inquiry begins with this step and copies this table. -/
def Copies (table : Table) (before : List Move) (move : Move) : Prop :=
  move.step = .snapshot inquiry ∧ (System.reached policy before).underway inquiry = none ∧
    tableAt policy inquiry.id before = some table ∧ table.isEmpty = false

/-- After this step the inquiry is not under way. -/
def Ends (before : List Move) (move : Move) : Prop :=
  (System.reached policy (before ++ [move])).underway inquiry = none

/-- The inquiry is under way, and this is the table it copied. -/
def Holds (table : Table) : List Move → Prop := Since (Copies policy inquiry table) (Ends policy inquiry)

/-- The step starts a campaign under the id. -/
def Restarts (id : String) (move : Move) : Prop :=
  ∃ subject names, move.step = .start id subject ∧ Campaign.directory policy move.store = .ok names

/-- The inquiry is under way, this is the table it copied, and since then its campaign was not started
again. -/
def HoldsCurrent (table : Table) : List Move → Prop :=
  Since (Copies policy inquiry table) fun before move =>
    Ends policy inquiry before move ∨ Restarts policy inquiry.id move

variable {policy inquiry}

/-- What an inquiry under way holds has the placeholders it copied. -/
theorem stage_of_holds {table : Table} {moves : List Move} (h : Holds policy inquiry table moves) :
    ∃ stage, (System.reached policy moves).underway inquiry = some stage ∧
      stage.table.shape = table.shape := by
  induction moves using List.reverseRecOn with
  | nil => exact absurd h not_since_nil
  | append_singleton moves move ih =>
    rcases (since_concat moves move).1 h with ⟨hstep, hfree, hfound, htokens⟩ | ⟨hbefore, hends⟩
    · obtain ⟨store, step⟩ := move
      cases hstep
      refine ⟨.copied table, ?_, rfl⟩
      rw [System.reached_concat]
      exact System.underway_snapshot hfree hfound htokens
    · obtain ⟨stage, hstage, hshape⟩ := ih hbefore
      cases hafter : (System.reached policy (moves ++ [move])).underway inquiry with
      | none => exact absurd hafter hends
      | some stage' =>
        have turn := System.turn_step policy (System.reached policy moves) move inquiry
        rw [← System.reached_concat, hafter] at turn
        exact ⟨stage', rfl, (shape_of_turn turn hstage).trans hshape⟩

/-- Every inquiry under way copied some table. -/
theorem exists_holds {moves : List Move} {stage : Stage}
    (h : (System.reached policy moves).underway inquiry = some stage) :
    ∃ table, Holds policy inquiry table moves := by
  induction moves using List.reverseRecOn generalizing stage with
  | nil => cases h
  | append_singleton moves move ih =>
    have hends : ¬ Ends policy inquiry moves move := fun hnone => by
      rw [Ends, h] at hnone
      cases hnone
    have remembered {before : Stage}
        (hbefore : (System.reached policy moves).underway inquiry = some before) :
        ∃ table, Holds policy inquiry table (moves ++ [move]) := by
      obtain ⟨table, htable⟩ := ih hbefore
      exact ⟨table, (since_concat moves move).2 (Or.inr ⟨htable, hends⟩)⟩
    have turn := System.turn_step policy (System.reached policy moves) move inquiry
    rw [← System.reached_concat, h] at turn
    cases turn with
    | stands same => exact remembered same.symm
    | opens table step free found tokens copied =>
      exact ⟨table, (since_concat moves move).2 (Or.inl ⟨step, free, found, tokens⟩)⟩
    | binds table bound step copied resolved holds => exact remembered copied
    | ends step gone => cases gone

/-- A step that starts no campaign under an id leaves the table there as it is, or ends the campaign. -/
theorem tableAt_concat (moves : List Move) {id : String} {move : Move} (h : ¬ Restarts policy id move) :
    tableAt policy id (moves ++ [move]) = none ∨
      tableAt policy id (moves ++ [move]) = tableAt policy id moves := by
  have htable (moves : List Move) : tableAt policy id moves =
      ((System.reached policy moves).registry.summary? id).map Summary.table := by
    rw [tableAt, Registry.summary?, Option.map_map]
    rfl
  rw [htable, htable, System.reached_concat]
  cases System.succession_step policy (System.reached policy moves) move id with
  | opened subject names step listed captured => exact absurd ⟨subject, names, step, listed⟩ h
  | ended step gone => exact Or.inl (by rw [gone]; rfl)
  | stays quiet unfinished same => exact Or.inr (by rw [same])

theorem tableAt_of_holdsCurrent {moves : List Move} {copied current : Table}
    (h : HoldsCurrent policy inquiry copied moves)
    (hcurrent : tableAt policy inquiry.id moves = some current) : current = copied := by
  induction moves using List.reverseRecOn with
  | nil => exact absurd h not_since_nil
  | append_singleton moves move ih =>
    rcases (since_concat moves move).1 h with ⟨hstep, -, hfound, -⟩ | ⟨hbefore, hreset⟩
    · have hquiet : ¬ Restarts policy inquiry.id move := by
        rintro ⟨subject, names, hstart, -⟩
        rw [hstep] at hstart
        cases hstart
      rcases tableAt_concat moves hquiet with hnone | hsame
      · rw [hnone] at hcurrent
        cases hcurrent
      · rw [hsame, hfound] at hcurrent
        cases hcurrent
        rfl
    · rcases tableAt_concat moves fun hr => hreset (Or.inr hr) with hnone | hsame
      · rw [hnone] at hcurrent
        cases hcurrent
      · rw [hsame] at hcurrent
        exact ih hbefore hcurrent

end SubjectMerge
