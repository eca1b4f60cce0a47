import SubjectMerge.Proofs.Results
import SubjectMerge.Store.Database

/-! How `init` goes. It opens what stands at the path, which may make a file, and runs two statements, each of which
finds its table or makes it. The run ends with the first of them that fails, and what it has done by then is left. -/

namespace SubjectMerge

theorem TableName.text_inj {name other : TableName} : name.text = other.text ↔ name = other := by
  cases name <;> cases other <;> simp [text]

theorem Tables.table?_set {tables : Tables} {name other : TableName} {table : DataTable} :
    (tables.set name table).table? other = if other = name then some table else tables.table? other := by
  simp only [table?, set, Keyed.get?_insert, TableName.text_inj]

theorem Tables.has_set {tables : Tables} {name other : TableName} {table : DataTable} :
    (tables.set name table).has other = (decide (other = name) || tables.has other) := by
  rw [has, table?_set, has]
  by_cases same : other = name <;> simp [same]

theorem Tables.hasIndex_set {tables : Tables} {name other : TableName} {table : DataTable} :
    (tables.set name table).hasIndex other = tables.hasIndex other := rfl

namespace FileContent

variable {name : TableName} {names : List TableName} {trouble : TableName → Option FileFault}
  {content after : FileContent}

/-- Whether there is a database with the table. -/
def has (name : TableName) : FileContent → Bool
  | .broken _ => false
  | .database tables _ => tables.has name

/-- A statement finds its table or makes it. -/
inductive Declares (name : TableName) : FileContent → FileContent → Prop where
  | there {tables : Tables} {changeFault : Option FileFault} : tables.has name = true →
      Declares name (.database tables changeFault) (.database tables changeFault)
  | made {tables : Tables} : tables.has name = false → tables.hasIndex name = false →
      Declares name (.database tables) (.database (tables.set name (name.declared [])))

theorem declare_eq_ok_iff : content.declare name = .ok after ↔ content.Declares name after := by
  constructor
  · intro h
    cases content with
    | broken fault => cases h
    | database tables changeFault =>
      cases hhas : tables.has name <;> cases hindex : tables.hasIndex name <;> cases changeFault <;>
        simp [declare, Tables.create, hhas, hindex, bind, Except.bind] at h <;> subst h
      · exact .made hhas hindex
      all_goals exact .there hhas
  · rintro (hhas | ⟨hhas, hindex⟩)
    · simp [declare, hhas]
    · simp [declare, Tables.create, hhas, hindex, bind, Except.bind]

theorem Declares.has_self (h : content.Declares name after) : after.has name = true := by
  cases h with
  | there hhas => exact hhas
  | made => simp [has, Tables.has_set]

theorem Declares.has_of_has {other : TableName} (h : content.Declares name after)
    (hhas : content.has other = true) : after.has other = true := by
  cases h with
  | there => exact hhas
  | made =>
    rw [has, Tables.has_set, Bool.or_eq_true]
    exact .inr hhas

/-- A table that is there is not made again. -/
theorem Declares.eq_of_has (h : content.Declares name after) (hhas : content.has name = true) : after = content := by
  cases h with
  | there => rfl
  | made missing => cases hhas.symm.trans missing

theorem declare_of_has (h : content.has name = true) : content.declare name = .ok content := by
  cases content with
  | broken fault => cases h
  | database tables changeFault => exact declare_eq_ok_iff.2 (.there h)

/-- A statement can come to its end: the table is there, or can be made. -/
def Declarable (name : TableName) : FileContent → Prop
  | .broken _ => False
  | .database tables changeFault => tables.has name = true ∨ changeFault = none ∧ tables.hasIndex name = false

theorem declarable_of_has (h : content.has name = true) : content.Declarable name := by
  cases content with
  | broken fault => cases h
  | database tables changeFault => exact .inl h

theorem Declares.declarable (h : content.Declares name after) : content.Declarable name := by
  cases h with
  | there hhas => exact .inl hhas
  | made _ hindex => exact .inr ⟨rfl, hindex⟩

theorem not_declarable_of_error {fault : QueryFault} (h : content.declare name = .error fault) :
    ¬ content.Declarable name := by
  intro declarable
  cases content with
  | broken fault => exact declarable
  | database tables changeFault =>
    obtain ⟨after, step⟩ : ∃ after, (FileContent.database tables changeFault).Declares name after := by
      cases hhas : tables.has name with
      | true => exact ⟨_, .there hhas⟩
      | false =>
        obtain hhas' | ⟨rfl, hindex⟩ := declarable
        · cases hhas.symm.trans hhas'
        · exact ⟨_, .made hhas hindex⟩
    cases h.symm.trans (declare_eq_ok_iff.2 step)

/-- A statement does not stand in the way of another. -/
theorem Declares.declarable_iff {other : TableName} (h : content.Declares name after) :
    after.Declarable other ↔ content.Declarable other := by
  cases h with
  | there => exact Iff.rfl
  | made hhas hindex =>
    simp only [Declarable, Tables.has_set, Tables.hasIndex_set]
    by_cases same : other = name
    · simp [same, hindex]
    · simp [same]

/-- The ways a run of statements can go. -/
inductive Run (trouble : TableName → Option FileFault) :
    List TableName → FileContent → Except QueryFault Unit × FileContent → Prop where
  | ended (content : FileContent) : Run trouble [] content (.ok (), content)
  /-- The first statement finds something in its way, or fails. -/
  | stopped {name : TableName} {names : List TableName} {content : FileContent} {fault : QueryFault} :
      (trouble name).isSome = true ∨ content.declare name = .error fault →
      Run trouble (name :: names) content (.error fault, content)
  | passed {name : TableName} {names : List TableName} {content next : FileContent}
      {ended : Except QueryFault Unit × FileContent} : content.Declares name next → Run trouble names next ended →
      Run trouble (name :: names) content ended

theorem run (trouble : TableName → Option FileFault) (names : List TableName) (content : FileContent) :
    Run trouble names content (declareAll trouble names content) := by
  induction names generalizing content with
  | nil => exact .ended content
  | cons name names ih =>
    rw [declareAll]
    cases htrouble : trouble name with
    | some fault => exact .stopped (.inl (by rw [htrouble, Option.isSome_some]))
    | none => cases hdeclare : content.declare name with
      | error fault => exact .stopped (.inr hdeclare)
      | ok next => exact .passed (declare_eq_ok_iff.1 hdeclare) (ih next)

namespace Run

variable {ended : Except QueryFault Unit × FileContent}

/-- What each statement keeps the whole run keeps, wherever it ends. -/
theorem keeps (run : Run trouble names content ended) {keeps : FileContent → Prop}
    (step : ∀ name before after, Declares name before after → keeps before → keeps after) (h : keeps content) :
    keeps ended.2 := by
  induction run with
  | ended => exact h
  | stopped => exact h
  | passed next _ ih => exact ih (step _ _ _ next h)

theorem has_of_has (run : Run trouble names content ended) (h : content.has name = true) : ended.2.has name = true :=
  run.keeps (fun _ _ _ step => step.has_of_has) h

/-- One that comes to its end leaves all tables there. -/
theorem has_of_mem (run : Run trouble names content ended) (h : ended.1 = .ok ()) (hname : name ∈ names) :
    ended.2.has name = true := by
  induction run with
  | ended => cases hname
  | stopped => cases h
  | passed step rest ih =>
    rcases List.mem_cons.1 hname with rfl | hname
    · exact rest.has_of_has step.has_self
    · exact ih h hname

/-- Where all tables are there it changes nothing. -/
theorem eq_of_has (run : Run trouble names content ended) (h : ∀ name ∈ names, content.has name = true) :
    ended.2 = content := by
  induction run with
  | ended => rfl
  | stopped => rfl
  | passed step _ ih =>
    obtain rfl := step.eq_of_has (h _ List.mem_cons_self)
    exact ih fun name hname => h name (List.mem_cons_of_mem _ hname)

/-- With nothing in its way it comes to its end if all statements can. -/
theorem ok_iff (run : Run (fun _ => none) names content ended) :
    ended.1 = .ok () ↔ ∀ name ∈ names, content.Declarable name := by
  induction run with
  | ended => simp
  | stopped reason =>
    have hdeclare := reason.resolve_left (by simp)
    simp [not_declarable_of_error hdeclare]
  | passed step _ ih => simp only [ih, List.forall_mem_cons, step.declarable, true_and, step.declarable_iff]

/-- However it was broken off, one that nothing is in the way of does all that it would have done. -/
theorem resumed (run : Run trouble names content ended) :
    declareAll (fun _ => none) names ended.2 = declareAll (fun _ => none) names content := by
  induction run with
  | ended => rfl
  | stopped => rfl
  | passed step rest ih =>
    have there := declare_of_has (rest.has_of_has step.has_self)
    simp only [declareAll, Option.elim, there, declare_eq_ok_iff.2 step, ih]

end Run

end FileContent

namespace Database

variable {db made : Database} {content : FileContent}

/-! What is left at a path is opened there the next time, if there is a file. -/

/-- A path that is no URI names the file at it. -/
theorem target_eq_here (named : ¬ (db.path = "" ∨ db.path = ":memory:"))
    (plain : ¬ "file:".toList.isPrefixOf db.path.toList = true) : db.target = .here := by
  rw [target, if_neg named, if_neg plain]

theorem opened_of_here (here : db.target = .here) : db.opened = db.state := by
  rw [opened, here]

/-- Only a URI leads elsewhere, and it leads where it says. -/
theorem uri_of_target {state : PathState} (h : db.target = .elsewhere state) :
    db.uri = .elsewhere state ∧ ∀ uri, ({ db with uri := uri } : Database).target = uri := by
  unfold target at h ⊢
  split at h
  · cases h
  · next hplain =>
    split at h
    · next hscheme => exact ⟨h, fun uri => by rw [if_neg hplain, if_pos hscheme]⟩
    · cases h

theorem target_leave : (db.leave content).target = match db.target with
    | .elsewhere _ => .elsewhere (.file content)
    | target => target := by
  unfold leave
  cases h : db.target with
  | here => exact h
  | nowhere => exact h
  | elsewhere state => exact (uri_of_target h).2 _

theorem opened_leave (stays : db.target ≠ .nowhere) : (db.leave content).opened = .file content := by
  rw [opened, target_leave]
  cases h : db.target with
  | here => simp only [leave, h]
  | nowhere => exact absurd h stays
  | elsewhere state => rfl

theorem leave_of_nowhere (h : db.target = .nowhere) : db.leave content = db := by
  simp only [leave, h]

theorem leave_leave {after : FileContent} : (db.leave content).leave after = db.leave after := by
  rw [leave, target_leave, leave, leave]
  cases h : db.target <;> simp

/-- What is left as it was opened is no change. -/
theorem leave_of_opened (h : db.opened = .file content) : db.leave content = db := by
  unfold opened at h
  unfold leave
  cases htarget : db.target with
  | here =>
    simp only [htarget] at h
    simp only [← h]
  | nowhere => rfl
  | elsewhere state =>
    simp only [htarget] at h
    simp only [← h, ← (uri_of_target htarget).1]

theorem path_leave : (db.leave content).path = db.path := by
  unfold leave
  cases db.target <;> rfl

/-- What is left and what is not to be opened again stays apart. -/
theorem target_leave_eq_nowhere_iff : (db.leave content).target = .nowhere ↔ db.target = .nowhere := by
  rw [target_leave]
  cases db.target <;> simp

/-- The ways `init` can go. -/
inductive InitRun (db : Database) (trouble : Trouble) : Except StoreError Unit × Database → Prop where
  | unopened {fault : FileFault} : trouble.opening = some fault ∨ db.opened.open db.path = .error fault →
      InitRun db trouble (.error (.query (.file fault)), db)
  | opened {content : FileContent} {ended : Except QueryFault Unit × FileContent} :
      db.opened.open db.path = .ok content → content.Run trouble.statement [.attributes, .values] ended →
      InitRun db trouble (ended.1.mapError .query, db.leave ended.2)

theorem initRun (db : Database) (trouble : Trouble) : db.InitRun trouble (db.init trouble) := by
  unfold init
  cases htrouble : trouble.opening with
  | some fault => exact .unopened (.inl htrouble)
  | none => cases hopen : db.opened.open db.path with
    | error fault => exact .unopened (.inr hopen)
    | ok content => exact .opened hopen (FileContent.run ..)

/-- With nothing in the way it is the run of its statements. -/
theorem init_of_open (hopen : db.opened.open db.path = .ok content) :
    db.init = ((content.declareAll (fun _ => none) [.attributes, .values]).1.mapError .query,
      db.leave (content.declareAll (fun _ => none) [.attributes, .values]).2) := by
  simp only [init, hopen, Option.elim]

/-- Where `init` comes to its end, so do its statements. -/
theorem exists_of_init_ok {trouble : Trouble} (h : db.init trouble = (.ok (), made)) : ∃ content after,
    db.opened.open db.path = .ok content ∧ content.Run trouble.statement [.attributes, .values] (.ok (), after) ∧
      made = db.leave after := by
  have run := db.initRun trouble
  rw [h] at run
  generalize hended : (Except.ok (), made) = ended at run
  cases run with
  | unopened => cases hended
  | @opened content ended hopen run =>
    obtain ⟨hresult, hmade⟩ := Prod.mk.inj hended
    obtain ⟨result, after⟩ := ended
    obtain rfl : result = .ok () := mapError_eq_ok_iff.1 hresult.symm
    exact ⟨content, after, hopen, run, hmade⟩

/-- A run changes nothing, or leaves what its statements made of what was opened. -/
theorem init_snd_cases (db : Database) (trouble : Trouble) : (db.init trouble).2 = db ∨ ∃ content ended,
    db.opened.open db.path = .ok content ∧ content.Run trouble.statement [.attributes, .values] ended ∧
      (db.init trouble).2 = db.leave ended.2 := by
  have run := db.initRun trouble
  generalize db.init trouble = result at run
  cases run with
  | unopened => exact .inl rfl
  | opened hopen run => exact .inr ⟨_, _, hopen, run, rfl⟩

theorem target_init_eq_nowhere_iff {trouble : Trouble} :
    (db.init trouble).2.target = .nowhere ↔ db.target = .nowhere := by
  rcases db.init_snd_cases trouble with same | ⟨_, _, -, -, left⟩
  · rw [same]
  · rw [left, target_leave_eq_nowhere_iff]

theorem target_init_of_here {trouble : Trouble} (here : db.target = .here) :
    (db.init trouble).2.target = .here := by
  rcases db.init_snd_cases trouble with same | ⟨_, _, -, -, left⟩
  · rw [same, here]
  · rw [left, target_leave, here]

/-- Nothing is left of what is made nowhere. -/
theorem init_snd_of_nowhere (nowhere : db.target = .nowhere) (trouble : Trouble) : (db.init trouble).2 = db := by
  rcases db.init_snd_cases trouble with same | ⟨_, _, -, -, left⟩
  · exact same
  · rw [left, leave_of_nowhere nowhere]

/-- However a run was broken off, the next one does what the first would have done. -/
theorem init_init (db : Database) (trouble : Trouble) : (db.init trouble).2.init = db.init := by
  rcases db.init_snd_cases trouble with same | ⟨content, ended, hopen, run, left⟩
  · rw [same]
  · by_cases nowhere : db.target = .nowhere
    · rw [init_snd_of_nowhere nowhere]
    · have hopen' : (db.leave ended.2).opened.open (db.leave ended.2).path = .ok ended.2 := by
        rw [opened_leave nowhere, PathState.open]
      rw [left, init_of_open hopen', init_of_open hopen, run.resumed, leave_leave]

/-- Where both tables are there `init` changes nothing, -/
theorem init_snd_of_has (h : db.opened = .file content) (both : ∀ name, content.has name = true)
    (trouble : Trouble) : (db.init trouble).2 = db := by
  rcases db.init_snd_cases trouble with same | ⟨content', ended, hopen, run, left⟩
  · exact same
  · obtain rfl : content = content' := by simpa only [h, PathState.open, Except.ok.injEq] using hopen
    rw [left, run.eq_of_has fun name _ => both name, leave_of_opened h]

/-- and has nothing to fail at but what comes from outside. -/
theorem init_of_has (h : db.opened = .file content) (both : ∀ name, content.has name = true) :
    db.init = (.ok (), db) := by
  refine Prod.ext ?_ (init_snd_of_has h both {})
  rw [init_of_open (by rw [h, PathState.open]), mapError_eq_ok_iff]
  exact (FileContent.run ..).ok_iff.2 fun name _ => FileContent.declarable_of_has (both name)

end Database

end SubjectMerge
