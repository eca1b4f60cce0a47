import SubjectMerge.Proofs.Store.Lookups

/-! `init` at every start. However a run of it goes, what was there stays, so that whatever a lookup gave it still
gives. Where it comes to its end at the path of a file, both tables are there, so that no lookup fails for that. It
is no transaction: a run that fails at the second table may have made the first. -/

namespace SubjectMerge

/-- No file is there, or not the table that was asked for. -/
def StoreError.IsMissing : StoreError → Prop
  | .unavailable _ => True
  | .query (.noTable _) => True
  | .query _ => False

namespace Tables

variable {α β : Type}

/-! Questions in steps. -/

/-- What the first answers, the second answers too. -/
def Lasts (old new : Except QueryFault α) : Prop := ∀ a, old = .ok a → new = .ok a

theorem Lasts.refl (answer : Except QueryFault α) : Lasts answer answer := fun _ => id

theorem Lasts.bind {old new : Except QueryFault α} {next next' : α → Except QueryFault β} (h : Lasts old new)
    (h' : ∀ a, Lasts (next a) (next' a)) : Lasts (old >>= next) (new >>= next') := by
  intro b hb
  obtain ⟨a, ha, hb⟩ := bind_eq_ok_iff.1 hb
  exact bind_eq_ok_iff.2 ⟨a, h a ha, h' a b hb⟩

/-- An answer, or another fault than that something is missing. -/
def Finds (answer : Except QueryFault α) : Prop :=
  ∀ fault, answer = .error fault → ¬ (StoreError.query fault).IsMissing

theorem Finds.ok (a : α) : Finds (.ok a) := fun _ h => nomatch h

theorem Finds.bind {answer : Except QueryFault α} {next : α → Except QueryFault β} (h : Finds answer)
    (h' : ∀ a, Finds (next a)) : Finds (answer >>= next) := by
  intro fault hfault
  rcases bind_eq_error_iff.1 hfault with hfault | ⟨a, -, hfault⟩
  · exact h fault hfault
  · exact h' a fault hfault

theorem Finds.mapM {read : α → Except QueryFault β} (h : ∀ a, Finds (read a)) (l : List α) :
    Finds (l.mapM read) := by
  induction l with
  | nil => exact .ok []
  | cons a l ih =>
    rw [List.mapM_cons]
    exact (h a).bind fun b => ih.bind fun bs => .ok (b :: bs)

theorem finds_readText (index : Nat) (column : String) (c : Cell) : Finds (c.readText index column) := by
  intro fault h
  cases c with
  | text bytes =>
    rw [Cell.readText] at h
    split at h <;> cases h
    exact id
  | _ => cases h; exact id

theorem finds_readOptionalText (index : Nat) (column : String) (c : Cell) :
    Finds (c.readOptionalText index column) := by
  have hread : Finds ((c.readText index column).map some) := fun fault h =>
    finds_readText index column c fault (map_eq_error_iff.1 h)
  cases c with
  | null => exact .ok none
  | _ => exact hread

/-- A table without the column is another fault, -/
theorem Finds.require (table : DataTable) {name column : String} {place : Option (String × Nat)}
    {next : Unit → Except QueryFault α} (h : Finds (next ())) :
    Finds (table.require name (.noColumn column place) >>= next) := by
  refine Finds.bind (fun fault hfault => ?_) fun _ => h
  unfold DataTable.require at hfault
  split at hfault <;> cases hfault
  exact id

/-- and so are rows that cannot be read. -/
theorem finds_rows (table : DataTable) : Finds table.rows := by
  intro fault h
  obtain ⟨_, _, rfl⟩ := mapError_eq_error_iff.1 h
  exact id

variable {before after tables : Tables}

/-- Each table is there as it was, and none was made but the two, without rows. -/
structure KeptIn (before after : Tables) : Prop where
  tables : ∀ name table, before.named.get? name = some table → after.named.get? name = some table
  made : ∀ name, before.named.get? name = none → after.named.get? name = none ∨
    ∃ made : TableName, name = made.text ∧ after.named.get? name = some (made.declared [])
  indexes : after.indexes = before.indexes

theorem KeptIn.refl (tables : Tables) : tables.KeptIn tables := ⟨fun _ _ => id, fun _ => .inl, rfl⟩

/-- A table that is made takes the place of no other. -/
theorem KeptIn.set (kept : before.KeptIn after) {name : TableName} (hhas : after.has name = false) :
    before.KeptIn (after.set name (name.declared [])) where
  tables other table h := by
    have found := kept.tables other table h
    have hne : other ≠ name.text := by
      rintro rfl
      rw [has, table?, found] at hhas
      cases hhas
    rw [Tables.set, Keyed.get?_insert, if_neg hne, found]
  made other h := by
    rw [Tables.set, Keyed.get?_insert]
    split
    · next heq => exact .inr ⟨name, heq, rfl⟩
    · exact kept.made other h
  indexes := kept.indexes

/-! A lookup that has found its tables finds them again. -/

theorem KeptIn.find (kept : before.KeptIn after) (name : TableName) : Lasts (before.find name) (after.find name) := by
  intro table h
  rw [Tables.find] at h
  split at h
  · next found =>
    cases h
    rw [Tables.find, table?, kept.tables _ _ found]
  · cases h

theorem KeptIn.names (kept : before.KeptIn after) : Lasts before.names after.names :=
  (kept.find .attributes).bind fun _ => .refl _

theorem KeptIn.ids (kept : before.KeptIn after) : Lasts before.ids after.ids :=
  (kept.find .values).bind fun _ => .refl _

theorem KeptIn.valuesOf (kept : before.KeptIn after) (recipient : String) :
    Lasts (before.valuesOf recipient) (after.valuesOf recipient) :=
  (kept.find .values).bind fun _ => (kept.find .attributes).bind fun _ => .refl _

/-! Where both tables are, what can go wrong is a column that is not there, or rows and cells that cannot be read. -/

theorem finds_find {name : TableName} (h : tables.has name = true) : Finds (tables.find name) := by
  obtain ⟨table, found⟩ := Option.isSome_iff_exists.1 h
  rw [find, found]
  exact .ok table

theorem finds_names (h : tables.has .attributes = true) : Finds tables.names :=
  (finds_find h).bind fun table => .require table <| .require table <| .require table <|
    (finds_rows table).bind fun _ => .mapM (fun row : AttributeRow => finds_readText 0 _ row.name) _

theorem finds_ids (h : tables.has .values = true) : Finds tables.ids :=
  (finds_find h).bind fun table => .require table <|
    (finds_rows table).bind fun _ => .mapM (finds_readText 0 _) _

theorem finds_valuesOf (h : ∀ name, tables.has name = true) (recipient : String) :
    Finds (tables.valuesOf recipient) := by
  have hpair (name value : String) (cells : Cell × Cell) : Finds (do
      return (← cells.1.readText 0 name, ← cells.2.readOptionalText 1 value)) :=
    (finds_readText 0 name cells.1).bind fun _ => (finds_readOptionalText 1 value cells.2).bind fun _ => .ok _
  exact (finds_find (h .values)).bind fun values => (finds_find (h .attributes)).bind fun attributes =>
    .require attributes <| .require values <| .require values <| .require attributes <| .require values <|
      (finds_rows values).bind fun _ => (finds_rows attributes).bind fun _ =>
        (Finds.mapM (hpair _ _) _).bind fun _ => .ok _

end Tables

namespace FileContent

variable {before content after : FileContent} {name : TableName}

/-- A database with all that was there, or still the same fault. -/
inductive KeptIn : FileContent → FileContent → Prop where
  | broken (fault : FileFault) : KeptIn (.broken fault) (.broken fault)
  | database {before after : Tables} {changeFault : Option FileFault} : before.KeptIn after →
      KeptIn (.database before changeFault) (.database after changeFault)

theorem KeptIn.refl (content : FileContent) : content.KeptIn content := by
  cases content with
  | broken fault => exact .broken fault
  | database tables changeFault => exact .database (.refl tables)

/-- No statement takes anything away, -/
theorem KeptIn.declares (kept : before.KeptIn content) (step : content.Declares name after) : before.KeptIn after := by
  cases step with
  | there => exact kept
  | made hhas => cases kept with
    | database kept => exact .database (kept.set hhas)

/-- and so no run. -/
theorem Run.keptIn {trouble : TableName → Option FileFault} {names : List TableName}
    {ended : Except QueryFault Unit × FileContent} (run : content.Run trouble names ended) : content.KeptIn ended.2 :=
  run.keeps (fun _ _ _ step kept => kept.declares step) (.refl content)

end FileContent

namespace Database

variable {db made : Database} {trouble : Trouble}

/-- At the same path, what is opened for it has all that was there. -/
structure KeptIn (db made : Database) : Prop where
  path : made.path = db.path
  /-- What stands at the path is another thing only if it is what is opened. -/
  state : db.target ≠ .here → made.state = db.state
  exists_file : db.fileExists = true → made.fileExists = true
  content : ∀ content, db.opened.open db.path = .ok content →
    ∃ after, made.opened.open made.path = .ok after ∧ content.KeptIn after

/-- What a run that fails leaves. -/
inductive LeftBy (db : Database) (trouble : Trouble) : Database → Prop where
  /-- What was there, -/
  | same : LeftBy db trouble db
  /-- an empty database where there was no file, if something was in the way of the first statement, -/
  | empty : db.opened = .absent → (trouble.statement .attributes).isSome = true →
      LeftBy db trouble (db.leave (.database {}))
  /-- or the first table where it was missing, if the second could not be made. -/
  | half {tables : Tables} : db.opened.open db.path = .ok (.database tables) → tables.has .attributes = false →
      tables.hasIndex .attributes = false →
      ((trouble.statement .values).isSome = true ∨ tables.has .values = false ∧ tables.hasIndex .values = true) →
      LeftBy db trouble (db.leave (.database (tables.set .attributes (TableName.attributes.declared []))))

/-- What a run of `init` does to whatever stands at the path, and what it does not do. -/
structure SafeStart (db : Database) (trouble : Trouble) : Prop where
  /-- It makes a database or completes one; it needs no change where both tables are there, and no index may have
  the name of one that is not. -/
  ends_iff : db.init.1 = .ok () ↔ db.opened = .absent ∨ ∃ tables changeFault,
    db.opened = .file (.database tables changeFault) ∧
      ∀ name, tables.has name = true ∨ changeFault = none ∧ tables.hasIndex name = false
  /-- However it ends, nothing is lost, -/
  kept : db.KeptIn (db.init trouble).2
  names : ∀ names, db.names = .ok names → (db.init trouble).2.names = .ok names
  ids : ∀ ids, db.ids = .ok ids → (db.init trouble).2.ids = .ok ids
  values : ∀ recipient values, db.valuesOf recipient = .ok values →
    (db.init trouble).2.valuesOf recipient = .ok values
  /-- and if it fails no more is made than is told. -/
  fails : ∀ e, (db.init trouble).1 = .error e → db.LeftBy trouble (db.init trouble).2
  /-- When it has come to its end, lookups may still fail, but at the path of a file not because there is nothing to
  look in. -/
  found : (db.init trouble).1 = .ok () → db.target = .here → ∀ e, ((db.init trouble).2.names = .error e ∨
    (db.init trouble).2.ids = .error e ∨ ∃ recipient, (db.init trouble).2.valuesOf recipient = .error e) →
      ¬ e.IsMissing
  /-- The next run comes to its end too if nothing is in its way, -/
  again : (db.init trouble).1 = .ok () → (db.init trouble).2.init.1 = .ok ()
  /-- and changes nothing whatever is. -/
  still : (db.init trouble).1 = .ok () → ∀ trouble', ((db.init trouble).2.init trouble').2 = (db.init trouble).2
  /-- However a run has ended, the next one does what the first would have done with nothing in its way. -/
  resumed : (db.init trouble).2.init = db.init
  /-- A path that names no file has nothing before and after. -/
  nowhere : db.target = .nowhere → (db.init trouble).2 = db ∧ (∃ e, db.names = .error e ∧ e.IsMissing) ∧
    (∃ e, db.ids = .error e ∧ e.IsMissing) ∧ ∀ recipient, ∃ e, db.valuesOf recipient = .error e ∧ e.IsMissing

theorem KeptIn.refl (db : Database) : db.KeptIn db :=
  ⟨rfl, fun _ => rfl, id, fun content hopen => ⟨content, hopen, .refl content⟩⟩

theorem keptIn_leave {content after : FileContent} (hopen : db.opened.open db.path = .ok content)
    (kept : content.KeptIn after) : db.KeptIn (db.leave after) := by
  by_cases nowhere : db.target = .nowhere
  · rw [leave_of_nowhere nowhere]
    exact .refl db
  · refine ⟨path_leave, fun elsewhere => ?_, fun exist => ?_, fun content' hopen' => ⟨after, ?_, ?_⟩⟩
    · unfold leave
      cases htarget : db.target with
      | here => exact absurd htarget elsewhere
      | nowhere => rfl
      | elsewhere state => rfl
    · unfold leave
      cases htarget : db.target with
      | here => rfl
      | nowhere => exact exist
      | elsewhere state => exact exist
    · rw [opened_leave nowhere, PathState.open]
    · obtain rfl := Except.ok.inj (hopen.symm.trans hopen')
      exact kept

theorem keptIn_init (db : Database) (trouble : Trouble) : db.KeptIn (db.init trouble).2 := by
  rcases db.init_snd_cases trouble with same | ⟨_, _, hopen, run, left⟩
  · rw [same]
    exact .refl db
  · rw [left]
    exact keptIn_leave hopen run.keptIn

/-! Lookups before and after. -/

theorem exists_tables_of_ask {α : Type} {question : Tables → Except QueryFault α} {a : α}
    (h : db.ask question = .ok a) : ∃ tables, db.tables = .ok tables ∧ question tables = .ok a := by
  obtain ⟨tables, read, answered⟩ := bind_eq_ok_iff.1 h
  exact ⟨tables, read, mapError_eq_ok_iff.1 answered⟩

/-- Asked of a database that has what the old one had, a question gets the answer it got. -/
theorem KeptIn.ask {α : Type} (kept : db.KeptIn made) {question : Tables → Except QueryFault α}
    (lasts : ∀ before after : Tables, before.KeptIn after → Tables.Lasts (question before) (question after))
    {a : α} (h : db.ask question = .ok a) : made.ask question = .ok a := by
  obtain ⟨tables, read, answered⟩ := exists_tables_of_ask h
  obtain ⟨exist, changeFault, hopen⟩ := tables_eq_ok_iff.1 read
  obtain ⟨after, hopen', kept'⟩ := kept.content _ hopen
  cases kept' with
  | @database _ after _ kept' =>
    have read' : made.tables = .ok after := tables_eq_ok_iff.2 ⟨kept.exists_file exist, changeFault, hopen'⟩
    exact (ask_eq_ok_iff read').2 (lasts tables after kept' a answered)

theorem not_isMissing_of_ask {tables : Tables} {α : Type} (read : db.tables = .ok tables)
    {question : Tables → Except QueryFault α} (finds : Tables.Finds (question tables)) {e : StoreError}
    (h : db.ask question = .error e) : ¬ e.IsMissing := by
  rw [ask_eq read, mapError_eq_error_iff] at h
  obtain ⟨fault, answered, rfl⟩ := h
  exact finds fault answered

/-- Of a database of the connection's own there is no table to ask for. -/
theorem isMissing_of_ask_nowhere (nowhere : db.target = .nowhere) {α : Type}
    {question : Tables → Except QueryFault α} (missing : ∃ name, question {} = .error (.noTable name)) :
    ∃ e, db.ask question = .error e ∧ e.IsMissing := by
  obtain ⟨name, missing⟩ := missing
  by_cases exist : db.fileExists = true
  · have read : db.tables = .ok {} := tables_eq_ok_iff.2 ⟨exist, none, by rw [opened, nowhere]; rfl⟩
    exact ⟨.query (.noTable name), by rw [ask_eq read, missing]; rfl, trivial⟩
  · refine ⟨.unavailable s!"{db.path} does not exist", ?_, trivial⟩
    rw [ask, tables, if_neg exist]
    rfl

/-! How a run ends. -/

theorem init_fst_eq_ok_iff : db.init.1 = .ok () ↔
    ∃ content, db.opened.open db.path = .ok content ∧ ∀ name, content.Declarable name := by
  cases hopen : db.opened.open db.path with
  | error fault => simp [init, hopen]
  | ok content =>
    rw [init_of_open hopen, mapError_eq_ok_iff, (FileContent.run ..).ok_iff]
    simp only [Except.ok.injEq, exists_eq_left']
    exact ⟨fun h name => h name (by cases name <;> simp), fun h name _ => h name⟩

theorem ends_iff : db.init.1 = .ok () ↔ db.opened = .absent ∨ ∃ tables changeFault,
    db.opened = .file (.database tables changeFault) ∧
      ∀ name, tables.has name = true ∨ changeFault = none ∧ tables.hasIndex name = false := by
  rw [init_fst_eq_ok_iff]
  cases hopened : db.opened with
  | directory => simp [PathState.open]
  | absent refusal => cases refusal with
    | none => simp [PathState.open, FileContent.Declarable, Tables.has, Tables.hasIndex, Tables.table?, Keyed.empty]
    | some fault => simp [PathState.open]
  | file content => cases content with
    | broken fault =>
      have hrefused : ¬ ∀ name, (FileContent.broken fault).Declarable name := fun h => h .attributes
      simp [PathState.open, hrefused]
    | database tables changeFault => simp [PathState.open, FileContent.Declarable]

/-- Where a run has come to its end, both tables are there, unless what it made is gone with it. -/
theorem exists_content_of_init (h : (db.init trouble).1 = .ok ()) (stays : db.target ≠ .nowhere) :
    ∃ content, (db.init trouble).2.opened = .file content ∧ ∀ name, content.has name = true := by
  obtain ⟨content, after, -, run, hmade⟩ := exists_of_init_ok (Prod.ext h rfl)
  exact ⟨after, (congrArg opened hmade).trans (opened_leave stays), fun name =>
    run.has_of_mem rfl (by cases name <;> simp)⟩

/-- At the path of a file they are there to be read. -/
theorem exists_tables_of_init (h : (db.init trouble).1 = .ok ()) (here : db.target = .here) :
    ∃ tables, (db.init trouble).2.tables = .ok tables ∧ ∀ name, tables.has name = true := by
  obtain ⟨content, hopened, both⟩ := exists_content_of_init h (by rw [here]; nofun)
  have exist : (db.init trouble).2.fileExists = true := by
    rw [opened_of_here (target_init_of_here here)] at hopened
    rw [fileExists, hopened]
  cases content with
  | broken fault => exact nomatch both .attributes
  | database tables changeFault =>
    exact ⟨tables, tables_eq_ok_iff.2 ⟨exist, changeFault, by rw [hopened, PathState.open]⟩, both⟩

/-- What was left as it was opened is no change, unless a file was made to open. -/
theorem leftBy_leave_self {content : FileContent} (hopen : db.opened.open db.path = .ok content)
    (bare : content = .database {} → (trouble.statement .attributes).isSome = true) :
    db.LeftBy trouble (db.leave content) := by
  cases hopened : db.opened with
  | directory => simp [hopened, PathState.open] at hopen
  | absent refusal => cases refusal with
    | some fault => simp [hopened, PathState.open] at hopen
    | none =>
      simp only [hopened, PathState.open, Except.ok.injEq] at hopen
      exact hopen ▸ .empty hopened (bare hopen.symm)
  | file content' =>
    simp only [hopened, PathState.open, Except.ok.injEq] at hopen
    rw [leave_of_opened (hopen ▸ hopened)]
    exact .same

/-- A run that fails stops at the first statement, with nothing changed, or at the second, behind the first table. -/
theorem leftBy_init {e : StoreError} (h : (db.init trouble).1 = .error e) :
    db.LeftBy trouble (db.init trouble).2 := by
  have run := db.initRun trouble
  generalize db.init trouble = ended at h run
  cases run with
  | unopened => exact .same
  | @opened content _ hopen run =>
    obtain ⟨fault, hfault, -⟩ := mapError_eq_error_iff.1 h
    cases run with
    | stopped reason =>
      have bare (h : content = .database {}) : (trouble.statement .attributes).isSome = true :=
        reason.resolve_right fun hdeclare =>
          FileContent.not_declarable_of_error hdeclare (h ▸ .inr ⟨rfl, rfl⟩)
      exact leftBy_leave_self hopen bare
    | passed step run => cases run with
      | passed _ run => cases run with
        | ended => cases hfault
      | stopped reason =>
        -- The first statement does not stand in the way of the second, so what stops this one was there before.
        have reason' := reason.imp_right FileContent.not_declarable_of_error
        rw [step.declarable_iff] at reason'
        cases step with
        | there hhas => exact leftBy_leave_self hopen fun bare => by cases bare; cases hhas
        | made hhas hindex =>
          refine .half hopen hhas hindex (reason'.imp_right fun refused => ?_)
          simpa [FileContent.Declarable] using refused

/-- At every start `init` may be run. -/
theorem safeStart (db : Database) (trouble : Trouble) : db.SafeStart trouble where
  ends_iff := ends_iff
  kept := db.keptIn_init trouble
  names _ h := (db.keptIn_init trouble).ask (fun _ _ kept => kept.names) h
  ids _ h := (db.keptIn_init trouble).ask (fun _ _ kept => kept.ids) h
  values recipient _ h := (db.keptIn_init trouble).ask (fun _ _ kept => kept.valuesOf recipient) h
  fails _ h := leftBy_init h
  found h here e failed := by
    obtain ⟨tables, read, both⟩ := exists_tables_of_init h here
    rcases failed with hnames | hids | ⟨recipient, hvalues⟩
    · exact not_isMissing_of_ask read (Tables.finds_names (both .attributes)) hnames
    · exact not_isMissing_of_ask read (Tables.finds_ids (both .values)) hids
    · exact not_isMissing_of_ask read (Tables.finds_valuesOf both recipient) hvalues
  again h := by
    by_cases nowhere : db.target = .nowhere
    · rw [init_snd_of_nowhere nowhere]
      exact ends_iff.2 (.inr ⟨{}, none, by rw [opened, nowhere], fun name => .inr ⟨rfl, rfl⟩⟩)
    · obtain ⟨content, hopened, both⟩ := exists_content_of_init h nowhere
      rw [init_of_has hopened both]
  still h trouble' := by
    by_cases nowhere : db.target = .nowhere
    · exact init_snd_of_nowhere (target_init_eq_nowhere_iff.2 nowhere) trouble'
    · obtain ⟨content, hopened, both⟩ := exists_content_of_init h nowhere
      exact init_snd_of_has hopened both trouble'
  resumed := db.init_init trouble
  nowhere h := ⟨init_snd_of_nowhere h trouble, isMissing_of_ask_nowhere h ⟨_, rfl⟩,
    isMissing_of_ask_nowhere h ⟨_, rfl⟩, fun _ => isMissing_of_ask_nowhere h ⟨_, rfl⟩⟩

/-- A run that fails may have made a table, and what is made for a path that names no file is gone: an index has the
name of the second table; the path is that of a database in memory; it is a URI, and no file has it for a name. -/
theorem not_all_or_nothing :
    let indexed : Database := { path := "subscribers.sqlite", state := .file (.database {
      named := Keyed.empty.insert "notes" ⟨[{ name := "x", affinity := .blob }], [], .ok []⟩
      indexes := [("recipient_attributes", "notes")] }) }
    let inMemory : Database := { path := ":memory:", state := .absent }
    let uri : Database := { path := "file:subscribers.sqlite", state := .absent, uri := .elsewhere .absent }
    (indexed.names = .error (.query (.noTable "attributes")) ∧
      indexed.init.1 = .error (.query (.indexExists "recipient_attributes")) ∧ indexed.init.2.names = .ok []) ∧
    (inMemory.init.1 = .ok () ∧ inMemory.init.2.names = .error (.unavailable ":memory: does not exist")) ∧
    uri.init.1 = .ok () ∧ uri.init.2.names = .error (.unavailable "file:subscribers.sqlite does not exist") := by
  decide +kernel

end Database

end SubjectMerge
