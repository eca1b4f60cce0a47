import SubjectMerge.Proofs.Config.Document
import SubjectMerge.Proofs.Results
import SubjectMerge.Proofs.Text.Utf8

/-! Where each setting comes from. The environment comes before the file and the file before the defaults, for each
setting apart from the others. Of all that can be wrong with the file and the variables what comes first in the
order of reading is reported, and if nothing is wrong the configuration is loaded. -/

namespace SubjectMerge

open Text (encodeUtf8)

/-- The variable is set to the text. -/
def Environment.Sets (env : Environment) (v : Variable) (s : String) : Prop := env v = some (encodeUtf8 s)

/-- The path of the file, which the environment may name. -/
inductive Environment.Chooses (env : Environment) : String → Prop where
  | named {path : String} : env.Sets .config path → env.Chooses path
  | default : (∀ path, ¬ env.Sets .config path) → env.Chooses "subject_placeholders.toml"

/-- The text is a document, and the settings are what it gives. -/
def Settings.WrittenAs (settings : Settings) (text : String) : Prop :=
  ∃ document, Toml.parse text = some document ∧ settings.GivenBy document.entries

/-- What the file at the path gives, which is nothing if there is none. -/
inductive Files.Holds (files : Files) (path : String) : Settings → Prop where
  | absent : files path = .absent → files.Holds path {}
  | file {text : String} {settings : Settings} : files path = .file (encodeUtf8 text) →
      settings.WrittenAs text → files.Holds path settings

/-- A setting is what the environment has for it, or else the file, or else the default. -/
inductive Settled {α : Type} (own : α → Prop) (file : Option α) (default : α) : α → Prop where
  | own {a : α} : own a → Settled own file default a
  | file {a : α} : (∀ b, ¬ own b) → file = some a → Settled own file default a
  | default : (∀ b, ¬ own b) → file = none → Settled own file default default

/-- Each setting is settled by itself. -/
structure Config.Composed (config : Config) (env : Environment) (file : Settings) : Prop where
  host : Settled (env.Sets .host) file.host "127.0.0.1" config.host
  tcpPort : Settled (fun n => ∃ s, env.Sets .tcpPort s ∧ Spells s n) file.tcpPort 8080 config.tcpPort
  databasePath : Settled (env.Sets .database) file.databasePath "subscribers.sqlite" config.databasePath
  onDirectoryError : Settled (fun policy => ∃ s, env.Sets .onDirectoryError s ∧ policy.IsNamedBy s)
    file.onDirectoryError .failOpen config.onDirectoryError

namespace ConfigError

/-- What is wrong with the file. -/
inductive OfFile (files : Files) (path : String) : ConfigError → Prop where
  | folder : files path = .folder → OfFile files path (.folder path)
  | unreadable {reason : String} : files path = .unreadable reason → OfFile files path (.unreadable path reason)
  | notText {bytes : List UInt8} : files path = .file bytes → (∀ text, bytes ≠ encodeUtf8 text) →
      OfFile files path (.notText path)
  | malformed {text : String} : files path = .file (encodeUtf8 text) →
      (∀ settings : Settings, ¬ settings.WrittenAs text) → OfFile files path (.malformed path)

/-- What is wrong with the file or with a variable, whether or not it is reported. -/
inductive Arises (files : Files) (env : Environment) : ConfigError → Prop where
  | file {path : String} {e : ConfigError} : env.Chooses path → e.OfFile files path → Arises files env e
  | tcpPort {s : String} : env.Sets .tcpPort s → (∀ n, ¬ Spells s n) →
      Arises files env (.badVariable .tcpPort s)
  | onDirectoryError {s : String} : env.Sets .onDirectoryError s → (∀ policy : Policy, ¬ policy.IsNamedBy s) →
      Arises files env (.badVariable .onDirectoryError s)

/-- The file is read, then parsed, and then the variables are looked at. -/
def stage : ConfigError → Nat
  | .folder _ => 0
  | .unreadable _ _ => 0
  | .notText _ => 0
  | .malformed _ => 1
  | .badVariable .onDirectoryError _ => 3
  | .badVariable _ _ => 2

end ConfigError

/-- How the configuration comes from what is there. -/
structure Config.Precedence (files : Files) (env : Environment) : Prop where
  loaded_iff : (∃ config, Config.load files env = .ok config) ↔
    (∃ path file, env.Chooses path ∧ files.Holds path file) ∧
      (∀ s, env.Sets .tcpPort s → ∃ n, Spells s n) ∧
      ∀ s, env.Sets .onDirectoryError s → ∃ policy : Policy, policy.IsNamedBy s
  composed : ∀ config, Config.load files env = .ok config →
    ∃ path file, env.Chooses path ∧ files.Holds path file ∧ config.Composed env file
  /-- The first of the errors is reported. -/
  failed_iff : ∀ e, Config.load files env = .error e ↔
    e.Arises files env ∧ ∀ other : ConfigError, other.Arises files env → e.stage ≤ other.stage

namespace Environment

variable {env : Environment} {v : Variable}

theorem text?_eq_some_iff {s : String} : env.text? v = some s ↔ env.Sets v s := by
  rw [text?, Sets, Option.bind_eq_some_iff]
  constructor
  · rintro ⟨bytes, hbytes, htext⟩
    cases hdecoded : Text.decodeUtf8 bytes with
    | error fault => simp [hdecoded, Except.toOption] at htext
    | ok s' =>
      obtain rfl : s' = s := by simpa [hdecoded, Except.toOption] using htext
      rw [hbytes, Text.decodeUtf8_eq_ok_iff.1 hdecoded]
  · intro h
    exact ⟨_, h, by rw [Text.decodeUtf8_encodeUtf8, Except.toOption]⟩

theorem text?_eq_none_iff : env.text? v = none ↔ ∀ s, ¬ env.Sets v s := by
  simp only [Option.eq_none_iff_forall_ne_some, ne_eq, text?_eq_some_iff]

theorem chooses_iff {path : String} : env.Chooses path ↔ (env.text? .config).getD defaultConfigPath = path := by
  constructor
  · rintro (hset | hunset)
    · rw [text?_eq_some_iff.2 hset, Option.getD_some]
    · rw [text?_eq_none_iff.2 hunset, Option.getD_none, defaultConfigPath]
  · rintro rfl
    cases htext : env.text? .config with
    | none => exact .default (text?_eq_none_iff.1 htext)
    | some path => exact .named (text?_eq_some_iff.1 htext)

theorem Sets.unique {s t : String} (h : env.Sets v s) (h' : env.Sets v t) : s = t :=
  Text.encodeUtf8_inj.1 (Option.some.inj (h.symm.trans h'))

theorem Chooses.unique {path other : String} (h : env.Chooses path) (h' : env.Chooses other) : path = other :=
  (chooses_iff.1 h).symm.trans (chooses_iff.1 h')

variable {α : Type} {read : String → Option α} {reads : String → α → Prop}

/-- A variable has a setting unless it has a text that does not read as one. -/
theorem exists_setting_iff (h : ∀ s a, read s = some a ↔ reads s a) :
    (∃ given, env.setting v read = .ok given) ↔ ∀ s, env.Sets v s → ∃ a, reads s a := by
  simp only [← text?_eq_some_iff, ← h]
  unfold setting
  cases env.text? v with
  | none => simp
  | some s => cases hread : read s <;> simp [hread]

theorem given_of_setting (h : ∀ s a, read s = some a ↔ reads s a) {given : Option α}
    (hgiven : env.setting v read = .ok given) (a : α) : given = some a ↔ ∃ s, env.Sets v s ∧ reads s a := by
  simp only [← text?_eq_some_iff, ← h]
  unfold setting at hgiven
  cases htext : env.text? v with
  | none =>
    obtain rfl : none = given := by simpa [htext] using hgiven
    simp
  | some s =>
    cases hread : read s with
    | none => simp [htext, hread] at hgiven
    | some b =>
      obtain rfl : some b = given := by simpa [htext, hread] using hgiven
      simp [hread]

theorem setting_eq_error_iff (h : ∀ s a, read s = some a ↔ reads s a) {e : ConfigError} :
    env.setting v read = .error e ↔ ∃ s, env.Sets v s ∧ (∀ a, ¬ reads s a) ∧ .badVariable v s = e := by
  simp only [← text?_eq_some_iff, ← h]
  unfold setting
  cases env.text? v with
  | none => simp
  | some s => cases hread : read s <;> simp [hread]

end Environment

theorem Settings.ofToml?_eq_some_iff {text : String} {settings : Settings} :
    Settings.ofToml? text = some settings ↔ settings.WrittenAs text := by
  simp only [ofToml?, WrittenAs, bind, Option.bind_eq_some_iff, ofEntries?_eq_some_iff]

theorem Settings.ofFile_eq_ok_iff {files : Files} {path : String} {settings : Settings} :
    Settings.ofFile files path = .ok settings ↔ files.Holds path settings := by
  constructor
  · intro h
    unfold ofFile at h
    split at h
    · next hopen =>
      cases h
      exact .absent hopen
    · cases h
    · cases h
    · next bytes hopen =>
      split at h
      · cases h
      · next text hdecoded =>
        rw [Text.decodeUtf8_eq_ok_iff.1 hdecoded] at hopen
        split at h
        · cases h
        · next hread =>
          cases h
          exact .file hopen (ofToml?_eq_some_iff.1 hread)
  · rintro (hopen | ⟨hopen, hwritten⟩)
    · simp [ofFile, hopen]
    · simp [ofFile, hopen, Text.decodeUtf8_encodeUtf8, ofToml?_eq_some_iff.2 hwritten]

theorem Settings.ofFile_eq_error_iff {files : Files} {path : String} {e : ConfigError} :
    Settings.ofFile files path = .error e ↔ e.OfFile files path := by
  constructor
  · intro h
    unfold ofFile at h
    split at h
    · cases h
    · next hopen =>
      cases h
      exact .folder hopen
    · next reason hopen =>
      cases h
      exact .unreadable hopen
    · next bytes hopen =>
      split at h
      · next fault hdecoded =>
        cases h
        refine .notText hopen fun text hbytes => ?_
        rw [hbytes, Text.decodeUtf8_encodeUtf8] at hdecoded
        cases hdecoded
      · next text hdecoded =>
        rw [Text.decodeUtf8_eq_ok_iff.1 hdecoded] at hopen
        split at h
        · next hread =>
          cases h
          refine .malformed hopen fun settings hwritten => ?_
          rw [ofToml?_eq_some_iff.2 hwritten] at hread
          cases hread
        · cases h
  · rintro (hopen | hopen | @⟨bytes, hopen, hbytes⟩ | @⟨text, hopen, hwritten⟩)
    · simp [ofFile, hopen]
    · simp [ofFile, hopen]
    · cases hdecoded : Text.decodeUtf8 bytes with
      | error fault => simp [ofFile, hopen, hdecoded]
      | ok text => exact absurd (Text.decodeUtf8_eq_ok_iff.1 hdecoded) (hbytes text)
    · have hread : ofToml? text = none :=
        Option.eq_none_iff_forall_ne_some.2 fun settings h => hwritten settings (ofToml?_eq_some_iff.1 h)
      simp [ofFile, hopen, Text.decodeUtf8_encodeUtf8, hread]

/-- A setting that is laid over the file's and the default. -/
theorem settled_getD {α : Type} {given : Option α} {own : α → Prop} (h : ∀ a, given = some a ↔ own a)
    (file : Option α) (default : α) : Settled own file default ((given.or file).getD default) := by
  cases given with
  | some a => exact .own ((h a).1 rfl)
  | none =>
    have unset (a : α) : ¬ own a := fun ha => nomatch (h a).2 ha
    cases file with
    | some a => exact .file unset rfl
    | none => exact .default unset rfl

namespace ConfigError

variable {files : Files} {env : Environment} {path : String} {e other : ConfigError}

theorem OfFile.unique (h : e.OfFile files path) (h' : other.OfFile files path) : e = other :=
  Except.error.inj ((Settings.ofFile_eq_error_iff.2 h).symm.trans (Settings.ofFile_eq_error_iff.2 h'))

theorem OfFile.not_holds (h : e.OfFile files path) (file : Settings) : ¬ files.Holds path file := by
  intro holds
  cases (Settings.ofFile_eq_ok_iff.2 holds).symm.trans (Settings.ofFile_eq_error_iff.2 h)

theorem OfFile.stage_lt (h : e.OfFile files path) (v : Variable) (s : String) :
    e.stage < (badVariable v s).stage := by
  cases h <;> cases v <;> simp [stage]

/-- Of one stage there is one error at most. -/
theorem Arises.eq_of_stage_eq (h : e.Arises files env) (h' : other.Arises files env)
    (same : e.stage = other.stage) : e = other := by
  cases h with
  | file chosen hfile => cases h' with
    | file chosen' hfile' =>
      obtain rfl := chosen.unique chosen'
      exact hfile.unique hfile'
    | tcpPort | onDirectoryError => exact absurd same (Nat.ne_of_lt (hfile.stage_lt _ _))
  | tcpPort isSet unread => cases h' with
    | file chosen hfile => exact absurd same.symm (Nat.ne_of_lt (hfile.stage_lt _ _))
    | tcpPort isSet' => rw [isSet.unique isSet']
    | onDirectoryError => cases same
  | onDirectoryError isSet unread => cases h' with
    | file chosen hfile => exact absurd same.symm (Nat.ne_of_lt (hfile.stage_lt _ _))
    | tcpPort => cases same
    | onDirectoryError isSet' => rw [isSet.unique isSet']

end ConfigError

namespace Settings

variable {env : Environment}

theorem ofEnvironment_eq_ok_iff {own : Settings} : ofEnvironment env = .ok own ↔
    ∃ tcpPort, env.setting .tcpPort tcpPortOfText? = .ok tcpPort ∧
      ∃ policy, env.setting .onDirectoryError Policy.ofText? = .ok policy ∧
        ⟨env.text? .host, tcpPort, env.text? .database, policy⟩ = own := by
  simp only [ofEnvironment, bind_eq_ok_iff, pure, Except.pure, Except.ok.injEq]

/-- The port is looked at first. -/
theorem ofEnvironment_eq_error_iff {e : ConfigError} : ofEnvironment env = .error e ↔
    (∃ s, env.Sets .tcpPort s ∧ (∀ n, ¬ Spells s n) ∧ .badVariable .tcpPort s = e) ∨
      (∀ s, env.Sets .tcpPort s → ∃ n, Spells s n) ∧ ∃ s, env.Sets .onDirectoryError s ∧
        (∀ policy : Policy, ¬ policy.IsNamedBy s) ∧ .badVariable .onDirectoryError s = e := by
  rw [← Environment.setting_eq_error_iff fun _ _ => tcpPortOfText?_eq_some_iff,
    ← Environment.setting_eq_error_iff fun _ _ => Policy.ofText?_eq_some_iff,
    ← Environment.exists_setting_iff fun _ _ => tcpPortOfText?_eq_some_iff]
  simp only [ofEnvironment, bind_eq_error_iff, pure, Except.pure, reduceCtorEq, and_false, exists_false, or_false,
    exists_and_right]

theorem exists_ofEnvironment_iff : (∃ own, ofEnvironment env = .ok own) ↔
    (∀ s, env.Sets .tcpPort s → ∃ n, Spells s n) ∧
      ∀ s, env.Sets .onDirectoryError s → ∃ policy : Policy, policy.IsNamedBy s := by
  rw [← Environment.exists_setting_iff fun _ _ => tcpPortOfText?_eq_some_iff,
    ← Environment.exists_setting_iff fun _ _ => Policy.ofText?_eq_some_iff]
  simp only [ofEnvironment_eq_ok_iff]
  constructor
  · rintro ⟨own, tcpPort, htcp, policy, hpolicy, -⟩
    exact ⟨⟨tcpPort, htcp⟩, policy, hpolicy⟩
  · rintro ⟨⟨tcpPort, htcp⟩, policy, hpolicy⟩
    exact ⟨_, tcpPort, htcp, policy, hpolicy, rfl⟩

/-- The environment's settings over those of a file, and the defaults under both. -/
theorem composed_of_ofEnvironment {own : Settings} (h : ofEnvironment env = .ok own) (file : Settings) :
    (own.or file).config.Composed env file := by
  obtain ⟨tcpPort, htcp, policy, hpolicy, rfl⟩ := ofEnvironment_eq_ok_iff.1 h
  have tcpPorts := Environment.given_of_setting (fun _ _ => tcpPortOfText?_eq_some_iff) htcp
  have policies := Environment.given_of_setting (fun _ _ => Policy.ofText?_eq_some_iff) hpolicy
  exact {
    host := settled_getD (fun _ => Environment.text?_eq_some_iff) file.host "127.0.0.1"
    tcpPort := settled_getD tcpPorts file.tcpPort 8080
    databasePath := settled_getD (fun _ => Environment.text?_eq_some_iff) file.databasePath "subscribers.sqlite"
    onDirectoryError := settled_getD policies file.onDirectoryError .failOpen }

end Settings

namespace Config

variable {files : Files} {env : Environment}

theorem load_eq_ok_iff {config : Config} : load files env = .ok config ↔
    ∃ path file, env.Chooses path ∧ files.Holds path file ∧
      ∃ own, Settings.ofEnvironment env = .ok own ∧ (own.or file).config = config := by
  simp only [load, bind_eq_ok_iff, pure, Except.pure, Except.ok.injEq, Settings.ofFile_eq_ok_iff,
    Environment.chooses_iff, exists_and_left, exists_eq_left']

/-- The environment's settings are looked at when the file is read. -/
theorem load_eq_error_iff {e : ConfigError} : load files env = .error e ↔
    ∃ path, env.Chooses path ∧ (e.OfFile files path ∨
      (∃ file, files.Holds path file) ∧ Settings.ofEnvironment env = .error e) := by
  simp only [load, bind_eq_error_iff, pure, Except.pure, Settings.ofFile_eq_error_iff, Settings.ofFile_eq_ok_iff,
    Environment.chooses_iff, reduceCtorEq, and_false, exists_false, or_false, exists_eq_left', exists_and_right]

/-- Nothing is wrong where a configuration is loaded. -/
theorem not_arises_of_load {config : Config} (h : load files env = .ok config) (e : ConfigError) :
    ¬ e.Arises files env := by
  obtain ⟨path, file, chosen, holds, own, hown, -⟩ := load_eq_ok_iff.1 h
  obtain ⟨tcpPorts, policies⟩ := Settings.exists_ofEnvironment_iff.1 ⟨own, hown⟩
  rintro (⟨chosen', hfile⟩ | ⟨isSet, unread⟩ | ⟨isSet, unread⟩)
  · obtain rfl := chosen.unique chosen'
    exact hfile.not_holds file holds
  · obtain ⟨n, hn⟩ := tcpPorts _ isSet
    exact unread n hn
  · obtain ⟨policy, hpolicy⟩ := policies _ isSet
    exact unread policy hpolicy

/-- What is reported is so, and nothing that comes before it. -/
theorem arises_of_load {e : ConfigError} (h : load files env = .error e) :
    e.Arises files env ∧ ∀ other : ConfigError, other.Arises files env → e.stage ≤ other.stage := by
  obtain ⟨path, chosen, hfile | ⟨⟨file, holds⟩, hown⟩⟩ := load_eq_error_iff.1 h
  · refine ⟨.file chosen hfile, fun other arises => ?_⟩
    cases arises with
    | file chosen' hfile' =>
      obtain rfl := chosen.unique chosen'
      exact Nat.le_of_eq (congrArg _ (hfile.unique hfile'))
    | tcpPort | onDirectoryError => exact Nat.le_of_lt (hfile.stage_lt _ _)
  -- from here on nothing is wrong with the file
  have read {other : ConfigError} {path' : String} (chosen' : env.Chooses path') : ¬ other.OfFile files path' :=
    fun hfile => hfile.not_holds file (chosen.unique chosen' ▸ holds)
  rcases Settings.ofEnvironment_eq_error_iff.1 hown with ⟨s, isSet, unread, rfl⟩ | ⟨tcpPorts, s, isSet, unread, rfl⟩
  · refine ⟨.tcpPort isSet unread, fun other arises => ?_⟩
    cases arises with
    | file chosen' hfile => exact absurd hfile (read chosen')
    | tcpPort => exact Nat.le_refl 2
    | onDirectoryError => exact Nat.le_succ 2
  · refine ⟨.onDirectoryError isSet unread, fun other arises => ?_⟩
    cases arises with
    | file chosen' hfile => exact absurd hfile (read chosen')
    | tcpPort isSet' unread' =>
      obtain ⟨n, hn⟩ := tcpPorts _ isSet'
      exact absurd hn (unread' n)
    | onDirectoryError => exact Nat.le_refl 3

/-- From the file, the environment and the defaults comes either a configuration or the first error. -/
theorem precedence (files : Files) (env : Environment) : Precedence files env where
  loaded_iff := by
    rw [← Settings.exists_ofEnvironment_iff]
    simp only [load_eq_ok_iff]
    constructor
    · rintro ⟨config, path, file, chosen, holds, own, hown, -⟩
      exact ⟨⟨path, file, chosen, holds⟩, own, hown⟩
    · rintro ⟨⟨path, file, chosen, holds⟩, own, hown⟩
      exact ⟨_, path, file, chosen, holds, own, hown, rfl⟩
  composed config h := by
    obtain ⟨path, file, chosen, holds, own, hown, rfl⟩ := load_eq_ok_iff.1 h
    exact ⟨path, file, chosen, holds, Settings.composed_of_ofEnvironment hown file⟩
  failed_iff e := by
    refine ⟨arises_of_load, fun ⟨arises, first⟩ => ?_⟩
    cases hload : load files env with
    | ok config => exact absurd arises (not_arises_of_load hload e)
    | error reported =>
      obtain ⟨arises', first'⟩ := arises_of_load hload
      rw [arises.eq_of_stage_eq arises' (Nat.le_antisymm (first _ arises') (first' _ arises))]

end Config

end SubjectMerge
