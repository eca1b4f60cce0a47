import SubjectMerge.Config
import SubjectMerge.Text.Quoted
import SubjectMerge.Text.Utf8
import SubjectMerge.Toml.Document

/-! Loading the configuration: the file that the environment names, and over it the environment's own
settings. A file that is not there says nothing; one that cannot be read, or a setting that cannot be
understood, stops the load. -/

namespace SubjectMerge

/-- What stands at a path. -/
inductive FileState where
  /-- Nothing, or nothing that can be found there: a part of the path may be shut, or no folder. -/
  | absent
  | folder
  /-- A file that the system does not let be read, and why. -/
  | unreadable (reason : String)
  | file (bytes : List UInt8)
  deriving DecidableEq, Repr

/-- What stands at each path, absolute or seen from the working directory. -/
abbrev Files := String → FileState

inductive Variable where
  | config | host | tcpPort | database | onDirectoryError
  deriving DecidableEq, Repr

def Variable.name : Variable → String
  | .config => "SUBJECT_PLACEHOLDERS_CONFIG"
  | .host => "SUBJECT_PLACEHOLDERS_HOST"
  | .tcpPort => "SUBJECT_PLACEHOLDERS_PORT"
  | .database => "SUBJECT_PLACEHOLDERS_DATABASE"
  | .onDirectoryError => "SUBJECT_PLACEHOLDERS_ON_DIRECTORY_ERROR"

/-- What each variable is set to, in bytes. -/
abbrev Environment := Variable → Option (List UInt8)

/-- A variable's text. One that is not UTF-8 counts as unset. -/
def Environment.text? (env : Environment) (v : Variable) : Option String :=
  (env v).bind fun bytes => (Text.decodeUtf8 bytes).toOption

inductive ConfigError where
  /-- The path leads to a folder. -/
  | folder (path : String)
  | unreadable (path reason : String)
  | notText (path : String)
  | malformed (path : String)
  | badVariable (v : Variable) (value : String)
  deriving DecidableEq, Repr

def ConfigError.message : ConfigError → String
  | .folder path => s!"failed to read config file {path}: Is a directory (os error 21)"
  | .unreadable path reason => s!"failed to read config file {path}: {reason}"
  | .notText path => s!"failed to read config file {path}: stream did not contain valid UTF-8"
  | .malformed path => s!"invalid config file {path}"
  | .badVariable v value => s!"invalid value {Text.quoted value} for {v.name}"

def Settings.ofToml? (text : String) : Option Settings := do
  Settings.ofEntries? (← Toml.parse text).entries

def defaultConfigPath : String := "subject_placeholders.toml"

/-- The settings of the file at a path. -/
def Settings.ofFile (files : Files) (path : String) : Except ConfigError Settings :=
  match files path with
  | .absent => .ok {}
  | .folder => .error (.folder path)
  | .unreadable reason => .error (.unreadable path reason)
  | .file bytes => match Text.decodeUtf8 bytes with
    | .error _ => .error (.notText path)
    | .ok text => match Settings.ofToml? text with
      | none => .error (.malformed path)
      | some settings => .ok settings

/-- The number that decimal digits stand for. -/
def decimalValue (digits : List Char) : Nat :=
  digits.foldl (fun n d => n * 10 + (d.toNat - '0'.toNat)) 0

/-- A number of sixteen bits in decimal digits, a plus sign before them allowed. -/
def tcpPortOfText? (s : String) : Option UInt16 :=
  let digits := match s.toList with
    | '+' :: cs => cs
    | cs => cs
  if digits.isEmpty || !digits.all (fun c => '0' ≤ c && c ≤ '9') then none
  else if decimalValue digits < UInt16.size then some (UInt16.ofNat (decimalValue digits))
  else none

/-- A variable's setting, none if it is unset. -/
def Environment.setting {α : Type} (env : Environment) (v : Variable) (read : String → Option α) :
    Except ConfigError (Option α) :=
  match env.text? v with
  | none => .ok none
  | some value => match read value with
    | some a => .ok (some a)
    | none => .error (.badVariable v value)

/-- Of two variables that cannot be understood the first is reported. -/
def Settings.ofEnvironment (env : Environment) : Except ConfigError Settings := do
  let tcpPort ← env.setting .tcpPort tcpPortOfText?
  let onDirectoryError ← env.setting .onDirectoryError Policy.ofText?
  return { host := env.text? .host, tcpPort, databasePath := env.text? .database, onDirectoryError }

def Config.load (files : Files) (env : Environment) : Except ConfigError Config := do
  let file ← Settings.ofFile files ((env.text? .config).getD defaultConfigPath)
  let own ← Settings.ofEnvironment env
  return (own.or file).config

end SubjectMerge
