import SubjectMerge.Policy
import SubjectMerge.Toml.Node

/-! The service's configuration. A source of settings, be it a file or the environment, gives some of
them and leaves the rest open; sources are laid over one another setting by setting, and defaults fill
what stays open. -/

namespace SubjectMerge

structure Config where
  host : String := "127.0.0.1"
  /-- Where the service listens. -/
  tcpPort : UInt16 := 8080
  databasePath : String := "subscribers.sqlite"
  onDirectoryError : Policy := .failOpen
  deriving DecidableEq, Repr

/-- What one source says; `none` where it is silent. -/
structure Settings where
  host : Option String := none
  tcpPort : Option UInt16 := none
  databasePath : Option String := none
  onDirectoryError : Option Policy := none
  deriving DecidableEq, Repr

namespace Settings

/-- The settings of `upper`, and those of `lower` where it is silent. -/
def or (upper lower : Settings) : Settings where
  host := upper.host.or lower.host
  tcpPort := upper.tcpPort.or lower.tcpPort
  databasePath := upper.databasePath.or lower.databasePath
  onDirectoryError := upper.onDirectoryError.or lower.onDirectoryError

def config (settings : Settings) : Config :=
  let defaults : Config := {}
  { host := settings.host.getD defaults.host
    tcpPort := settings.tcpPort.getD defaults.tcpPort
    databasePath := settings.databasePath.getD defaults.databasePath
    onDirectoryError := settings.onDirectoryError.getD defaults.onDirectoryError }

end Settings

/-! Settings in a TOML document. Keys that name no setting are passed over; a setting of the wrong
kind spoils the whole document. -/

open Toml (Node)

/-- The fields of a group that a node gives, by name or, from an array, by place. A date counts as a
group without any of them. -/
def Toml.Node.fields? (names : List String) : Node → Option (List (String × Node))
  | .table _ entries => some entries
  | .array items => some (names.zip items)
  | .tables elements => some (names.zip elements)
  | .moment => some []
  | _ => none

def Toml.Node.isHollow : Node → Bool
  | .table _ entries => entries.isEmpty
  | .array items => items.isEmpty
  | .tables elements => elements.isEmpty
  | _ => false

def Toml.Node.text? : Node → Option String
  | .string s => some s
  | _ => none

def Toml.Node.tcpPort? : Node → Option UInt16
  | .integer n => if 0 ≤ n ∧ n.toNat < UInt16.size then some (UInt16.ofNat n.toNat) else none
  | _ => none

/-- The policy with this exact name. -/
def Policy.ofName? (name : String) : Option Policy :=
  match name with
  | "fail_open" => some .failOpen
  | "surface" => some .surface
  | _ => none

/-- A policy is its name, or the one key of a table that holds nothing more. -/
def Toml.Node.policy? : Node → Option Policy
  | .string name => Policy.ofName? name
  | .table _ [(name, content)] => if content.isHollow then Policy.ofName? name else none
  | _ => none

/-- One setting among entries: none if no entry has the key, and no answer at all if its node cannot be
read. -/
def readSetting? {α : Type} (read : Node → Option α) (key : String) (entries : List (String × Node)) :
    Option (Option α) :=
  match entries.lookup key with
  | none => some none
  | some node => (read node).map some

def serverFields : List String := ["host", "port"]

def storeFields : List String := ["database_path"]

def Settings.ofEntries? (entries : List (String × Node)) : Option Settings := do
  let server ← readSetting? (Toml.Node.fields? serverFields) "server" entries
  let store ← readSetting? (Toml.Node.fields? storeFields) "store" entries
  return {
    host := ← readSetting? Toml.Node.text? "host" (server.getD [])
    tcpPort := ← readSetting? Toml.Node.tcpPort? "port" (server.getD [])
    databasePath := ← readSetting? Toml.Node.text? "database_path" (store.getD [])
    onDirectoryError := ← readSetting? Toml.Node.policy? "on_directory_error" entries }

end SubjectMerge
