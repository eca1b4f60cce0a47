import SubjectMerge.Registry

/-! A store that answers from a script, to rehearse failures and campaigns that change during a
lookup. -/

namespace SubjectMerge

/-- What a script does to the registry in the middle of the next lookup. -/
inductive Interruption where
  | finish (id : String)
  | start (id subject : String)
  deriving DecidableEq, Repr

structure ScriptedStore where
  names : List String := []
  recipients : Keyed Values := .empty
  directoryDown : Bool := false
  valuesDown : Bool := false
  idsDown : Bool := false
  /-- Every lookup breaks off. -/
  crashes : Bool := false
  /-- Recipients whose lookup fails. -/
  failFor : List String := []
  interruption : Option Interruption := none

namespace ScriptedStore

def lookUp (script : ScriptedStore) (recipient : String) : Lookup :=
  if script.crashes then .crashed "scripted"
  else if script.valuesDown || script.failFor.contains recipient then
    .failed (.unavailable "values offline")
  else .found ((script.recipients.get? recipient).getD .empty)

def store (script : ScriptedStore) : Store where
  names :=
    if script.directoryDown then .error (.unavailable "directory offline") else .ok script.names
  ids :=
    if script.idsDown then .error (.unavailable "recipients offline")
    else .ok (script.recipients.keys.mergeSort fun a b => decide (a ≤ b))
  lookUp := script.lookUp

/-- An interruption starts its campaign under `failOpen` whatever the registry's own policy. -/
def interrupt (script : ScriptedStore) (registry : Registry) : Registry :=
  match script.interruption with
  | none => registry
  | some (.finish id) => registry.erase id
  | some (.start id subject) =>
    match registry.start .failOpen script.store id subject with
    | .ok (_, registry) => registry
    | .error _ => registry

def surroundings (script : ScriptedStore) : Surroundings where
  store := script.store
  meanwhile := script.interrupt

/-- The script after a request that made so many lookups: an interruption happens once. -/
def afterLookups (script : ScriptedStore) (lookups : Nat) : ScriptedStore :=
  if lookups = 0 then script else { script with interruption := none }

/-- A recipient with new values, or removed. -/
def setRecipient (script : ScriptedStore) (id : String) (values : Option Values) : ScriptedStore :=
  { script with recipients := match values with
      | some values => script.recipients.insert id values
      | none => script.recipients.erase id }

end ScriptedStore

end SubjectMerge
