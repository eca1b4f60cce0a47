import SubjectMerge.Keyed
import SubjectMerge.Text.UpperCase

/-! A campaign's token table: for each token the attribute it stands for and the text that replaces it
for one recipient. Tables built by `insert` hold each token once; one that was read from outside may
repeat a token, and its first entry counts. -/

namespace SubjectMerge

/-- One recipient's attributes. A name may be there without a value. -/
abbrev Values := Keyed (Option String)

/-- The value of an attribute; one that has no row and one whose row is empty both give none. -/
def Values.value? (values : Values) (name : String) : Option String := (values.get? name).join

structure Binding where
  /-- The attribute's name in the directory's spelling. -/
  attributeName : String
  /-- Text for a recipient without a usable value. -/
  fallbackText : Option String
  uppercase : Bool
  /-- The recipient's value; none until values are bound. -/
  resolvedValue : Option String := none
  deriving DecidableEq, Repr

/-- The value of an attribute that was never filled in. -/
def nullSentinel : String := "NULL"

namespace Binding

/-- A usable value is neither missing nor empty nor the sentinel. -/
def hasValue (binding : Binding) : Bool :=
  match binding.resolvedValue with
  | none => false
  | some value => value != "" && value != nullSentinel

/-- What replaces the token before its case is looked at. Without a fallback the sentinel itself goes
out. -/
def plainReplacement (binding : Binding) : String :=
  match binding.fallbackText, binding.hasValue with
  | some fallback, false => fallback
  | _, _ => binding.resolvedValue.getD ""

def replacement (binding : Binding) : String :=
  if binding.uppercase then Text.upper binding.plainReplacement else binding.plainReplacement

/-- The binding with one recipient's value and nothing left of an earlier one. -/
def bind (values : Values) (binding : Binding) : Binding :=
  { binding with resolvedValue := values.value? binding.attributeName }

end Binding

structure Entry where
  token : String
  binding : Binding
  deriving DecidableEq, Repr

structure Table where
  entries : List Entry
  deriving DecidableEq, Repr

namespace Table

def empty : Table := ⟨[]⟩

def isEmpty (table : Table) : Bool := table.entries.isEmpty

def size (table : Table) : Nat := table.entries.length

def tokens (table : Table) : List String := table.entries.map Entry.token

def find? (table : Table) (token : String) : Option Binding :=
  (table.entries.find? fun entry => entry.token == token).map Entry.binding

/-- Adds an entry at the end unless its token is there; the answer tells whether it was added. -/
def insert (table : Table) (token : String) (binding : Binding) : Bool × Table :=
  match table.find? token with
  | some _ => (false, table)
  | none => (true, ⟨table.entries ++ [⟨token, binding⟩]⟩)

def bind (table : Table) (values : Values) : Table :=
  ⟨table.entries.map fun entry => { entry with binding := entry.binding.bind values }⟩

end Table

end SubjectMerge
