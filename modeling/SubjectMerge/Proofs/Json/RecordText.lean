import Mathlib.Data.List.Forall2
import SubjectMerge.Proofs.Json.Grammar

/-! The texts that a lenient reader takes for a record. An object holds the fields in any order and once each, and
may hold members of other names with any values; a list holds the fields in their order. The text of a list or a
record that holds others is told by what its items and fields may be, so that leniency goes all the way down.

Beside them stand the beginnings of texts that no reader takes, because an object in them has a field for the second
time. Up to there all is as it should be, and what comes after does not matter. -/

namespace SubjectMerge.Json

/-- What is told of the texts for the values of a type. -/
structure Texts (α : Type) where
  /-- The texts that give a value. -/
  Gives : α → List Char → Prop
  /-- The beginnings of texts in which an object has a field twice. -/
  Doubled : List Char → Prop

namespace Texts

/-! Single values. -/

def text : Texts String where
  Gives s text := ∃ spelling, Spells spelling s.toList ∧ text = '"' :: (spelling ++ ['"'])
  Doubled _ := False

/-- A text that may be missing. -/
def optionalText : Texts (Option String) where
  Gives
    | none, text => text = ['n', 'u', 'l', 'l']
    | some s, text => Texts.text.Gives s text
  Doubled _ := False

def flag : Texts Bool where
  Gives b text := text = if b then ['t', 'r', 'u', 'e'] else ['f', 'a', 'l', 's', 'e']
  Doubled _ := False

/-! Lists. One has a field twice if some of its items are as they should be and the next has it twice. -/

variable {α : Type}

def list (item : Texts α) : Texts (List α) where
  Gives as text := ∃ (blank : Blanks) (items : List Padded),
    List.Forall₂ (fun a part => item.Gives a part.inner) as items ∧
      text = '[' :: (inside blank (items.map Padded.chars) ++ [']'])
  Doubled text := ∃ (as : List α) (items : List Padded) (ahead : Blanks) (last : List Char),
    List.Forall₂ (fun a part => item.Gives a part.inner) as items ∧ item.Doubled last ∧
      text = '[' :: (followed (items.map Padded.chars) ++ (ahead.chars ++ last))

end Texts

/-! Records. -/

/-- A member with the name that its label spells. -/
structure Named extends Member where
  name : String
  spells : Spells label name.toList

/-- What a record's text may say for one of its fields. -/
structure Part where
  name : String
  Gives : List Char → Prop
  Doubled : List Char → Prop
  /-- An object may leave the field out, -/
  Absent : Prop := False
  /-- and a list may end before it. -/
  Trailing : Prop := False

/-- A field that must be there. -/
def Part.required {α : Type} (name : String) (texts : Texts α) (a : α) : Part :=
  { name, Gives := texts.Gives a, Doubled := texts.Doubled }

def Part.optionalText (name : String) (s : Option String) (trailing : Bool) : Part :=
  { Part.required name .optionalText s with Absent := s = none, Trailing := trailing = true ∧ s = none }

/-- A member of a field's name gives the field its value, and one of another name holds any value. -/
structure Fits (parts : List Part) (m : Named) : Prop where
  known : ∀ part ∈ parts, m.name = part.name → part.Gives m.value.inner
  unknown : (∀ part ∈ parts, m.name ≠ part.name) → ValueText m.value.inner

/-- Members that fit, with none that comes twice for a field. -/
structure Begins (parts : List Part) (members : List Named) : Prop where
  fits : ∀ m ∈ members, Fits parts m
  once : ∀ part ∈ parts, (members.map Named.name).count part.name ≤ 1

inductive RecordText (parts : List Part) : List Char → Prop where
  | object (blank : Blanks) (members : List Named) (begins : Begins parts members)
      (present : ∀ part ∈ parts, part.Absent ∨ part.name ∈ members.map Named.name) :
      RecordText parts ('{' :: (inside blank (members.map fun m => m.chars) ++ ['}']))
  | list (blank : Blanks) (items : List Padded) {taken left : List Part} (parts_eq : parts = taken ++ left)
      (gives : List.Forall₂ (fun part item => part.Gives item.inner) taken items)
      (trailing : ∀ part ∈ left, part.Trailing) :
      RecordText parts ('[' :: (inside blank (items.map Padded.chars) ++ [']']))

inductive RecordDoubled (parts : List Part) : List Char → Prop where
  /-- An object has a field that it has had already. -/
  | repeated (members : List Named) (begins : Begins parts members) {part : Part} (mem : part ∈ parts)
      (met : part.name ∈ members.map Named.name) (before : Blanks) {label : List Char}
      (spells : Spells label part.name.toList) :
      RecordDoubled parts ('{' :: (followed (members.map fun m => m.chars) ++ (before.chars ++ '"' :: (label ++ ['"']))))
  /-- Within the value of a field there is such an object. -/
  | member (members : List Named) (begins : Begins parts members) {part : Part} (mem : part ∈ parts)
      (fresh : part.name ∉ members.map Named.name) (before : Blanks) {label : List Char}
      (spells : Spells label part.name.toList) (behind ahead : Blanks) {text : List Char}
      (doubled : part.Doubled text) :
      RecordDoubled parts ('{' :: (followed (members.map fun m => m.chars) ++
        (nameChars before label behind ++ (ahead.chars ++ text))))
  | item (items : List Padded) {taken left : List Part} {part : Part} (parts_eq : parts = taken ++ part :: left)
      (gives : List.Forall₂ (fun part item => part.Gives item.inner) taken items) (ahead : Blanks)
      {text : List Char} (doubled : part.Doubled text) :
      RecordDoubled parts ('[' :: (followed (items.map Padded.chars) ++ (ahead.chars ++ text)))

/-- Records of these fields. -/
def Texts.record {α : Type} (parts : α → List Part) : Texts α where
  Gives a text := RecordText (parts a) text
  Doubled text := ∃ a, RecordDoubled (parts a) text

end SubjectMerge.Json
