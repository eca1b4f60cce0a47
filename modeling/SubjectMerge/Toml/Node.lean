/-! TOML documents as trees, and the rules by which headers and dotted keys build them up. A table
remembers how it came about, because that decides what may still be added to it: one that only a
longer path implied may get its own header once, one made by dotted keys may only be extended by
dotted keys, and one written out is closed to both. -/

namespace SubjectMerge.Toml

/-- How a table came about. -/
structure Origin where
  /-- Written between braces. -/
  inline : Bool := false
  /-- Only the path to something else named it. -/
  implied : Bool := false
  /-- A dotted key made it. -/
  dotted : Bool := false
  deriving DecidableEq, Repr

/-- A value. Of numbers with a fraction and of dates and times only the kind is kept, because nothing
reads them. -/
inductive Node where
  | string (s : String)
  | integer (n : Int)
  | float
  | boolean (b : Bool)
  | moment
  | array (items : List Node)
  /-- The tables under one double-bracketed header. -/
  | tables (elements : List Node)
  | table (origin : Origin) (entries : List (String × Node))

/-- The entries of a table, with its origin. -/
structure Table where
  origin : Origin := {}
  entries : List (String × Node) := []

namespace Table

def toNode (t : Table) : Node := .table t.origin t.entries

def set (t : Table) (key : String) (node : Node) : Table :=
  { t with entries := t.entries.filter (fun e => e.1 != key) ++ [(key, node)] }

def remove (t : Table) (key : String) : Table :=
  { t with entries := t.entries.filter fun e => e.1 != key }

/-- Changes the table at the end of a path and gives back what the change gives. Tables missing on the
way are made, marked as implied; an array of tables stands for its last element. A dotted path may not
lead into a table that was written out. -/
def descend {α : Type} (dotted : Bool) (change : Table → Option (Table × α)) :
    List String → Table → Option (Table × α)
  | [], t => change t
  | key :: path, t => match t.entries.lookup key with
    | none => do
      let (child, a) ← descend dotted change path { origin := ⟨t.origin.inline, true, dotted⟩ }
      return (t.set key child.toNode, a)
    | some (.table origin entries) =>
      if origin.inline != t.origin.inline || (dotted && !origin.implied) then none
      else do
        let (child, a) ← descend dotted change path ⟨origin, entries⟩
        return (t.set key child.toNode, a)
    | some (.tables elements) => match elements.getLast? with
      | some (.table origin entries) => do
        let (child, a) ← descend dotted change path ⟨origin, entries⟩
        return (t.set key (.tables (elements.dropLast ++ [child.toNode])), a)
      | _ => none
    | some _ => none

/-- Adds one key with its value. A key is never given twice, and a path of one key does not extend a
table made by dotted keys. -/
def addValue (path : List String) (key : String) (node : Node) (t : Table) : Option Table :=
  let place (t : Table) : Option (Table × Unit) :=
    if t.origin.dotted == path.isEmpty || (t.entries.lookup key).isSome then none
    else some (t.set key node, ())
  (t.descend (!path.isEmpty) place path).map Prod.fst

end Table

/-- A document while it is read: the finished part, the table whose lines are being read, and where
that table belongs. -/
structure Draft where
  root : Table := {}
  current : Table := {}
  path : List String := []
  /-- The table is an element of an array of tables. -/
  element : Bool := false

namespace Draft

/-- The last key of a path, and the keys before it. -/
def splitLast? (path : List String) : Option (List String × String) :=
  path.getLast?.map fun key => (path.dropLast, key)

/-- Puts the current table where it belongs. -/
def close (d : Draft) : Option Table :=
  match splitLast? d.path with
  | none => some d.current
  | some (parents, key) =>
    let place (parent : Table) : Option (Table × Unit) :=
      match parent.entries.lookup key with
      | none => some (parent.set key d.current.toNode, ())
      | some (.tables elements) =>
        if d.element then some (parent.set key (.tables (elements ++ [d.current.toNode])), ()) else none
      | some _ => none
    (d.root.descend false place parents).map Prod.fst

/-- Opens the table of a header. It may exist already if a longer path implied it, and its entries
stay then. -/
def openTable (path : List String) (d : Draft) : Option Draft := do
  let root ← d.close
  let (parents, key) ← splitLast? path
  let take (parent : Table) : Option (Table × List (String × Node)) :=
    match parent.entries.lookup key with
    | none => some (parent, [])
    | some (.table origin entries) =>
      if origin.implied && !origin.dotted && !origin.inline then some (parent.remove key, entries)
      else none
    | some _ => none
  let (root, entries) ← root.descend false take parents
  return { root, current := { entries }, path, element := false }

/-- Opens the next element of an array of tables. -/
def openElement (path : List String) (d : Draft) : Option Draft := do
  let root ← d.close
  let (parents, key) ← splitLast? path
  let reserve (parent : Table) : Option (Table × Unit) :=
    match parent.entries.lookup key with
    | none => some (parent.set key (.tables []), ())
    | some (.tables _) => some (parent, ())
    | some _ => none
  let (root, ()) ← root.descend false reserve parents
  return { root, current := {}, path, element := true }

def addValue (path : List String) (key : String) (node : Node) (d : Draft) : Option Draft :=
  (d.current.addValue path key node).map fun current => { d with current }

end Draft

end SubjectMerge.Toml
