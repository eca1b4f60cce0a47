import SubjectMerge.Toml.Scalar

/-! Whole TOML documents. Either the text is valid from end to end and gives one tree, or it gives
nothing. -/

namespace SubjectMerge.Toml

/-- Arrays and inline tables nest less deep than this, and no key has as many parts. -/
def depthLimit : Nat := 80

def isBareKeyChar (c : Char) : Bool :=
  isDigit c || ('a' ≤ c && c ≤ 'z') || ('A' ≤ c && c ≤ 'Z') || c == '_' || c == '-'

/-- One part of a key. A quoted part stands on one line. -/
def keyPart : Reader String := fun s =>
  match s with
  | '"' :: s => (lineString '"' true s.length s).map fun (cs, s) => (String.ofList cs, s)
  | '\x27' :: s => (lineString '\x27' false s.length s).map fun (cs, s) => (String.ofList cs, s)
  | s =>
    let part := s.takeWhile isBareKeyChar
    if part.isEmpty then none else some (String.ofList part, s.dropWhile isBareKeyChar)

def keyParts : Nat → Reader (List String)
  | 0, _ => none
  | fuel + 1, s => do
    let (part, s) ← keyPart (skipSpace s)
    match skipSpace s with
    | '.' :: s =>
      let (parts, s) ← keyParts fuel s
      return (part :: parts, s)
    | s => return ([part], s)

/-- A key with the blanks around its parts. -/
def key : Reader (List String) := fun s => do
  let (parts, s) ← keyParts (s.length + 1) s
  if parts.length < depthLimit then return (parts, s) else none

/-- Passes over blanks, line ends and comments between the items of an array. -/
def skipTrivia (inComment : Bool) : List Char → Option (List Char)
  | [] => if inComment then none else some []
  | '\r' :: '\n' :: s => skipTrivia false s
  | c :: s =>
    if c = '\n' then skipTrivia false s
    else if inComment then if isPlain c then skipTrivia true s else none
    else if c = '#' then skipTrivia true s
    else if isSpace c then skipTrivia false s
    else some (c :: s)

/-- The items of an array and its closing bracket; a comma may follow the last item. -/
def arrayItems (item : Reader Node) : Nat → Reader (List Node)
  | 0, _ => none
  | fuel + 1, s => do
    match ← skipTrivia false s with
    | ']' :: s => return ([], s)
    | s =>
      let (node, s) ← item s
      match ← skipTrivia false s with
      | ',' :: s =>
        let (nodes, s) ← arrayItems item fuel s
        return (node :: nodes, s)
      | ']' :: s => return ([node], s)
      | _ => none

/-- The pairs of an inline table and its closing brace; no comma follows the last pair. -/
def inlinePairs (item : Reader Node) : Nat → Table → Reader Table
  | 0, _, _ => none
  | fuel + 1, t, s => do
    let (path, s) ← key s
    let (node, s) ← item (skipSpace (← expect '=' s))
    let t ← t.addValue path.dropLast (path.getLast?.getD "") node
    match skipSpace s with
    | ',' :: s => inlinePairs item fuel t s
    | '}' :: s => return (t, s)
    | _ => none

def keywordNode (word : List Char) (node : Node) (s : List Char) : Option (Node × List Char) :=
  if word.isPrefixOf s then some (node, s.drop word.length) else none

/-- A value; `depth` bounds the nesting that it may still have. -/
def value : Nat → Reader Node
  | depth, s => match s with
    | '"' :: s => (stringRest '"' true s).map fun (text, s) => (.string text, s)
    | '\x27' :: s => (stringRest '\x27' false s).map fun (text, s) => (.string text, s)
    | '[' :: s => match depth with
      | 0 => none
      | depth + 1 =>
        (arrayItems (value depth) (s.length + 1) s).map fun (nodes, s) => (.array nodes, s)
    | '{' :: s => match depth with
      | 0 => none
      | depth + 1 => match skipSpace s with
        | '}' :: s => some (.table { inline := true } [], s)
        | s => (inlinePairs (value depth) (s.length + 1) { origin := { inline := true } } s).map
          fun (t, s) => (t.toNode, s)
    | 't' :: _ => keywordNode ['t', 'r', 'u', 'e'] (.boolean true) s
    | 'f' :: _ => keywordNode ['f', 'a', 'l', 's', 'e'] (.boolean false) s
    | s => (moment s).or (number s)

/-- The end of a line: blanks, a comment, and a line end or the end of the text. -/
def lineEnd (s : List Char) : Option (List Char) :=
  let s := match skipSpace s with
    | '#' :: s => s.dropWhile isPlain
    | s => s
  match s with
  | [] => some []
  | s => newline? s

/-- A line with a key and its value. -/
def keyLine (d : Draft) (s : List Char) : Option (Draft × List Char) := do
  let (path, s) ← key s
  let (node, s) ← value (depthLimit - 1) (skipSpace (← expect '=' s))
  let s ← lineEnd s
  return (← d.addValue path.dropLast (path.getLast?.getD "") node, s)

/-- A header after its first bracket. -/
def headerLine (d : Draft) (s : List Char) : Option (Draft × List Char) := do
  match s with
  | '[' :: s =>
    let (path, s) ← key s
    let s ← lineEnd (← expect ']' (← expect ']' s))
    return (← d.openElement path, s)
  | s =>
    let (path, s) ← key s
    let s ← lineEnd (← expect ']' s)
    return (← d.openTable path, s)

def lines : Nat → Draft → List Char → Option Draft
  | 0, _, _ => none
  | fuel + 1, d, s => match skipSpace s with
    | [] => some d
    | '#' :: s => do lines fuel d (← lineEnd ('#' :: s))
    | '[' :: s => do
      let (d, s) ← headerLine d s
      lines fuel d s
    | s => match newline? s with
      | some s => lines fuel d s
      | none => do
        let (d, s) ← keyLine d s
        lines fuel d s

/-- The entries of a document's top table. A byte order mark at the front is passed over. -/
def parse (text : String) : Option Table := do
  let s := match text.toList with
    | '\ufeff' :: s => s
    | s => s
  (← lines (s.length + 1) {} s).close

end SubjectMerge.Toml
