import SubjectMerge.Store.Database.Table

/-! The statement that made a table, as the directory of a database file keeps it: the columns with their
types and constraints, and the keys of the table. -/

namespace SubjectMerge.DatabaseFile

inductive Word where
  | bare (text : String)
  | quoted (text : String)
  /-- A bracket or a comma. -/
  | mark (c : Char)
  deriving DecidableEq, Repr

/-- The word as a keyword, which knows no case. What is quoted is none. -/
def Word.keyword : Word → String
  | .bare text => foldCase text
  | _ => ""

/-- The text of a name. -/
def Word.text? : Word → Option String
  | .bare text | .quoted text => some text
  | .mark _ => none

/-- The state between two characters of a statement. -/
structure WordScan where
  words : List Word := []
  word : List Char := []
  /-- What closes the quoted text that is being read. -/
  closing : Option Char := none

def WordScan.cut (scan : WordScan) : WordScan :=
  if scan.word.isEmpty then scan
  else { scan with words := scan.words ++ [.bare (String.ofList scan.word)], word := [] }

def WordScan.next (scan : WordScan) (c : Char) : WordScan :=
  match scan.closing with
  | some closing =>
    if c = closing then
      { words := scan.words ++ [.quoted (String.ofList scan.word)], word := [], closing := none }
    else { scan with word := scan.word ++ [c] }
  | none => match c with
    | '"' | '\x60' | '\x27' => { scan.cut with closing := some c }
    | '[' => { scan.cut with closing := some ']' }
    | '(' | ')' | ',' => { scan.cut with words := scan.cut.words ++ [.mark c] }
    | c => if c.isWhitespace then scan.cut else { scan with word := scan.word ++ [c] }

def wordsOf (statement : String) : List Word := (statement.toList.foldl WordScan.next {}).cut.words

/-- The parts between brackets, cut at the commas that stand in no further brackets. -/
def declarations (words : List Word) : List (List Word) :=
  let body := (words.dropWhile (· != .mark '(')).drop 1
  let (_, part, parts) := body.foldl (fun (depth, part, parts) word =>
    match depth, word with
    | 0, _ => (0, part, parts)
    | 1, .mark ',' => (1, [], parts ++ [part])
    | depth, .mark ')' => (depth - 1, if depth = 1 then part else part ++ [word], parts)
    | depth, .mark '(' => (depth + 1, part ++ [word], parts)
    | depth, word => (depth, part ++ [word], parts))
    (1, ([] : List Word), ([] : List (List Word)))
  parts ++ [part]

/-- What may begin the constraints of a column, behind its type. -/
def columnConstraints : List String := ["constraint", "primary", "not", "null", "unique", "check", "default",
  "collate", "references", "generated", "as"]

/-- What begins a constraint of the table in the place of a column. -/
def tableConstraints : List String := ["constraint", "primary", "unique", "check", "foreign"]

/-- Whether a part stands somewhere in a list. -/
def isWithin {α : Type} [BEq α] (part : List α) : List α → Bool
  | [] => part.isEmpty
  | a :: as => part.isPrefixOf (a :: as) || isWithin part as

/-- Whether the keywords stand one behind the other in a declaration. -/
def mentions (keywords : List String) (words : List Word) : Bool :=
  isWithin keywords (words.map Word.keyword)

def isTableConstraint (words : List Word) : Bool :=
  words.head?.any fun word => tableConstraints.contains word.keyword

/-- The affinity that the words of a type ask for. -/
def affinityOf (type : List Word) : Affinity :=
  let text := (type.filterMap Word.text?).flatMap fun text => (foldCase text).toList
  let asks (part : String) : Bool := isWithin part.toList text
  if asks "int" then .integer
  else if asks "char" || asks "clob" || asks "text" then .text
  else if text.isEmpty || asks "blob" then .blob
  else if asks "real" || asks "floa" || asks "doub" then .real
  else .numeric

/-- The value that stands behind `DEFAULT`, if it is written out. -/
def initialOf (constraints : List Word) : Cell :=
  match (constraints.dropWhile fun word => word.keyword != "default").drop 1 with
  | .quoted text :: _ => .ofString text
  | .bare text :: _ => ((Decimal.ofBytes? (Text.encodeUtf8 text)).map Cell.ofDecimal).getD .null
  | _ => .null

/-- The words of a column's type, and its constraints. -/
def cutType (words : List Word) : List Word × List Word :=
  words.span fun word => !columnConstraints.contains word.keyword

def column? : List Word → Option Column
  | [] => none
  | name :: words => do
    if isTableConstraint (name :: words) then none
    let (type, constraints) := cutType words
    let affinity := affinityOf type
    return { name := ← name.text?, affinity, required := mentions ["not", "null"] constraints,
             initial := affinity.store (initialOf constraints) }

/-- The names between the brackets of a constraint. -/
def namesOf (constraint : List Word) : List String :=
  ((declarations constraint).filterMap fun part => part.head?.bind Word.text?).map foldCase

/-- The keys that a declaration gives. One column of the type INTEGER that is the primary key numbers the
rows. -/
def keysOf (integers : List String) (words : List Word) : List Key :=
  let ofPrimary (names : List String) (isNumber : Bool) : Key :=
    match names with
    | [name] => if isNumber && integers.contains name then .number name else .unique names
    | names => .unique names
  if isTableConstraint words then
    if mentions ["primary", "key"] words then [ofPrimary (namesOf words) true]
    else if mentions ["unique"] words then [.unique (namesOf words)]
    else []
  else match words.head?.bind Word.text? with
    | none => []
    | some name =>
      let name := foldCase name
      let constraints := (cutType words.tail).2
      (if mentions ["primary", "key"] constraints then
        [ofPrimary [name] (!mentions ["primary", "key", "desc"] constraints)] else []) ++
        if mentions ["unique"] constraints then [.unique [name]] else []

/-- The columns of just the type INTEGER. -/
def integerColumns (declared : List (List Word)) : List String :=
  (declared.filter fun words =>
    !isTableConstraint words && (cutType words.tail).1.map Word.keyword == ["integer"]).filterMap fun words =>
      (words.head?.bind Word.text?).map foldCase

/-- An empty table as a statement declares it. -/
def tableOf (statement : String) : DataTable :=
  let declared := declarations (wordsOf statement)
  ⟨declared.filterMap column?, declared.flatMap (keysOf (integerColumns declared)), .ok []⟩

end SubjectMerge.DatabaseFile
