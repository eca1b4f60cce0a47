import SubjectMerge.Table
import SubjectMerge.Token.Scan

/-! Subjects and tables: the table that a subject gives against an attribute directory, and the text
that a table makes of a subject. Names are compared by their capitals. Filling in walks the text once,
so a replacement is never read again. -/

namespace SubjectMerge

/-- The first name of the directory with these capitals. -/
def directoryName? (names : List String) (capitals : String) : Option String :=
  names.find? fun name => Text.upper name == capitals

/-- The attribute that a token names, in the directory's spelling. -/
def Token.attribute? (token : Token) (names : List String) : Option String :=
  directoryName? names (Text.upper (String.ofList token.name))

/-- The unbound binding of a token that stands for an attribute. -/
def Token.binding (token : Token) (attributeName : String) : Binding :=
  { attributeName, fallbackText := token.fallback.map String.ofList, uppercase := token.uppercase }

/-- Adds a token of the subject; one that names no attribute leaves the table as it is. -/
def Table.addToken (names : List String) (table : Table) (token : Token) : Table :=
  match token.attribute? names with
  | none => table
  | some name => (table.insert token.literal (token.binding name)).2

def Table.ofSubject (names : List String) (subject : String) : Table :=
  (tokensOf subject.toList).foldl (Table.addToken names) Table.empty

/-- What a table makes of a piece; a token it does not hold stays. -/
def Table.fillPiece (table : Table) : Piece → List Char
  | .verbatim cs => cs
  | .token t => match table.find? t.literal with
    | some binding => binding.replacement.toList
    | none => t.chars

def Table.fillChars (table : Table) (text : List Char) : List Char :=
  (pieces text).flatMap table.fillPiece

def Table.fill (table : Table) (text : String) : String :=
  String.ofList (table.fillChars text.toList)

end SubjectMerge
