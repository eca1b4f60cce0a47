/-! A placeholder token as it is written: a name between brackets, with an upper-case marker before or
after it and a text to fall back on. The body of a token, what stands between its brackets, has one
reading: the name runs to the first marker character, and a last `!` is always the marker. -/

namespace SubjectMerge

structure Token where
  /-- The marker `!` before the name. -/
  lead : Bool
  name : List Char
  /-- What follows the `?`; it may be empty. -/
  fallback : Option (List Char)
  /-- The marker `!` before the closing bracket. -/
  tail : Bool
  deriving DecidableEq, Repr

namespace Token

def isBracket (c : Char) : Bool := c == '[' || c == ']'

def isNameChar (c : Char) : Bool := !isBracket c && c != '?' && c != '!'

def marker (present : Bool) : List Char := if present then ['!'] else []

def fallbackChars : Option (List Char) → List Char
  | none => []
  | some text => '?' :: text

def body (token : Token) : List Char :=
  marker token.lead ++ token.name ++ fallbackChars token.fallback ++ marker token.tail

def chars (token : Token) : List Char := '[' :: (token.body ++ [']'])

/-- The token as it stands in a subject, brackets included. -/
def literal (token : Token) : String := String.ofList token.chars

/-- Either marker asks for capitals. -/
def uppercase (token : Token) : Bool := token.lead || token.tail

/-- The token whose body is `lead` and `name` followed by `rest`. -/
def ofRest? (lead : Bool) (name rest : List Char) : Option Token :=
  match rest with
  | [] => some ⟨lead, name, none, false⟩
  | '!' :: [] => some ⟨lead, name, none, true⟩
  | '?' :: text =>
    if text.getLast? = some '!' then some ⟨lead, name, some text.dropLast, true⟩
    else some ⟨lead, name, some text, false⟩
  | _ => none

/-- A body after its leading marker. -/
def ofUnled? (lead : Bool) (body : List Char) : Option Token :=
  match body.takeWhile isNameChar with
  | [] => none
  | c :: name => ofRest? lead (c :: name) (body.dropWhile isNameChar)

/-- Reads a body without brackets; it is a token's unless the name is missing or something other than
a fallback or one marker follows the name. -/
def ofBody? (body : List Char) : Option Token :=
  match body with
  | '!' :: rest => ofUnled? true rest
  | rest => ofUnled? false rest

end Token

end SubjectMerge
