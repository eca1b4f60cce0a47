import SubjectMerge.Token

/-! The pieces of a text: tokens, and the characters between them. One pass suffices, because a body
holds no bracket: an opening bracket waits until the next bracket, and only a closing one can complete
a token. -/

namespace SubjectMerge

inductive Piece where
  | verbatim (cs : List Char)
  | token (t : Token)
  deriving DecidableEq, Repr

namespace Piece

def chars : Piece → List Char
  | .verbatim cs => cs
  | .token t => t.chars

def token? : Piece → Option Token
  | .verbatim _ => none
  | .token t => some t

/-- What a bracketed body is: a token, or text like any other. -/
def ofBody (body : List Char) : Piece :=
  match Token.ofBody? body with
  | some t => .token t
  | none => .verbatim ('[' :: (body ++ [']']))

end Piece

/-- The pieces of the rest of a text. `opened` is what stands since an opening bracket that no bracket
has followed, last character first. -/
def piecesFrom (opened : Option (List Char)) : List Char → List Piece
  | [] => match opened with
    | none => []
    | some body => [.verbatim ('[' :: body.reverse)]
  | c :: rest => match opened with
    | none =>
      if c = '[' then piecesFrom (some []) rest
      else .verbatim [c] :: piecesFrom none rest
    | some body =>
      if c = '[' then .verbatim ('[' :: body.reverse) :: piecesFrom (some []) rest
      else if c = ']' then Piece.ofBody body.reverse :: piecesFrom none rest
      else piecesFrom (some (c :: body)) rest

def pieces (text : List Char) : List Piece := piecesFrom none text

/-- The tokens of a text in order, repeated ones included. -/
def tokensOf (text : List Char) : List Token := (pieces text).filterMap Piece.token?

end SubjectMerge
