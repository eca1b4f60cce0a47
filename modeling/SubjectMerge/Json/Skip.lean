import SubjectMerge.Json.Lexical

/-! Passing over a JSON value of any kind and depth without keeping it. -/

namespace SubjectMerge.Json

mutual

/-- Passes over one value; `fuel` bounds the number of calls. -/
def skipFrom : Nat → List Char → Except Fault (List Char)
  | 0, _ => .error .truncated
  | fuel + 1, s => match skipSpace s with
    | [] => .error .truncated
    | 'n' :: s => keyword ['u', 'l', 'l'] s
    | 't' :: s => keyword ['r', 'u', 'e'] s
    | 'f' :: s => keyword ['a', 'l', 's', 'e'] s
    | '"' :: s => skipStringRest s
    | '-' :: s => skipUnsigned s
    | '[' :: s => match skipSpace s with
      | ']' :: s => .ok s
      | s => skipItems fuel s
    | '{' :: s => match skipSpace s with
      | '}' :: s => .ok s
      | s => skipMembers fuel s
    | c :: s => if isDigit c then skipUnsigned (c :: s) else .error .malformed

/-- Passes over the items of a list and its closing bracket. -/
def skipItems : Nat → List Char → Except Fault (List Char)
  | 0, _ => .error .truncated
  | fuel + 1, s => do
    match skipSpace (← skipFrom fuel s) with
    | [] => .error .truncated
    | ',' :: s => skipItems fuel s
    | ']' :: s => .ok s
    | _ => .error .malformed

/-- Passes over the members of an object and its closing brace. -/
def skipMembers : Nat → List Char → Except Fault (List Char)
  | 0, _ => .error .truncated
  | fuel + 1, s => match skipSpace s with
    | [] => .error .truncated
    | '"' :: s => do
      match skipSpace (← skipStringRest s) with
      | [] => .error .truncated
      | ':' :: s =>
        match skipSpace (← skipFrom fuel s) with
        | [] => .error .truncated
        | ',' :: s => skipMembers fuel s
        | '}' :: s => .ok s
        | _ => .error .malformed
      | _ => .error .malformed
    | _ => .error .malformed

end

/-- Passes over one value. Each character is met by at most two calls. -/
def skipValue (s : List Char) : Except Fault (List Char) := skipFrom (2 * s.length + 2) s

end SubjectMerge.Json
