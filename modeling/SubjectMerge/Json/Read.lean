import SubjectMerge.Json.Skip
import SubjectMerge.Json.Value

/-! Reading JSON values of a wanted kind. A record may be written as an object, its members in any
order and among others, or as the list of its fields in their order. A fault is reported where reading
meets it, so a wrong kind early in the text wins over bad text after it. -/

namespace SubjectMerge.Json

/-- The fault of a value that is not of the wanted kind: words and numbers and strings are read to
their end first, and what goes wrong there comes first. -/
def wrongKind (s : List Char) : Fault :=
  let after {α : Type} : Except Fault α → Fault
    | .ok _ => .mistyped
    | .error fault => fault
  match s with
  | [] => .truncated
  | 'n' :: s => after (keyword ['u', 'l', 'l'] s)
  | 't' :: s => after (keyword ['r', 'u', 'e'] s)
  | 'f' :: s => after (keyword ['a', 'l', 's', 'e'] s)
  | '"' :: s => after (stringRest s)
  | '[' :: _ | '{' :: _ => .mistyped
  | c :: s => if c == '-' || isDigit c then after (number (c :: s)) else .malformed

def readText : Reader Value := fun s =>
  match skipSpace s with
  | '"' :: s => (stringRest s).map fun (text, s) => (.text text, s)
  | s => .error (wrongKind s)

def readNull : Reader Value := fun s =>
  match skipSpace s with
  | 'n' :: s => (keyword ['u', 'l', 'l'] s).map fun s => (.null, s)
  | s => .error (wrongKind s)

def readOptionalText : Reader Value := fun s =>
  match skipSpace s with
  | 'n' :: s => (keyword ['u', 'l', 'l'] s).map fun s => (.null, s)
  | s => readText s

def readFlag : Reader Value := fun s =>
  match skipSpace s with
  | 't' :: s => (keyword ['r', 'u', 'e'] s).map fun s => (.flag true, s)
  | 'f' :: s => (keyword ['a', 'l', 's', 'e'] s).map fun s => (.flag false, s)
  | s => .error (wrongKind s)

/-- An integer from 0 to 2³² - 1 without sign, fraction and exponent. -/
def readUInt32 : Reader Value := fun s =>
  match skipSpace s with
  | c :: s =>
    if c == '-' || isDigit c then do
      match ← number (c :: s) with
      | (.natural n, s) => if n < UInt32.size then .ok (.number (UInt32.ofNat n), s) else .error .mistyped
      | (.other, _) => .error .mistyped
    else .error (wrongKind (c :: s))
  | [] => .error .truncated

/-! Lists. -/

/-- Goes on to the next item of a list, if there is one, or past the closing bracket. -/
def nextItem? (first : Bool) (s : List Char) : Except Fault (Bool × List Char) :=
  match skipSpace s with
  | [] => .error .truncated
  | ']' :: s => .ok (false, s)
  | ',' :: s =>
    if first then .ok (true, ',' :: s)
    else match skipSpace s with
      | [] => .error .truncated
      | ']' :: _ => .error .malformed
      | s => .ok (true, s)
  | s => if first then .ok (true, s) else .error .malformed

def readItems (item : Reader Value) : Nat → Bool → Reader (List Value)
  | 0, _, _ => .error .truncated
  | fuel + 1, first, s => do
    match ← nextItem? first s with
    | (false, s) => .ok ([], s)
    | (true, s) =>
      let (v, s) ← item s
      let (vs, s) ← readItems item fuel false s
      .ok (v :: vs, s)

def readList (item : Reader Value) : Reader Value := fun s =>
  match skipSpace s with
  | '[' :: s => (readItems item (s.length + 1) true s).map fun (vs, s) => (.list vs, s)
  | s => .error (wrongKind s)

/-! Records. -/

structure Field where
  name : String
  read : Reader Value
  /-- An object may leave the field out; it is null then. -/
  optional : Bool := false
  /-- A list may end before the field; it is null then. -/
  trailing : Bool := false

/-- Goes on to the next member of an object, past the quote that opens its name, if there is one, or
past the closing brace. -/
def nextMember? (first : Bool) (s : List Char) : Except Fault (Bool × List Char) :=
  match skipSpace s with
  | [] => .error .truncated
  | '}' :: s => .ok (false, s)
  | '"' :: s => if first then .ok (true, s) else .error .malformed
  | ',' :: s =>
    if first then .error .malformed
    else match skipSpace s with
      | [] => .error .truncated
      | '"' :: s => .ok (true, s)
      | _ => .error .malformed
  | _ => .error .malformed

def colon (s : List Char) : Except Fault (List Char) :=
  match skipSpace s with
  | [] => .error .truncated
  | ':' :: s => .ok s
  | _ => .error .malformed

/-- Reads the members of an object. `known` holds the fields met so far; one met again is a fault
before its value is looked at. -/
def readMembers (fields : List Field) : Nat → Bool → List (String × Value) →
    Reader (List (String × Value))
  | 0, _, _, _ => .error .truncated
  | fuel + 1, first, known, s => do
    match ← nextMember? first s with
    | (false, s) => .ok (known, s)
    | (true, s) =>
      let (name, s) ← stringRest s
      match fields.find? fun field => field.name == name with
      | none =>
        let s ← skipValue (← colon s)
        readMembers fields fuel false known s
      | some field =>
        if (known.lookup name).isSome then .error .mistyped
        else
          let (v, s) ← field.read (← colon s)
          readMembers fields fuel false ((name, v) :: known) s

/-- The fields in their order; a missing one is a fault unless it is optional. -/
def arrange (fields : List Field) (known : List (String × Value)) : Except Fault (List Value) :=
  fields.mapM fun field => match known.lookup field.name with
    | some v => .ok v
    | none => if field.optional then .ok .null else .error .mistyped

/-- The end of a list that holds all it may. -/
def closeList (s : List Char) : Except Fault (List Char) :=
  match skipSpace s with
  | [] => .error .truncated
  | ']' :: s => .ok s
  | _ => .error .malformed

/-- Reads the fields of a record from a list. -/
def readInOrder : List Field → Bool → Reader (List Value)
  | [], _, s => (closeList s).map fun s => ([], s)
  | field :: fields, first, s => do
    match ← nextItem? first s with
    | (false, s) =>
      if (field :: fields).all Field.trailing then
        .ok ((field :: fields).map fun _ => .null, s)
      else .error .mistyped
    | (true, s) =>
      let (v, s) ← field.read s
      let (vs, s) ← readInOrder fields false s
      .ok (v :: vs, s)

def readRecord (fields : List Field) : Reader Value := fun s =>
  match skipSpace s with
  | '{' :: s => do
    let (known, s) ← readMembers fields (s.length + 1) true [] s
    let vs ← arrange fields known
    .ok (.list vs, s)
  | '[' :: s => do
    let (vs, s) ← readInOrder fields true s
    .ok (.list vs, s)
  | s => .error (wrongKind s)

/-- Reads a text that holds one value and blanks. -/
def readWhole (read : Reader Value) (text : String) : Except Fault Value := do
  let (v, s) ← read text.toList
  if (skipSpace s).isEmpty then .ok v else .error .malformed

end SubjectMerge.Json
