/-! Media types as a Content-Type header gives them: a type, a subtype that may end in a suffix after a
plus sign, and parameters, which are checked and passed over. -/

namespace SubjectMerge.Http

structure MediaType where
  type : String
  /-- The subtype without its suffix. -/
  subtype : String
  suffix : Option String
  deriving DecidableEq, Repr

def isTokenChar (c : Char) : Bool :=
  ('a' ≤ c && c ≤ 'z') || ('A' ≤ c && c ≤ 'Z') || ('0' ≤ c && c ≤ '9') ||
    ['!', '#', '$', '%', '&', '\x27', '*', '+', '-', '.', '^', '_', '\x60', '|', '~'].contains c

/-- What may stand between quotes. -/
def isQuotable (c : Char) : Bool := ' ' ≤ c && c ≤ '~'

/-- Between two characters of a list of parameters. -/
inductive ParameterState where
  /-- Before a name, or at the end of the list. -/
  | start
  | name
  /-- After the equals sign. -/
  | equals
  | value
  /-- After an opening quote. -/
  | opened
  | quoted
  /-- After a closing quote. -/
  | closed
  deriving DecidableEq, Repr

namespace ParameterState

/-- A quoted value holds at least one character, and the first may itself be a quote. -/
def next (c : Char) : ParameterState → Option ParameterState
  | .start => if c = ' ' then some .start else if isTokenChar c then some .name else none
  | .name => if c = '=' then some .equals else if isTokenChar c then some .name else none
  | .equals => if c = '"' then some .opened else if isTokenChar c then some .value else none
  | .value => if c = ';' then some .start else if isTokenChar c then some .value else none
  | .opened => if isQuotable c then some .quoted else none
  | .quoted => if c = '"' then some .closed else if isQuotable c then some .quoted else none
  | .closed => if c = ';' then some .start else if c = ' ' then some .closed else none

/-- Whether a list may end here. A value may be missing. -/
def isEnd : ParameterState → Bool
  | .start | .equals | .value | .closed => true
  | .name | .opened | .quoted => false

end ParameterState

def areParameters (cs : List Char) : Bool :=
  ((cs.foldlM (fun (state : ParameterState) c => state.next c) .start).map
    ParameterState.isEnd).getD false

/-- Cuts a suffix off at the last plus sign. A plus sign in front belongs to the subtype. -/
def cutSuffix (cs : List Char) : List Char × Option (List Char) :=
  if cs.tail.contains '+' then
    let suffix := (cs.reverse.takeWhile (· != '+')).reverse
    (cs.take (cs.length - suffix.length - 1), some suffix)
  else (cs, none)

def MediaType.ofTokens (type subtype : List Char) : MediaType :=
  let (subtype, suffix) := cutSuffix subtype
  ⟨String.ofList type, String.ofList subtype, suffix.map String.ofList⟩

/-- Parameters begin after a semicolon, with no space before it. -/
def MediaType.ofHeader? (header : String) : Option MediaType :=
  let cs := header.toList
  let type := cs.takeWhile isTokenChar
  match cs.dropWhile isTokenChar with
  | '/' :: cs =>
    let subtype := cs.takeWhile isTokenChar
    if type.isEmpty || subtype.isEmpty then none
    else match cs.dropWhile isTokenChar with
      | [] => some (.ofTokens type subtype)
      | ';' :: rest => if areParameters rest then some (.ofTokens type subtype) else none
      | _ => none
  | _ => none

/-- Names of media types know no case. -/
def isJsonName (name : String) : Bool := name.toList.map Char.toLower == ['j', 's', 'o', 'n']

def MediaType.isJson (mediaType : MediaType) : Bool :=
  isJsonName mediaType.subtype || mediaType.suffix.any isJsonName

end SubjectMerge.Http
