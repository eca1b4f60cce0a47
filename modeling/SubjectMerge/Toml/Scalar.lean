import SubjectMerge.Toml.Node

/-! The scalars of TOML, read from the front of a text. A reader gives nothing back where no scalar of
its kind stands. -/

namespace SubjectMerge.Toml

abbrev Reader (α : Type) := List Char → Option (α × List Char)

def isSpace (c : Char) : Bool := c == ' ' || c == '\t'

def skipSpace (s : List Char) : List Char := s.dropWhile isSpace

/-- A line feed, or a carriage return with one. -/
def newline? : List Char → Option (List Char)
  | '\n' :: s => some s
  | '\r' :: '\n' :: s => some s
  | _ => none

/-- What comments and strings may hold as it is: no control but the tab. -/
def isPlain (c : Char) : Bool := c == '\t' || (0x20 ≤ c.toNat && c != '\x7f')

def isDigit (c : Char) : Bool := '0' ≤ c && c ≤ '9'

def isHexDigit (c : Char) : Bool := isDigit c || ('a' ≤ c && c ≤ 'f') || ('A' ≤ c && c ≤ 'F')

def digitValue (c : Char) : Nat :=
  if isDigit c then c.toNat - '0'.toNat
  else if 'a' ≤ c then c.toNat - 'a'.toNat + 10
  else c.toNat - 'A'.toNat + 10

def numeral (base : Nat) (digits : List Char) : Nat :=
  digits.foldl (fun n d => n * base + digitValue d) 0

/-! Strings. -/

/-- A character given by so many hexadecimal digits. -/
def codeEscape (count : Nat) (s : List Char) : Option (Char × List Char) :=
  let digits := s.take count
  if digits.length = count ∧ digits.all isHexDigit then
    let code := numeral 16 digits
    if code < 0xd800 ∨ (0xe000 ≤ code ∧ code < 0x110000) then some (Char.ofNat code, s.drop count)
    else none
  else none

/-- An escape after its backslash. -/
def escape : Reader Char
  | 'b' :: s => some ('\x08', s)
  | 'f' :: s => some ('\x0c', s)
  | 'n' :: s => some ('\n', s)
  | 'r' :: s => some ('\r', s)
  | 't' :: s => some ('\t', s)
  | '"' :: s => some ('"', s)
  | '\\' :: s => some ('\\', s)
  | 'u' :: s => codeEscape 4 s
  | 'U' :: s => codeEscape 8 s
  | _ => none

/-- The rest of a string on one line, its closing quote included; with `escapes` a backslash begins
an escape. `fuel` bounds the characters read. -/
def lineString (quote : Char) (escapes : Bool) : Nat → Reader (List Char)
  | 0, _ => none
  | _, [] => none
  | fuel + 1, c :: s =>
    if c = quote then some ([], s)
    else if escapes && c == '\\' then do
      let (e, s) ← escape s
      let (cs, s) ← lineString quote escapes fuel s
      return (e :: cs, s)
    else if isPlain c then do
      let (cs, s) ← lineString quote escapes fuel s
      return (c :: cs, s)
    else none

/-- Blanks and line ends. -/
def skipBlankLines : List Char → List Char
  | '\r' :: '\n' :: s => skipBlankLines s
  | c :: s => if isSpace c || c == '\n' then skipBlankLines s else c :: s
  | [] => []

/-- The rest of a string on several lines. Up to two quotes before the three that close it belong to
it; a backslash at the end of a line takes the blanks up to the next text with it. -/
def blockString (quote : Char) (escapes : Bool) : Nat → Reader (List Char)
  | 0, _ => none
  | _, [] => none
  | fuel + 1, c :: s =>
    let go (front : List Char) (s : List Char) : Option (List Char × List Char) := do
      let (cs, s) ← blockString quote escapes fuel s
      return (front ++ cs, s)
    if c = quote then
      if s.take 2 = [quote, quote] then
        let extra := ((s.drop 2).take 2).takeWhile (· == quote)
        some (extra, (s.drop 2).drop extra.length)
      else go [quote] s
    else if escapes && c == '\\' then
      match newline? (skipSpace s) with
      | some s => go [] (skipBlankLines s)
      | none => do
        let (e, s) ← escape s
        go [e] s
    else match newline? (c :: s) with
      | some s => go ['\n'] s
      | none => if isPlain c then go [c] s else none

/-- The rest of a string after its first quote. -/
def stringRest (quote : Char) (escapes : Bool) (s : List Char) : Option (String × List Char) := do
  let (cs, s) ←
    if s.take 2 = [quote, quote] then
      let body := s.drop 2
      blockString quote escapes s.length ((newline? body).getD body)
    else lineString quote escapes s.length s
  return (String.ofList cs, s)

/-! Numbers. -/

/-- Digits after a first one; an underscore stands only between two digits. -/
def moreDigits (ok : Char → Bool) : Reader (List Char)
  | [] => some ([], [])
  | '_' :: s => match s with
    | c :: s => if ok c then (moreDigits ok s).map fun (cs, s) => (c :: cs, s) else none
    | [] => none
  | c :: s =>
    if ok c then (moreDigits ok s).map fun (cs, s) => (c :: cs, s) else some ([], c :: s)

def digits (ok : Char → Bool) : Reader (List Char)
  | c :: s => if ok c then (moreDigits ok s).map fun (cs, s) => (c :: cs, s) else none
  | [] => none

/-- Decimal digits without a leading zero. -/
def wholePart : Reader (List Char)
  | '0' :: s => some (['0'], s)
  | s => digits isDigit s

/-- Whether a decimal is beyond every double-precision number. -/
def isInfinite (significand : Nat) (exponent : Int) : Bool :=
  let limit := Nat.pow 2 1024 - Nat.pow 2 970
  let magnitude : Int := (Nat.toDigits 10 significand).length + exponent
  significand != 0 && (310 < magnitude || (307 < magnitude &&
    if 0 ≤ exponent then limit ≤ significand * Nat.pow 10 exponent.toNat
    else limit * Nat.pow 10 (-exponent).toNat ≤ significand))

def takeSign : List Char → Option Bool × List Char
  | '+' :: s => (some false, s)
  | '-' :: s => (some true, s)
  | s => (none, s)

/-- An exponent, if one stands here. -/
def exponentPart (s : List Char) : Option (Option Int × List Char) :=
  match s with
  | c :: rest =>
    if c == 'e' || c == 'E' then do
      let (sign, rest) := takeSign rest
      let (ds, rest) ← digits isDigit rest
      let n : Int := numeral 10 ds
      return (some (if sign = some true then -n else n), rest)
    else some (none, s)
  | [] => some (none, s)

/-- An integer must fit 64 bits with sign. -/
def integerNode (n : Int) : Option Node :=
  if -9223372036854775808 ≤ n ∧ n ≤ 9223372036854775807 then some (.integer n) else none

/-- A number with a fraction or an exponent may be too large only on the negative side. -/
def floatNode (negative : Bool) (significand : Nat) (exponent : Int) : Option Node :=
  if !negative && isInfinite significand exponent then none else some .float

/-- A decimal number after its sign. -/
def decimal (negative : Bool) : Reader Node := fun s => do
  let (whole, s) ← wholePart s
  match s with
  | '.' :: fraction =>
    let (places, s) ← digits isDigit fraction
    let (exponent, s) ← exponentPart s
    let node ← floatNode negative (numeral 10 (whole ++ places)) (exponent.getD 0 - places.length)
    return (node, s)
  | s =>
    let (exponent, s) ← exponentPart s
    match exponent with
    | some exponent => return (← floatNode negative (numeral 10 whole) exponent, s)
    | none =>
      let n : Int := numeral 10 whole
      return (← integerNode (if negative then -n else n), s)

def based (base : Nat) (ok : Char → Bool) : Reader Node := fun s => do
  let (ds, s) ← digits ok s
  return (← integerNode (numeral base ds), s)

def number : Reader Node := fun s =>
  match s with
  | '0' :: 'x' :: s => based 16 isHexDigit s
  | '0' :: 'o' :: s => based 8 (fun c => '0' ≤ c && c ≤ '7') s
  | '0' :: 'b' :: s => based 2 (fun c => c == '0' || c == '1') s
  | s => match takeSign s with
    | (_, 'i' :: 'n' :: 'f' :: s) => some (.float, s)
    | (_, 'n' :: 'a' :: 'n' :: s) => some (.float, s)
    | (sign, s) => decimal (sign = some true) s

/-! Dates and times. -/

/-- Exactly so many decimal digits, of a number between two bounds. -/
def fixedDigits (count low high : Nat) : Reader Nat := fun s =>
  let ds := s.take count
  let n := numeral 10 ds
  if ds.length = count ∧ ds.all isDigit ∧ low ≤ n ∧ n ≤ high then some (n, s.drop count) else none

def expect (c : Char) : List Char → Option (List Char)
  | d :: s => if d = c then some s else none
  | [] => none

def daysIn (year month : Nat) : Nat :=
  if month = 2 then
    if year % 4 = 0 ∧ (year % 100 ≠ 0 ∨ year % 400 = 0) then 29 else 28
  else if month ∈ [4, 6, 9, 11] then 30
  else 31

def date (s : List Char) : Option (List Char) := do
  let (year, s) ← fixedDigits 4 0 9999 s
  let (month, s) ← fixedDigits 2 1 12 (← expect '-' s)
  let (_, s) ← fixedDigits 2 1 (daysIn year month) (← expect '-' s)
  return s

/-- Hours, minutes and seconds, with any fraction of a second. -/
def time (s : List Char) : Option (List Char) := do
  let (_, s) ← fixedDigits 2 0 23 s
  let (_, s) ← fixedDigits 2 0 59 (← expect ':' s)
  let (_, s) ← fixedDigits 2 0 60 (← expect ':' s)
  match s with
  | '.' :: c :: rest => if isDigit c then return rest.dropWhile isDigit else return s
  | s => return s

/-- The distance from universal time, if it stands here. -/
def offset (s : List Char) : Option (List Char) :=
  match s with
  | 'Z' :: s | 'z' :: s => some s
  | '+' :: rest | '-' :: rest => do
    let (_, rest) ← fixedDigits 2 0 23 rest
    let (_, rest) ← fixedDigits 2 0 59 (← expect ':' rest)
    return rest
  | s => some s

/-- A time after a date, if one stands here. -/
def timeAfterDate (s : List Char) : Option (List Char) :=
  match s with
  | c :: rest =>
    if c == 'T' || c == 't' || c == ' ' then
      match time rest with
      | some rest => offset rest
      | none => some s
    else some s
  | [] => some s

/-- A date, a time, or both. -/
def moment : Reader Node := fun s =>
  match date s with
  | some s => (timeAfterDate s).map fun s => (.moment, s)
  | none => (time s).map fun s => (.moment, s)

end SubjectMerge.Toml
