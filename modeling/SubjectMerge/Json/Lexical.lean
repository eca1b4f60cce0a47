/-! The words of JSON texts, read from the front of what is left: blanks, the three keywords, strings
and numbers. A reader stops at the first fault, and the fault says whether the text ended too early,
is no JSON, or is JSON of another kind than was asked for. -/

namespace SubjectMerge.Json

inductive Fault where
  /-- The text ends too early. -/
  | truncated
  /-- No JSON text goes on like this. -/
  | malformed
  /-- A value of the wrong kind. -/
  | mistyped
  deriving DecidableEq, Repr

/-- Reads from the front of a text and gives the rest back. -/
abbrev Reader (α : Type) := List Char → Except Fault (α × List Char)

def isSpace (c : Char) : Bool := c == ' ' || c == '\n' || c == '\t' || c == '\r'

def skipSpace (s : List Char) : List Char := s.dropWhile isSpace

/-- Passes over the rest of a keyword. -/
def keyword : List Char → List Char → Except Fault (List Char)
  | [], s => .ok s
  | _ :: _, [] => .error .truncated
  | k :: ks, c :: s => if c = k then keyword ks s else .error .malformed

/-! Strings. -/

def hexDigit? (c : Char) : Option Nat :=
  if '0' ≤ c ∧ c ≤ '9' then some (c.toNat - '0'.toNat)
  else if 'a' ≤ c ∧ c ≤ 'f' then some (c.toNat - 'a'.toNat + 10)
  else if 'A' ≤ c ∧ c ≤ 'F' then some (c.toNat - 'A'.toNat + 10)
  else none

def isHighSurrogate (code : Nat) : Bool := 0xd800 ≤ code && code < 0xdc00

def isLowSurrogate (code : Nat) : Bool := 0xdc00 ≤ code && code < 0xe000

/-- The code of a surrogate pair. -/
def pairCode (high low : Nat) : Nat := (high - 0xd800) * 0x400 + (low - 0xdc00) + 0x10000

/-- A code escape takes four bytes, and a text that has fewer left ends too early whatever they are. -/
def fewerThanFourBytes (s : List Char) : Bool := s.foldl (fun n c => n + c.utf8Size) 0 < 4

/-- The character after a backslash that stands for one character. -/
def simpleEscape? : Char → Option Char
  | '"' => some '"'
  | '\\' => some '\\'
  | '/' => some '/'
  | 'b' => some '\x08'
  | 'f' => some '\x0c'
  | 'n' => some '\n'
  | 'r' => some '\r'
  | 't' => some '\t'
  | _ => none

/-- Where the reader stands in a string: in plain text, after a backslash, in a code escape with `left`
digits to come, or between the two escapes of a surrogate pair, before its backslash or its `u`. -/
inductive StringState where
  | plain
  | escaped
  | digits (left code : Nat) (high : Option Nat)
  | beforeSlash (high : Nat)
  | beforeU (high : Nat)
  deriving DecidableEq, Repr

/-- Reads the rest of a string, its closing quote included. With `paired`, surrogates must come in
pairs; without, any four digits do, and only where the string ends is of use. -/
def unquote (paired : Bool) : StringState → Reader (List Char)
  | _, [] => .error .truncated
  | .plain, c :: s =>
    if c = '"' then .ok ([], s)
    else if c = '\\' then unquote paired .escaped s
    else if c.toNat < 0x20 then .error .malformed
    else (unquote paired .plain s).map fun (cs, s) => (c :: cs, s)
  | .escaped, c :: s =>
    if c = 'u' then
      if fewerThanFourBytes s then .error .truncated else unquote paired (.digits 4 0 none) s
    else match simpleEscape? c with
      | some plain => (unquote paired .plain s).map fun (cs, s) => (plain :: cs, s)
      | none => .error .malformed
  | .digits left code high, c :: s => match hexDigit? c with
    | none => .error .malformed
    | some digit =>
      let code := code * 16 + digit
      if left > 1 then unquote paired (.digits (left - 1) code high) s
      else match high with
        | some high =>
          if isLowSurrogate code then
            (unquote paired .plain s).map fun (cs, s) => (Char.ofNat (pairCode high code) :: cs, s)
          else .error .malformed
        | none =>
          if paired && isLowSurrogate code then .error .malformed
          else if paired && isHighSurrogate code then unquote paired (.beforeSlash code) s
          else (unquote paired .plain s).map fun (cs, s) => (Char.ofNat code :: cs, s)
  | .beforeSlash high, c :: s =>
    if c = '\\' then unquote paired (.beforeU high) s else .error .malformed
  | .beforeU high, c :: s =>
    if c = 'u' then
      if fewerThanFourBytes s then .error .truncated else unquote paired (.digits 4 0 (some high)) s
    else .error .malformed

/-- The text of a string whose opening quote has been read. -/
def stringRest : Reader String := fun s =>
  (unquote true .plain s).map fun (cs, s) => (String.ofList cs, s)

def skipStringRest (s : List Char) : Except Fault (List Char) :=
  (unquote false .plain s).map Prod.snd

/-! Numbers. -/

def isDigit (c : Char) : Bool := '0' ≤ c && c ≤ '9'

def digitValue (c : Char) : Nat := c.toNat - '0'.toNat

/-- A number as it was written: an integer without sign that fits 64 bits, or anything else. -/
inductive Number where
  | natural (n : Nat)
  | other
  deriving DecidableEq, Repr

/-- The largest significand that is kept exactly. -/
def significandLimit : Nat := UInt64.size

/-- Takes digits into the significand as long as it fits; the second part counts the ones left over. -/
def takeDigits (significand : Nat) : List Char → Nat × Nat
  | [] => (significand, 0)
  | d :: ds =>
    if significand * 10 + digitValue d < significandLimit then
      takeDigits (significand * 10 + digitValue d) ds
    else (significand, ds.length + 1)

/-- The nearest number with at most 53 binary digits, of two equally near the even one. -/
def round53 (n : Nat) : Nat :=
  let unit := Nat.pow 2 (n.log2 - 52)
  let quotient := n / unit
  let twice := 2 * (n % unit)
  let up := unit < twice || (twice == unit && quotient % 2 == 1)
  (if up then quotient + 1 else quotient) * unit

/-- Whether `significand` times ten to the `exponent` is beyond every double-precision number. -/
def isHuge (significand : Nat) (exponent : Int) : Bool :=
  significand != 0 && (308 < exponent ||
    (0 ≤ exponent &&
      Nat.pow 2 1024 - Nat.pow 2 970 ≤ round53 significand * round53 (Nat.pow 10 exponent.toNat)))

/-- Ends a number that is not kept as an integer. -/
def finishNumber (significand : Nat) (exponent : Int) (s : List Char) :
    Except Fault (Number × List Char) :=
  if isHuge significand exponent then .error .malformed else .ok (.other, s)

/-- Reads an exponent after its letter. -/
def exponentRest (significand : Nat) (exponent : Int) (s : List Char) :
    Except Fault (Number × List Char) :=
  let (negative, s) := match s with
    | '+' :: s => (false, s)
    | '-' :: s => (true, s)
    | s => (false, s)
  match s with
  | [] => .error .truncated
  | c :: rest =>
    if isDigit c then
      let value := ((c :: rest).takeWhile isDigit).foldl (fun n d => n * 10 + digitValue d) 0
      finishNumber significand (if negative then exponent - value else exponent + value)
        (rest.dropWhile isDigit)
    else .error .malformed

def isExponentLetter (c : Char) : Bool := c == 'e' || c == 'E'

/-- Reads a fraction after its point. Digits that no longer fit the significand are dropped. -/
def fractionRest (significand : Nat) (exponent : Int) (s : List Char) :
    Except Fault (Number × List Char) :=
  let digits := s.takeWhile isDigit
  let rest := s.dropWhile isDigit
  if digits.isEmpty then .error (if rest.isEmpty then .truncated else .malformed)
  else
    let (significand, dropped) := takeDigits significand digits
    let exponent := exponent - ((digits.length - dropped : Nat) : Int)
    match rest with
    | c :: after =>
      if isExponentLetter c then exponentRest significand exponent after
      else finishNumber significand exponent rest
    | [] => finishNumber significand exponent rest

/-- Reads a number after its sign. -/
def numberRest (negative : Bool) (s : List Char) : Except Fault (Number × List Char) :=
  match s with
  | [] => .error .truncated
  | c :: rest =>
    if !isDigit c then .error .malformed
    else if c == '0' && (rest.head?.any isDigit) then .error .malformed
    else
      let digits := if c == '0' then [c] else s.takeWhile isDigit
      let after := if c == '0' then rest else s.dropWhile isDigit
      let (significand, dropped) := takeDigits 0 digits
      let whole : Except Fault (Number × List Char) :=
        if dropped = 0 then .ok (if negative then .other else .natural significand, after)
        else finishNumber significand dropped after
      match after with
      | '.' :: fraction => fractionRest significand dropped fraction
      | c :: exponent =>
        if isExponentLetter c then exponentRest significand dropped exponent else whole
      | [] => whole

/-- Reads a number whose value is wanted. -/
def number : Reader Number
  | '-' :: s => numberRest true s
  | s => numberRest false s

/-- Passes over digits, of which there must be one. -/
def skipDigits (s : List Char) : Except Fault (List Char) :=
  if s.head?.any isDigit then .ok (s.dropWhile isDigit) else .error .malformed

def skipExponent (s : List Char) : Except Fault (List Char) :=
  match s with
  | c :: rest =>
    if isExponentLetter c then
      match rest with
      | '+' :: rest | '-' :: rest => skipDigits rest
      | rest => skipDigits rest
    else .ok s
  | [] => .ok s

/-- Passes over a number of any size, its sign left out. -/
def skipUnsigned (s : List Char) : Except Fault (List Char) := do
  let rest ← match s with
    | '0' :: rest => if rest.head?.any isDigit then .error .malformed else .ok rest
    | s => skipDigits s
  match rest with
  | '.' :: fraction => skipExponent (← skipDigits fraction)
  | rest => skipExponent rest

end SubjectMerge.Json
