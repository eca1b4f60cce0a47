/-! JSON values and their compact text. -/

namespace SubjectMerge.Json

inductive Value where
  | null
  | flag (b : Bool)
  | number (n : UInt32)
  | text (s : String)
  | list (items : List Value)
  | object (members : List (String × Value))

def hexDigitChar (n : Nat) : Char := Char.ofNat (if n < 10 then 0x30 + n else 0x61 + n - 10)

/-- Quotes, backslashes and the controls below U+0020 are escaped, and nothing else. -/
def escapeChar (c : Char) : List Char :=
  match c with
  | '"' => ['\\', '"']
  | '\\' => ['\\', '\\']
  | '\x08' => ['\\', 'b']
  | '\x0c' => ['\\', 'f']
  | '\n' => ['\\', 'n']
  | '\r' => ['\\', 'r']
  | '\t' => ['\\', 't']
  | c =>
    if c.toNat < 0x20 then
      ['\\', 'u', '0', '0', hexDigitChar (c.toNat / 16), hexDigitChar (c.toNat % 16)]
    else [c]

def writeText (s : String) : List Char := '"' :: (s.toList.flatMap escapeChar ++ ['"'])

namespace Value

mutual

def chars : Value → List Char
  | .null => ['n', 'u', 'l', 'l']
  | .flag true => ['t', 'r', 'u', 'e']
  | .flag false => ['f', 'a', 'l', 's', 'e']
  | .number n => Nat.toDigits 10 n.toNat
  | .text s => writeText s
  | .list items => '[' :: (itemChars items ++ [']'])
  | .object members => '{' :: (memberChars members ++ ['}'])

def itemChars : List Value → List Char
  | [] => []
  | [v] => v.chars
  | v :: w :: rest => v.chars ++ ',' :: itemChars (w :: rest)

def memberChars : List (String × Value) → List Char
  | [] => []
  | [(name, v)] => writeText name ++ ':' :: v.chars
  | (name, v) :: w :: rest => writeText name ++ ':' :: (v.chars ++ ',' :: memberChars (w :: rest))

end

def write (v : Value) : String := String.ofList v.chars

end Value

end SubjectMerge.Json
