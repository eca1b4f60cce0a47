import SubjectMerge.Text.Blank
import SubjectMerge.Text.GraphemeExtend
import SubjectMerge.Text.Unprintable

/-! A text between double quotes for an error message: every character that a reader could not see
or tell apart is written as its code. -/

namespace SubjectMerge.Text

/-- The halfwidth voiced and semi-voiced sound marks, which have a width of their own. -/
def isSoundMark (c : Char) : Bool := c == '\uff9e' || c == '\uff9f'

/-- Marks from U+0300 on that are drawn into the character before them. -/
def extendsGrapheme (c : Char) : Bool := inRanges graphemeExtendRanges c.toNat && !isSoundMark c

/-- The Hangul fillers: letters by their category, though nothing is drawn for them. -/
def isFiller (c : Char) : Bool := ['\u115f', '\u1160', '\u3164', '\uffa0'].contains c

def isPrintable (c : Char) : Bool := !inRanges unprintableRanges c.toNat && !isFiller c

/-- The code in lower-case hexadecimal without leading zeros. -/
def codeEscape (c : Char) : List Char := ['\\', 'u', '{'] ++ Nat.toDigits 16 c.toNat ++ ['}']

/-- An apostrophe stays as it is. -/
def quotedChar (c : Char) : List Char :=
  match c with
  | '\x00' => ['\\', '0']
  | '\t' => ['\\', 't']
  | '\n' => ['\\', 'n']
  | '\r' => ['\\', 'r']
  | '"' => ['\\', '"']
  | '\\' => ['\\', '\\']
  | c => if extendsGrapheme c || !isPrintable c then codeEscape c else [c]

def quoted (s : String) : String :=
  String.ofList (['"'] ++ s.toList.flatMap quotedChar ++ ['"'])

end SubjectMerge.Text
