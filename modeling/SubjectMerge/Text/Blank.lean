/-! White space in the sense of the property White_Space, and cutting it off both ends of a text. -/

namespace SubjectMerge.Text

/-- First and last code of each range of White_Space, in rising order. -/
def blankRanges : List (Nat × Nat) := [
    (0x0009, 0x000d), (0x0020, 0x0020), (0x0085, 0x0085), (0x00a0, 0x00a0), (0x1680, 0x1680),
    (0x2000, 0x200a), (0x2028, 0x2029), (0x202f, 0x202f), (0x205f, 0x205f), (0x3000, 0x3000)]

def inRanges (ranges : List (Nat × Nat)) (code : Nat) : Bool :=
  ranges.any fun range => range.1 ≤ code && code ≤ range.2

def isBlank (c : Char) : Bool := inRanges blankRanges c.toNat

def trimChars (cs : List Char) : List Char :=
  ((cs.dropWhile isBlank).reverse.dropWhile isBlank).reverse

def trim (s : String) : String := String.ofList (trimChars s.toList)

/-- Lower case for the letters of ASCII alone. -/
def asciiLower (s : String) : String := String.ofList (s.toList.map Char.toLower)

end SubjectMerge.Text
