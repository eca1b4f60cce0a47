import SubjectMerge.Text.Utf8

/-! Percent-encoding on bytes. A `%` that two hexadecimal digits do not follow stands for itself, and
so does an escape of a byte that the reader was told to keep. -/

namespace SubjectMerge.Text

def hexValue? (byte : UInt8) : Option Nat :=
  let n := byte.toNat
  if 0x30 ≤ n ∧ n ≤ 0x39 then some (n - 0x30)
  else if 0x41 ≤ n ∧ n ≤ 0x46 then some (n - 0x41 + 10)
  else if 0x61 ≤ n ∧ n ≤ 0x66 then some (n - 0x61 + 10)
  else none

/-- The byte that two hexadecimal digits name. -/
def hexPair? (high low : UInt8) : Option UInt8 := do
  let h ← hexValue? high
  let l ← hexValue? low
  return UInt8.ofNat (h * 16 + l)

/-- Resolves every escape except those of bytes in `kept`. -/
def percentDecode (kept : List UInt8) : List UInt8 → List UInt8
  | 0x25 :: high :: low :: rest =>
    match hexPair? high low with
    | some byte =>
      if byte ∈ kept then 0x25 :: percentDecode kept (high :: low :: rest)
      else byte :: percentDecode kept rest
    | none => 0x25 :: percentDecode kept (high :: low :: rest)
  | byte :: rest => byte :: percentDecode kept rest
  | [] => []

/-- Percent-decoding of a text, with the replacement character where the bytes are no UTF-8. -/
def unescape (kept : List UInt8) (s : String) : String :=
  decodeUtf8Lenient (percentDecode kept (encodeUtf8 s))

end SubjectMerge.Text
