/-! UTF-8 read byte by byte. The reader never looks ahead: between two bytes it is at the start of a
character or inside one, and a byte that does not belong ends the character begun and is read again
as a first byte. Strict and lenient decoding are two views of what it finds. -/

namespace SubjectMerge.Text

/-- What the bytes hold, in order: a character, `size` bytes that begin none, or an end in the midst
of one after `size` bytes. -/
inductive Utf8Item where
  | char (c : Char)
  | bad (size : Nat)
  | cut (size : Nat)
  deriving DecidableEq, Repr

/-- Between two bytes: at the start of a character, or inside one with `seen` bytes read, `owed` to
come, the next from `low` to `high`, and `code` gathered so far. -/
inductive Utf8State where
  | start
  | inside (seen owed low high code : Nat)
  deriving DecidableEq, Repr

/-- Reads a first byte. The bounds on the second leave out overlong forms, surrogates and codes above
U+10FFFF. -/
def Utf8State.first (byte : Nat) : Utf8State × List Utf8Item :=
  if byte < 0x80 then (.start, [.char (Char.ofNat byte)])
  else if byte < 0xc2 then (.start, [.bad 1])
  else if byte < 0xe0 then (.inside 1 1 0x80 0xbf (byte - 0xc0), [])
  else if byte = 0xe0 then (.inside 1 2 0xa0 0xbf 0, [])
  else if byte = 0xed then (.inside 1 2 0x80 0x9f 0xd, [])
  else if byte < 0xf0 then (.inside 1 2 0x80 0xbf (byte - 0xe0), [])
  else if byte = 0xf0 then (.inside 1 3 0x90 0xbf 0, [])
  else if byte < 0xf4 then (.inside 1 3 0x80 0xbf (byte - 0xf0), [])
  else if byte = 0xf4 then (.inside 1 3 0x80 0x8f 4, [])
  else (.start, [.bad 1])

def Utf8State.next (byte : Nat) : Utf8State → Utf8State × List Utf8Item
  | .start => first byte
  | .inside seen owed low high code =>
    if low ≤ byte ∧ byte ≤ high then
      let code := code * 64 + (byte - 0x80)
      if owed = 1 then (.start, [.char (Char.ofNat code)])
      else (.inside (seen + 1) (owed - 1) 0x80 0xbf code, [])
    else
      let (state, items) := first byte
      (state, .bad seen :: items)

def Utf8State.items : Utf8State → List UInt8 → List Utf8Item
  | .start, [] => []
  | .inside seen _ _ _ _, [] => [.cut seen]
  | state, byte :: rest =>
    let (state, found) := state.next byte.toNat
    found ++ state.items rest

def utf8Items (bytes : List UInt8) : List Utf8Item := Utf8State.start.items bytes

/-- The first fault of a text: it follows `index` sound bytes, and takes `size` bytes or runs into the
end. -/
structure Utf8Fault where
  index : Nat
  size : Option Nat
  deriving DecidableEq, Repr

def Utf8Fault.message (fault : Utf8Fault) : String :=
  match fault.size with
  | some size => s!"invalid utf-8 sequence of {size} bytes from index {fault.index}"
  | none => s!"incomplete utf-8 byte sequence from index {fault.index}"

/-- All characters, or the first fault. -/
def strictChars (index : Nat) : List Utf8Item → Except Utf8Fault (List Char)
  | [] => .ok []
  | .char c :: rest => (strictChars (index + c.utf8Size) rest).map (c :: ·)
  | .bad size :: _ => .error ⟨index, some size⟩
  | .cut _ :: _ => .error ⟨index, none⟩

def decodeUtf8 (bytes : List UInt8) : Except Utf8Fault String :=
  (strictChars 0 (utf8Items bytes)).map String.ofList

/-- Each fault becomes one replacement character. -/
def lenientChar : Utf8Item → Char
  | .char c => c
  | .bad _ | .cut _ => '\ufffd'

def decodeUtf8Lenient (bytes : List UInt8) : String :=
  String.ofList ((utf8Items bytes).map lenientChar)

def encodeUtf8 (s : String) : List UInt8 := s.toList.flatMap String.utf8EncodeChar

end SubjectMerge.Text
