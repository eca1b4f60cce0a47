import SubjectMerge.Store.Database.Cell
import SubjectMerge.Store.Database.File

/-! Tables in a database file: each is a tree of pages whose leaves hold its rows, in the order of their
row numbers. A row that does not fit its page goes on in a chain of others. -/

namespace SubjectMerge.DatabaseFile

/-- A row as it stands in its tree. -/
structure StoredRow where
  number : Int
  cells : List Cell
  deriving DecidableEq, Repr

/-- A number in seven bits of each byte whose highest bit is set and of the one after them; a ninth byte
gives all its bits. Returned with the bytes behind it. -/
def varint (bytes : List UInt8) : Nat × List UInt8 :=
  go 0 8 bytes
where
  go (n : Nat) : Nat → List UInt8 → Nat × List UInt8
    | _, [] => (n, [])
    | 0, byte :: rest => (n * 256 + byte.toNat, rest)
    | more + 1, byte :: rest =>
      if byte < 0x80 then (n * 128 + byte.toNat, rest) else go (n * 128 + (byte.toNat - 0x80)) more rest

/-- A number below 2^(8·length) as a signed one. -/
def signed (length n : Nat) : Int :=
  if n < Nat.pow 256 length / 2 then n else n - (Nat.pow 256 length : Nat)

def lengthOfType (type : Nat) : Nat :=
  match type with
  | 0 | 8 | 9 | 10 | 11 => 0
  | 1 | 2 | 3 | 4 => type
  | 5 => 6
  | 6 | 7 => 8
  | type => (type - 12) / 2

def cellOfType (type : Nat) (bytes : List UInt8) : Cell :=
  match type with
  | 0 | 10 | 11 => .null
  | 7 => ((Real64.ofBits? (valueOf bytes)).map Cell.real).getD .null
  | 8 => .integer 0
  | 9 => .integer 1
  | 1 | 2 | 3 | 4 | 5 | 6 => .integer (signed bytes.length (valueOf bytes))
  | type => if type % 2 = 0 then .blob bytes else .text bytes

def varints : Nat → List UInt8 → List Nat
  | 0, _ | _, [] => []
  | more + 1, bytes =>
    let (n, rest) := varint bytes
    n :: varints more rest

/-- A record begins with its head: the head's length and the type of each cell. -/
def cellsOf (payload : List UInt8) : List Cell :=
  let (headLength, rest) := varint payload
  let head := rest.take (headLength - (payload.length - rest.length))
  let (cells, _) := (varints head.length head).foldl (fun (cells, body) type =>
    (cells ++ [cellOfType type (body.take (lengthOfType type))], body.drop (lengthOfType type)))
    (([] : List Cell), payload.drop headLength)
  cells

/-- The bytes of a page that can be used. -/
def pageBytes (file : List UInt8) (page : Nat) : Except FileFault (List UInt8) :=
  if page = 0 || pages file < page then .error .malformed
  else .ok (slice file ((page - 1) * pageSize file) (usableSize file))

/-- The rest of a row, in a chain of pages that each begin with the number of the next. -/
def chain (file : List UInt8) (page length : Nat) : Nat → Except FileFault (List UInt8)
  | 0 => .ok []
  | more + 1 => do
    if length = 0 then return []
    let bytes ← pageBytes file page
    let here := (bytes.drop 4).take length
    return here ++ (← chain file (number bytes 0 4) (length - here.length) more)

/-- How much of a row stays on its page. -/
def localLength (usable length : Nat) : Nat :=
  let least := (usable - 12) * 32 / 255 - 23
  let some := least + (length - least) % (usable - 4)
  if length ≤ usable - 35 then length else if some ≤ usable - 35 then some else least

def rowAt (file page : List UInt8) (offset : Nat) : Except FileFault StoredRow := do
  let (length, bytes) := varint (page.drop offset)
  let (rowNumber, bytes) := varint bytes
  let here := localLength page.length length
  if bytes.length < here then throw .malformed
  let rest ← chain file (number bytes here 4) (length - here) length
  return ⟨signed 8 rowNumber, cellsOf (bytes.take here ++ rest)⟩

/-- The rows of a tree. Below its root no page may be empty, and none lies deeper than twenty pages. -/
def rowsFrom (file : List UInt8) (root : Nat) : Except FileFault (List StoredRow) :=
  go 20 root
where
  go : Nat → Nat → Except FileFault (List StoredRow)
    | 0, _ => .error .malformed
    | depth + 1, page => do
      let bytes ← pageBytes file page
      let head := if page = 1 then 100 else 0
      let count := number bytes (head + 3) 2
      let offsets (first : Nat) := (List.range count).map fun i => number bytes (head + first + 2 * i) 2
      if (pageSize file - 8) / 6 < count || (count = 0 && page != root) then throw .malformed
      match number bytes head 1 with
      | 0x0d => (offsets 8).mapM fun offset => rowAt file bytes offset
      | 0x05 =>
        let below := (offsets 12).map (fun offset => number bytes offset 4) ++ [number bytes (head + 8) 4]
        return (← below.mapM fun page => go depth page).flatten
      | _ => throw .malformed

end SubjectMerge.DatabaseFile
