import SubjectMerge.Store.Error

/-! Database files as bytes: pages of one size, of which the first begins with a header of a hundred
bytes. What the header says decides whether the file can be read and changed. -/

namespace SubjectMerge.DatabaseFile

/-- The number that bytes stand for, the highest first. -/
def valueOf (bytes : List UInt8) : Nat := bytes.foldl (fun n byte => n * 256 + byte.toNat) 0

/-- Bytes from an offset on. Past its end a file reads as zeros. -/
def slice (file : List UInt8) (offset length : Nat) : List UInt8 :=
  ((file.drop offset).take length ++ List.replicate length 0).take length

/-- The number written from an offset on. -/
def number (file : List UInt8) (offset length : Nat) : Nat := valueOf (slice file offset length)

/-- The text `SQLite format 3` and a zero byte. -/
def magic : List UInt8 := Text.encodeUtf8 "SQLite format 3\x00"

def pageSizes : List Nat := [512, 1024, 2048, 4096, 8192, 16384, 32768, 65536]

/-- The higher of its two bytes comes first, but 65536 is written as if it came last. -/
def pageSize (file : List UInt8) : Nat := number file 16 1 * 256 + number file 17 1 * 65536

/-- A page without the bytes that are reserved at its end. -/
def usableSize (file : List UInt8) : Nat := pageSize file - number file 20 1

/-- How many pages the file's length makes, the last of which may be cut short. -/
def filePages (file : List UInt8) : Nat := (file.length + pageSize file - 1) / pageSize file

/-- The number of pages that the header gives, if it was written along with the last change, and else the
file's own. -/
def pages (file : List UInt8) : Nat :=
  let given := number file 28 4
  if given = 0 || number file 24 4 != number file 92 4 then filePages file else given

/-- The fault for which the header makes a file unreadable. -/
def headerFault? (file : List UInt8) : Option FileFault :=
  if file.take 16 != magic || 2 < number file 19 1 || number file 21 3 != 0x402020 ||
    !pageSizes.contains (pageSize file) then some .notDatabase
  else if filePages file < pages file then some .malformed
  else if usableSize file < 480 then some .notDatabase
  else if 4 < number file 47 1 then some .unsupportedFormat
  else none

/-- The length of all free blocks from one on, each of which names the next, at a higher offset. -/
def freeBlocks? (file : List UInt8) (usable block : Nat) : Option Nat :=
  if usable < block + 4 then none
  else
    let next := number file block 2
    let length := number file (block + 2) 2
    if block + length + 3 < next then (freeBlocks? file usable next).map (length + ·)
    else if next = 0 && block + length ≤ usable then some length
    else none
termination_by usable - block

/-- Whether the first page tells right how much of it is free, as long as no table is entered there: what
comes before its contents, and what its free blocks and fragments take of them. An entry takes ten bytes,
and where so many are free they come before the contents or in a block. -/
def isSpaceRight (file : List UInt8) : Bool :=
  let contents := match number file 105 2 with
    | 0 => 65536
    | n => n
  let block := number file 101 2
  let blocks? := if block = 0 then some 0
    else if block < contents then none
    else freeBlocks? file (usableSize file) block
  match blocks? with
  | none => false
  | some blocks =>
    let free := contents + blocks + number file 107 1
    108 ≤ free && free ≤ usableSize file && (free < 118 || 118 ≤ contents || block != 0)

/-- Whether the list of free pages is shorter than the file and begins inside it. -/
def isFreeListRight (file : List UInt8) : Bool :=
  let length := number file 36 4
  let first := number file 32 4
  length = 0 || (length < pages file && 2 ≤ first && first ≤ pages file)

/-- Every so many pages comes one that maps the pages after it, where the file moves its pages. -/
def isMapPage (file : List UInt8) (page : Nat) : Bool := (page - 2) % (usableSize file / 5 + 1) = 0

/-- Whether a first table may begin on the page after the last that one began on, which a file that moves
its pages gives. It has to be a new page. -/
def isLastRootRight (file : List UInt8) : Bool :=
  let last := number file 52 4
  let next := if isMapPage file (last + 1) then last + 2 else last + 1
  last = 0 || (last ≤ pages file && pages file < next)

/-- The fault that keeps all changes from a readable file. -/
def changeFault? (file : List UInt8) (hasTables : Bool) : Option FileFault :=
  if 2 < number file 18 1 then some .readOnly
  else if isFreeListRight file && (hasTables || (isSpaceRight file && isLastRootRight file)) then none
  else some .malformed

end SubjectMerge.DatabaseFile
