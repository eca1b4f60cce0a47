import SubjectMerge.Store.Error
import SubjectMerge.Store.Database.Decimal

/-! Database cells: their order, what a column does to a value stored in it, and reading them as text.
A text cell holds bytes, and only reading finds out whether they are UTF-8. -/

namespace SubjectMerge

inductive Cell where
  | null
  | integer (n : Int)
  | real (x : Real64)
  | text (bytes : List UInt8)
  | blob (bytes : List UInt8)
  deriving DecidableEq, Repr

/-- Byte strings in lexicographic order. -/
def compareBytes : List UInt8 → List UInt8 → Ordering
  | [], [] => .eq
  | [], _ :: _ => .lt
  | _ :: _, [] => .gt
  | a :: as, b :: bs => (compare a.toNat b.toNat).then (compareBytes as bs)

namespace Cell

def ofString (s : String) : Cell := .text (Text.encodeUtf8 s)

def kind : Cell → CellKind
  | .null => .null
  | .integer _ => .integer
  | .real _ => .real
  | .text _ => .text
  | .blob _ => .blob

/-- A number in units of a real. -/
def units : Cell → Int
  | .integer n => n * Real64.unitsPerOne
  | .real x => x.units
  | _ => 0

/-- Nulls come first, then numbers, texts and blobs. -/
def rank : Cell → Nat
  | .null => 0
  | .integer _ | .real _ => 1
  | .text _ => 2
  | .blob _ => 3

/-- Numbers are compared exactly, whether integers or reals. -/
def compare : Cell → Cell → Ordering
  | .integer a, .integer b => Ord.compare a b
  | .text a, .text b => compareBytes a b
  | .blob a, .blob b => compareBytes a b
  | a, b => (Ord.compare a.rank b.rank).then (Ord.compare a.units b.units)

def le (a b : Cell) : Bool := a.compare b != .gt

/-- Equality as a query sees it: a null equals nothing. -/
def matchesCell (a b : Cell) : Bool := a != .null && a.compare b == .eq

end Cell

/-- What a column makes of the values stored in it. -/
inductive Affinity where
  | text
  | integer
  | numeric
  | real
  | blob
  deriving DecidableEq, Repr

def Affinity.isNumeric : Affinity → Bool
  | .integer | .numeric | .real => true
  | .text | .blob => false

/-- The number that a decimal stands for, an integer if it can be, and a real if not. -/
def Cell.ofDecimal (d : Decimal) : Cell :=
  match d.toInteger?.or d.toReal.toInteger? with
  | some n => .integer n
  | none => .real d.toReal

/-- Texts that are decimals become numbers, and whole reals integers. -/
def Cell.toNumber : Cell → Cell
  | .text bytes => ((Decimal.ofBytes? bytes).map Cell.ofDecimal).getD (.text bytes)
  | .real x => match x.toInteger? with
    | some n => .integer n
    | none => .real x
  | cell => cell

def Cell.toReal : Cell → Cell
  | .integer n => .real (.nearest n 1)
  | cell => cell

/-- Text columns write numbers out, columns of numbers read decimals, one of reals knows no integers, and a
column without a type keeps what it is given. -/
def Affinity.store : Affinity → Cell → Cell
  | .text, .integer n => .ofString (toString n)
  | .text, .real x => .ofString x.toText
  | .integer, cell | .numeric, cell => cell.toNumber
  | .real, cell => cell.toNumber.toReal
  | _, cell => cell

/-- Reads a selected cell that must be text. -/
def Cell.readText (index : Nat) (column : String) : Cell → Except QueryFault String
  | .text bytes => match Text.decodeUtf8 bytes with
    | .ok s => .ok s
    | .error fault => .error (.badText index fault)
  | cell => .error (.wrongKind cell.kind index column)

/-- Reads a selected cell that is text or null. -/
def Cell.readOptionalText (index : Nat) (column : String) : Cell → Except QueryFault (Option String)
  | .null => .ok none
  | cell => (cell.readText index column).map some

end SubjectMerge
