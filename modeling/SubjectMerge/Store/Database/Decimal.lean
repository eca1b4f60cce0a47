import SubjectMerge.Store.Database.RealPair

/-! Decimals in texts: an optional sign, digits with or without a point, and an optional exponent, with
any blanks around them. -/

namespace SubjectMerge

structure Decimal where
  negative : Bool
  significand : Nat
  /-- The power of ten that the significand is multiplied by. -/
  exponent : Int
  /-- Neither a point nor an exponent is written. -/
  isWhole : Bool
  deriving DecidableEq, Repr

/-- Tabs, line ends and spaces. -/
def isBlankByte (byte : UInt8) : Bool := byte == 0x20 || (0x09 ≤ byte && byte ≤ 0x0d)

def trimBytes (bytes : List UInt8) : List UInt8 :=
  ((bytes.dropWhile isBlankByte).reverse.dropWhile isBlankByte).reverse

def isDigitByte (byte : UInt8) : Bool := 0x30 ≤ byte && byte ≤ 0x39

def digitOf (byte : UInt8) : Nat := byte.toNat - 0x30

namespace Decimal

/-- Whether a number is negative, and its text without the sign. -/
def cutSign : List UInt8 → Bool × List UInt8
  | 0x2d :: bytes => (true, bytes)
  | 0x2b :: bytes => (false, bytes)
  | bytes => (false, bytes)

/-- A significand from here on takes no more digits, so that it stays below 2^64. -/
def fullSignificand : Nat := 1844674407370955160

/-- Takes digits into a significand until it is full; gives it with the number of digits taken. -/
def takeDigits (significand : Nat) (digits : List UInt8) : Nat × Nat :=
  digits.foldl (fun (s, taken) byte =>
    if s < fullSignificand then (s * 10 + digitOf byte, taken + 1) else (s, taken)) (significand, 0)

/-- The significand of the digits before and after a point, and its power of ten. -/
def ofDigits (whole fraction : List UInt8) : Nat × Int :=
  let (s, takenWhole) := takeDigits 0 whole
  let (s, takenFraction) := takeDigits s fraction
  (s, whole.length - takenWhole - takenFraction)

/-- What may follow the significand: nothing, or a power of ten with at least one digit. One above 99999
counts as 10000. -/
def exponent? : List UInt8 → Option Int
  | [] => some 0
  | mark :: bytes =>
    let (negative, digits) := cutSign bytes
    if (mark == 0x65 || mark == 0x45) && !digits.isEmpty && digits.all isDigitByte then
      let n := digits.foldl (fun n byte => n * 10 + digitOf byte) 0
      let n : Int := if n ≤ 99999 then n else 10000
      some (if negative then -n else n)
    else none

/-- Reads a text that is a decimal as a whole. A point may be the first or the last of its digits. -/
def ofBytes? (bytes : List UInt8) : Option Decimal :=
  let (negative, bytes) := cutSign (trimBytes bytes)
  let whole := bytes.takeWhile isDigitByte
  let rest := bytes.dropWhile isDigitByte
  let (fraction, rest') := match rest with
    | 0x2e :: bytes => (bytes.takeWhile isDigitByte, bytes.dropWhile isDigitByte)
    | _ => ([], rest)
  if whole.isEmpty && fraction.isEmpty then none
  else (exponent? rest').map fun exponent =>
    let (significand, shift) := ofDigits whole fraction
    { negative, significand, exponent := exponent + shift, isWhole := rest.isEmpty }

/-- Moves powers of ten into a significand while it stays below 2^64. -/
def absorb (s : Nat) : Nat → Nat × Nat
  | 0 => (s, 0)
  | power + 1 => if s < 1844674407370954956 then absorb (s * 10) power else (s, power + 1)

/-- Takes the zeros at the end of a significand against negative powers of ten. -/
def cutZeros (s : Nat) : Nat → Nat × Nat
  | 0 => (s, 0)
  | power + 1 => if s % 10 = 0 then cutZeros (s / 10) power else (s, power + 1)

/-- The same number with its power of ten as near to zero as it can be. -/
def balance (s : Nat) (exponent : Int) : Nat × Int :=
  if exponent < 0 then
    let (s, power) := cutZeros s exponent.natAbs
    (s, -power)
  else
    let (s, power) := absorb s exponent.natAbs
    (s, power)

/-- The number as a real, mostly the nearest one. -/
def toReal (d : Decimal) : Real64 :=
  if d.significand = 0 then .zero
  else
    let (s, exponent) := balance d.significand d.exponent
    let x := ((RealPair.ofSignificand s).scale? exponent).getD .infinity
    if d.negative then x.neg else x

/-- The integer that is written, where it is one of 64 bits written without a point and an exponent. -/
def toInteger? (d : Decimal) : Option Int :=
  let n : Int := if d.negative then -d.significand else d.significand
  if d.isWhole && d.exponent == 0 && -9223372036854775808 ≤ n && n ≤ 9223372036854775807 then some n
  else none

end Decimal

end SubjectMerge
