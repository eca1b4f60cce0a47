/-! Reals of double precision. The least one above zero divides all of them, so each is held exactly, as
a count of it. Arithmetic rounds to the nearest real and gives none where that would be infinite. A text
shows fifteen digits of a real. -/

namespace SubjectMerge

/-- A real as a count of 2^-1074. -/
structure Real64 where
  units : Int
  deriving DecidableEq, Repr

namespace Real64

def unitsPerOne : Nat := Nat.pow 2 1074

/-- The count that stands for infinity, 2^1024. -/
def infiniteUnits : Nat := Nat.pow 2 2098

def zero : Real64 := ⟨0⟩

def infinity : Real64 := ⟨infiniteUnits⟩

def neg (x : Real64) : Real64 := ⟨-x.units⟩

/-- A quotient rounded to the nearest integer; a half goes to the even one. -/
def roundQuotient (n d : Nat) : Nat :=
  let q := n / d
  let r := n % d
  if d < 2 * r || (d == 2 * r && q % 2 == 1) then q + 1 else q

/-- The number with 53 significant bits that is nearest to n/d units. -/
def nearestUnits (n : Int) (d : Nat) : Real64 :=
  let step := Nat.pow 2 ((n.natAbs / d).log2 - 52)
  ⟨n.sign * (roundQuotient n.natAbs (d * step) * step : Nat)⟩

/-- The number with 53 significant bits that is nearest to n/d. -/
def nearest (n : Int) (d : Nat) : Real64 := nearestUnits (n * unitsPerOne) d

def finite? (x : Real64) : Option Real64 := if x.units.natAbs < infiniteUnits then some x else none

def add? (x y : Real64) : Option Real64 := (nearestUnits (x.units + y.units) 1).finite?

def sub? (x y : Real64) : Option Real64 := x.add? y.neg

def mul? (x y : Real64) : Option Real64 := (nearestUnits (x.units * y.units) unitsPerOne).finite?

/-- The upper 27 of the 53 significant bits. -/
def upper (x : Real64) : Real64 :=
  let step := Nat.pow 2 (x.units.natAbs.log2 - 52 + 26)
  ⟨x.units.sign * (x.units.natAbs / step * step : Nat)⟩

/-- The lower 26 of the 53 significant bits. -/
def lower (x : Real64) : Real64 := ⟨x.units - x.upper.units⟩

/-- The real that 64 bits stand for, a sign, an exponent and a fraction, unless they stand for no number. -/
def ofBits? (bits : Nat) : Option Real64 :=
  let fraction := bits % 4503599627370496
  let exponent := bits / 4503599627370496 % 2048
  let units := if exponent = 0 then fraction
    else (fraction + 4503599627370496) * Nat.pow 2 (exponent - 1)
  let x : Real64 := ⟨units⟩
  if exponent = 2047 && fraction != 0 then none
  else some (if bits < 9223372036854775808 then x else x.neg)

/-- The integer that a real is, strictly between the bounds of 64 bits. -/
def toInteger? (x : Real64) : Option Int :=
  let n := x.units / (unitsPerOne : Int)
  if x.units % (unitsPerOne : Int) == 0 && -9223372036854775808 < n && n < 9223372036854775807 then
    some n
  else none

/-- The power of ten of the first digit of a count above zero. -/
def magnitude (units : Nat) : Int :=
  if unitsPerOne ≤ units then (Nat.toDigits 10 (units / unitsPerOne)).length - 1
  else
    let zeros := (List.range 400).find? fun k => unitsPerOne ≤ units * Nat.pow 10 (k + 1)
    Int.negSucc (zeros.getD 0)

/-- The first fifteen digits of a count above zero as a number, the last of them rounded, and the power of
ten of the first. -/
def fifteenDigits (units : Nat) : Nat × Int :=
  let power := magnitude units
  let n := units * Nat.pow 10 (14 - power).toNat
  let d := unitsPerOne * Nat.pow 10 (power - 14).toNat
  let digits := (2 * n + d) / (2 * d)
  if digits = Nat.pow 10 15 then (Nat.pow 10 14, power + 1) else (digits, power)

/-- Digits behind a point, of which there is one at least. -/
def fractionText (digits : List Char) : String :=
  String.ofList ('.' :: if digits.isEmpty then ['0'] else digits)

/-- A number as it is written with its first digit's power of ten: far from one with an exponent of two
digits or more, and else without. -/
def textOfDigits (digits : List Char) (power : Int) : String :=
  if power < -4 ∨ 14 < power then
    let exponent := toString power.natAbs
    String.ofList (digits.take 1) ++ fractionText (digits.drop 1) ++ (if power < 0 then "e-" else "e+") ++
      (if exponent.length < 2 then "0" else "") ++ exponent
  else if power < 0 then "0" ++ fractionText (List.replicate (power.natAbs - 1) '0' ++ digits)
  else
    let whole := digits.take (power.toNat + 1)
    String.ofList (whole ++ List.replicate (power.toNat + 1 - whole.length) '0') ++
      fractionText (digits.drop (power.toNat + 1))

/-- The text that a real is written as. -/
def toText (x : Real64) : String :=
  let sign := if x.units < 0 then "-" else ""
  if x.units = 0 then "0.0"
  else if infiniteUnits ≤ x.units.natAbs then sign ++ "Inf"
  else
    let (digits, power) := fifteenDigits x.units.natAbs
    sign ++ textOfDigits (((Nat.toDigits 10 digits).reverse.dropWhile (· == '0')).reverse) power

end Real64

end SubjectMerge
