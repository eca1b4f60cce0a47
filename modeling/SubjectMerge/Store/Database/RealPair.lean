import SubjectMerge.Store.Database.Real

/-! Numbers of about twice the double precision: the sum of two reals, of which the second is what the
first lacks. A decimal is scaled to its power of ten in them and only then rounded to one real. -/

namespace SubjectMerge

structure RealPair where
  high : Real64
  low : Real64
  deriving DecidableEq, Repr

namespace RealPair

/-- The nearest real to n/d, and the nearest to their difference. -/
def ofQuotient (n : Int) (d : Nat) : RealPair :=
  let high := Real64.nearest n d
  ⟨high, Real64.nearestUnits (n * Real64.unitsPerOne - high.units * d) d⟩

/-- A significand below 2^64. One that is rounded up to 2^64 is taken for it. -/
def ofSignificand (s : Nat) : RealPair :=
  let x := ofQuotient s 1
  if x.high = Real64.nearest 18446744073709551616 1 then ⟨x.high, .zero⟩ else x

/-- Multiplies the halves of the first reals with one another, and adds what the second reals give to
the first order. -/
def mul? (x y : RealPair) : Option RealPair := do
  let product ← x.high.upper.mul? y.high.upper
  let middle ← (← x.high.upper.mul? y.high.lower).add? (← x.high.lower.mul? y.high.upper)
  let sum ← product.add? middle
  let lost ← (← (← product.sub? sum).add? middle).add? (← x.high.lower.mul? y.high.lower)
  let rest ← (← (← x.high.mul? y.low).add? (← x.low.mul? y.high)).add? lost
  let high ← sum.add? rest
  return ⟨high, ← (← sum.sub? high).add? rest⟩

/-- Ten to a power, or its inverse. -/
def powerOfTen (inverse : Bool) (n : Nat) : RealPair :=
  if inverse then ofQuotient 1 (Nat.pow 10 n) else ofQuotient (Nat.pow 10 n : Nat) 1

/-- The factors by which a power of ten is reached: hundreds of powers first, then tens, then ones. -/
def powersOfTen (exponent : Int) : List RealPair :=
  let n := exponent.natAbs
  let factors (count power : Nat) := List.replicate count (powerOfTen (exponent < 0) power)
  factors (n / 100) 100 ++ factors (n % 100 / 10) 10 ++ factors (n % 10) 1

/-- A number multiplied by a power of ten and rounded, if that is finite. -/
def scale? (x : RealPair) (exponent : Int) : Option Real64 := do
  let x ← (powersOfTen exponent).foldlM mul? x
  x.high.add? x.low

end RealPair

end SubjectMerge
