/-!
# Double precision numbers, exactly

A finite double is a sign, a significand below `2 ^ 53` and a power of two. All arithmetic is done on natural numbers:
`Binary64.ofQuotient` rounds a fraction to the nearest double, a half to the even neighbour, and every other operation
rounds an exact result through it.
-/

namespace ModelApi

/-- The finite double `± significand · 2 ^ exponent`. The significand is below `2 ^ 53`, and it is at least `2 ^ 52`
unless the exponent is the least one. -/
structure Binary64 where
  negative : Bool
  significand : Nat
  exponent : Int
  deriving DecidableEq, Repr

namespace Binary64

/-- The exponent of the numbers nearest to zero. -/
def leastExponent : Int := -1074

/-- The exponent of the largest numbers. -/
def greatestExponent : Int := 971

/-- Zero with a sign. -/
def zero (negative : Bool) : Binary64 := ⟨negative, 0, leastExponent⟩

def isZero (x : Binary64) : Bool := x.significand == 0

/-- A fraction times a power of two. -/
def timesTwoPow (num den : Nat) (e : Int) : Nat × Nat :=
  if 0 ≤ e then (num * Nat.pow 2 e.toNat, den) else (num, den * Nat.pow 2 (-e).toNat)

/-- A fraction times a power of ten. -/
def timesTenPow (num den : Nat) (e : Int) : Nat × Nat :=
  if 0 ≤ e then (num * Nat.pow 10 e.toNat, den) else (num, den * Nat.pow 10 (-e).toNat)

/-- The whole number nearest to a fraction, a half to the even neighbour. -/
def roundDiv (num den : Nat) : Nat :=
  let q := num / den
  let r := num % den
  if 2 * r < den then q else if den < 2 * r then q + 1 else if q % 2 = 0 then q else q + 1

/-- The largest `k` with `2 ^ k` not above a positive fraction. -/
def floorLog2 (num den : Nat) : Int :=
  let k : Int := (num.log2 : Int) - den.log2
  let (n, d) := timesTwoPow num den (-k)
  if d ≤ n then k else k - 1

/-- The double nearest to `± num / den`, a half to the even neighbour; none when it is beyond the largest double. -/
def ofQuotient (negative : Bool) (num den : Nat) : Option Binary64 :=
  if num = 0 then some (zero negative)
  else
    let e := max (floorLog2 num den - 52) leastExponent
    let (n, d) := timesTwoPow num den (-e)
    let s := roundDiv n d
    let (s, e) := if s = Nat.pow 2 53 then (Nat.pow 2 52, e + 1) else (s, e)
    if greatestExponent < e then none else some ⟨negative, s, e⟩

/-- The magnitude as a fraction. -/
def toQuotient (x : Binary64) : Nat × Nat := timesTwoPow x.significand 1 x.exponent

/-- The product with a positive number, rounded. -/
def mul (x y : Binary64) : Option Binary64 :=
  let (a, b) := x.toQuotient
  let (c, d) := y.toQuotient
  ofQuotient x.negative (a * c) (b * d)

/-- The quotient by a positive number, rounded; it is never beyond the largest double when `y` is at least one. -/
def div (x y : Binary64) : Option Binary64 :=
  let (a, b) := x.toQuotient
  let (c, d) := y.toQuotient
  ofQuotient x.negative (a * d) (b * c)

/-- The power of ten, rounded. -/
def tenPow (k : Nat) : Binary64 := (ofQuotient false (Nat.pow 10 k) 1).getD (zero false)

/-- The largest power of ten that is a double after rounding. -/
def greatestTenPow : Nat := 308

/-- Divides by the largest power of ten as often as asked, and stops at zero. -/
def divRepeatedly (x : Binary64) : Nat → Option Binary64
  | 0 => some x
  | n + 1 => if x.isZero then some x else (x.div (tenPow greatestTenPow)).bind (divRepeatedly · n)

/-- `x · 10 ^ e`, by one multiplication or by divisions through powers of ten that are themselves rounded. -/
def scale (x : Binary64) (e : Int) : Option Binary64 :=
  if 0 ≤ e then
    if e ≤ greatestTenPow then x.mul (tenPow e.toNat) else if x.isZero then some x else none
  else
    let steps := ((-e).toNat - 1) / greatestTenPow
    (x.divRepeatedly steps).bind fun y =>
      if y.isZero then some y else y.div (tenPow ((-e).toNat - steps * greatestTenPow))

end Binary64

end ModelApi
