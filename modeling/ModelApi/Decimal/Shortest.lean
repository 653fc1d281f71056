import ModelApi.Decimal.Binary64

/-!
# The shortest decimal of a double

Of all decimals that read back as the number, `Binary64.shortest` finds one with the fewest digits, and of those the
nearest. `Binary64.toText` writes it: positional while the first digit stands for a power of ten between `10 ^ -5` and
`10 ^ 15`, with an exponent otherwise, and always with a point or an exponent.
-/

namespace ModelApi.Binary64

/-- Whether `10 ^ t` is not above the fraction. -/
def tenPowLe (t : Int) (num den : Nat) : Bool :=
  let (n, d) := timesTenPow num den (-t)
  d ≤ n

/-- The largest `t` with `10 ^ t` not above a positive fraction, from its binary logarithm. -/
def floorLog10 (num den : Nat) : Int :=
  let t := (floorLog2 num den * 30103).fdiv 100000
  if tenPowLe (t + 1) num den then t + 1 else if tenPowLe t num den then t else t - 1

/-- Whether `d · 10 ^ k` is read as `x`. -/
def readsBack (x : Binary64) (d : Nat) (k : Int) : Bool :=
  let (n, m) := timesTenPow d 1 k
  ofQuotient x.negative n m == some x

/-- Of the two multiples of `10 ^ k` around `x` that read back, the nearer one; the even one when both are as near. -/
def nearestMultiple (x : Binary64) (k : Int) : Option Nat :=
  let (num, den) := x.toQuotient
  let (n, d) := timesTenPow num den (-k)
  let low := n / d
  let nearLow := 2 * (n % d) < d || (2 * (n % d) == d && low % 2 == 0)
  match x.readsBack low k, x.readsBack (low + 1) k with
  | true, true => some (if nearLow then low else low + 1)
  | true, false => some low
  | false, true => some (low + 1)
  | false, false => none

/-- Tries ever more digits, at most `17`, below the power of ten `t` of the first digit. -/
def shortestFrom (x : Binary64) (t : Int) : Nat → Nat × Int
  | 0 => ((nearestMultiple x (t - 16)).getD 0, t - 16)
  | more + 1 =>
    let k := t - (16 - (more + 1 : Nat))
    match nearestMultiple x k with
    | some d => (d, k)
    | none => shortestFrom x t more

/-- Moves the zeros at the end of the digits into the power of ten. -/
def dropZeros : Nat → Nat → Int → Nat × Int
  | 0, d, k => (d, k)
  | fuel + 1, d, k => if d ≠ 0 ∧ d % 10 = 0 then dropZeros fuel (d / 10) (k + 1) else (d, k)

/-- Digits `d` and a power `k` such that `d · 10 ^ k` is read as the number, with as few digits as can be. -/
def shortest (x : Binary64) : Nat × Int :=
  let (num, den) := x.toQuotient
  let (d, k) := shortestFrom x (floorLog10 num den) 16
  dropZeros 20 d k

/-- The decimal exponents that are written without an exponent part. -/
def isPositional (e : Int) : Bool := -5 ≤ e && e ≤ 15

/-- The text of the magnitude of a number other than zero. -/
def magnitudeText (x : Binary64) : String :=
  let (d, k) := x.shortest
  let digits := Nat.toDigits 10 d
  let e : Int := k + digits.length - 1
  if isPositional e then
    if 0 ≤ k then String.ofList (digits ++ List.replicate k.toNat '0') ++ ".0"
    else if 0 ≤ e then
      String.ofList (digits.take (e.toNat + 1)) ++ "." ++ String.ofList (digits.drop (e.toNat + 1))
    else "0." ++ String.ofList (List.replicate (-e - 1).toNat '0' ++ digits)
  else
    let fraction := if digits.length ≤ 1 then "" else "." ++ String.ofList (digits.drop 1)
    String.ofList (digits.take 1) ++ fraction ++ "e" ++ (if e < 0 then "-" else "+") ++ toString e.natAbs

/-- The text of a number, with a sign when it is negative. -/
def toText (x : Binary64) : String :=
  (if x.negative then "-" else "") ++ (if x.isZero then "0.0" else x.magnitudeText)

end ModelApi.Binary64
