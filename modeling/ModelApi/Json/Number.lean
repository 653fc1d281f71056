import ModelApi.Decimal.Shortest

/-!
# JSON numbers

A number is whole when it is written without fraction and exponent and fits 64 bits, with or without sign; any other
is a double. A decimal is read in two steps: as many leading digits as fit 64 bits are rounded to a double, and the
result is scaled by a rounded power of ten.
-/

namespace ModelApi

/-- A whole number of 64 bits, or a double. -/
inductive Number where
  | int (n : Int)
  | real (x : Binary64)
  deriving DecidableEq, Repr

namespace Number

/-- The largest significand that is kept while reading. -/
def greatestSignificand : Nat := UInt64.size - 1

def digitValue (c : Char) : Nat := c.toNat - '0'.toNat

/-- Extends a significand by digits as long as it fits, and gives the digits that are left. -/
def takeDigits (s : Nat) : List Char → Nat × List Char
  | [] => (s, [])
  | c :: cs =>
    let next := s * 10 + digitValue c
    if greatestSignificand < next then (s, c :: cs) else takeDigits next cs

/-- The number that a list of decimal digits writes. -/
def ofDigits (cs : List Char) : Nat := cs.foldl (fun n c => n * 10 + digitValue c) 0

/-- The signed whole number; minus zero and what is below the 64 bit range are doubles. -/
def ofWhole (negative : Bool) (s : Nat) : Number :=
  if !negative then .int s
  else if 0 < s ∧ s ≤ UInt64.size / 2 then .int (-(s : Int))
  else .real ((Binary64.ofQuotient true s 1).getD (.zero true))

/-- The number written by a sign, digits, an optional fraction and an optional exponent; none beyond the range of
doubles. -/
def ofParts (negative : Bool) (whole : List Char) (fraction : Option (List Char)) (exponent : Option Int) :
    Option Number :=
  let (s, left) := takeDigits 0 whole
  match left, fraction, exponent with
  | [], none, none => some (ofWhole negative s)
  | _, _, _ =>
    let digits := fraction.getD []
    let (s', left') := takeDigits s digits
    let e : Int := left.length - (digits.length - left'.length : Nat) + exponent.getD 0
    ((Binary64.ofQuotient negative s' 1).bind (·.scale e)).map .real

/-- The text of a number. -/
def toText : Number → String
  | .int n => toString n
  | .real x => x.toText

end Number

end ModelApi
