/-! Binary floating-point numbers of double precision, as fractions of natural numbers. -/
namespace MoquiLint.Double

/-- Rounds to the nearest natural number, a tie to the even one. -/
def roundDiv (num den : Nat) : Nat :=
  let q := num / den
  let r := num % den
  if 2 * r < den || (2 * r == den && q % 2 == 0) then q else q + 1

def precision : Nat := 53

/-- The fraction `num / den` rounded to the digits that are kept, unless it is far outside the range of
doubles. -/
def nearest (num den : Nat) : Nat × Nat :=
  if num = 0 then (0, 1)
  else
    -- The quotient lies between the powers of two before and after that with the exponent `e`.
    let e : Int := (num.log2 : Int) - den.log2
    let scaled (shift : Int) : Nat × Nat :=
      if shift ≥ 0 then (num * Nat.pow 2 shift.toNat, den) else (num, den * Nat.pow 2 (-shift).toNat)
    let small := (scaled (-e)).1 < (scaled (-e)).2
    let shift : Int := precision - 1 - (if small then e - 1 else e)
    let m := roundDiv (scaled shift).1 (scaled shift).2
    if shift ≥ 0 then (m, Nat.pow 2 shift.toNat) else (m * Nat.pow 2 (-shift).toNat, 1)

/-- The integer part of the double nearest to `num / den`; none if it exceeds all doubles. -/
def whole? (num den : Nat) : Option Nat :=
  let (n, d) := nearest num den
  if n / d < Nat.pow 2 1024 then some (n / d) else none

end MoquiLint.Double
