/-! # Doubles

A finite number of the 64-bit floating format, as a sign and `mantissa · 2 ^ exponent` with at most 53
bits. `nearest` rounds a quotient to the nearest such number, a tie to the even mantissa. -/

namespace FlakeImage.Number

/-- A finite double. Zero has mantissa and exponent zero, and a sign. -/
structure Double where
  negative : Bool
  mantissa : Nat
  exponent : Int
  deriving DecidableEq, Repr

namespace Double

/-- The least exponent. -/
def minExponent : Int := -1074

/-- `x · 2 ^ e` as a fraction, for a fraction `x`. -/
def scaleFraction (num den : Nat) (e : Int) : Nat × Nat :=
  if 0 ≤ e then (num * Nat.pow 2 e.toNat, den) else (num, den * Nat.pow 2 (-e).toNat)

/-- The whole number nearest to `num / den`, the even one of two. -/
def roundHalfEven (num den : Nat) : Nat :=
  let q := num / den
  let r := num % den
  if 2 * r < den then q else if den < 2 * r then q + 1 else q + q % 2

/-- The exponent at which `num / den` has at most 53 bits before the point. -/
def exponentFor (num den : Nat) : Int :=
  let e := max ((num.log2 : Int) - den.log2 - 53) minExponent
  let scaled := scaleFraction num den (-e)
  if scaled.1 / scaled.2 < Nat.pow 2 53 then e else e + 1

/-- The mantissa and exponent nearest to `num / den`, without a bound above. -/
def nearest (num den : Nat) : Nat × Int :=
  if num = 0 then (0, 0)
  else
    let e := exponentFor num den
    let scaled := scaleFraction num den (-e)
    let m := roundHalfEven scaled.1 scaled.2
    if m = 0 then (0, 0) else if m = Nat.pow 2 53 then (Nat.pow 2 52, e + 1) else (m, e)

/-- The number is beyond the largest double. -/
def isBeyond (x : Nat × Int) : Bool := 971 < x.2

/-- `x` as a fraction. -/
def fraction (x : Nat × Int) : Nat × Nat := scaleFraction x.1 1 x.2

/-- The product of two doubles, rounded. -/
def mul (x y : Nat × Int) : Nat × Int :=
  let a := fraction x
  let b := fraction y
  nearest (a.1 * b.1) (a.2 * b.2)

/-- The quotient of two doubles, rounded. -/
def div (x y : Nat × Int) : Nat × Int :=
  let a := fraction x
  let b := fraction y
  nearest (a.1 * b.2) (a.2 * b.1)

/-- The double nearest to a power of ten. -/
def tenPow (k : Nat) : Nat × Int := nearest (Nat.pow 10 k) 1

/-- `significand · 10 ^ exponent`, rounded after each step: the significand, the power of ten and
their product or quotient; below `10 ^ -308` in two steps of division. There is none beyond the
largest double. -/
def scale? (significand : Nat) (exponent : Int) : Option (Nat × Int) :=
  let s := nearest significand 1
  if 0 ≤ exponent then
    if exponent ≤ 308 then
      let x := mul s (tenPow exponent.toNat)
      if isBeyond x then none else some x
    else if s.1 = 0 then some s else none
  else
    let k := (-exponent).toNat
    if k ≤ 308 then some (div s (tenPow k))
    else if k ≤ 616 then some (div (div s (tenPow 308)) (tenPow (k - 308)))
    else some (0, 0)

end Double

end FlakeImage.Number
