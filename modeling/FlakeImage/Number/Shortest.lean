import FlakeImage.Number.Double

/-! # Shortest decimals

The decimal text of a double: the fewest digits that read back as the same double, and of those the
nearest. It is positional from `10 ^ -5` up to `10 ^ 16`, with at least one digit after the point, and
has an exponent with its sign outside of that range. -/

namespace FlakeImage.Number.Double

/-- A quotient `num / den`. -/
structure Ratio where
  num : Nat
  den : Nat
  deriving Repr

namespace Ratio

def le (a b : Ratio) : Bool := a.num * b.den ≤ b.num * a.den

/-- `n · 10 ^ e`. -/
def ofDecimal (n : Nat) (e : Int) : Ratio :=
  if 0 ≤ e then ⟨n * Nat.pow 10 e.toNat, 1⟩ else ⟨n, Nat.pow 10 (-e).toNat⟩

/-- The whole part of `x / 10 ^ e`. -/
def floorDiv (x : Ratio) (e : Int) : Nat :=
  if 0 ≤ e then x.num / (x.den * Nat.pow 10 e.toNat) else x.num * Nat.pow 10 (-e).toNat / x.den

/-- How far `x` is from `y`. -/
def dist (x y : Ratio) : Ratio :=
  let a := x.num * y.den
  let b := y.num * x.den
  ⟨if a ≤ b then b - a else a - b, x.den * y.den⟩

end Ratio

/-- `m · 2 ^ e / 4`. -/
def quarter (m : Nat) (e : Int) : Ratio :=
  let f := scaleFraction m 4 e
  ⟨f.1, f.2⟩

/-- The number reads back as the double `m · 2 ^ e`: it lies no farther than halfway to the next
double on either side, and halfway only if `m` is even. -/
def readsBack (m : Nat) (e : Int) (x : Ratio) : Bool :=
  let low := quarter (4 * m - if m = Nat.pow 2 52 ∧ minExponent < e then 1 else 2) e
  let high := quarter (4 * m + 2) e
  if m % 2 = 0 then low.le x && x.le high else !x.le low && !high.le x

/-- The least `k` of the next few from `k` on with `x < 10 ^ k`. -/
def pointFrom (x : Ratio) : Nat → Int → Int
  | 0, k => k
  | n + 1, k => if (Ratio.ofDecimal 1 k).le x then pointFrom x n (k + 1) else k

/-- The digits of the double `m · 2 ^ e` with `count` digits, `k` of them before the point, if any
reads back: the number and its exponent of ten. -/
def withDigits? (m : Nat) (e : Int) (k : Int) (count : Nat) : Option (Nat × Int) :=
  let x := quarter (4 * m) e
  let u : Int := k - count
  let d := x.floorDiv u
  let below := Ratio.ofDecimal d u
  let above := Ratio.ofDecimal (d + 1) u
  match readsBack m e below, readsBack m e above with
  | true, true =>
    if (x.dist below).le (x.dist above) && !((x.dist above).le (x.dist below) && d % 2 = 1)
    then some (d, u) else some (d + 1, u)
  | true, false => some (d, u)
  | false, true => some (d + 1, u)
  | false, false => none

/-- The shortest digits of the double `m · 2 ^ e`, `m` not zero, and their exponent of ten. -/
def shortest (m : Nat) (e : Int) : Nat × Int :=
  let x := quarter (4 * m) e
  let k := pointFrom x 4 (((m.log2 : Int) + e) * 30103 / 100000)
  ((List.range 17).findSome? fun n => withDigits? m e k (n + 1)).getD (0, 0)

/-- `n` without zeros at its end, and how many there were. -/
def dropZeros : Nat → Nat → Nat → Nat × Nat
  | 0, n, z => (n, z)
  | fuel + 1, n, z => if n % 10 = 0 then dropZeros fuel (n / 10) (z + 1) else (n, z)

/-- The digits of a number. -/
def digitsOf (n : Nat) : List Char := (toString n).toList

/-- `digits · 10 ^ e` in the notation of its size. -/
def layout (digits : List Char) (e : Int) : List Char :=
  let point : Int := digits.length + e
  if 0 ≤ e ∧ point ≤ 16 then digits ++ List.replicate e.toNat '0' ++ ['.', '0']
  else if 0 < point ∧ point ≤ 16 then digits.take point.toNat ++ '.' :: digits.drop point.toNat
  else if -5 < point ∧ point ≤ 0 then '0' :: '.' :: (List.replicate (-point).toNat '0' ++ digits)
  else
    let x := point - 1
    digits.take 1 ++ (if digits.length ≤ 1 then [] else '.' :: digits.drop 1) ++
      'e' :: (if x < 0 then '-' else '+') :: digitsOf x.natAbs

/-- The decimal text of a double. -/
def text (x : Double) : String :=
  let sign := if x.negative then ['-'] else []
  if x.mantissa = 0 then String.ofList (sign ++ ['0', '.', '0'])
  else
    let s := shortest x.mantissa x.exponent
    let d := dropZeros 20 s.1 0
    String.ofList (sign ++ layout (digitsOf d.1) (s.2 + d.2))

end FlakeImage.Number.Double
