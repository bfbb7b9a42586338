/-! # Decimal numbers

The reading of digits, and the grammars of whole numbers: an optional sign, then one or more of the ten ASCII
digits, leading zeros allowed. `isNumeral` is the grammar of all numbers. -/

namespace FlakeImage.Number

/-- The value of a digit. -/
def digit? (c : Char) : Option Nat :=
  if '0' ≤ c ∧ c ≤ '9' then some (c.toNat - 48) else none

/-- The number that digits write after the digits of `n`. -/
def digitsFrom? (n : Nat) : List Char → Option Nat
  | [] => some n
  | c :: s => (digit? c).bind fun d => digitsFrom? (10 * n + d) s

/-- One or more digits. -/
def digits? : List Char → Option Nat
  | [] => none
  | s => digitsFrom? 0 s

/-- A number without a sign or with a plus sign, at most `max`. -/
def natural? (max : Nat) (s : List Char) : Option Nat :=
  (digits? (match s with | '+' :: s => s | s => s)).filter (· ≤ max)

/-- A number with an optional sign. -/
def integer? (s : List Char) : Option Int :=
  match s with
  | '-' :: s => (digits? s).map fun n => -(n : Int)
  | '+' :: s => (digits? s).map fun n => (n : Int)
  | s => (digits? s).map fun n => (n : Int)

/-- A text without a sign in front. -/
def unsigned : List Char → List Char
  | '+' :: s => s
  | '-' :: s => s
  | s => s

/-- Nothing, or an exponent. -/
def isExponent : List Char → Bool
  | [] => true
  | c :: s => (c == 'e' || c == 'E') && !(unsigned s).isEmpty && (unsigned s).all Char.isDigit

/-- What can follow the digits of the whole part, if there are any. -/
def isFractional (digits : Bool) : List Char → Bool
  | '.' :: s => (digits || s.head?.any Char.isDigit) && isExponent (s.dropWhile Char.isDigit)
  | s => digits && isExponent s

/-- The words for values that are no finite numbers. -/
def infiniteWords : List String := ["inf", "infinity", "nan"]

/-- The text writes a number, which may have a fraction and an exponent, or a value that is none. -/
def isNumeral (s : List Char) : Bool :=
  let s := unsigned s
  isFractional (s.head?.any Char.isDigit) (s.dropWhile Char.isDigit) ||
    infiniteWords.contains (String.ofList (s.map Char.toLower))

/-- The largest number of 32 bits. -/
def max32 : Nat := 4294967295

/-- The largest number of 64 bits. -/
def max64 : Nat := 18446744073709551615

end FlakeImage.Number
