/-!
# Numbers of 64 bits

Floating-point numbers as exact values: a mantissa below 2⁵³ times a power of two, two infinities and a
not-a-number. All arithmetic is on natural numbers, so nothing is rounded twice.

* `Binary64`: the numbers.
* `Binary64.ofRatio`: the nearest number to a ratio; a tie goes to the even mantissa.
* `Binary64.ofDecimal`: the nearest number to a decimal.
* `Binary64.toInt?`, `Binary64.truncate?`: whole numbers from numbers.
-/

namespace Redaction

/-- A number of 64 bits. A finite one is ± mantissa · 2^exponent, with the mantissa below 2⁵³ and the
exponent as small as the format allows. -/
inductive Binary64
  | nan
  | infinity (negative : Bool)
  | finite (negative : Bool) (mantissa : Nat) (exponent : Int)
deriving Repr, DecidableEq, Inhabited

namespace Binary64

/-- The smallest exponent. -/
def minExponent : Int := -1074

/-- The greatest exponent. -/
def maxExponent : Int := 971

/-- The numerator and the denominator of `num / den` divided by a power of two. -/
def scaled (num den : Nat) (exponent : Int) : Nat × Nat :=
  if exponent ≥ 0 then (num, den * Nat.pow 2 exponent.toNat) else (num * Nat.pow 2 (-exponent).toNat, den)

/-- A quotient rounded to the nearest whole number, a tie to the even one. -/
def roundDiv (num den : Nat) : Nat :=
  let q := num / den
  let r := num % den
  if 2 * r < den then q else if den < 2 * r then q + 1 else if q % 2 = 0 then q else q + 1

/-- The exponent at which `num / den` has a mantissa of 53 bits, unless the smallest is greater. -/
def exponentOf (num den : Nat) : Int :=
  let guess : Int := (Nat.log2 num : Int) - (Nat.log2 den : Int) - 52
  let (n, d) := scaled num den guess
  let exponent := if n / d < Nat.pow 2 52 then guess - 1 else if Nat.pow 2 53 ≤ n / d then guess + 1 else guess
  max exponent minExponent

/-- The nearest number to `± num / den`, for a positive denominator. -/
def ofRatio (negative : Bool) (num den : Nat) : Binary64 :=
  if num = 0 then finite negative 0 minExponent
  else
    let exponent := exponentOf num den
    let (n, d) := scaled num den exponent
    let mantissa := roundDiv n d
    let (mantissa, exponent) :=
      if mantissa = Nat.pow 2 53 then (Nat.pow 2 52, exponent + 1) else (mantissa, exponent)
    if maxExponent < exponent then infinity negative else finite negative mantissa exponent

/-- The nearest number to `± digits · 10^exponent`. Decimals far outside the range are settled by their
size alone. -/
def ofDecimal (negative : Bool) (digits : Nat) (exponent : Int) : Binary64 :=
  let size : Int := ((Nat.toDigits 10 digits).length : Int) + exponent
  if digits = 0 || size < -400 then finite negative 0 minExponent
  else if 400 < size then infinity negative
  else if exponent ≥ 0 then ofRatio negative (digits * Nat.pow 10 exponent.toNat) 1
  else ofRatio negative digits (Nat.pow 10 (-exponent).toNat)

/-- The size of a finite number as a ratio. -/
def ratio (mantissa : Nat) (exponent : Int) : Nat × Nat :=
  if exponent ≥ 0 then (mantissa * Nat.pow 2 exponent.toNat, 1) else (mantissa, Nat.pow 2 (-exponent).toNat)

/-- A number with its sign. -/
def signed (negative : Bool) (size : Nat) : Int :=
  if negative then -(size : Int) else size

/-- The whole part of a finite number. -/
def truncate? : Binary64 → Option Int
  | finite negative mantissa exponent =>
    let (num, den) := ratio mantissa exponent
    some (signed negative (num / den))
  | _ => none

/-- A finite number that is whole, as a whole number. -/
def toInt? : Binary64 → Option Int
  | finite negative mantissa exponent =>
    let (num, den) := ratio mantissa exponent
    if num % den = 0 then some (signed negative (num / den)) else none
  | _ => none

/-- The nearest number to a whole number, unless it is too large. -/
def ofInt? (n : Int) : Option Binary64 :=
  match ofRatio (n < 0) n.natAbs 1 with
  | infinity _ => none
  | number => some number

end Binary64
end Redaction
