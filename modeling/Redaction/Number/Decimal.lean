import Redaction.Number.Binary64

/-!
# Decimals

Decimal digits of floating-point numbers, found in exact arithmetic.

* `Decimal`: a positive decimal, or zero, by its digits and the place of the point.
* `Decimal.shortest`: the fewest digits that read back as the same number, and of these the nearest.
* `Decimal.atPlaces`, `Decimal.atDigits`: a number rounded to a count of places, or of digits; a half goes
  to the even neighbour.
-/

namespace Redaction

/-- The decimal `0.d₁d₂d₃… · 10^point`. -/
structure Decimal where
  digits : List Char
  point : Int
deriving Repr, DecidableEq

namespace Decimal

/-- Zero, with a single digit before the point. -/
def zero : Decimal := ⟨['0'], 1⟩

/-- The digits of a natural number. -/
def digitsOf (n : Nat) : List Char :=
  Nat.toDigits 10 n

/-- Drops the zeros at the end. -/
def dropZeros (digits : List Char) : List Char :=
  (digits.reverse.dropWhile (· = '0')).reverse

/-- The decimal `n · 10^exponent`. -/
def ofNat (n : Nat) (exponent : Int) : Decimal :=
  ⟨digitsOf n, (digitsOf n).length + exponent⟩

/-- A decimal without zeros at the end, and zero with one digit. -/
def trimmed (d : Decimal) : Decimal :=
  match dropZeros d.digits with
  | [] => zero
  | digits => { d with digits }

/-- The ratio `num / den` divided by a power of ten. -/
def tenthed (num den : Nat) (exponent : Int) : Nat × Nat :=
  if exponent ≥ 0 then (num, den * Nat.pow 10 exponent.toNat) else (num * Nat.pow 10 (-exponent).toNat, den)

/-- Where the point of `num / den` stands: the greatest `p` such that the ratio is at least `10^(p-1)`.
The ratio is positive. -/
def pointOf (num den : Nat) : Int :=
  let guess : Int := (digitsOf num).length - (digitsOf den).length
  let (n, d) := tenthed num den guess
  if n < d then guess else guess + 1

/-! ## Shortest digits -/

/-- The numbers that round to `mantissa · 2^exponent`, in units of `2^(exponent - 2)`: the lowest and the
highest of them and whether these two belong to the rest. -/
def window (mantissa : Nat) (exponent : Int) : Nat × Nat × Bool :=
  let below := if mantissa = Nat.pow 2 52 && Binary64.minExponent < exponent then 1 else 2
  (4 * mantissa - below, 4 * mantissa + 2, mantissa % 2 = 0)

/-- Of the two neighbours `n` and `n + 1` of a number on a decimal grid, the one that rounds to the number;
of both the nearer, and the even one if they are equally near. -/
def nearer (n : Nat) (lowFits highFits : Bool) (order : Ordering) : Option Nat :=
  match lowFits, highFits with
  | false, false => none
  | true, false => some n
  | false, true => some (n + 1)
  | true, true =>
    match order with
    | .lt => some n
    | .gt => some (n + 1)
    | .eq => some (if n % 2 = 0 then n else n + 1)

/-- A decimal of `count` digits that rounds to `mantissa · 2^exponent`, if there is one. -/
def ofCount? (mantissa : Nat) (exponent : Int) (count : Nat) : Option Decimal :=
  let (num, den) := Binary64.ratio (4 * mantissa) (exponent - 2)
  let (unitNum, unitDen) := Binary64.ratio 1 (exponent - 2)
  let (low, high, closed) := window mantissa exponent
  let step := pointOf num den - count
  let (n, d) := tenthed num den step
  let floor := n / d
  let fits := fun k =>
    let (kn, kd) := tenthed k 1 (-step)
    let lowest := unitNum * low * kd
    let highest := unitNum * high * kd
    let value := kn * unitDen
    if closed then lowest ≤ value && value ≤ highest else lowest < value && value < highest
  (nearer floor (fits floor) (fits (floor + 1)) (compare (2 * (n % d)) d)).map (ofNat · step)

/-- The decimal with the fewest digits that rounds to `mantissa · 2^exponent`. Seventeen are always
enough. -/
def shortest (mantissa : Nat) (exponent : Int) : Decimal :=
  if mantissa = 0 then zero
  else
    let found := (List.range 17).findSome? fun i => ofCount? mantissa exponent (i + 1)
    (found.getD zero).trimmed

/-! ## Rounded digits -/

/-- `num / den` rounded to a count of places after the point. -/
def atPlaces (num den places : Nat) : Decimal :=
  ofNat (Binary64.roundDiv (num * Nat.pow 10 places) den) (-(places : Int))

/-- `num / den` rounded to a positive count of digits. -/
def atDigits (num den count : Nat) : Decimal :=
  if num = 0 then ⟨List.replicate count '0', 1⟩
  else
    let point := pointOf num den
    let (n, d) := tenthed num den (point - count)
    let rounded := Binary64.roundDiv n d
    if Nat.pow 10 count ≤ rounded then ofNat (rounded / 10) (point - count + 1) else ofNat rounded (point - count)

/-! ## Notation -/

/-- The digits before the point. -/
def before (d : Decimal) : List Char :=
  if d.point ≤ 0 then ['0'] else
    let taken := d.digits.take d.point.toNat
    taken ++ List.replicate (d.point.toNat - taken.length) '0'

/-- The digits after the point, at least `places` of them. -/
def after (d : Decimal) (places : Nat) : List Char :=
  let fraction := List.replicate (-d.point).toNat '0' ++ d.digits.drop d.point.toNat
  fraction ++ List.replicate (places - fraction.length) '0'

/-- Digits with the point in its place and at least `places` digits after it. `keepPoint` keeps a point
that nothing follows. -/
def positional (d : Decimal) (places : Nat) (keepPoint : Bool) : List Char :=
  let fraction := d.after places
  if fraction.isEmpty && !keepPoint then d.before else d.before ++ '.' :: fraction

/-- The exponent of a decimal in scientific notation: the mark, a sign, and at least two digits. -/
def exponentText (mark : Char) (exponent : Int) : List Char :=
  let digits := digitsOf exponent.natAbs
  let padded := if digits.length < 2 then '0' :: digits else digits
  mark :: (if exponent < 0 then '-' else '+') :: padded

/-- One digit, the point, the other digits and the exponent. -/
def scientific (d : Decimal) (places : Nat) (keepPoint : Bool) (mark : Char) : List Char :=
  positional { d with point := 1 } places keepPoint ++ exponentText mark (d.point - 1)

end Decimal

namespace Binary64

/-- The text of a number: the fewest digits that read back, in scientific notation below 10⁻⁴ and from
10¹⁶ on, and otherwise with at least one place. -/
def text : Binary64 → String
  | nan => "nan"
  | infinity negative => if negative then "-inf" else "inf"
  | finite negative mantissa exponent =>
    let d := Decimal.shortest mantissa exponent
    let digits := if d.point ≤ -4 || 16 < d.point then d.scientific 0 false 'e' else d.positional 1 false
    String.ofList (if negative then '-' :: digits else digits)

end Binary64
end Redaction
