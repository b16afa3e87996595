/-!
# Double precision numbers

Magnitudes of the binary format with 53 significant bits, as exact integers. Every operation
computes the exact quotient of two natural numbers and rounds it once, to the nearest double and
from a tie to the even one.

The shortest form of a double is the number with the fewest decimal digits among those that round
to it, and of these the one nearest to it.
-/

namespace ChainRecord

/-- The number `mantissa * 2 ^ exponent`. The mantissa is below `2 ^ 53`, and either it is at least
`2 ^ 52` or the exponent is the least one. -/
structure Binary64 where
  /-- The significant bits. -/
  mantissa : Nat
  /-- The place of the last significant bit. -/
  exponent : Int
  deriving DecidableEq, Repr

namespace Binary64

/-- The least exponent. -/
def minExponent : Int := -1074

/-- The greatest exponent. -/
def maxExponent : Int := 971

/-- The least mantissa of the doubles above the least exponent, which is `2 ^ 52`. -/
def leastMantissa : Nat := 0x10000000000000

/-- Zero. -/
def zero : Binary64 := ⟨0, minExponent⟩

/-- The quotient of two numbers, rounded to the nearest one and from a tie to the even one. -/
def roundQuotient (num den : Nat) : Nat :=
  let q := num / den
  let r := num % den
  if 2 * r < den then q else if den < 2 * r then q + 1 else q + q % 2

/-- The ratio `num / (den * 2 ^ exponent)`. -/
def scaleRatio (num den : Nat) (exponent : Int) : Nat × Nat :=
  if 0 ≤ exponent then (num, den * Nat.pow 2 exponent.toNat)
  else (num * Nat.pow 2 (-exponent).toNat, den)

/-- The double nearest to a quotient, unless it is beyond the greatest one. -/
def ofRatio? (num den : Nat) : Option Binary64 :=
  if num = 0 then some zero
  else
    let guess : Int := num.log2 - den.log2 - 52
    let (n, d) := scaleRatio num den guess
    let exponent := if n < leastMantissa * d then guess - 1 else guess
    let exponent := if exponent < minExponent then minExponent else exponent
    let (n, d) := scaleRatio num den exponent
    let m := roundQuotient n d
    let rounded : Binary64 :=
      if m = 2 * leastMantissa then ⟨leastMantissa, exponent + 1⟩ else ⟨m, exponent⟩
    if maxExponent < rounded.exponent then none else some rounded

/-- A double as a quotient. -/
def ratio (x : Binary64) : Nat × Nat :=
  if 0 ≤ x.exponent then (x.mantissa * Nat.pow 2 x.exponent.toNat, 1)
  else (x.mantissa, Nat.pow 2 (-x.exponent).toNat)

/-- The rounded product, unless it is beyond the greatest double. -/
def times? (x y : Binary64) : Option Binary64 :=
  ofRatio? (x.ratio.1 * y.ratio.1) (x.ratio.2 * y.ratio.2)

/-- The rounded quotient, for a divisor of at least one. -/
def dividedBy (x y : Binary64) : Binary64 :=
  (ofRatio? (x.ratio.1 * y.ratio.2) (x.ratio.2 * y.ratio.1)).getD zero

/-- The double nearest to a power of ten, for exponents up to 308. -/
def powerOfTen (exponent : Nat) : Binary64 :=
  (ofRatio? (Nat.pow 10 exponent) 1).getD zero

/-- The double for `significand * 10 ^ exponent`, where the significand has at most 64 bits. The
significand is rounded first; then the power of ten is applied by one rounded operation, or by two
where it is below `10 ^ -308`. Below `10 ^ -616` nothing is left of any significand. -/
def ofParts? (significand : Nat) (exponent : Int) : Option Binary64 := do
  let x ← ofRatio? significand 1
  if x.mantissa = 0 ∨ exponent < -616 then some zero
  else if 308 < exponent then none
  else if 0 ≤ exponent then x.times? (powerOfTen exponent.toNat)
  else if -308 ≤ exponent then some (x.dividedBy (powerOfTen (-exponent).toNat))
  else some ((x.dividedBy (powerOfTen 308)).dividedBy (powerOfTen (-(exponent + 308)).toNat))

/-! ### Shortest decimal form -/

/-- Digits `d₁ d₂ … dₖ` and the exponent `p` of the number `0.d₁d₂…dₖ * 10 ^ p`. -/
structure DigitForm where
  /-- The digits; the first and the last are not zero. -/
  digits : List Char
  /-- The exponent. -/
  point : Int

/-- The exponent `p` with `10 ^ (p - 1) ≤ num / den < 10 ^ p`, for a positive quotient of doubles'
range. -/
def decimalPoint (num den : Nat) : Int :=
  if den ≤ num then (Nat.toDigits 10 (num / den)).length
  else
    let places := (List.range 400).find? fun j ↦ den ≤ num * Nat.pow 10 j
    1 - (places.getD 400 : Nat)

/-- The multiple of `10 ^ (point - count)` that is nearest to `x` among those that round to `x`.
Numbers halfway to a neighbour of `x` round to `x` exactly if its mantissa is even; below a power
of two the neighbour is half as far. -/
def onGrid? (x : Binary64) (point : Int) (count : Nat) : Option Nat :=
  let center := 4 * x.mantissa
  let low :=
    if x.mantissa = leastMantissa ∧ minExponent < x.exponent then center - 1 else center - 2
  let high := center + 2
  -- one quarter of the last place, and one step of the grid, on a common denominator
  let (quarter, step) :=
    let e := x.exponent - 2
    let g := point - count
    (Nat.pow 2 e.toNat * Nat.pow 10 (-g).toNat, Nat.pow 10 g.toNat * Nat.pow 2 (-e).toNat)
  let inside (k : Nat) : Bool :=
    if x.mantissa % 2 = 0 then low * quarter ≤ k * step && k * step ≤ high * quarter
    else low * quarter < k * step && k * step < high * quarter
  let below := center * quarter / step
  let above := below + 1
  match inside below, inside above with
  | true, true =>
    let down := center * quarter - below * step
    let up := above * step - center * quarter
    if down < up then some below
    else if up < down then some above
    else some (if below % 2 = 0 then below else above)
  | true, false => some below
  | false, true => some above
  | false, false => none

/-- The shortest form of a positive double. Seventeen digits always suffice. -/
def shortest (x : Binary64) : DigitForm :=
  let point := decimalPoint x.ratio.1 x.ratio.2
  let found := (List.range 17).findSome? fun k ↦ (x.onGrid? point (k + 1)).map fun n ↦ (k + 1, n)
  let (count, n) := found.getD (17, 0)
  let digits := Nat.toDigits 10 n
  ⟨(digits.reverse.dropWhile (· = '0')).reverse, point + (digits.length - count : Nat)⟩

end Binary64

end ChainRecord
