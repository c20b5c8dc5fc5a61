import ScriptBundle.Text

/-!
# Binary floating point

A finite nonnegative number of double precision is a significand below `2 ^ 53`
times a power of two.  Results are rounded to the nearest such number, a tie
going to the even significand; a result beyond the largest number is none.

A number is shown by the fewest decimal digits that no other number of double
precision is closer to.
-/

namespace ScriptBundle

/-- The number `significand * 2 ^ exponent`, with `significand < 2 ^ 53` and
`exponent ≥ -1074`. -/
structure Binary64 where
  significand : Nat
  exponent : Int
deriving DecidableEq, Repr, Inhabited

namespace Binary64

def lowestExponent : Int :=
  -1074

def highestExponent : Int :=
  971

/-- A quotient rounded to the nearest whole number, a tie to the even one. -/
def roundQuotient (numerator denominator : Nat) : Nat :=
  let quotient := numerator / denominator
  let remainder := numerator % denominator
  if 2 * remainder < denominator then quotient
  else if 2 * remainder > denominator then quotient + 1
  else if quotient % 2 = 0 then quotient
  else quotient + 1

/-- `numerator / denominator / 2 ^ exponent` as a quotient of whole numbers. -/
def scaled (numerator denominator : Nat) (exponent : Int) : Nat × Nat :=
  if exponent ≥ 0 then
    (numerator, denominator * Nat.pow 2 exponent.toNat)
  else
    (numerator * Nat.pow 2 (-exponent).toNat, denominator)

/-- The exponent at which the quotient has a significand of 53 bits, or the
lowest one. -/
def exponentFor (numerator denominator : Nat) : Int :=
  let guess : Int := (Nat.log2 numerator : Int) - (Nat.log2 denominator : Int) - 52
  let (top, bottom) := scaled numerator denominator guess
  let exact := if top / bottom < Nat.pow 2 52 then guess - 1 else guess
  max exact lowestExponent

/-- The number nearest to a quotient, if it is not too large. -/
def ofQuotient? (numerator denominator : Nat) : Option Binary64 :=
  if numerator = 0 then
    some ⟨0, lowestExponent⟩
  else
    let exponent := exponentFor numerator denominator
    let (top, bottom) := scaled numerator denominator exponent
    let rounded := roundQuotient top bottom
    let result : Binary64 :=
      if rounded = Nat.pow 2 53 then ⟨Nat.pow 2 52, exponent + 1⟩ else ⟨rounded, exponent⟩
    if result.exponent > highestExponent then none else some result

def quotient (number : Binary64) : Nat × Nat :=
  if number.exponent ≥ 0 then
    (number.significand * Nat.pow 2 number.exponent.toNat, 1)
  else
    (number.significand, Nat.pow 2 (-number.exponent).toNat)

/-- The rounded product. -/
def multiply? (left right : Binary64) : Option Binary64 :=
  let (leftTop, leftBottom) := left.quotient
  let (rightTop, rightBottom) := right.quotient
  ofQuotient? (leftTop * rightTop) (leftBottom * rightBottom)

/-- The rounded quotient by a number that is not zero. -/
def divide? (left right : Binary64) : Option Binary64 :=
  let (leftTop, leftBottom) := left.quotient
  let (rightTop, rightBottom) := right.quotient
  ofQuotient? (leftTop * rightBottom) (leftBottom * rightTop)

def powerOfTen? (exponent : Nat) : Option Binary64 :=
  ofQuotient? (Nat.pow 10 exponent) 1

def decimalQuotient (digits : Nat) (exponent : Int) : Nat × Nat :=
  if exponent ≥ 0 then
    (digits * Nat.pow 10 exponent.toNat, 1)
  else
    (digits, Nat.pow 10 (-exponent).toNat)

def readsBack (number : Binary64) (digits : Nat) (exponent : Int) : Bool :=
  let (top, bottom) := decimalQuotient digits exponent
  ofQuotient? top bottom = some number

/-- The exponent of the decimal digit that leads a quotient. -/
def leadingExponent (top bottom : Nat) : Int :=
  if top ≥ bottom then
    ((toString (top / bottom)).length : Int) - 1
  else
    let digits := (toString (bottom / top)).length
    if bottom ≤ top * Nat.pow 10 (digits - 1) then 1 - (digits : Int) else -(digits : Int)

/-- The nearest decimal with the given number of digits that reads back as the
number, if there is one, as its digits and exponent. -/
def decimalWith? (number : Binary64) (count : Nat) : Option (Nat × Int) :=
  let (top, bottom) := number.quotient
  let exponent := leadingExponent top bottom - (count : Int) + 1
  let (low, high) :=
    if exponent ≥ 0 then (top, bottom * Nat.pow 10 exponent.toNat)
    else (top * Nat.pow 10 (-exponent).toNat, bottom)
  let below := low / high
  let nearest := roundQuotient low high
  let other := if nearest = below then below + 1 else below
  if readsBack number nearest exponent then some (nearest, exponent)
  else if readsBack number other exponent then some (other, exponent)
  else none

/-- The digits and the exponent of the shortest decimal that reads back. -/
def shortest (number : Binary64) : Nat × Int :=
  ((List.range 17).findSome? fun count => decimalWith? number (count + 1)).getD (0, 0)

def withoutTrailingZeros : Nat → Nat × Int → Nat × Int
  | 0, decimal => decimal
  | fuel + 1, (digits, exponent) =>
    if digits ≠ 0 && digits % 10 = 0 then
      withoutTrailingZeros fuel (digits / 10, exponent + 1)
    else
      (digits, exponent)

/-- A number with a decimal point where its value is between `10 ^ -5` and
`10 ^ 16`, and with an exponent elsewhere. -/
def text (number : Binary64) : String :=
  if number.significand = 0 then
    "0.0"
  else
    let (digits, exponent) := withoutTrailingZeros 400 (shortest number)
    let shown := toString digits
    let point : Int := (shown.length : Int) + exponent
    if 0 ≤ exponent && point ≤ 16 then
      shown ++ String.ofList (List.replicate exponent.toNat '0') ++ ".0"
    else if 0 < point && point ≤ 16 then
      String.ofList (shown.toList.take point.toNat) ++ "." ++
        String.ofList (shown.toList.drop point.toNat)
    else if -5 < point && point ≤ 0 then
      "0." ++ String.ofList (List.replicate (-point).toNat '0') ++ shown
    else
      let tail := String.ofList (shown.toList.drop 1)
      String.ofList (shown.toList.take 1) ++ (if tail = "" then "" else "." ++ tail) ++
        "e" ++ toString (point - 1)

end Binary64

end ScriptBundle
