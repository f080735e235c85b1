import Dialogue.Decimal.Shortest

/-!
# Writing and reading numbers

Two notations of a double. The JSON notation is positional between 1e-5 and 1e16 and always shows a
fraction or an exponent. The plain notation never shows an exponent, and an integral value shows no
fraction. These are what JSON is printed with, and `format_number` and `number_literal`.

A decimal is read with one multiplication or division by a power of ten. So the double that is read may be
next to the nearest one, and a number that was written need not read back as the same double.
-/
namespace Dialogue.Decimal

/-- The digits before and after the decimal point. -/
def Scaled.positional (d : Scaled) : List Char × List Char :=
  let digits := Nat.toDigits 10 d.digits
  if 0 ≤ d.exponent then (digits ++ List.replicate d.exponent.toNat '0', [])
  else
    let places := (-d.exponent).toNat
    if digits.length ≤ places then (['0'], List.replicate (places - digits.length) '0' ++ digits)
    else (digits.take (digits.length - places), digits.drop (digits.length - places))

/-- The exponent of the leading digit. -/
def Scaled.magnitude (d : Scaled) : Int :=
  d.exponent + ((Nat.toDigits 10 d.digits).length : Int) - 1

/-- Positional notation with at least one fractional digit. -/
def Scaled.withFraction (d : Scaled) : List Char :=
  let (whole, fraction) := d.positional
  whole ++ '.' :: (if fraction.isEmpty then ['0'] else fraction)

/-- Positional notation with no fraction for a whole number. -/
def Scaled.plain (d : Scaled) : List Char :=
  let (whole, fraction) := d.positional
  if fraction.isEmpty then whole else whole ++ '.' :: fraction

/-- One digit, a fraction if there is one, and a signed exponent. -/
def Scaled.scientific (d : Scaled) : List Char :=
  let e := d.magnitude
  let sign := if e < 0 then '-' else '+'
  let head :=
    match Nat.toDigits 10 d.digits with
    | [] => []
    | [c] => [c]
    | c :: rest => c :: '.' :: rest
  head ++ 'e' :: sign :: Nat.toDigits 10 e.natAbs

/-- The JSON notation of a finite positive number. -/
def Scaled.json (d : Scaled) : List Char :=
  if -5 ≤ d.magnitude && d.magnitude ≤ 15 then d.withFraction else d.scientific

/-- Whether the sign bit is set; it also tells the two zeros apart. -/
def isNegative (x : Float) : Bool := x.toBits.toNat / Nat.pow 2 63 == 1

/-- A double as a JSON number. JSON has no name for a number that is not finite. -/
def jsonText (x : Float) : List Char :=
  if !x.isFinite then ['n', 'u', 'l', 'l']
  else
    let body := if x == 0 then ['0', '.', '0'] else ((Binary.ofBits x.toBits).shortest .even).json
    if isNegative x then '-' :: body else body

/-- A double without an exponent. -/
def plainText (x : Float) : List Char :=
  if x.isNaN then ['N', 'a', 'N']
  else
    let body :=
      if x.isInf then ['i', 'n', 'f']
      else if x == 0 then ['0']
      else ((Binary.ofBits x.toBits).shortest .up).plain
    if isNegative x then '-' :: body else body

/-- Doubles with no fraction below 10^15 in magnitude are treated as integers. -/
def wholeNumber? (x : Float) : Option Int :=
  if x.floor == x && x.abs < 1e15 then some x.toInt64.toInt else none

/-- The nearest double of an integer. -/
def ofInt (n : Int) : Float := Float.ofInt n

/-- An integer in decimal digits. -/
def intText (n : Int) : List Char :=
  if n < 0 then '-' :: Nat.toDigits 10 n.natAbs else Nat.toDigits 10 n.natAbs

/-- The largest power of ten among the doubles is `10 ^ largestPower`. -/
def largestPower : Nat := 308

/-- The nearest double of a power of ten. -/
def powerOfTen (n : Nat) : Float := Float.ofScientific 1 false n

/-- `x / 10 ^ n` in steps that each round. After two steps nothing is left of a number below `2 ^ 64`. -/
def scaleDown (x : Float) (n : Nat) : Float :=
  if n ≤ largestPower then x / powerOfTen n
  else if n ≤ 2 * largestPower then x / powerOfTen largestPower / powerOfTen (n - largestPower)
  else 0

/-- `significand * 10 ^ exponent`, or nothing when that is too large. The significand is rounded to a
double first and the product or quotient once more, so the result may be a neighbour of the nearest
double. -/
def ofParts? (significand : Nat) (exponent : Int) : Option Float :=
  let x := Float.ofNat significand
  if exponent < 0 then some (scaleDown x exponent.natAbs)
  else if exponent.toNat ≤ largestPower then
    let product := x * powerOfTen exponent.toNat
    if product.isFinite then some product else none
  else if significand = 0 then some 0
  else none

end Dialogue.Decimal
