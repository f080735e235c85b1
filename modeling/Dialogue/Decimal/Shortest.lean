/-!
# The shortest decimal of a double

A finite double is `significand * 2 ^ exponent`. The reals that round to it form an interval, and the
shortest decimal is the point with the fewest digits in that interval; of two such points the nearer
one is taken. All of it is exact arithmetic on natural numbers.

Only the result is modelled, not the faster ways to come by it.
-/
namespace Dialogue.Decimal

/-- A positive binary number, `significand * 2 ^ exponent`. -/
structure Binary where
  significand : Nat
  exponent : Int
  deriving DecidableEq, Repr

/-- A decimal number, `digits * 10 ^ exponent`. -/
structure Scaled where
  digits : Nat
  exponent : Int
  deriving DecidableEq, Repr

/-- Which of two equally near decimals is taken. -/
inductive Tie where
  | even | up
  deriving DecidableEq, Repr

/-- The magnitude of a finite double, by its bits. -/
def Binary.ofBits (bits : UInt64) : Binary :=
  let field : Nat := (bits.toNat / Nat.pow 2 52) % Nat.pow 2 11
  let fraction : Nat := bits.toNat % Nat.pow 2 52
  if field = 0 then ⟨fraction, -1074⟩ else ⟨fraction + Nat.pow 2 52, (field : Int) - 1075⟩

/-- How `n * 10 ^ g` compares with `c * 2 ^ q`. -/
def compareScaled (n : Nat) (g : Int) (c : Nat) (q : Int) : Ordering :=
  compare (n * Nat.pow 10 g.toNat * Nat.pow 2 (-q).toNat)
    (c * Nat.pow 2 q.toNat * Nat.pow 10 (-g).toNat)

/-- Below a power of two the doubles lie half as far apart as above it. -/
def Binary.isBoundary (x : Binary) : Bool :=
  x.significand == Nat.pow 2 52 && x.exponent != -1074

/-- Whether `n * 10 ^ g` rounds to `x`; the ends of the interval do when the significand is even. -/
def Binary.admits (x : Binary) (n : Nat) (g : Int) : Bool :=
  let low := 4 * x.significand - (if x.isBoundary then 1 else 2)
  let high := 4 * x.significand + 2
  let fromLow := compareScaled n g low (x.exponent - 2)
  let fromHigh := compareScaled n g high (x.exponent - 2)
  if x.significand % 2 = 0 then fromLow != .lt && fromHigh != .gt
  else fromLow == .gt && fromHigh == .lt

/-- The exponent of the leading decimal digit of a positive number. -/
def Binary.leading (x : Binary) : Int :=
  let estimate := (((x.significand.log2 : Int) + x.exponent) * 30103).fdiv 100000
  if compareScaled 1 (estimate + 1) x.significand x.exponent == .gt then estimate else estimate + 1

/-- How many units `10 ^ g` fit into `x`. -/
def Binary.floorAt (x : Binary) (g : Int) : Nat :=
  (x.significand * Nat.pow 2 x.exponent.toNat * Nat.pow 10 (-g).toNat) /
    (Nat.pow 2 (-x.exponent).toNat * Nat.pow 10 g.toNat)

/-- The better of the two neighbours of `x` on the grid `10 ^ g`, if one of them rounds to `x`. -/
def Binary.onGrid? (tie : Tie) (x : Binary) (g : Int) : Option Nat :=
  let below := x.floorAt g
  let above := below + 1
  match x.admits below g, x.admits above g with
  | true, false => some below
  | false, true => some above
  | false, false => none
  | true, true =>
    match compareScaled (below + above) g (2 * x.significand) x.exponent with
    | .gt => some below
    | .lt => some above
    | .eq =>
      match tie with
      | .up => some above
      | .even => if below % 2 = 0 then some below else some above

/-- Tries one grid after the other, each ten times finer than the last. -/
def Binary.search (tie : Tie) (x : Binary) : Nat → Int → Scaled
  | 0, g => ⟨x.floorAt g, g⟩
  | tries + 1, g =>
    match x.onGrid? tie g with
    | some n => ⟨n, g⟩
    | none => search tie x tries (g - 1)

/-- Drops trailing zeros, at most `bound` of them. -/
def Scaled.normalize : Nat → Scaled → Scaled
  | 0, d => d
  | bound + 1, d =>
    if d.digits % 10 = 0 && d.digits != 0 then normalize bound ⟨d.digits / 10, d.exponent + 1⟩ else d

/-- The decimal with the fewest digits that rounds to `x`. Seventeen digits always suffice. -/
def Binary.shortest (tie : Tie) (x : Binary) : Scaled :=
  (x.search tie 17 x.leading).normalize 20

end Dialogue.Decimal
