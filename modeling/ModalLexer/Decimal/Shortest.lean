/-!
# The fewest decimal digits that read back

A positive binary number stands for all reals that round to it: an interval around it, its ends
included when the significand is even. Among the decimals in that interval, `Binary.shortest` picks
one with the fewest digits, and of those the nearest to the number itself. Grids of one digit, two
digits and so on are tried in turn, and on each grid only the two neighbours of the number can be
nearest.
-/

namespace ModalLexer.Decimal

/-- Where to go when two decimals are equally near: to the one whose last digit is even, or to the
greater one. -/
inductive Tie where
  | toEven
  | up
  deriving DecidableEq

/-- A decimal number: its digits, and the power of ten that they count. -/
structure Numeral where
  digits : Nat
  exponent : Int
  deriving DecidableEq

/-- A positive binary number with the interval of what rounds to it, in quarters of the last place:
the numerators of its value and of the two ends over one denominator, and whether the ends round to
the number too. -/
structure Binary where
  low : Nat
  value : Nat
  high : Nat
  denominator : Nat
  closed : Bool

namespace Binary

/-- The number `significand * 2 ^ exponent`. Below a power of two the numbers lie twice as close. -/
def ofParts (significand : Nat) (exponent : Int) (closeBelow : Bool) : Binary :=
  let up := (exponent - 2).toNat
  let scale := Nat.pow 2 up
  let low := 4 * significand - (if closeBelow then 1 else 2)
  ⟨low * scale, 4 * significand * scale, (4 * significand + 2) * scale,
    Nat.pow 2 (2 - exponent).toNat, significand % 2 == 0⟩

/-- The number of decimal digits before the point. -/
def integerDigits (n : Nat) : Nat :=
  if n = 0 then 0 else (Nat.toDigits 10 n).length

/-- The number of zeros that follow the point in a number below one. -/
def leadingZeros (value denominator : Nat) : Nat → Nat
  | 0 => 0
  | bound + 1 =>
    if denominator ≤ 10 * value then 0 else leadingZeros (10 * value) denominator bound + 1

/-- The power of ten that a number's first digit counts, and one more. -/
def magnitude (b : Binary) : Int :=
  let whole := b.value / b.denominator
  if whole = 0 then -(leadingZeros b.value b.denominator 400 : Int) else integerDigits whole

/-- A number in units of a power of ten, as a numerator over a denominator. -/
def inUnits (n denominator : Nat) (exponent : Int) : Nat × Nat :=
  (n * Nat.pow 10 (-exponent).toNat, denominator * Nat.pow 10 exponent.toNat)

/-- Whether so many units of a power of ten round to the number. -/
def admits (b : Binary) (units : Nat) (exponent : Int) : Bool :=
  let (low, d) := inUnits b.low b.denominator exponent
  let (high, _) := inUnits b.high b.denominator exponent
  if b.closed then low ≤ units * d && units * d ≤ high
  else low < units * d && units * d < high

/-- The decimal on the grid of a power of ten that is nearest to the number, if it rounds to it. -/
def nearestOn (b : Binary) (tie : Tie) (exponent : Int) : Option Nat :=
  let (n, d) := inUnits b.value b.denominator exponent
  let below := n / d
  let nearer :=
    match compare (2 * (n % d)) d, tie with
    | .lt, _ => below
    | .gt, _ => below + 1
    | .eq, .up => below + 1
    | .eq, .toEven => if below % 2 = 0 then below else below + 1
  match b.admits below exponent, b.admits (below + 1) exponent with
  | true, true => some nearer
  | true, false => some below
  | false, true => some (below + 1)
  | false, false => none

/-- A decimal without zeros at the end of its digits, for a bounded number of them. -/
def trim : Nat → Numeral → Numeral
  | 0, d => d
  | bound + 1, d =>
    if d.digits ≠ 0 ∧ d.digits % 10 = 0 then trim bound ⟨d.digits / 10, d.exponent + 1⟩ else d

/-- The nearest decimal with the fewest digits that rounds to the number. -/
def shortest (b : Binary) (tie : Tie) : Numeral :=
  let grids := (List.range 17).map fun n ↦ b.magnitude - (n + 1 : Nat)
  let found := grids.findSome? fun e ↦ (b.nearestOn tie e).map fun units ↦ Numeral.mk units e
  trim 400 (found.getD ⟨b.value / b.denominator, 0⟩)

end Binary

end ModalLexer.Decimal
