/-!
# Reading numbers

Whole numbers are an optional sign and digits. Floating-point numbers may also have a point, with a
digit on at least one side of it, and an exponent; or they are one of the words `inf`, `infinity`
and `nan` in any case.
-/

namespace ModalLexer.Decimal

/-- The number that decimal digits denote. -/
def ofDigits (digits : List Char) : Nat :=
  digits.foldl (fun n c ↦ 10 * n + (c.toNat - '0'.toNat)) 0

/-- Takes a sign off the front: whether it is a minus, and the rest. -/
def takeSign : List Char → Bool × List Char
  | '-' :: cs => (true, cs)
  | '+' :: cs => (false, cs)
  | cs => (false, cs)

/-- The whole number that a text denotes, if it has 64 bits with its sign. -/
def readInteger? (text : List Char) : Option Int64 :=
  let (negative, digits) := takeSign text
  if digits.isEmpty || !digits.all Char.isDigit then none
  else
    let n : Int := ofDigits digits
    let n := if negative then -n else n
    if Int64.minValue.toInt ≤ n ∧ n ≤ Int64.maxValue.toInt then some (Int64.ofInt n) else none

/-- The floating-point number nearest to `digits * 10 ^ exponent`. Powers of ten that can only give
zero or infinity are not computed. -/
def nearestFloat (digits : Nat) (exponent : Int) : Float :=
  let size : Int := (Nat.toDigits 10 digits).length
  if digits = 0 || size + exponent < -400 then 0.0
  else if size + exponent > 400 then 1.0 / 0.0
  else if exponent < 0 then Float.ofScientific digits true (-exponent).toNat
  else Float.ofScientific digits false exponent.toNat

/-- The parts of a positive number in decimal: its digits, and the power of ten that they count. -/
def readDecimal? (text : List Char) : Option (Nat × Int) :=
  let whole := text.takeWhile Char.isDigit
  let afterWhole := text.dropWhile Char.isDigit
  let (fraction, rest) : List Char × List Char :=
    match afterWhole with
    | '.' :: cs => (cs.takeWhile Char.isDigit, cs.dropWhile Char.isDigit)
    | cs => ([], cs)
  if whole.isEmpty && fraction.isEmpty then none
  else
    let digits := ofDigits (whole ++ fraction)
    match rest with
    | [] => some (digits, -(fraction.length : Int))
    | e :: cs =>
      let (negative, power) := takeSign cs
      if (e == 'e' || e == 'E') && !power.isEmpty && power.all Char.isDigit then
        let power : Int := ofDigits power
        some (digits, (if negative then -power else power) - fraction.length)
      else none

/-- The floating-point number that a text denotes. -/
def readFloat? (text : List Char) : Option Float :=
  let (negative, text) := takeSign text
  let signed (x : Float) : Float := if negative then -x else x
  let word := String.ofList (text.map Char.toLower)
  if word == "inf" || word == "infinity" then some (signed (1.0 / 0.0))
  else if word == "nan" then some (0.0 / 0.0)
  else (readDecimal? text).map fun (digits, exponent) ↦ signed (nearestFloat digits exponent)

/-- The truth value that a text denotes. -/
def readBool? (text : String) : Option Bool :=
  if text == "true" then some true else if text == "false" then some false else none

end ModalLexer.Decimal
