import ModalLexer.Text.Hex

/-!
# JSON

A JSON value keeps numbers as they are written and objects with their members in order, repeated
ones included, so that what a number or a repeated member means is left to whoever uses the value.
-/

namespace ModalLexer

/-- A number as it is written: whether it has a minus sign, the digits before and after the point,
and the exponent if there is one. -/
structure JsonNumber where
  negative : Bool
  whole : List Char
  fraction : List Char
  exponent : Option Int

/-- A JSON value. A text is missing if half a surrogate pair is escaped in it. -/
inductive Json where
  | null
  | bool (b : Bool)
  | number (n : JsonNumber)
  | string (s : Option String)
  | array (items : List Json)
  | object (members : List (Option String × Json))

namespace JsonNumber

/-- Whether a number is written without a point and an exponent. -/
def isWhole (n : JsonNumber) : Bool :=
  n.fraction.isEmpty && n.exponent.isNone

/-- Puts digits at the end of a number as long as it fits into 64 bits: the number, and how many
digits are left over. -/
def extend (n : Nat) : List Char → Nat × Nat
  | [] => (n, 0)
  | c :: cs =>
    let n' := 10 * n + (c.toNat - '0'.toNat)
    if n' < 0x10000000000000000 then extend n' cs else (n, cs.length + 1)

/-- The whole number that is written, unless it has more than 64 bits. -/
def natural? (n : JsonNumber) : Option Nat :=
  match extend 0 n.whole with
  | (value, 0) => if n.isWhole && !n.negative then some value else none
  | _ => none

/-- The whole number that is written, if it fits into 64 bits with its sign. A negative zero is not
a whole number. -/
def integer? (n : JsonNumber) : Option Int64 :=
  match extend 0 n.whole with
  | (value, 0) =>
    if !n.isWhole then none
    else if n.negative then
      if 0 < value ∧ value ≤ 0x8000000000000000 then some (Int64.ofInt (-(value : Int))) else none
    else if value < 0x8000000000000000 then some (Int64.ofNat value) else none
  | _ => none

/-- Multiplies or divides by a power of ten, by at most the greatest one at a time; none if the
result is beyond all numbers. -/
def scale : Nat → Float → Int → Option Float
  | 0, x, _ => some x
  | bound + 1, x, exponent =>
    if exponent.natAbs ≤ 308 then
      let power := Float.ofScientific 1 false exponent.natAbs
      if exponent < 0 then some (x / power)
      else if (x * power).isInf then none else some (x * power)
    else if x == 0.0 then some x
    else if exponent > 0 then none
    else scale bound (x / 1e308) (exponent + 308)

/-- The floating-point number that is written: its digits, as many as fit into 64 bits, times one
power of ten. Digits before the point that do not fit are taken for zeros, and digits after the
point fill what room is left. None if it is beyond all numbers. -/
def float? (n : JsonNumber) : Option Float :=
  let (whole, zeros) := extend 0 n.whole
  let (value, left) := extend whole n.fraction
  let exponent : Int := n.exponent.getD 0 + zeros + left - n.fraction.length
  let signed (x : Float) : Float := if n.negative then -x else x
  (scale 400 (Float.ofNat value) exponent).map signed

end JsonNumber

namespace Json

/-- A character inside a string. -/
def escapeChar (c : Char) : List Char :=
  if c == '"' || c == '\\' then ['\\', c]
  else if c == '\x08' then ['\\', 'b']
  else if c == '\x0C' then ['\\', 'f']
  else if c == '\n' then ['\\', 'n']
  else if c == '\r' then ['\\', 'r']
  else if c == '\t' then ['\\', 't']
  else if c.toNat < 32 then
    let digits := Text.hexDigits c.toNat
    ['\\', 'u'] ++ List.replicate (4 - digits.length) '0' ++ digits
  else [c]

/-- A string between quotation marks. -/
def quote (s : String) : String :=
  String.ofList ('"' :: s.toList.flatMap escapeChar ++ ['"'])

/-- An array of values that are written already. -/
def arrayText (items : List String) : String :=
  "[" ++ ",".intercalate items ++ "]"

/-- An object of members that are written already. -/
def objectText (members : List (String × String)) : String :=
  "\x7B" ++ ",".intercalate (members.map fun (name, value) ↦ quote name ++ ":" ++ value) ++ "\x7D"

end Json

end ModalLexer
