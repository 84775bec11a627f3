import ModalLexer.Decimal.Shortest

/-!
# Floating-point numbers in decimal

A `Layout` says how numbers are written: which ones positionally, which ones with an exponent, and
whether whole numbers keep a point and exponents a plus sign. Its digits are the fewest that read
back.
-/

namespace ModalLexer.Decimal

/-- How floating-point numbers are written. They are written positionally if the point falls at
least `pointFrom` and at most `pointTo` places after the start of their digits, and always where
there are no such bounds; whole numbers then may keep a point and a zero, and positive exponents a
sign otherwise. -/
structure Layout where
  pointFrom : Option Int
  pointTo : Option Int
  keepPoint : Bool
  keepPlus : Bool
  tie : Tie

/-- A positive decimal number in a layout. -/
def Layout.numeral (l : Layout) (d : Numeral) : String :=
  let digits := Nat.toDigits 10 d.digits
  let point : Int := digits.length + d.exponent
  let zeros (n : Int) : List Char := List.replicate n.toNat '0'
  let positional := l.pointFrom.all (· ≤ point) && l.pointTo.all (point ≤ ·)
  String.ofList <|
    if positional then
      if d.exponent ≥ 0 then
        digits ++ zeros d.exponent ++ if l.keepPoint then ['.', '0'] else []
      else if point > 0 then digits.take point.toNat ++ '.' :: digits.drop point.toNat
      else '0' :: '.' :: zeros (-point) ++ digits
    else
      let fraction := if digits.length = 1 then [] else '.' :: digits.tail
      let sign := if l.keepPlus && 0 < point - 1 then ['+'] else []
      digits.take 1 ++ fraction ++ 'e' :: sign ++ (toString (point - 1)).toList

/-- What the bits of a floating-point number mean. Zero has a sign too. -/
inductive Meaning where
  | nan
  | infinite (negative : Bool)
  | zero (negative : Bool)
  | finite (negative : Bool) (b : Binary)

/-- The meaning of a floating-point number. -/
def Meaning.of (x : Float) : Meaning :=
  let bits := x.toBits.toNat
  let negative := bits.testBit 63
  let exponent : Nat := (bits >>> 52) % 0x800
  let unit : Nat := 0x10000000000000
  let fraction : Nat := bits % unit
  if exponent = 2047 then if fraction = 0 then infinite negative else nan
  else if exponent = 0 then
    if fraction = 0 then zero negative else finite negative (.ofParts fraction (-1074) false)
  else
    finite negative
      (.ofParts (unit + fraction) ((exponent : Int) - 1075) (fraction == 0 && exponent != 1))

/-- A floating-point number in a layout. -/
def Layout.render (l : Layout) (x : Float) : String :=
  let signed (negative : Bool) (s : String) : String := if negative then "-" ++ s else s
  match Meaning.of x with
  | .nan => "NaN"
  | .infinite negative => signed negative "inf"
  | .zero negative => signed negative (if l.keepPoint then "0.0" else "0")
  | .finite negative b => signed negative (l.numeral (b.shortest l.tie))

end ModalLexer.Decimal
