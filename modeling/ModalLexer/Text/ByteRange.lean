/-!
# Ranges of characters as ranges of bytes

The UTF-8 forms of the characters from one to another are taken apart into pieces, in rising order:
in a piece all forms have the same number of bytes, and each byte runs through a range of its own,
whatever the others are. `pieces` cuts a range of forms of one length, `forms` any range.
-/

namespace ModalLexer.Text

/-- The bytes from one to another. -/
abbrev ByteRange := Nat × Nat

/-- Takes apart the forms with a number of continuation bytes for the numbers from `a` to `b`. The
first byte is the number's highest part added to `mark`, each other byte another six bits of it. -/
def pieces : (continuations : Nat) → (mark a b : Nat) → List (List ByteRange)
  | 0, mark, a, b => [[(mark + a, mark + b)]]
  | k + 1, mark, a, b =>
    let unit := 1 <<< (6 * (k + 1))
    let under (lead low high : Nat) : List (List ByteRange) :=
      (pieces k 0x80 low high).map ((mark + lead, mark + lead) :: ·)
    if a / unit = b / unit then under (a / unit) (a % unit) (b % unit)
    else
      let first := (a + unit - 1) / unit
      let last := (b + 1) / unit
      let front := if a % unit = 0 then [] else under (a / unit) (a % unit) (unit - 1)
      let middle :=
        if first < last then
          [(mark + first, mark + last - 1) :: List.replicate (k + 1) (0x80, 0xBF)]
        else []
      let back := if b % unit = unit - 1 then [] else under (b / unit) 0 (b % unit)
      front ++ middle ++ back

/-- The blocks of code points whose forms have equally many bytes, surrogates left out: the first
and the last of them, the number of continuation bytes, and the mark of the first byte. -/
def formLengths : List (Nat × Nat × Nat × Nat) :=
  [(0, 0x7F, 0, 0), (0x80, 0x7FF, 1, 0xC0), (0x800, 0xD7FF, 2, 0xE0), (0xE000, 0xFFFF, 2, 0xE0),
   (0x10000, 0x10FFFF, 3, 0xF0)]

/-- Takes apart the UTF-8 forms of the code points from one to another. -/
def forms (first last : Nat) : List (List ByteRange) :=
  formLengths.flatMap fun (a, b, continuations, mark) ↦
    if max first a ≤ min last b then pieces continuations mark (max first a) (min last b) else []

end ModalLexer.Text
