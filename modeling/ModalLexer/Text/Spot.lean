import ModalLexer.Text.Utf8

/-!
# A spot in a text

A spot is a text together with a place between two of its characters. Moving forward takes
characters over from what lies ahead to what lies behind, so the text itself never changes
(`text_advance`), and the byte offset grows by the length of what was passed (`offset_advance`).
-/

namespace ModalLexer.Text

/-- A place in a text: what lies behind, the nearest character first, and what lies ahead. -/
structure Spot where
  behind : List Char
  ahead : List Char
  deriving DecidableEq

namespace Spot

/-- The start of a text. -/
def start (text : List Char) : Spot := ⟨[], text⟩

/-- The whole text of a spot. -/
def text (s : Spot) : List Char := s.behind.reverse ++ s.ahead

/-- The number of bytes behind a spot. -/
def offset (s : Spot) : Nat := utf8Length s.behind

/-- Moves forward by a number of characters, or to the end if there are fewer. -/
def advance : Nat → Spot → Spot
  | 0, s => s
  | _ + 1, ⟨behind, []⟩ => ⟨behind, []⟩
  | n + 1, ⟨behind, c :: ahead⟩ => advance n ⟨c :: behind, ahead⟩

/-- The spot at a byte offset; none inside a character and beyond the end. -/
def at? (text : List Char) (offset : Nat) : Option Spot :=
  (splitBytes? offset text).map fun (front, back) ↦ ⟨front.reverse, back⟩

/-- What lies ahead loses its first characters. -/
theorem ahead_advance (n : Nat) (s : Spot) : (advance n s).ahead = s.ahead.drop n := by
  fun_induction advance n s <;> simp_all

/-- They come to lie behind. -/
theorem behind_advance (n : Nat) (s : Spot) :
    (advance n s).behind = (s.ahead.take n).reverse ++ s.behind := by
  fun_induction advance n s <;> simp_all

/-- The text stays the same. -/
@[simp] theorem text_advance (n : Nat) (s : Spot) : (advance n s).text = s.text := by
  simp [text, ahead_advance, behind_advance, List.append_assoc]

/-- The offset grows by the bytes of what is passed. -/
theorem offset_advance (n : Nat) (s : Spot) :
    (advance n s).offset = s.offset + utf8Length (s.ahead.take n) := by
  simp [offset, behind_advance, Nat.add_comm]

/-- Moving forward twice is moving forward once by the sum. -/
theorem advance_advance (m n : Nat) (s : Spot) : advance n (advance m s) = advance (m + n) s := by
  fun_induction advance m s with
  | case1 s => simp
  | case2 m behind => cases n <;> simp [advance]
  | case3 m behind c ahead ih => rw [Nat.succ_add, advance]; exact ih

/-- The spot at an offset is a spot of that text with that offset, and there is only one. -/
theorem at?_eq_some_iff {text : List Char} {offset : Nat} {s : Spot} :
    at? text offset = some s ↔ s.text = text ∧ s.offset = offset := by
  rw [at?, Option.map_eq_some_iff]
  constructor
  · rintro ⟨⟨front, back⟩, h, rfl⟩
    obtain ⟨rfl, rfl⟩ := splitBytes?_eq_some_iff.1 h
    simp [Spot.text, Spot.offset]
  · rintro ⟨rfl, rfl⟩
    exact ⟨(s.behind.reverse, s.ahead), splitBytes?_eq_some_iff.2 ⟨rfl, by simp [Spot.offset]⟩,
      by simp⟩

end Spot

end ModalLexer.Text
