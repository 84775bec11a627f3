import ModalLexer.Text.Layout
import ModalLexer.Text.Quoted

/-!
# Sets of characters

A `CharSet` is a list of inclusive ranges, kept exactly as it was given: ranges may overlap, and one
whose ends are the wrong way round holds nothing. An `IgnoreSet` says what a state skips between
tokens, by a string of characters or by a set.
-/

namespace ModalLexer

/-- A set of characters described by inclusive ranges, which are kept as they were given. -/
structure CharSet where
  ranges : List (Char × Char)
  deriving DecidableEq

namespace CharSet

/-- The set of no characters. -/
def empty : CharSet := ⟨[]⟩

/-- The set that holds exactly the characters of a text. -/
def ofChars (chars : List Char) : CharSet := ⟨chars.map fun c ↦ (c, c)⟩

/-- Digits. -/
def digits : CharSet := ⟨[('0', '9')]⟩

/-- Letters. -/
def alpha : CharSet := ⟨[('a', 'z'), ('A', 'Z')]⟩

/-- Letters, digits and the underscore. -/
def word : CharSet := ⟨[('a', 'z'), ('A', 'Z'), ('0', '9'), ('_', '_')]⟩

/-- The blank, the tab and the characters that end lines. -/
def whitespace : CharSet := ⟨[(' ', ' '), ('\t', '\t'), ('\r', '\r'), ('\n', '\n')]⟩

/-- Whether a set holds a character. -/
def contains (s : CharSet) (c : Char) : Bool :=
  s.ranges.any fun (first, last) ↦ first ≤ c && c ≤ last

/-- The ranges in brackets. -/
def describeRanges (s : CharSet) : String :=
  Text.bracketed <| s.ranges.map fun (first, last) ↦
    Text.tuple [Text.quoteChar first, Text.quoteChar last]

/-- The set with the name of its type and field. -/
def describe (s : CharSet) : String :=
  Text.record "CharSet" [("ranges", s.describeRanges)]

/-- The set made of a text holds just the characters of the text. -/
@[simp] theorem contains_ofChars {chars : List Char} {c : Char} :
    (ofChars chars).contains c = true ↔ c ∈ chars := by
  simp only [contains, ofChars, List.any_map, List.any_eq_true, Function.comp_apply,
    Bool.and_eq_true, decide_eq_true_eq]
  constructor
  · rintro ⟨d, hd, h₁, h₂⟩
    exact Char.le_antisymm h₁ h₂ ▸ hd
  · exact fun h ↦ ⟨c, h, Char.le_refl c, Char.le_refl c⟩

end CharSet

/-- What a state skips between tokens: the characters of a text, or those of a set. -/
inductive IgnoreSet where
  | chars (text : String)
  | charClass (set : CharSet)
  deriving DecidableEq

namespace IgnoreSet

/-- The set that skips nothing, the one a state has unless told otherwise. -/
def default : IgnoreSet := .chars ""

/-- Whether a character is skipped. -/
def contains : IgnoreSet → Char → Bool
  | .chars text, c => text.toList.contains c
  | .charClass set, c => set.contains c

/-- Whether a set was given without any characters or ranges. -/
def isEmpty : IgnoreSet → Bool
  | .chars text => text.toList.isEmpty
  | .charClass set => set.ranges.isEmpty

/-- The set with the way in which it was given. -/
def describe : IgnoreSet → String
  | .chars text => Text.variant "Chars" [Text.quote text]
  | .charClass set => Text.variant "Class" [set.describe]

/-- A set without characters and ranges skips nothing. -/
theorem contains_of_isEmpty {s : IgnoreSet} (h : s.isEmpty = true) (c : Char) :
    s.contains c = false := by
  cases s with
  | chars text => simp_all [isEmpty, contains]
  | charClass set => simp_all [isEmpty, contains, CharSet.contains]

end IgnoreSet

end ModalLexer
