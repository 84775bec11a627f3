import ModalLexer.Unicode.AdditionTable
import ModalLexer.Unicode.Property

/-!
# Kinds of characters

What a single character is taken for outside patterns: in the names of rules and groups, and in
quoted texts. These follow version 17 of the standard, so `AdditionTable` is added to the tables
that patterns use. Among the first 128 code points no table is asked.
-/

namespace ModalLexer.Unicode

/-- Upper-case characters. -/
def uppercase : Spans :=
  Listing.uppercase.spans.union addedUppercase

/-- Letters in the widest sense. -/
def letters : Spans :=
  Listing.alphabetic.spans.union addedAlphabetic

/-- Numbers of every kind. -/
def numbers : Spans :=
  (GeneralCategory.among [.nd, .nl, .no]).union addedNumbers

/-- Characters that leave a mark: neither controls and other invisible ones, nor separators, nor
code points without a character. -/
def visible : Spans :=
  let hidden := GeneralCategory.among [.cc, .cf, .co, .cn, .zl, .zp, .zs]
  (hidden.complement.union addedVisible).diff Listing.defaultIgnorableCodePoint.spans

/-- Characters that attach themselves to the one before them. The halfwidth marks of voicing stand
for themselves. -/
def combining : Spans :=
  (Listing.graphemeExtend.spans.union addedMarks).diff (.range '\uFF9E' '\uFF9F')

/-- Whether a character is a blank or a line break of any kind. -/
def isBlank (c : Char) : Bool :=
  if c.toNat < 128 then c == ' ' || ('\t' ≤ c && c ≤ '\r') else blanks.contains c

/-- Whether a character is in upper case. -/
def isUppercase (c : Char) : Bool :=
  if c.toNat < 128 then c.isUpper else uppercase.contains c

/-- Whether a character is a letter. -/
def isAlphabetic (c : Char) : Bool :=
  if c.toNat < 128 then c.isAlpha else letters.contains c

/-- Whether a character is a letter or a number. -/
def isAlphanumeric (c : Char) : Bool :=
  if c.toNat < 128 then c.isAlphanum else letters.contains c || numbers.contains c

/-- Whether a reader sees a character that stands alone; the blank counts as seen. -/
def isVisible (c : Char) : Bool :=
  if c.toNat < 128 then ' ' ≤ c && c ≤ '~' else visible.contains c && !combining.contains c

end ModalLexer.Unicode
