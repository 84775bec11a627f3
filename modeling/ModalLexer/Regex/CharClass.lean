import ModalLexer.Regex.Syntax
import ModalLexer.Unicode.Folding
import ModalLexer.Unicode.Property

/-!
# Classes of characters

A class is the set of its characters. Here are the classes that have names of their own, and the
two ways to make a class indifferent to case.
-/

namespace ModalLexer.Regex

open Unicode (Spans)

/-- The ranges of a named class. -/
def NamedClass.ranges : NamedClass → List (Char × Char)
  | alnum => [('0', '9'), ('A', 'Z'), ('a', 'z')]
  | alpha => [('A', 'Z'), ('a', 'z')]
  | ascii => [('\x00', '\x7F')]
  | blank => [('\t', '\t'), (' ', ' ')]
  | cntrl => [('\x00', '\x1F'), ('\x7F', '\x7F')]
  | digit => [('0', '9')]
  | graph => [('!', '~')]
  | lower => [('a', 'z')]
  | print => [(' ', '~')]
  | punct => [('!', '/'), (':', '@'), ('[', '\x60'), ('\x7B', '~')]
  | space => [('\t', '\r'), (' ', ' ')]
  | upper => [('A', 'Z')]
  | word => [('0', '9'), ('A', 'Z'), ('_', '_'), ('a', 'z')]
  | xdigit => [('0', '9'), ('A', 'F'), ('a', 'f')]

/-- The characters of a named class. -/
def NamedClass.spans (k : NamedClass) : Spans :=
  .ofRanges k.ranges

/-- The characters of a short class, of every script or of the first 128 code points only. -/
def ShortClass.spans (unicode : Bool) (k : ShortClass) : Spans :=
  match k, unicode with
  | digit, true => Unicode.decimalDigits
  | space, true => Unicode.blanks
  | word, true => Unicode.wordCharacters
  | digit, false => NamedClass.digit.spans
  | space, false => NamedClass.space.spans
  | word, false => NamedClass.word.spans

/-- The ASCII letters. -/
def asciiLetters : List Char :=
  "ABCDEFGHIJKLMNOPQRSTUVWXYZabcdefghijklmnopqrstuvwxyz".toList

/-- The same ASCII letter in the other case. -/
def otherCase (c : Char) : Char :=
  if c.isUpper then c.toLower else c.toUpper

/-- What differs from something in a class in the case of an ASCII letter only. -/
def foldedAscii (cls : Spans) : Spans :=
  cls.union (.unionAll ((asciiLetters.filter fun c ↦ cls.contains (otherCase c)).map .single))

end ModalLexer.Regex
