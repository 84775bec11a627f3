import ModalLexer.Text.Layout
import ModalLexer.Unicode.Character

/-!
# Configuration

The one option is whether scanning is logged. It can be taken from a setting in words: anything
except blanks, a zero and the word "false" in any case switches it on.
-/

namespace ModalLexer

/-- The options of a lexer: whether tables, the lexemes tried and the tokens emitted are logged. -/
structure Config where
  debug : Bool
  deriving DecidableEq

namespace Config

/-- The options that a lexer has unless told otherwise. -/
def quiet : Config := ⟨false⟩

/-- The options of a lexer that logs what it does. -/
def verbose : Config := ⟨true⟩

/-- A text without the blanks at both ends. -/
def trim (text : List Char) : List Char :=
  ((text.dropWhile Unicode.isBlank).reverse.dropWhile Unicode.isBlank).reverse

/-- Whether a setting in words switches an option on. -/
def isOn (setting : String) : Bool :=
  let word := trim setting.toList
  !(word.isEmpty || word == ['0'] || word.map Char.toLower == "false".toList)

/-- The options that a setting in words gives; there may be none. -/
def ofSetting (setting : Option String) : Config :=
  ⟨setting.any isOn⟩

/-- The options with the names of their type and fields. -/
def describe (c : Config) : String :=
  Text.record "LexerConfig" [("debug", Text.truth c.debug)]

end Config

end ModalLexer
