import ModalLexer.Counter
import ModalLexer.Decimal.Layout
import ModalLexer.Text.Layout
import ModalLexer.Text.Quoted

/-!
# Tokens

A token has a name, a value and the position where its match started. Tokens start out holding the
text they matched; rule actions may replace it by a converted value.
-/

namespace ModalLexer

/-- A line and a column, both counted from one; columns count characters. -/
structure Position where
  line : Counter
  column : Counter
  deriving DecidableEq

namespace Position

/-- The position where texts start. -/
def origin : Position := ⟨1, 1⟩

/-- The position with the name of its type and fields. -/
def describe (p : Position) : String :=
  Text.record "SourceLine" [("line", toString p.line), ("column", toString p.column)]

end Position

/-- What a token carries. -/
inductive TokenValue where
  | none
  | text (s : String)
  | integer (n : Int64)
  | float (x : Float)
  | char (c : Char)
  | bool (b : Bool)
  deriving BEq

namespace TokenValue

/-- Floating-point numbers as a reader expects them: always positionally. -/
def plainLayout : Decimal.Layout where
  pointFrom := .none
  pointTo := .none
  keepPoint := false
  keepPlus := false
  tie := .up

/-- Floating-point numbers as they are described: with a point, and with an exponent if they are
very small or very large. -/
def describedLayout : Decimal.Layout where
  pointFrom := some (-3)
  pointTo := some 16
  keepPoint := true
  keepPlus := false
  tie := .up

/-- The text of a value that is text. -/
def asText? : TokenValue → Option String
  | text s => some s
  | _ => .none

/-- The number of a value that is a whole number. -/
def asInteger? : TokenValue → Option Int64
  | integer n => some n
  | _ => .none

/-- The value as a reader expects it. -/
def display : TokenValue → String
  | none => ""
  | text s => s
  | integer n => toString n.toInt
  | float x => plainLayout.render x
  | char c => String.singleton c
  | bool b => Text.truth b

/-- The value with its kind. -/
def describe : TokenValue → String
  | none => "None"
  | text s => Text.variant "Text" [Text.quote s]
  | integer n => Text.variant "Integer" [toString n.toInt]
  | float x => Text.variant "Float" [describedLayout.render x]
  | char c => Text.variant "Char" [Text.quoteChar c]
  | bool b => Text.variant "Bool" [Text.truth b]

end TokenValue

/-- A token: its kind, what it carries, and where its match started. -/
structure Token where
  name : String
  value : TokenValue
  position : Position
  deriving BEq

namespace Token

/-- The name of the tokens that stand for unrecognized characters. -/
def errorName : String := "error"

/-- The name of the rules that leave the column to their actions. -/
def newlineName : String := "newline"

/-- A token at the position where texts start. -/
def new (name : String) (value : TokenValue) : Token := ⟨name, value, .origin⟩

/-- A token that holds the text of its match. -/
def ofMatch (name : String) (text : List Char) (position : Position) : Token :=
  ⟨name, .text (String.ofList text), position⟩

/-- The token's text if its value still is text. -/
def text? (t : Token) : Option String := t.value.asText?

/-- Whether a token stands for an unrecognized character. -/
def isError (t : Token) : Bool := t.name == errorName

/-- The token on one line. -/
def display (t : Token) : String :=
  "Token(" ++ t.name ++ "," ++ t.value.display ++ "," ++ toString t.position.line ++ "," ++
    toString t.position.column ++ ")"

/-- The token with the names of its type and fields. -/
def describe (t : Token) : String :=
  Text.record "Token" [("name", Text.quote t.name), ("value", t.value.describe),
    ("source_line", t.position.describe)]

end Token

end ModalLexer
