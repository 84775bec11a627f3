import ModalLexer.Action
import ModalLexer.Pattern

/-!
# States and their lexemes

A lexeme is a compiled rule. A state lists the lexemes available in it, in the order in which they
were registered, which decides between equally long matches; it never lists two of one name. Names
alone decide whether two lexemes are the same: a lexeme that is registered takes the place of the
one with its name.
-/

namespace ModalLexer

/-- The name of the state that every lexer starts in. -/
def initialState : String := "initial"

/-- How a state relates to the rules of the initial one. An inclusive state also has the rules and
settings of the initial state, unless it has its own; an exclusive one has its own only. -/
inductive StateKind where
  | inclusive
  | exclusive
  deriving DecidableEq

namespace StateKind

/-- The kind that a state has unless told otherwise. -/
def default : StateKind := inclusive

/-- The word for a kind. -/
def display : StateKind → String
  | inclusive => "inclusive"
  | exclusive => "exclusive"

/-- The name of a kind. -/
def describe : StateKind → String
  | inclusive => "Inclusive"
  | exclusive => "Exclusive"

/-- The kind that a word stands for. -/
def ofText (text : String) : Except DefinitionError StateKind :=
  if text = "inclusive" then .ok inclusive
  else if text = "exclusive" then .ok exclusive
  else .error (.invalidStateKind text)

end StateKind

/-- A compiled rule: the name of its tokens, what it matches, and what becomes of the tokens.
Without an action they are emitted. -/
structure Lexeme where
  name : String
  matcher : Matcher
  action : Option Action

namespace Lexeme

/-- What becomes of a lexeme's tokens. -/
def effectiveAction (l : Lexeme) : Action := l.action.getD .keep

/-- The lexeme with the names of its type and fields; its action is not shown. -/
def describe (l : Lexeme) : String :=
  Text.record "Lexeme" [("name", Text.quote l.name), ("matcher", l.matcher.describe),
    ("action", Text.optional (l.action.map fun _ ↦ Text.quote ".."))]

end Lexeme

/-- The lexemes of one state, the first registered first. -/
structure State where
  name : String
  lexemes : List Lexeme

namespace State

/-- A state without lexemes. -/
def new (name : String) : State := ⟨name, []⟩

/-- The names of a state's lexemes. -/
def names (s : State) : List String := s.lexemes.map (·.name)

/-- The lexeme with a given name. -/
def get? (s : State) (name : String) : Option Lexeme :=
  s.lexemes.find? (·.name == name)

/-- Puts a lexeme in the place of the one with its name, or at the end. -/
def registerIn (l : Lexeme) : List Lexeme → List Lexeme
  | [] => [l]
  | k :: ks => if k.name = l.name then l :: ks else k :: registerIn l ks

/-- Registers a lexeme: it takes the place of the one with its name, or comes last. -/
def register (s : State) (l : Lexeme) : State :=
  ⟨s.name, registerIn l s.lexemes⟩

/-- Appends a lexeme unless there is one with its name. -/
def add (s : State) (l : Lexeme) : State :=
  if s.names.contains l.name then s else ⟨s.name, s.lexemes ++ [l]⟩

/-- Appends those lexemes whose names are not there yet. -/
def update (s : State) (lexemes : List Lexeme) : State :=
  lexemes.foldl add s

/-- The state with the names of its type and fields. -/
def describe (s : State) : String :=
  Text.record "State" [("name", Text.quote s.name),
    ("lexemes", Text.bracketed (s.lexemes.map (·.describe)))]

/-- Two states are alike if they have one name and lexemes of the same names in the same order. -/
def alike (s t : State) : Bool :=
  s.name == t.name && s.names == t.names

/-- An added lexeme puts its name last, unless it is there. -/
@[simp] theorem names_add (s : State) (l : Lexeme) :
    (s.add l).names = if l.name ∈ s.names then s.names else s.names ++ [l.name] := by
  unfold add
  split <;> simp_all [names]

end State

end ModalLexer
