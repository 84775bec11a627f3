import ModalLexer.RuleName
import ModalLexer.Table

/-!
# Compiled rules

A `RuleSet` holds what scanning needs to know of each state: its lexemes, what it ignores, and what
it does about characters that it does not recognize. An error entry without a handler says that
nothing is to be done about them on purpose.
-/

namespace ModalLexer

/-- Rules in the form in which they are scanned with. The initial state is the first of the states,
an error entry may be without a handler, and a rule counts once for each state it is declared in. -/
structure RuleSet where
  tokens : List String
  states : List (String × StateKind)
  tables : Table State
  ignores : Table IgnoreSet
  errors : Table (Option Action)
  ruleCount : Nat

namespace RuleSet

/-- The kind of a declared state. -/
def kind? (r : RuleSet) (state : String) : Option StateKind :=
  Table.find? state r.states

/-- Whether a state is declared. -/
def hasState (r : RuleSet) (state : String) : Bool :=
  (r.kind? state).isSome

/-- The lexemes of a state, inherited ones included. -/
def lexemes (r : RuleSet) (state : String) : List Lexeme :=
  (r.tables.get? state).elim [] (·.lexemes)

/-- What a state ignores, if there is an entry for it. -/
def ignore? (r : RuleSet) (state : String) : Option IgnoreSet :=
  r.ignores.get? state

/-- Whether a state skips a character. -/
def ignores? (r : RuleSet) (state : String) (c : Char) : Bool :=
  (r.ignore? state).any (·.contains c)

/-- Whether a state has an error entry, with a handler or without. -/
def hasErrorEntry (r : RuleSet) (state : String) : Bool :=
  (r.errors.get? state).isSome

/-- What a state does about characters that it does not recognize. -/
def handler? (r : RuleSet) (state : String) : Option Action :=
  (r.errors.get? state).join

/-- The rules with the names of their type and fields. -/
def describe (r : RuleSet) : String :=
  let state (name : String) (kind : StateKind) : String :=
    Text.tuple [Text.quote name, kind.describe]
  Text.record "RuleSet"
    [("tokens", Text.bracketed (r.tokens.map Text.quote)),
     ("states", Text.bracketed (r.states.map fun (name, kind) ↦ state name kind)),
     ("tables", Text.braced (r.tables.entries.map fun (name, s) ↦ (Text.quote name, s.describe))),
     ("ignore", Text.braced (r.ignores.entries.map fun (name, s) ↦ (Text.quote name, s.describe))),
     ("errors", Text.bracketed (r.errors.entries.map fun (name, handler) ↦
        Text.tuple [Text.quote name, Text.truth handler.isSome]))]

end RuleSet

end ModalLexer
