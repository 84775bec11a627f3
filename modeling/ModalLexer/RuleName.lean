import ModalLexer.State
import ModalLexer.Text.Segments
import ModalLexer.Unicode.Character

/-!
# The names of rules

A rule's name may start with the states that it belongs to, each followed by an underscore; what
comes after them is the name of its tokens. A name that does not start with a state, or that
consists of states only, belongs to the initial state as a whole.
-/

namespace ModalLexer

/-- What a rule's name says: the states that the rule belongs to, and the name of its tokens. -/
structure RuleName where
  targets : List String
  token : String
  deriving DecidableEq

namespace RuleName

/-- Reads a rule's name, given which names are states. -/
def resolve (isState : String → Bool) (raw : String) : RuleName :=
  let segments := Text.segments raw
  let states := segments.takeWhile isState
  let rest := segments.dropWhile isState
  if states.isEmpty || rest.isEmpty then ⟨[initialState], raw⟩ else ⟨states, Text.join rest⟩

/-- The rules that a name declares: its token in each of its states. -/
def keys (n : RuleName) : List (String × String) :=
  n.targets.map fun state ↦ (state, n.token)

end RuleName

/-- Whether a text may name a token: it is made of ASCII letters and digits, and is not empty. -/
def isTokenName (name : String) : Bool :=
  !name.toList.isEmpty && name.toList.all Char.isAlphanum

/-- Whether a name is in upper case throughout, so that it must be declared. -/
def isUppercaseName (name : String) : Bool :=
  name.toList.all Unicode.isUppercase

/-- The states that the text of an ignore or error declaration names; without a text it is the
initial state. -/
def namedStates : Option String → List String
  | none => [initialState]
  | some text => Text.segments text

end ModalLexer
