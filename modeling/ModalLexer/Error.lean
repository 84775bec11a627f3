import ModalLexer.Counter
import ModalLexer.Regex.Syntax
import ModalLexer.Text.Layout
import ModalLexer.Text.Quoted

/-!
# Everything that can go wrong

A lexer can fail when its declarations are compiled, when the compiled rules are checked for
completeness, and when it scans. `LexError` covers all three, and what an action raises itself. Each
error has a sentence for the reader (`message`), a description of its parts (`describe`) and, unless
it carries a position, a stable code.
-/

namespace ModalLexer

/-- A declaration that cannot be compiled. A token is undeclared if its name is in upper case
throughout; a rule is redefined if it is declared twice for one state. -/
inductive DefinitionError where
  | noTokens
  | badTokenName (name : String)
  | duplicateToken (name : String)
  | undeclaredToken (rule token : String)
  | ruleRedefined (rule : String)
  | invalidPattern (rule : String) (reason : Regex.SyntaxError)
  | invalidStateKind (kind : String)
  | undefinedState (state : String)
  deriving DecidableEq

namespace DefinitionError

/-- The sentence for a definition error, up to the reason that a pattern was rejected for. -/
def headline : DefinitionError → String
  | noTokens => "No token list defined"
  | badTokenName name => "Bad token name `" ++ name ++ "`"
  | duplicateToken name => "Token `" ++ name ++ "` already defined"
  | undeclaredToken rule token =>
    "Rule '" ++ rule ++ "' defined for an unspecified token " ++ token
  | ruleRedefined rule => "Rule '" ++ rule ++ "' redefined."
  | invalidPattern rule _ => "Invalid pattern for rule '" ++ rule ++ "': "
  | invalidStateKind kind => "State type `" ++ kind ++ "` must be inclusive or exclusive"
  | undefinedState state => "Undefined state: " ++ state

/-- The sentence for a definition error. -/
def message (e : DefinitionError) : String :=
  match e with
  | invalidPattern _ reason => e.headline ++ reason.message
  | e => e.headline

/-- The parts of a definition error. -/
def describe : DefinitionError → String
  | noTokens => "NoTokens"
  | badTokenName name => Text.record "BadTokenName" [("name", Text.quote name)]
  | duplicateToken name => Text.record "DuplicateToken" [("name", Text.quote name)]
  | undeclaredToken rule token =>
    Text.record "UndeclaredToken" [("rule", Text.quote rule), ("token", Text.quote token)]
  | ruleRedefined rule => Text.record "RuleRedefined" [("rule", Text.quote rule)]
  | invalidPattern rule reason =>
    Text.record "InvalidPattern" [("rule", Text.quote rule), ("reason", Text.quote reason.message)]
  | invalidStateKind kind => Text.record "InvalidStateKind" [("kind", Text.quote kind)]
  | undefinedState state => Text.record "UndefinedState" [("state", Text.quote state)]

/-- The code of a definition error. -/
def code : DefinitionError → String
  | noTokens => "definition::no_tokens"
  | badTokenName _ => "definition::bad_token_name"
  | duplicateToken _ => "definition::duplicate_token"
  | undeclaredToken _ _ => "definition::undeclared_token"
  | ruleRedefined _ => "definition::rule_redefined"
  | invalidPattern _ _ => "definition::invalid_pattern"
  | invalidStateKind _ => "definition::invalid_state_kind"
  | undefinedState _ => "definition::undefined_state"

/-- What to do about a definition error, where there is something to say. -/
def help? : DefinitionError → Option String
  | undeclaredToken _ _ => some "add the token to the `tokens` declaration"
  | _ => none

end DefinitionError

/-- Why compiled rules are of no use. -/
inductive LintFailure where
  | noTokens
  | badTokenName (name : String)
  | duplicateToken (name : String)
  | noRules
  | noRulesForState (state : String)
  deriving DecidableEq

namespace LintFailure

/-- The sentence for a failed check. -/
def message : LintFailure → String
  | noTokens => "No token list defined"
  | badTokenName name => "Bad token name `" ++ name ++ "`"
  | duplicateToken name => "Token `" ++ name ++ "` already defined"
  | noRules => "No rules are defined"
  | noRulesForState state => "No rules defined for state '" ++ state ++ "'"

/-- The parts of a failed check. -/
def describe : LintFailure → String
  | noTokens => "NoTokens"
  | badTokenName name => Text.record "BadTokenName" [("name", Text.quote name)]
  | duplicateToken name => Text.record "DuplicateToken" [("name", Text.quote name)]
  | noRules => "NoRules"
  | noRulesForState state => Text.record "NoRulesForState" [("state", Text.quote state)]

/-- The code of a failed check. -/
def code : LintFailure → String
  | noTokens => "lint::no_tokens"
  | badTokenName _ => "lint::bad_token_name"
  | duplicateToken _ => "lint::duplicate_token"
  | noRules => "lint::no_rules"
  | noRulesForState _ => "lint::no_rules_for_state"

end LintFailure

/-- What can go wrong at a place of the input: a character that the state neither recognizes nor
recovers from, or a return to a saved state when none is saved. -/
inductive ScanErrorKind where
  | illegalCharacter (c : Char)
  | stateStackUnderflow
  deriving DecidableEq

namespace ScanErrorKind

/-- The sentence for what went wrong, without the place. -/
def message : ScanErrorKind → String
  | illegalCharacter c => "Illegal character `" ++ String.singleton c ++ "`"
  | stateStackUnderflow => "Cannot pop state: the state stack is empty"

/-- The parts of what went wrong. -/
def describe : ScanErrorKind → String
  | illegalCharacter c => Text.record "IllegalCharacter" [("char", Text.quoteChar c)]
  | stateStackUnderflow => "StateStackUnderflow"

/-- The code of what went wrong. -/
def code : ScanErrorKind → String
  | illegalCharacter _ => "scan::illegal_character"
  | stateStackUnderflow => "scan::state_stack_underflow"

end ScanErrorKind

/-- Something that went wrong at a line and a column of the input, both counted from one. -/
structure ScanError where
  line : Counter
  column : Counter
  kind : ScanErrorKind
  deriving DecidableEq

namespace ScanError

/-- The sentence for an error with its place. -/
def message (e : ScanError) : String :=
  e.kind.message ++ " at line " ++ toString e.line ++ ", column " ++ toString e.column

/-- The parts of an error with its place. -/
def describe (e : ScanError) : String :=
  Text.record "ScanError" [("line", toString e.line), ("column", toString e.column),
    ("kind", e.kind.describe)]

end ScanError

/-- Any error of a lexer: from compiling declarations or naming a state that is not declared, from
checking compiled rules, from scanning, or raised by an action. -/
inductive LexError where
  | definition (e : DefinitionError)
  | lint (e : LintFailure)
  | scan (e : ScanError)
  | action (message : String)
  deriving DecidableEq

namespace LexError

/-- The error for a character that is not recognized. -/
def illegalCharacter (c : Char) (line column : Counter) : LexError :=
  .scan ⟨line, column, .illegalCharacter c⟩

/-- The error for a return to a saved state when none is saved. -/
def underflow (line column : Counter) : LexError :=
  .scan ⟨line, column, .stateStackUnderflow⟩

/-- The error for a state that is not declared. -/
def undefinedState (state : String) : LexError :=
  .definition (.undefinedState state)

/-- The sentence for an error. -/
def message : LexError → String
  | definition e => e.message
  | lint e => e.message
  | scan e => e.message
  | action text => text

/-- The sentence for an error, up to the reason that a pattern was rejected for. -/
def headline : LexError → String
  | definition e => e.headline
  | e => e.message

/-- The parts of an error. -/
def describe : LexError → String
  | definition e => Text.variant "Definition" [e.describe]
  | lint e => Text.variant "Lint" [e.describe]
  | scan e => Text.variant "Scan" [e.describe]
  | action text => Text.variant "Action" [Text.quote text]

/-- Whether an error arose while scanning. -/
def isScanError : LexError → Bool
  | scan _ | action _ => true
  | definition _ | lint _ => false

/-- The code of an error, if it has one of its own. -/
def code? : LexError → Option String
  | definition e => some e.code
  | lint e => some e.code
  | scan _ => none
  | action _ => some "lexer::action"

/-- What to do about an error, where there is something to say. -/
def help? : LexError → Option String
  | definition e => e.help?
  | _ => none

end LexError

end ModalLexer
