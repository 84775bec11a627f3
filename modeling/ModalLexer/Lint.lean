import ModalLexer.RuleSet

/-!
# Checking compiled rules

Rules are of no use without tokens, without rules, or if some state has none; the first such finding
is a failure. Everything else is a warning, and does not keep a lexer from running. Tokens are
checked first, then the states, which give warnings only, then the rules.
-/

namespace ModalLexer

/-- A finding that does not keep a lexer from running: an exclusive state in which unrecognized
input ends the scan, one that skips nothing, or a state that no rule's name can start with, so that
only actions can enter it. -/
inductive LintWarning where
  | noErrorRule (state : String)
  | noIgnoreRule (state : String)
  | unprefixableState (state : String)
  deriving DecidableEq

namespace LintWarning

/-- The state that a warning is about. -/
def state : LintWarning → String
  | noErrorRule s | noIgnoreRule s | unprefixableState s => s

/-- The sentence for a warning. -/
def message : LintWarning → String
  | noErrorRule s => "No error rule is defined for exclusive state '" ++ s ++ "'"
  | noIgnoreRule s => "No ignore rule is defined for exclusive state '" ++ s ++ "'"
  | unprefixableState s => "State '" ++ s ++ "' cannot be used as a rule prefix"

/-- The parts of a warning. -/
def describe : LintWarning → String
  | noErrorRule s => Text.record "NoErrorRule" [("state", Text.quote s)]
  | noIgnoreRule s => Text.record "NoIgnoreRule" [("state", Text.quote s)]
  | unprefixableState s => Text.record "UnprefixableState" [("state", Text.quote s)]

end LintWarning

/-- The warnings of a check that did not fail, in the order of the states. -/
structure LintReport where
  warnings : List LintWarning
  deriving DecidableEq

namespace LintReport

/-- Whether there is nothing to warn of. -/
def isClean (r : LintReport) : Bool := r.warnings.isEmpty

/-- The report with the names of its type and fields. -/
def describe (r : LintReport) : String :=
  Text.record "LintReport" [("warnings", Text.bracketed (r.warnings.map (·.describe)))]

end LintReport

namespace RuleSet

/-- The first thing wrong with a list of token names, given the names that came before. -/
def tokenFailure? : List String → List String → Option LintFailure
  | _, [] => none
  | seen, name :: names =>
    if !isTokenName name then some (.badTokenName name)
    else if seen.contains name then some (.duplicateToken name)
    else tokenFailure? (name :: seen) names

/-- What is wrong with the tokens, if anything. -/
def checkTokens (r : RuleSet) : Except LintFailure Unit :=
  if r.tokens.isEmpty then .error .noTokens
  else
    match tokenFailure? [] r.tokens with
    | some failure => .error failure
    | none => .ok ()

/-- The warnings about one state. -/
def warningsFor (r : RuleSet) (state : String) (kind : StateKind) : List LintWarning :=
  (if state.toList.isEmpty || state.toList.contains '_' then [.unprefixableState state] else []) ++
    if kind = .exclusive then
      (if r.hasErrorEntry state then [] else [.noErrorRule state]) ++
        if (r.ignore? state).isSome then [] else [.noIgnoreRule state]
    else []

/-- The warnings about all states, in order. -/
def warnings (r : RuleSet) : List LintWarning :=
  r.states.flatMap fun (state, kind) ↦ r.warningsFor state kind

/-- What is wrong with the rules, if anything. -/
def checkRules (r : RuleSet) : Except LintFailure Unit :=
  if r.ruleCount = 0 then .error .noRules
  else
    match r.states.find? fun (state, _) ↦ (r.lexemes state).isEmpty with
    | some (state, _) => .error (.noRulesForState state)
    | none => .ok ()

/-- Checks compiled rules. -/
def lint (r : RuleSet) : Except LintFailure LintReport := do
  r.checkTokens
  r.checkRules
  return ⟨r.warnings⟩

/-- The warnings that are given on the way, even if the check fails later. -/
def lintLog (r : RuleSet) : List LintWarning :=
  match r.checkTokens with
  | .ok () => r.warnings
  | .error _ => []

end RuleSet

end ModalLexer
