import ModalLexer.Action.Step
import ModalLexer.Json.Codec
import ModalLexer.Lexer
import ModalLexer.Pattern.Custom
import ModalLexer.Proofs.Partition
import ModalLexer.Proofs.Positions
import ModalLexer.Proofs.Settings
import ModalLexer.Proofs.Resumption
import ModalLexer.Proofs.Skips
import ModalLexer.Proofs.Histories
import ModalLexer.Proofs.Progress
import ModalLexer.Proofs.DeclarationOrder
import ModalLexer.Proofs.Sessions
import ModalLexer.Proofs.Situations
import ModalLexer.Proofs.WellNested
import ModalLexer.Proofs.TokenOrder
import ModalLexer.Proofs.Views
import ModalLexer.Proofs.Leftovers
import ModalLexer.Proofs.RuleOrder
import ModalLexer.Proofs.CatchAll
import ModalLexer.Proofs.Suppression
import ModalLexer.Proofs.Undeclared
import ModalLexer.Proofs.DroppingLexeme
import ModalLexer.Proofs.Tracing
import ModalLexer.Proofs.MaximalMunch
import ModalLexer.Proofs.GreedyRepetition
import ModalLexer.Proofs.Anchoring
import ModalLexer.Proofs.Acceptance
import ModalLexer.Proofs.LintVerdict
import ModalLexer.Proofs.RulePrefixes
import ModalLexer.Proofs.NamedStates
import ModalLexer.Proofs.Prefixing
import ModalLexer.Proofs.StateKinds
import ModalLexer.Proofs.FailingSteps
import ModalLexer.Proofs.SavedStates
import ModalLexer.Proofs.Registration
import ModalLexer.Proofs.RegexEngines
