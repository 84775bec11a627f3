import ModalLexer.Declaration
import ModalLexer.Scan

/-!
# Lexers

A lexer scans texts with compiled rules. A scan goes on from wherever the one before it left the
lexer; `rewind` makes it start anew. All ways to scan give the same tokens: one by one (`pulls`),
handed to a function (`stream`), or in a list (`tokenize`).
-/

namespace ModalLexer

/-- A lexer that is ready to scan, with what the check of its rules warned of. -/
structure Lexer where
  rules : RuleSet
  config : Config
  cursor : Cursor
  report : LintReport

namespace Lexer

/-- How deep scans that actions start may lie in each other. -/
def nestingLimit : Nat := 10000

/-- A lexer for compiled rules, which are checked first. -/
def new (rules : RuleSet) (config : Config) : Except LexError Lexer :=
  match rules.lint with
  | .error e => .error (.lint e)
  | .ok report => .ok ⟨rules, config, .initial, report⟩

/-- A lexer for declarations, which are compiled and checked first. -/
def define (ds : List Declaration) (config : Config) : Except LexError Lexer :=
  match RuleSet.ofDeclarations ds with
  | .error e => .error (.definition e)
  | .ok rules => new rules config

/-- The lexer at another place. -/
def withCursor (l : Lexer) (k : Cursor) : Lexer := { l with cursor := k }

/-- Switches to a state. -/
def begin (l : Lexer) (state : String) : Except LexError Unit × Lexer :=
  (l.cursor.begin l.rules state).map id l.withCursor

/-- Saves the current state and switches to another. -/
def push (l : Lexer) (state : String) : Except LexError Unit × Lexer :=
  (l.cursor.push l.rules state).map id l.withCursor

/-- Returns to the state saved last. -/
def pop (l : Lexer) : Except LexError Unit × Lexer :=
  l.cursor.pop.map id l.withCursor

/-- Asks for more characters to be skipped. -/
def skip (l : Lexer) (count : Counter) : Lexer := l.withCursor (l.cursor.skip count)

/-- Moves down some lines, to the first column. -/
def advanceLine (l : Lexer) (count : Counter) : Lexer := l.withCursor (l.cursor.advanceLine count)

/-- Moves right by some characters. -/
def advanceColumn (l : Lexer) (count : Counter) : Lexer :=
  l.withCursor (l.cursor.advanceColumn count)

/-- Goes back to the first position and state, with none saved. -/
def rewind (l : Lexer) : Lexer := l.withCursor .initial

/-- What the lexer shows of its place and state. -/
def view (l : Lexer) : View := l.cursor.view

/-- The machine that scans for the lexer. -/
def machine (l : Lexer) (depth : Nat) : Machine := .ofDepth l.rules l.config depth

/-- The start of a scan of a text. -/
def scan (l : Lexer) (text : String) : Scan := Machine.scan l.cursor text.toList

/-- All that a scan gives, one by one, or as much as is asked for: the pulls, and the lexer that the
last of them leaves. Without a bound the scan is followed to its end. -/
def pulls (l : Lexer) (depth : Nat) (text : String) (bound : Option Nat) :
    Option (List Pull × Lexer) :=
  let scan := l.scan text
  ((l.machine depth).pulls (bound.getD (text.toList.length + 2)) scan).map fun pulls ↦
    let last := pulls.getLast?.elim scan (·.scan)
    (pulls, l.withCursor last.cursor)

/-- As `pulls`, but what is known of the rules is logged first if anything is logged at all. -/
def announcedPulls (l : Lexer) (depth : Nat) (text : String) (bound : Option Nat) :
    Option (Journal × List Pull × Lexer) :=
  (l.pulls depth text bound).map fun (pulls, l') ↦ ((l.machine depth).tableEvents, pulls, l')

/-- Hands each token of a text to a function that gathers them, up to the end or the first error. -/
def stream {σ : Type} (l : Lexer) (depth : Nat) (gather : σ → Token → σ) (start : σ)
    (text : String) : Option (σ × Except LexError Unit × Lexer × Journal) :=
  let m := l.machine depth
  (m.stream gather start (l.scan text)).map fun (gathered, result, scan, journal) ↦
    (gathered, result, l.withCursor scan.cursor, m.tableEvents ++ journal)

/-- All tokens of a text, or the first error. -/
def tokenize (l : Lexer) (depth : Nat) (text : String) :
    Option (Except LexError (List Token) × Lexer × Journal) :=
  ((l.machine depth).tokenize text.toList l.cursor).map fun outcome ↦
    (outcome.value, l.withCursor outcome.cursor, outcome.journal)

/-- The lexer with the names of its type and fields. -/
def describe (l : Lexer) : String :=
  Text.record "Lexer"
    [("rules", l.rules.describe), ("config", l.config.describe),
     ("current_state", Text.quote l.cursor.state),
     ("state_stack", Text.bracketed (l.cursor.stack.reverse.map Text.quote)),
     ("current_line", toString l.cursor.line), ("char_pos_in_line", toString l.cursor.passed),
     ("pending_skip", toString l.cursor.pendingSkip), ("lint_report", l.report.describe)]

end Lexer

end ModalLexer
