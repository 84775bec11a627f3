import ModalLexer.RuleSet

/-!
# Where a scan stands

A cursor holds all that changes while an engine scans: its state, the states saved, its line and
column, and how many characters are still to be skipped. An operation that can fail gives the cursor
with its result; that a failure leaves the cursor as it was is proved, not built in.
-/

namespace ModalLexer

/-- The place and state of an engine. The states are saved with the last one first; `line` counts
from one, `passed` the characters before the next one on its line, and `pendingSkip` the characters
to skip once the current match is consumed. All three wrap around. -/
structure Cursor where
  state : String
  stack : List String
  line : Counter
  passed : Counter
  pendingSkip : Counter
  deriving DecidableEq

namespace Cursor

/-- Where every engine starts. -/
def initial : Cursor := ⟨initialState, [], 1, 0, 0⟩

/-- The column of the next character, counted from one. -/
def column (k : Cursor) : Counter := k.passed + 1

/-- The line and column of the next character. -/
def position (k : Cursor) : Position := ⟨k.line, k.column⟩

/-- What an engine shows of its cursor. -/
def view (k : Cursor) : View := ⟨k.state, k.stack, k.position⟩

/-- Switches to a declared state. -/
def begin (rules : RuleSet) (state : String) (k : Cursor) : Except LexError Unit × Cursor :=
  if rules.hasState state then (.ok (), { k with state := state })
  else (.error (.undefinedState state), k)

/-- Saves the current state and switches to a declared one. -/
def push (rules : RuleSet) (state : String) (k : Cursor) : Except LexError Unit × Cursor :=
  if rules.hasState state then (.ok (), { k with state := state, stack := k.state :: k.stack })
  else (.error (.undefinedState state), k)

/-- Returns to the state saved last. -/
def pop (k : Cursor) : Except LexError Unit × Cursor :=
  match k.stack with
  | [] => (.error (.underflow k.line k.column), k)
  | state :: stack => (.ok (), { k with state := state, stack := stack })

/-- Asks for more characters to be skipped. -/
def skip (count : Counter) (k : Cursor) : Cursor :=
  { k with pendingSkip := k.pendingSkip + count }

/-- Moves down some lines, to the first column. -/
def advanceLine (count : Counter) (k : Cursor) : Cursor :=
  { k with line := k.line + count, passed := 0 }

/-- Moves right by some characters. -/
def advanceColumn (count : Counter) (k : Cursor) : Cursor :=
  { k with passed := k.passed + count }

/-- Forgets what is still to be skipped. -/
def clearSkip (k : Cursor) : Cursor :=
  { k with pendingSkip := 0 }

variable {rules : RuleSet} {state : String} {k k' : Cursor} {e : LexError}

/-- Moving right by nothing is staying. -/
theorem advanceColumn_zero (k : Cursor) : k.advanceColumn 0 = k := by
  rw [advanceColumn, UInt64.add_zero]

/-- A switch fails on undeclared states only, and then leaves the cursor. -/
theorem begin_eq_error_iff : k.begin rules state = (.error e, k') ↔
    rules.hasState state = false ∧ e = .undefinedState state ∧ k' = k := by
  grind [begin]

/-- A save fails on undeclared states only, and then leaves the cursor. -/
theorem push_eq_error_iff : k.push rules state = (.error e, k') ↔
    rules.hasState state = false ∧ e = .undefinedState state ∧ k' = k := by
  grind [push]

/-- A return fails only if no state is saved, and then leaves the cursor. -/
theorem pop_eq_error_iff : k.pop = (.error e, k') ↔
    k.stack = [] ∧ e = .underflow k.line k.column ∧ k' = k := by
  grind [pop]

/-- A switch that succeeds enters a declared state and changes nothing else. -/
theorem begin_eq_ok_iff : k.begin rules state = (.ok (), k') ↔
    rules.hasState state = true ∧ k' = { k with state := state } := by
  grind [begin]

/-- A save that succeeds enters a declared state and saves the one before. -/
theorem push_eq_ok_iff : k.push rules state = (.ok (), k') ↔
    rules.hasState state = true ∧
      k' = { k with state := state, stack := k.state :: k.stack } := by
  grind [push]

/-- A return leads to the state saved last, which is then saved no more. -/
theorem pop_eq_ok_iff : k.pop = (.ok (), k') ↔
    ∃ state stack, k.stack = state :: stack ∧ k' = { k with state := state, stack := stack } := by
  grind [pop]

end Cursor

end ModalLexer
