import ModalLexer.Lint

/-!
# What is logged

Building and checking rules log warnings; scanning logs what it does if it is told to.
-/

namespace ModalLexer

/-- Something that is logged: settings declared for a state that is not, a warning about the rules,
the tables of a lexer, a lexeme that is tried, or a token that is emitted. -/
inductive Event where
  | ignoreForUndeclared (state : String)
  | errorForUndeclared (state : String)
  | lint (w : LintWarning)
  | tokens (names : List String)
  | table (state : String) (kind : StateKind) (lexemes : List String)
  | settings (state : String) (ignore : Option IgnoreSet) (errorEntry : Bool)
  | trying (state lexeme : String) (position : Position)
  | emitted (token : Token)

namespace Event

/-- How serious an event is. -/
def level : Event → String
  | ignoreForUndeclared _ | errorForUndeclared _ | lint _ => "WARN"
  | tokens _ | table _ _ _ | settings _ _ _ | trying _ _ _ | emitted _ => "INFO"

/-- The sentence for an event. -/
def message : Event → String
  | ignoreForUndeclared state => "Ignore rule defined for undeclared state '" ++ state ++ "'"
  | errorForUndeclared state => "Error rule defined for undeclared state '" ++ state ++ "'"
  | lint w => w.message
  | tokens names => "tokens: " ++ Text.bracketed (names.map Text.quote)
  | table state kind lexemes =>
    "state " ++ state ++ " (" ++ kind.display ++ "): " ++ Text.bracketed (lexemes.map Text.quote)
  | settings state ignore errorEntry =>
    "state " ++ state ++ ": ignore " ++ Text.optional (ignore.map (·.describe)) ++
      ", error entry " ++ Text.truth errorEntry
  | trying state lexeme position =>
    "state " ++ state ++ ": trying " ++ lexeme ++ " at " ++ toString position.line ++ ":" ++
      toString position.column
  | emitted token => token.display

/-- The line that is logged. -/
def line (e : Event) : String :=
  e.level ++ " " ++ e.message

end Event

/-- What comes out of scanning besides tokens: what is logged, and what actions write down. -/
inductive Entry where
  | event (e : Event)
  | note (n : Note)

/-- What comes out of scanning besides tokens, in order. -/
abbrev Journal := List Entry

namespace Journal

/-- What is logged. -/
def events (j : Journal) : List Event :=
  j.filterMap fun
    | .event e => some e
    | .note _ => none

/-- What actions write down. -/
def notes (j : Journal) : List Note :=
  j.filterMap fun
    | .event _ => none
    | .note n => some n

/-- What is logged in one journal after another is what is logged in each. -/
@[simp] theorem events_append (j k : Journal) : events (j ++ k) = j.events ++ k.events := by
  simp [events]

/-- What is written down in one journal after another is what is written down in each. -/
@[simp] theorem notes_append (j k : Journal) : notes (j ++ k) = j.notes ++ k.notes := by
  simp [notes]

end Journal

end ModalLexer
