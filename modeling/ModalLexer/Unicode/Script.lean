import ModalLexer.Unicode.Runs
import ModalLexer.Unicode.ScriptTable

/-!
# Scripts

A character belongs to one script, and may be used in several: its script extensions. Scripts are
told apart by their four-letter codes.
-/

namespace ModalLexer.Unicode

/-- A writing system, by its four-letter code, such as `Grek`. -/
structure Script where
  code : String
  deriving DecidableEq

namespace Script

/-- Every script with the names that it goes by, its code among them. -/
def all : List (Script × List String) :=
  (items scriptNames).filterMap fun item ↦
    match item.splitOn ":" with
    | code :: names => some (⟨code⟩, code :: names)
    | [] => none

/-- The script of every code point. -/
def table : Runs Script :=
  .ofText (fun label ↦ some ⟨label⟩) scriptRuns

/-- The script extensions of every code point; none where they are just its script. -/
def extensionTable : Runs (List Script) :=
  .ofText (fun label ↦ some (if label == "" then [] else (label.splitOn "+").map Script.mk))
    scriptExtensionRuns

/-- The characters that belong to a script. -/
def spans (s : Script) : Spans :=
  table.spans (· == s)

/-- The characters that are used in a script. -/
def extensionSpans (s : Script) : Spans :=
  .union (extensionTable.spans (·.contains s)) (.inter (extensionTable.spans (·.isEmpty)) s.spans)

end Script

end ModalLexer.Unicode
