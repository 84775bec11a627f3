import ModalLexer.Regex.Flags
import ModalLexer.Regex.Footprint
import ModalLexer.Regex.Parser
import ModalLexer.Regex.Program

/-!
# Regular expressions

`Regex.compile` makes a regular expression of a text, or says why it is not one; `Regex.search`
finds the end of the leftmost match in a text, greedy and lazy repetitions and the order of branches
deciding which of several matches that is.
-/

namespace ModalLexer

/-- A regular expression that is ready to be searched for: the text it was made of, the program that
searches for it, and whether matches start at the start of the text only. -/
structure Regex where
  source : String
  program : Regex.Program
  anchored : Bool

namespace Regex

/-- The expression that a text stands for. -/
def expression (source : List Char) : Except SyntaxError Expr := do
  let (e, _) ← (← parse source).resolve .initial
  if e.fits then return e else .error .tooLarge

/-- The regular expression that a text stands for. -/
def compile (source : String) : Except SyntaxError Regex := do
  let program := Program.ofExpr (← expression source.toList)
  return ⟨source, program, program.isAnchored⟩

/-- The end of the leftmost match in a text, as a number of characters from its start. -/
def search (r : Regex) (text : List Char) : Option Nat :=
  r.program.run r.anchored none [] 0 none text

/-- A match ends within the text. -/
theorem search_le {r : Regex} {text : List Char} {n : Nat} (h : r.search text = some n) :
    n ≤ text.length := by
  have := r.program.run_le r.anchored (by simp) h
  omega

end Regex

end ModalLexer
