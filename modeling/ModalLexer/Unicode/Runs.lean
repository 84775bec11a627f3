import ModalLexer.Text.Hex
import ModalLexer.Unicode.Spans

/-!
# Tables over the code points

The table modules hold their data as text, items between blanks and line breaks, numbers in base
sixteen. `Spans.ofText` reads a set of code points, `Runs.ofText` a labelling of all of them; of
that, `Runs.spans` gives the code points with some of the labels.
-/

namespace ModalLexer.Unicode

/-- The items of a table's text, which blanks and line breaks separate. -/
def items (text : String) : List String :=
  (text.splitToList fun c ↦ c == ' ' || c == '\n').filter (· ≠ "")

/-- The two ends of an item such as `41-5A`, or the one code point of an item such as `AA`. -/
def ends? (item : String) : Option (Nat × Nat) :=
  match item.splitOn "-" with
  | [a] => (Text.hexValue? a.toList).map fun n ↦ (n, n)
  | [a, b] => do return (← Text.hexValue? a.toList, ← Text.hexValue? b.toList)
  | _ => none

/-- The set with given changes of membership; none of them counts unless they rise. -/
def Spans.ofBounds (bounds : List Nat) : Spans :=
  if h : RisingFrom 0 bounds then ⟨bounds, h⟩ else empty

/-- The set whose runs a text lists in rising order. -/
def Spans.ofText (text : String) : Spans :=
  .ofBounds (((items text).filterMap ends?).flatMap fun (a, b) ↦ [a, b + 1])

/-- A label for each code point: the first code point of each run, and the label of the run. -/
abbrev Runs (α : Type) := List (Nat × α)

/-- The runs that a text lists in rising order, such as `41:Lu`; an item whose label cannot be read
is left out. -/
def Runs.ofText {α : Type} (label? : String → Option α) (text : String) : Runs α :=
  (items text).filterMap fun item ↦
    match item.splitOn ":" with
    | [a, l] => do return (← Text.hexValue? a.toList, ← label? l)
    | _ => none

/-- Where the labels start and cease to pass a test; the flag says whether they did before. -/
def Runs.changes {α : Type} (p : α → Bool) : Bool → Runs α → List Nat
  | inside, [] => if inside then [Spans.codePoints] else []
  | inside, (n, l) :: runs => Spans.change (p l != inside) n (changes p (p l) runs)

/-- The code points whose labels pass a test. -/
def Runs.spans {α : Type} (p : α → Bool) (runs : Runs α) : Spans :=
  .ofBounds (runs.changes p false)

end ModalLexer.Unicode
