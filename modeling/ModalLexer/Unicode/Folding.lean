import ModalLexer.Unicode.FoldingTable
import ModalLexer.Unicode.Runs

/-!
# Simple case folding

Two characters are the same but for case when they fold to the same character. `Spans.folded` adds
to a set all characters that differ from a member in case only.
-/

namespace ModalLexer.Unicode

/-- Code points that are folded alike: those from `first` to `last` by steps of `stride`, the first
to `target` and the others equally far. -/
structure FoldingRun where
  first : Nat
  last : Nat
  stride : Nat
  target : Nat

/-- The run that an item such as `41-5A:61`, `100-12E/2:101` or `B5:3BC` describes. -/
def FoldingRun.ofText? (item : String) : Option FoldingRun := do
  match item.splitOn ":" with
  | [span, target] =>
    let target ← Text.hexValue? target.toList
    match span.splitOn "/" with
    | [span] => return ⟨(← ends? span).1, (← ends? span).2, 1, target⟩
    | [span, stride] => return ⟨(← ends? span).1, (← ends? span).2, ← Text.hexValue? stride.toList,
        target⟩
    | _ => none
  | _ => none

/-- The runs of folded code points. -/
def foldingTable : List FoldingRun :=
  (items foldingRuns).filterMap FoldingRun.ofText?

/-- The code point that a run folds to a given one, if there is one. -/
def FoldingRun.source? (r : FoldingRun) (n : Nat) : Option Nat :=
  if r.target ≤ n ∧ n ≤ r.target + (r.last - r.first) ∧ (n - r.target) % r.stride = 0 then
    some (r.first + (n - r.target))
  else none

/-- The code points that a run folds to. -/
def FoldingRun.images (r : FoldingRun) : List Nat :=
  (List.range ((r.last - r.first) / r.stride + 1)).map fun i ↦ r.target + i * r.stride

/-- The code points that fold to a given one, itself among them. -/
def foldedTo (n : Nat) : List Nat :=
  n :: foldingTable.filterMap (·.source? n)

/-- The sets of code points that differ in case only, where there are several. -/
def caseFamilies : List (List Nat) :=
  foldingTable.flatMap fun r ↦ r.images.map foldedTo

/-- Adds a code point to the changes of membership of a set that has nothing below it. -/
def prepend (n : Nat) : List Nat → List Nat
  | m :: ms => if m = n then m :: ms else if m = n + 1 then n :: ms else n :: (n + 1) :: m :: ms
  | [] => [n, n + 1]

/-- What differs from something in a set in case only. -/
def Spans.folded (s : Spans) : Spans :=
  let touched := caseFamilies.filter (·.any (walk false s.bounds))
  s.union (.ofBounds (touched.flatten.mergeSort.foldr prepend []))

end ModalLexer.Unicode
