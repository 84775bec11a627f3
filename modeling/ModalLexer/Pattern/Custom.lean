import ModalLexer.Pattern

/-!
# Some matchers written by hand

What no pattern can say is left to a `CustomMatcher`. Those given here are the simplest ones that
tell the ways apart in which a matcher can answer: by a length that has nothing to do with the text,
by the place in the text, by looking for an end, and by counting.
-/

namespace ModalLexer.CustomMatcher

open Text (Spot utf8Length)

/-- Always the same length, whether the text has so much left or not. -/
def fixed (length : Nat) : CustomMatcher := fun _ ↦ some length

/-- No match. -/
def never : CustomMatcher := fun _ ↦ none

/-- All that is left. -/
def rest : CustomMatcher := fun s ↦ some (utf8Length s.ahead)

/-- One byte at every other offset. -/
def even : CustomMatcher := fun s ↦ if s.offset % 2 = 0 then some 1 else none

/-- A text between quotation marks. -/
def quoted : CustomMatcher := fun s ↦
  match s.ahead with
  | '"' :: cs =>
    if cs.contains '"' then some (utf8Length (cs.takeWhile (· ≠ '"')) + 2) else none
  | _ => none

/-- How many parentheses are open after a character. -/
def depthAfter (depth : Nat) (c : Char) : Nat :=
  if c = '(' then depth + 1 else if c = ')' then depth - 1 else depth

/-- The number of bytes up to where so many open parentheses are closed. -/
def closing? : Nat → List Char → Option Nat
  | _, [] => none
  | depth, c :: cs =>
    if depthAfter depth c = 0 then some c.utf8Size
    else (closing? (depthAfter depth c) cs).map (c.utf8Size + ·)

/-- A text in parentheses that match. -/
def balanced : CustomMatcher := fun s ↦
  match s.ahead with
  | '(' :: cs => (closing? 1 cs).map (1 + ·)
  | _ => none

end ModalLexer.CustomMatcher
