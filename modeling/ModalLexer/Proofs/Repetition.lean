import Mathlib.Algebra.Ring.Nat
import ModalLexer.Pattern

/-!
# The loop of a repetition

`Matcher.Loop` is the loop of a repetition as it goes from round to round, with no bound on their
number. Each round takes at least one character, so there are never more rounds than characters
ahead: the loop comes to an end on every text (`Matcher.exists_loop`), and it is what `repeatSpan`
computes when it starts with that many rounds left (`Matcher.Loop.rawSpan?_repetition`).
-/

namespace ModalLexer

open Text (Spot)

namespace Matcher

/-- The loop of a repetition of a matcher: the numbers of characters that its rounds take, one after
another, and the spot where it is over, since the upper bound is reached or nothing matches any
more. -/
inductive Loop (m : Matcher) : Option Nat → Spot → List Nat → Spot → Prop
  | stop {most : Option Nat} {s : Spot} (h : most = some 0 ∨ m.span? s = none) : Loop m most s [] s
  | round {most : Option Nat} {s s' : Spot} {n : Nat} {ns : List Nat} (allowed : most ≠ some 0)
      (matched : m.span? s = some n) (rest : Loop m (most.map (· - 1)) (s.advance n) ns s') :
      Loop m most s (n :: ns) s'

variable {m : Matcher} {most : Option Nat} {s s' : Spot} {ns : List Nat}

/-- However a matcher answers, the loop comes to an end. -/
theorem exists_loop (m : Matcher) (most : Option Nat) (s : Spot) :
    ∃ ns s', m.Loop most s ns s' := by
  -- The induction is on what is ahead, of which every round leaves less.
  induction hlength : s.ahead.length using Nat.strongRecOn generalizing most s with
  | ind length ih =>
    by_cases hmost : most = some 0
    · exact ⟨[], s, .stop (.inl hmost)⟩
    · cases hmatch : m.span? s with
      | none => exact ⟨[], s, .stop (.inr hmatch)⟩
      | some n =>
        have hpos := span?_pos hmatch
        have hle := span?_le hmatch
        have hless : (s.advance n).ahead.length < length := by
          rw [Spot.ahead_advance, List.length_drop]
          omega
        obtain ⟨ns, s', hrest⟩ := ih _ hless (most.map (· - 1)) (s.advance n) rfl
        exact ⟨n :: ns, s', .round hmost hmatch hrest⟩

namespace Loop

/-- Every round takes at least one character. -/
theorem pos (h : m.Loop most s ns s') : ∀ n ∈ ns, 0 < n := by
  induction h with
  | stop => simp
  | round allowed matched rest ih => exact List.forall_mem_cons.2 ⟨span?_pos matched, ih⟩

/-- The rounds go on from where the one before ended. -/
theorem spot_eq (h : m.Loop most s ns s') : s' = s.advance ns.sum := by
  induction h with
  | stop => rfl
  | round allowed matched rest ih => rw [ih, Spot.advance_advance, List.sum_cons]

/-- The rounds take no more than what is ahead. -/
theorem sum_le (h : m.Loop most s ns s') : ns.sum ≤ s.ahead.length := by
  induction h with
  | stop => exact Nat.zero_le _
  | round allowed matched rest ih =>
    have hle := span?_le matched
    rw [Spot.ahead_advance, List.length_drop] at ih
    rw [List.sum_cons]
    omega

/-- A bound on the rounds that is no less than what is ahead does not end the loop. -/
theorem repeatSpan_eq {bound : Nat} (h : m.Loop most s ns s') (hbound : s.ahead.length ≤ bound) :
    repeatSpan m.span? bound most s = (ns.length, ns.sum) := by
  induction h generalizing bound with
  | @stop most s hover =>
    cases bound with
    | zero => rfl
    | succ bound =>
      rcases hover with hmost | hmatch
      · rw [repeatSpan, if_pos hmost]
        rfl
      · rw [repeatSpan, hmatch, ite_self]
        rfl
  | @round most s s' n ns allowed matched rest ih =>
    have hpos := span?_pos matched
    have hle := span?_le matched
    cases bound with
    | zero => omega
    | succ bound =>
      have hrest : (s.advance n).ahead.length ≤ bound := by
        rw [Spot.ahead_advance, List.length_drop]
        omega
      rw [repeatSpan, if_neg allowed, matched]
      simp only [ih hrest, List.length_cons, List.sum_cons]

/-- A repetition matches what its loop takes if there were rounds enough. -/
theorem rawSpan?_repetition (h : m.Loop most s ns s') (least : Nat) :
    (repetition m least most).rawSpan? s = if least ≤ ns.length then some ns.sum else none := by
  have hspan : repeatSpan (fun t ↦ (m.rawSpan? t).filter (0 < ·)) s.ahead.length most s =
      (ns.length, ns.sum) := h.repeatSpan_eq (Nat.le_refl _)
  rw [rawSpan?, hspan]

end Loop

end Matcher

end ModalLexer
