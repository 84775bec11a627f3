import ModalLexer.Regex.Expr
import ModalLexer.Text.Spot

/-!
# What regular expressions match

`Expr.Matches` says, by recursion on an expression, how many characters it may take from a spot on;
which of several matches is preferred plays no part. Sequences are kept flat when they are made,
which does not change what they match: `Expr.matches_append`.
-/

namespace ModalLexer.Regex

open Text (Spot)

/-- From which spots on how many characters may be taken. -/
abbrev Extents := Spot → Nat → Prop

namespace Extents

/-- No characters, anywhere. -/
def nothing : Extents := fun _ n ↦ n = 0

/-- What one part may take, then what another may take from there on. -/
def followedBy (M N : Extents) : Extents :=
  fun s n ↦ ∃ a b, n = a + b ∧ M s a ∧ N (s.advance a) b

/-- A number of turns, one after another. -/
def times (M : Extents) : Nat → Extents
  | 0 => nothing
  | count + 1 => M.followedBy (M.times count)

/-- Any number of turns. -/
def star (M : Extents) : Extents :=
  fun s n ↦ ∃ count, M.times count s n

/-- A number of turns up to a bound. -/
def upTo (M : Extents) (bound : Nat) : Extents :=
  fun s n ↦ ∃ count ≤ bound, M.times count s n

/-- A number of turns and then further ones, as many as the upper bound allows beyond them. -/
def between (M : Extents) (least : Nat) : Option Nat → Extents
  | none => (M.times least).followedBy M.star
  | some most => (M.times least).followedBy (M.upTo (most - least))

/-- Of three extents in a row it does not matter which two are taken together. -/
theorem followedBy_assoc (M N L : Extents) :
    (M.followedBy N).followedBy L = M.followedBy (N.followedBy L) := by
  ext s n
  constructor
  · rintro ⟨_, c, rfl, ⟨a, b, rfl, hM, hN⟩, hL⟩
    rw [← Spot.advance_advance] at hL
    exact ⟨a, b + c, by omega, hM, b, c, rfl, hN, hL⟩
  · rintro ⟨a, _, rfl, hM, b, c, rfl, hN, hL⟩
    rw [Spot.advance_advance] at hL
    exact ⟨a + b, c, by omega, ⟨a, b, rfl, hM, hN⟩, hL⟩

/-- Nothing before an extent makes no difference. -/
@[simp] theorem nothing_followedBy (M : Extents) : nothing.followedBy M = M := by
  ext s n
  constructor
  · rintro ⟨_, n, rfl, rfl, h⟩
    rwa [Nat.zero_add]
  · intro h
    exact ⟨0, n, by omega, rfl, h⟩

/-- Nothing after an extent makes no difference. -/
@[simp] theorem followedBy_nothing (M : Extents) : M.followedBy nothing = M := by
  ext s n
  constructor
  · rintro ⟨n, _, rfl, h, rfl⟩
    exact h
  · intro h
    exact ⟨n, 0, rfl, h, rfl⟩

private theorem times_add (M : Extents) (a b : Nat) :
    M.times (a + b) = (M.times a).followedBy (M.times b) := by
  induction a with
  | zero => simp [times]
  | succ a ih => rw [Nat.succ_add, times, times, ih, followedBy_assoc]

/-- The last turn may be told apart as well as the first. -/
theorem times_succ (M : Extents) (count : Nat) :
    M.times (count + 1) = (M.times count).followedBy M := by
  rw [times_add, times, times, followedBy_nothing]

/-- Repetitions may take nothing. -/
theorem star_of_nothing {M : Extents} {s : Spot} {n : Nat} (h : nothing s n) : M.star s n :=
  ⟨0, h⟩

/-- One turn and some more are repetitions too. -/
theorem star_of_followedBy {M : Extents} {s : Spot} {n : Nat} (h : M.followedBy M.star s n) :
    M.star s n := by
  obtain ⟨a, b, rfl, hM, count, htimes⟩ := h
  exact ⟨count + 1, a, b, rfl, hM, htimes⟩

end Extents

namespace Expr

open Extents

/-- How many characters an expression may take from a spot on. -/
def Matches : Expr → Extents
  | empty => nothing
  | text cs => fun s n ↦ n = cs.length ∧ cs <+: s.ahead
  | one cls => fun s n ↦ n = 1 ∧ ∃ c ∈ s.ahead.head?, cls.contains c
  | look l => fun s n ↦ n = 0 ∧ l.holds s.behind.head? s.ahead.head?
  | capture _ sub => sub.Matches
  | seq part rest => part.Matches.followedBy rest.Matches
  | either branch others => fun s n ↦ branch.Matches s n ∨ others.Matches s n
  | repetition least most _ sub => sub.Matches.between least most

/-- Two texts one after the other are one text. -/
theorem matches_text_append (cs ds : List Char) :
    (text (cs ++ ds)).Matches = (text cs).Matches.followedBy (text ds).Matches := by
  ext s n
  constructor
  · rintro ⟨rfl, hfront⟩
    refine ⟨cs.length, ds.length, by simp, ⟨rfl, ?_⟩, rfl, ?_⟩
    · exact (List.prefix_append cs ds).trans hfront
    · obtain ⟨rest, hrest⟩ := hfront
      rw [Spot.ahead_advance, ← hrest, List.append_assoc, List.drop_left]
      exact List.prefix_append ds rest
  · rintro ⟨_, _, rfl, ⟨rfl, rest, hrest⟩, rfl, hback⟩
    rw [Spot.ahead_advance, ← hrest, List.drop_left] at hback
    constructor
    · simp
    rw [← hrest]
    exact (List.prefix_append_right_inj cs).2 hback

private theorem matches_prepend (part rest : Expr) :
    (prepend part rest).Matches = part.Matches.followedBy rest.Matches := by
  unfold prepend
  split
  · next cs ds => exact matches_text_append cs ds
  · next cs ds rest =>
    show (text (cs ++ ds)).Matches.followedBy rest.Matches = _
    rw [matches_text_append, followedBy_assoc]
    rfl
  · exact (followedBy_nothing _).symm
  · rfl

/-- What the parts of a sequence match one after another, and something else after them. -/
theorem matches_ofParts_append (e rest : Expr) :
    (ofParts e.parts rest).Matches = e.Matches.followedBy rest.Matches := by
  fun_induction parts e with
  | case1 => exact (nothing_followedBy _).symm
  | case2 part others ih =>
    show (prepend part (ofParts others.parts rest)).Matches = _
    rw [matches_prepend, ih, ← followedBy_assoc]
    rfl
  | case3 e => exact matches_prepend e rest

/-- A sequence made of two expressions matches what the one matches and then the other. -/
theorem matches_append (a b : Expr) :
    (a.append b).Matches = a.Matches.followedBy b.Matches :=
  matches_ofParts_append a b

end Expr

end ModalLexer.Regex
