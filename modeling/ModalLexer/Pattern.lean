import ModalLexer.CharSet
import ModalLexer.Regex
import ModalLexer.Text.Spot

/-!
# Patterns and matchers

A `Pattern` says what a rule matches; compiled, it becomes a `Matcher`, which only a regular
expression can prevent. `Matcher.span?` gives the length of the match that starts at a spot, in
characters, and `Matcher.lengthAt` in bytes at a byte offset. Empty matches do not count, so a scan
always gets on: `span?_pos` and `span?_le` bound every match.
-/

namespace ModalLexer

open Text (Spot)

/-- A matcher written by hand: the number of bytes that match at a spot. It sees the whole text. -/
abbrev CustomMatcher := Spot → Option Nat

/-- What a rule matches: exact text, one character of a set, as many repetitions of a pattern as
possible between two bounds, a regular expression at the place where the scan stands, or what a
matcher written by hand answers. -/
inductive Pattern where
  | literal (text : String)
  | charClass (set : CharSet)
  | repetition (inner : Pattern) (least : Nat) (most : Option Nat)
  | regex (source : String)
  | custom (matcher : CustomMatcher)

/-- The compiled form of a pattern. -/
inductive Matcher where
  | literal (text : String)
  | charClass (set : CharSet)
  | repetition (inner : Matcher) (least : Nat) (most : Option Nat)
  | regex (r : Regex)
  | custom (matcher : CustomMatcher)

namespace Pattern

/-- The text that a regular expression is searched with: the given one in a group at the start. -/
def anchoredSource (source : String) : String :=
  "^(?:" ++ source ++ ")"

/-- The matcher for a pattern; only a regular expression may have none. -/
def compile : Pattern → Except Regex.SyntaxError Matcher
  | literal text => .ok (.literal text)
  | charClass set => .ok (.charClass set)
  | repetition inner least most => do return .repetition (← inner.compile) least most
  | regex source => do return .regex (← Regex.compile (anchoredSource source))
  | custom matcher => .ok (.custom matcher)

/-- The pattern with the way in which it was given. -/
def describe : Pattern → String
  | literal text => Text.variant "Literal" [Text.quote text]
  | charClass set => Text.variant "CharClass" [set.describe]
  | repetition inner least most =>
    Text.record "Repeat" [("pattern", inner.describe), ("min", toString least),
      ("max", Text.optional (most.map toString))]
  | regex source => Text.variant "Regex" [Text.quote source]
  | custom _ => "Custom(..)"

end Pattern

/-- Repeats a match for as long as it succeeds and the upper bound allows: the number of repetitions
and the number of characters they take. The first argument bounds the repetitions by the number of
characters that are left. -/
def repeatSpan (inner : Spot → Option Nat) : Nat → Option Nat → Spot → Nat × Nat
  | 0, _, _ => (0, 0)
  | bound + 1, most, s =>
    if most = some 0 then (0, 0)
    else
      match inner s with
      | none => (0, 0)
      | some n =>
        let (count, span) := repeatSpan inner bound (most.map (· - 1)) (s.advance n)
        (count + 1, n + span)

namespace Matcher

/-- The number of characters that match at a spot, which may be zero. -/
def rawSpan? : Matcher → Spot → Option Nat
  | literal text, s =>
    if text.toList.isPrefixOf s.ahead then some text.toList.length else none
  | charClass set, s =>
    match s.ahead with
    | [] => none
    | c :: _ => if set.contains c then some 1 else none
  | repetition inner least most, s =>
    let (count, span) :=
      repeatSpan (fun t ↦ (inner.rawSpan? t).filter (0 < ·)) s.ahead.length most s
    if least ≤ count then some span else none
  | regex r, s => r.search s.ahead
  | custom matcher, s =>
    (matcher s).bind fun n ↦ (Text.splitBytes? n s.ahead).map fun (front, _) ↦ front.length

/-- The number of characters that match at a spot; an empty match does not count. -/
def span? (m : Matcher) (s : Spot) : Option Nat :=
  (m.rawSpan? s).filter (0 < ·)

/-- The number of bytes that match at a byte offset; none inside a character and beyond the end. -/
def lengthAt (m : Matcher) (text : List Char) (offset : Nat) : Option Nat :=
  (Spot.at? text offset).bind fun s ↦
    (m.span? s).map fun n ↦ Text.utf8Length (s.ahead.take n)

/-- The matcher as it is shown. -/
def describe : Matcher → String
  | literal text => Text.quote text
  | charClass set => set.describeRanges
  | repetition inner least most =>
    Text.tuple [inner.describe] ++ "\x7B" ++ toString least ++ "," ++
      Text.optional (most.map toString) ++ "\x7D"
  | regex r => "/" ++ r.source ++ "/"
  | custom _ => "<custom>"

/-- A match takes at least one character. -/
theorem span?_pos {m : Matcher} {s : Spot} {n : Nat} (h : m.span? s = some n) : 0 < n := by
  simpa using (Option.filter_eq_some_iff.1 h).2

end Matcher

private theorem repeatSpan_le {inner : Spot → Option Nat}
    (hinner : ∀ s n, inner s = some n → n ≤ s.ahead.length) :
    ∀ (bound : Nat) (most : Option Nat) (s : Spot),
      (repeatSpan inner bound most s).2 ≤ s.ahead.length := by
  intro bound
  induction bound with
  | zero => intro most s; simp [repeatSpan]
  | succ bound ih =>
    intro most s
    rw [repeatSpan]
    split
    · simp
    · split
      · simp
      · next n hn =>
        have h₁ := hinner s n hn
        have h₂ := ih (most.map (· - 1)) (s.advance n)
        rw [Spot.ahead_advance, List.length_drop] at h₂
        show n + _ ≤ _
        omega

namespace Matcher

/-- A match lies within what is ahead, whatever a matcher written by hand answers. -/
theorem rawSpan?_le {m : Matcher} {s : Spot} {n : Nat} (h : m.rawSpan? s = some n) :
    n ≤ s.ahead.length := by
  induction m generalizing s n with
  | literal text =>
    simp only [rawSpan?] at h
    split at h
    · next hp =>
      have hp : text.toList <+: s.ahead := by simpa using hp
      simp only [Option.some.injEq] at h
      exact h ▸ hp.length_le
    · cases h
  | charClass set =>
    simp only [rawSpan?] at h
    split at h
    · cases h
    · next c _ hs =>
      split at h
      · simp only [Option.some.injEq] at h
        simp [hs, ← h]
      · cases h
  | repetition inner least most ih =>
    simp only [rawSpan?] at h
    split at h
    · simp only [Option.some.injEq] at h
      exact h ▸ repeatSpan_le (fun t k hk ↦ ih (Option.filter_eq_some_iff.1 hk).1) _ _ _
    · cases h
  | regex r => exact Regex.search_le h
  | custom matcher =>
    simp only [rawSpan?, Option.bind_eq_some_iff, Option.map_eq_some_iff] at h
    obtain ⟨k, _, ⟨front, back⟩, hsplit, rfl⟩ := h
    obtain ⟨hs, _⟩ := Text.splitBytes?_eq_some_iff.1 hsplit
    simp [hs]

/-- A match lies within what is ahead. -/
theorem span?_le {m : Matcher} {s : Spot} {n : Nat} (h : m.span? s = some n) :
    n ≤ s.ahead.length :=
  rawSpan?_le (Option.filter_eq_some_iff.1 h).1

end Matcher

end ModalLexer
