import ModalLexer.Proofs.Inheritance
import ModalLexer.Proofs.RegexGroups
import ModalLexer.Proofs.RegexPrograms

/-!
# Where the match of a regular expression starts

A pattern searches for its text in a group after a start of the text. As long as that text is a
regular expression by itself, the whole is that expression after a start of the text, and a match
starts at the place of the scan: `RuleSet.regex_anchored`. A text that closes the group and opens
another one is accepted as well, and its later branches are not anchored.
-/

namespace ModalLexer

open Text (Spot)

namespace Regex

private theorem toList_anchoredSource (source : String) :
    (Pattern.anchoredSource source).toList = anchoredText source.toList := by
  simp [Pattern.anchoredSource, anchoredText]

/-- An anchored expression takes what the expression itself may take, and only where the text
starts. -/
theorem matches_anchored {e : Expr} {s : Spot} {n : Nat}
    (h : ((Expr.look .startText).append (e.append .empty)).Matches s n) :
    s.behind = [] ∧ e.Matches s n := by
  rw [Expr.matches_append, Expr.matches_append] at h
  obtain ⟨_, n, rfl, ⟨rfl, hstart⟩, hmatches⟩ := h
  rw [Nat.zero_add]
  refine ⟨by simpa [Look.holds] using hstart, ?_⟩
  rwa [← Extents.followedBy_nothing e.Matches]

/-- A search for an anchored expression finds what the expression may take from the start on. -/
theorem matches_of_search_anchored {source : String} {r : Regex} {e : Expr} {text : List Char}
    {n : Nat} (hcompile : compile (Pattern.anchoredSource source) = .ok r)
    (he : expression source.toList = .ok e) (h : r.search text = some n) :
    e.Matches (Spot.start text) n := by
  obtain ⟨e', he', -⟩ := exists_of_bind_eq_ok hcompile
  obtain ⟨j, hj, hmatches⟩ := exists_matches_of_search hcompile he' h
  rw [toList_anchoredSource] at he'
  rw [expression_anchoredText he he'] at hmatches
  obtain ⟨hbehind, hmatches⟩ := matches_anchored hmatches
  have hn := search_le h
  have hstart : text.take j = [] := by simpa [Spot.behind_advance, Spot.start] using hbehind
  have hj : j = 0 := by
    rcases List.take_eq_nil_iff.1 hstart with hj | rfl
    · exact hj
    · exact Nat.le_zero.1 (Nat.le_trans hj hn)
  subst hj
  exact hmatches

end Regex

/-- Where a pattern with a regular expression matches, a search for that expression in a group finds
something in the rest of the text. -/
theorem Matcher.exists_search_of_lengthAt {source : String} {matcher : Matcher} {text : List Char}
    {offset length : Nat} (hcompile : (Pattern.regex source).compile = .ok matcher)
    (h : matcher.lengthAt text offset = some length) :
    ∃ r s n, Regex.compile (Pattern.anchoredSource source) = .ok r ∧
      Spot.at? text offset = some s ∧ 0 < n ∧ n ≤ s.ahead.length ∧
      Text.utf8Length (s.ahead.take n) = length ∧ r.search s.ahead = some n := by
  obtain ⟨r, hr, hmatcher⟩ := Regex.exists_of_bind_eq_ok hcompile
  cases hmatcher
  obtain ⟨s, hs, h⟩ := Option.bind_eq_some_iff.1 h
  obtain ⟨n, hspan, hlength⟩ := Option.map_eq_some_iff.1 h
  have hsearch : r.search s.ahead = some n := (Option.filter_eq_some_iff.1 hspan).1
  exact ⟨r, s, n, hr, hs, Matcher.span?_pos hspan, Matcher.span?_le hspan, hlength, hsearch⟩

/-- The pattern of every rule compiles. -/
theorem RuleSet.isSome_lexeme? {ds : List Declaration} {r : RuleSet}
    (h : ofDeclarations ds = .ok r) {raw : String} {pattern : Pattern} {action : Option Action}
    (hrule : .rule raw pattern action ∈ ds) :
    (DeclaredRule.lexeme? ⟨.resolve r.hasState raw, pattern, action⟩).isSome := by
  obtain ⟨d, ⟨_, hfollows⟩, rfl⟩ := ofDeclarations_invariant (I := fun d seen ↦
    d.states = declaredStates ds ∧ d.Follows (declaredRules d.hasState seen))
    Draft.follows_start Draft.Follows.apply h
  exact hfollows.compiled _ (List.mem_filterMap.2 ⟨_, hrule, rfl⟩)

/-- A rule with a regular expression that is one by itself is anchored: wherever it matches, at
whatever offset of whatever text, the expression by itself matches the rest of the text from its
start on and takes just as much. Of any other source that is accepted, only what it makes of the
group around it is found, and that may start later. -/
theorem RuleSet.regex_anchored {ds : List Declaration} {r : RuleSet} {raw source : String}
    {action : Option Action} (hbuild : ofDeclarations ds = .ok r)
    (hrule : .rule raw (.regex source) action ∈ ds) :
    ∃ l spliced,
      DeclaredRule.lexeme? ⟨.resolve r.hasState raw, .regex source, action⟩ = some l ∧
      Regex.expression (Pattern.anchoredSource source).toList = .ok spliced ∧
      ∀ text offset length, l.matcher.lengthAt text offset = some length →
        ∃ s n, Spot.at? text offset = some s ∧ 0 < n ∧ n ≤ s.ahead.length ∧
          Text.utf8Length (s.ahead.take n) = length ∧
          (∃ j ≤ n, spliced.Matches ((Spot.start s.ahead).advance j) (n - j)) ∧
          ∀ e, Regex.expression source.toList = .ok e → e.Matches (Spot.start s.ahead) n := by
  have hsome := isSome_lexeme? hbuild hrule
  unfold DeclaredRule.lexeme? at hsome ⊢
  cases hcompile : (Pattern.regex source).compile with
  | error reason =>
    rw [hcompile] at hsome
    cases hsome
  | ok matcher =>
    obtain ⟨_, hregex, _⟩ := Regex.exists_of_bind_eq_ok hcompile
    obtain ⟨spliced, hspliced, _⟩ := Regex.exists_of_bind_eq_ok hregex
    refine ⟨_, spliced, rfl, hspliced, fun text offset length h ↦ ?_⟩
    obtain ⟨r, s, n, hr, hs, hpos, hle, hlength, hsearch⟩ :=
      Matcher.exists_search_of_lengthAt hcompile h
    exact ⟨s, n, hs, hpos, hle, hlength, Regex.exists_matches_of_search hr hspliced hsearch,
      fun e he ↦ Regex.matches_of_search_anchored hr he hsearch⟩

/-- A rule whose branches are anchored as one. -/
def branchingDeclarations : List Declaration :=
  [.tokens ["WORD"], .rule "WORD" (.regex "a|bc") none]

/-- These rules compiled. -/
def branchingRules : RuleSet :=
  (RuleSet.ofDeclarations branchingDeclarations).toOption.get (by decide +kernel)

/-- Both branches are found from the place of the scan on. -/
theorem RuleSet.regex_anchored_branchingRules :
    ofDeclarations branchingDeclarations = .ok branchingRules ∧
      Regex.expression "a|bc".toList = .ok (.either (.text ['a']) (.text ['b', 'c'])) ∧
      ∃ l, DeclaredRule.lexeme?
          ⟨.resolve branchingRules.hasState "WORD", .regex "a|bc", none⟩ = some l ∧
        l.matcher.lengthAt "xbcd".toList 1 = some 2 ∧
        ∃ n, Text.utf8Length (['b', 'c', 'd'].take n) = 2 ∧
          (Regex.Expr.either (.text ['a']) (.text ['b', 'c'])).Matches
            (Spot.start ['b', 'c', 'd']) n := by
  have hbuild : ofDeclarations branchingDeclarations = .ok branchingRules := rfl
  have hrule : .rule "WORD" (.regex "a|bc") none ∈ branchingDeclarations :=
    List.mem_cons_of_mem _ List.mem_cons_self
  have hvalid : Regex.expression "a|bc".toList =
      .ok (.either (.text ['a']) (.text ['b', 'c'])) := rfl
  have hlength : (DeclaredRule.lexeme?
      ⟨.resolve branchingRules.hasState "WORD", .regex "a|bc", none⟩).bind
        (·.matcher.lengthAt "xbcd".toList 1) = some 2 := by
    decide +kernel
  have hspot : Spot.at? "xbcd".toList 1 = some ⟨['x'], ['b', 'c', 'd']⟩ := by decide +kernel
  obtain ⟨l, _, hl, _, hmatches⟩ := regex_anchored hbuild hrule
  rw [hl, Option.bind_some] at hlength
  obtain ⟨s, n, hs, _, _, htaken, _, hanchored⟩ := hmatches _ _ _ hlength
  obtain rfl := Option.some.inj (hspot.symm.trans hs)
  exact ⟨hbuild, hvalid, l, hl, hlength, n, htaken, hanchored _ hvalid⟩

/-- A rule that closes the group it is put in and opens another one. -/
def splicingDeclarations : List Declaration :=
  [.tokens ["WORD"], .rule "WORD" (.regex "a)|(?:b") none]

/-- These rules compiled. -/
def splicingRules : RuleSet :=
  (RuleSet.ofDeclarations splicingDeclarations).toOption.get (by decide +kernel)

/-- A text that is no regular expression by itself may be accepted. -/
theorem RuleSet.not_forall_regex_anchored :
    ¬ ∀ (ds : List Declaration) (r : RuleSet) (raw source : String) (action : Option Action),
      ofDeclarations ds = .ok r → .rule raw (.regex source) action ∈ ds →
      ∃ e l, Regex.expression source.toList = .ok e ∧
        DeclaredRule.lexeme? ⟨.resolve r.hasState raw, .regex source, action⟩ = some l ∧
        ∀ text offset length, l.matcher.lengthAt text offset = some length →
          ∃ s n, Spot.at? text offset = some s ∧ 0 < n ∧ n ≤ s.ahead.length ∧
            Text.utf8Length (s.ahead.take n) = length ∧ e.Matches (Spot.start s.ahead) n := by
  intro hall
  have hbuild : ofDeclarations splicingDeclarations = .ok splicingRules := rfl
  obtain ⟨e, _, he, _⟩ := hall _ _ "WORD" _ none hbuild
    (List.mem_cons_of_mem _ List.mem_cons_self)
  have hinvalid : Regex.expression "a)|(?:b".toList = .error .groupUnopened := rfl
  rw [hinvalid] at he
  cases he

-- The second branch matches beyond the place where the scan stands.
example : (((Pattern.regex "a)|(?:b").compile.toOption).bind fun m ↦
    m.lengthAt "xb".toList 0) = some 2 := by
  decide +kernel

end ModalLexer
