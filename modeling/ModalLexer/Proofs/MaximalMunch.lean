import ModalLexer.Proofs.Progress

/-!
# The longest match takes the step

Where the current state does not ignore the next character, `decider?` says what the machine finds
out before any action runs: the lexeme with the longest match decides about what it matches, or the
handler of errors about one character, or nobody decides and the step fails. `step_of_longest_match`
says the same of the bytes of the input: a lexeme decides just if one matches at the offset, and
then it matches more than all lexemes registered before it and no less than all others.
-/

namespace ModalLexer

open Text (Spot)

/-- Of two first parts of a text the one with fewer characters has fewer bytes. -/
theorem Text.utf8Length_take_lt_iff {cs : List Char} {i j : Nat} (hi : i ≤ cs.length)
    (hj : j ≤ cs.length) : utf8Length (cs.take i) < utf8Length (cs.take j) ↔ i < j := by
  induction cs generalizing i j with
  | nil => simp_all
  | cons c cs ih =>
    have hpos := c.utf8Size_pos
    simp only [List.length_cons] at hi hj
    cases i with
    | zero =>
      cases j with
      | zero => simp
      | succ j =>
        simp only [List.take_zero, utf8Length_nil, List.take_succ_cons, utf8Length_cons]
        omega
    | succ i =>
      cases j with
      | zero => simp
      | succ j =>
        have hrest := @ih i j (by omega) (by omega)
        simp only [List.take_succ_cons, utf8Length_cons]
        omega

namespace Matcher

variable {m : Matcher} {text : List Char} {offset : Nat} {s : Spot}

private theorem isSome_lengthAt (hs : Spot.at? text offset = some s) :
    (m.lengthAt text offset).isSome = (m.span? s).isSome := by
  rw [lengthAt_of_at? hs, Option.isSome_map]

/-- Bytes and characters compare two matches at one offset in the same way. -/
theorem lengthAt_lt_iff {m' : Matcher} {n n' length length' : Nat}
    (hs : Spot.at? text offset = some s) (hn : m.span? s = some n) (hn' : m'.span? s = some n')
    (hlength : m.lengthAt text offset = some length)
    (hlength' : m'.lengthAt text offset = some length') : length < length' ↔ n < n' := by
  rw [lengthAt_of_at? hs, hn, Option.map_some, Option.some.injEq] at hlength
  rw [lengthAt_of_at? hs, hn', Option.map_some, Option.some.injEq] at hlength'
  rw [← hlength, ← hlength']
  exact Text.utf8Length_take_lt_iff (span?_le hn) (span?_le hn')

/-- No match counts just if only empty matches are found. -/
theorem span?_eq_none_iff : m.span? s = none ↔ ∀ n, m.rawSpan? s = some n → n = 0 := by
  rw [span?, Option.filter_eq_none_iff]
  simp

end Matcher

namespace Wins

variable {ls : List Lexeme} {text : List Char} {offset n : Nat} {s : Spot} {l : Lexeme}

/-- The lexeme that wins matches as many bytes as the characters it takes have. -/
theorem lengthAt_eq (hs : Spot.at? text offset = some s) (h : Wins ls s l n) :
    l.matcher.lengthAt text offset = some (Text.utf8Length (s.ahead.take n)) := by
  rw [Matcher.lengthAt_of_at? hs, h.span?_eq, Option.map_some]

/-- No lexeme matches more bytes than the one that wins. -/
theorem lengthAt_le (hs : Spot.at? text offset = some s) (h : Wins ls s l n) :
    ∀ k ∈ ls, ∀ length, k.matcher.lengthAt text offset = some length →
      length ≤ Text.utf8Length (s.ahead.take n) := by
  intro k hk length hlength
  obtain ⟨i, hi, _⟩ := Option.map_eq_some_iff.1 (Matcher.lengthAt_of_at? hs _ ▸ hlength)
  rw [← Nat.not_lt, Matcher.lengthAt_lt_iff hs h.span?_eq hi (h.lengthAt_eq hs) hlength, Nat.not_lt]
  exact h.span?_le hk hi

/-- Lexemes registered before the one that wins match fewer bytes. -/
theorem exists_earlier_lengthAt_lt (hs : Spot.at? text offset = some s) (h : Wins ls s l n) :
    ∃ earlier later, ls = earlier ++ l :: later ∧
      ∀ k ∈ earlier, ∀ length, k.matcher.lengthAt text offset = some length →
        length < Text.utf8Length (s.ahead.take n) := by
  have hlength := h.lengthAt_eq hs
  obtain ⟨earlier, later, heq, hspan, hearlier, _⟩ := h
  refine ⟨earlier, later, heq, ?_⟩
  intro k hk length hk'
  obtain ⟨i, hi, _⟩ := Option.map_eq_some_iff.1 (Matcher.lengthAt_of_at? hs _ ▸ hk')
  rw [Matcher.lengthAt_lt_iff hs hi hspan hk' hlength]
  exact hearlier k hk i hi

end Wins

namespace Machine

variable {m : Machine} {s : Spot} {k : Cursor} {c : Char} {rest : List Char}

/-- Who decides about a character that is not ignored, and about which text: the lexeme with the
longest match, or else the handler of the current state, if it has one. -/
def decider? (m : Machine) (c : Char) (s : Spot) (k : Cursor) : Option (Decider × List Char) :=
  match longestMatch (m.rules.lexemes k.state) s with
  | some (l, n) => some (.rule l, s.ahead.take n)
  | none => (m.rules.handler? k.state).map fun a ↦ (.handler a, [c])

/-- What is found out is who decides. -/
theorem decider?_eq_some_iff {d : Decider} {text : List Char} (hs : s.ahead = c :: rest)
    (hkept : m.rules.ignores? k.state c = false) :
    m.decider? c s k = some (d, text) ↔ m.Decides s k d text := by
  unfold decider?
  constructor
  · intro h
    cases hmatch : longestMatch (m.rules.lexemes k.state) s with
    | some winner =>
      rw [hmatch] at h
      cases h
      exact .rule hs hkept (longestMatch_eq_some_iff.1 hmatch)
    | none =>
      rw [hmatch] at h
      obtain ⟨a, ha, heq⟩ := Option.map_eq_some_iff.1 h
      cases heq
      exact .handler hs hkept (longestMatch_eq_none_iff.1 hmatch) ha
  · intro h
    cases h with
    | rule hahead _ hwins => rw [longestMatch_eq_some_iff.2 hwins]
    | handler hahead _ hunmatched hhandles =>
      obtain ⟨rfl, rfl⟩ := List.cons.inj (hs.symm.trans hahead)
      rw [longestMatch_eq_none_iff.2 hunmatched, hhandles, Option.map_some]

/-- Nobody decides just if no lexeme matches and there is no handler. -/
theorem decider?_eq_none_iff : m.decider? c s k = none ↔
    (∀ l ∈ m.rules.lexemes k.state, l.matcher.span? s = none) ∧
      m.rules.handler? k.state = none := by
  rw [← longestMatch_eq_none_iff, decider?]
  cases longestMatch (m.rules.lexemes k.state) s with
  | some winner => simp
  | none => simp

/-- A lexeme decides just if it wins, about as many characters as it matches. -/
theorem decider?_eq_rule_iff {l : Lexeme} {text : List Char} :
    m.decider? c s k = some (.rule l, text) ↔
      ∃ n, Wins (m.rules.lexemes k.state) s l n ∧ text = s.ahead.take n := by
  simp only [← longestMatch_eq_some_iff]
  rw [decider?]
  cases longestMatch (m.rules.lexemes k.state) s with
  | some winner => grind
  | none => simp

/-- It is left to the handler, or to nobody, just if no lexeme matches. -/
theorem decider?_eq_handler_iff :
    m.decider? c s k = (m.rules.handler? k.state).map (fun a ↦ (.handler a, [c])) ↔
      ∀ l ∈ m.rules.lexemes k.state, l.matcher.span? s = none := by
  rw [← longestMatch_eq_none_iff, decider?]
  cases longestMatch (m.rules.lexemes k.state) s with
  | some winner => cases m.rules.handler? k.state <;> simp
  | none => simp

/-- Whoever is found out takes the step, and without anybody it fails. -/
theorem step_of_decider? (hs : s.ahead = c :: rest) (hkept : m.rules.ignores? k.state c = false) :
    (∀ d text, m.decider? c s k = some (d, text) →
      m.step c s k = (m.perform (d.action (Token.ofMatch d.name text k.position)) k).map
        (m.conclude d text s k)) ∧
    (m.decider? c s k = none →
      m.step c s k =
        some (.failed (.illegalCharacter c k.line k.column) ⟨s, k, m.tryEvents k⟩)) := by
  constructor
  · intro d text h
    exact step_of_decides hs ((decider?_eq_some_iff hs hkept).1 h)
  · intro h
    obtain ⟨hunmatched, hunhandled⟩ := decider?_eq_none_iff.1 h
    exact step_of_unhandled hkept hunmatched hunhandled

/-- Where the next character is not ignored, the step is taken by whoever is found out, and fails if
that is nobody. A lexeme is found out just if one matches at the offset. It is one that matches as
many bytes as its candidate has, the next ones of the input: no lexeme matches more there, and those
registered before it match less. It is left to the handler or to nobody just if all matches are
empty. -/
theorem step_of_longest_match {input : List Char} {offset : Nat}
    (hspot : Spot.at? input offset = some s) (hs : s.ahead = c :: rest)
    (hkept : m.rules.ignores? k.state c = false) :
    ((∀ d text, m.decider? c s k = some (d, text) →
        m.step c s k = (m.perform (d.action (Token.ofMatch d.name text k.position)) k).map
          (m.conclude d text s k)) ∧
      (m.decider? c s k = none →
        m.step c s k =
          some (.failed (.illegalCharacter c k.line k.column) ⟨s, k, m.tryEvents k⟩))) ∧
    ((∃ l text, m.decider? c s k = some (.rule l, text)) ↔
      ∃ l ∈ m.rules.lexemes k.state, (l.matcher.lengthAt input offset).isSome = true) ∧
    (∀ l text, m.decider? c s k = some (.rule l, text) →
      l.matcher.lengthAt input offset = some (Text.utf8Length text) ∧
      (∃ front back, input = front ++ text ++ back ∧ Text.utf8Length front = offset) ∧
      (∀ l' ∈ m.rules.lexemes k.state, ∀ length,
        l'.matcher.lengthAt input offset = some length → length ≤ Text.utf8Length text) ∧
      ∃ earlier later, m.rules.lexemes k.state = earlier ++ l :: later ∧
        ∀ l' ∈ earlier, ∀ length,
          l'.matcher.lengthAt input offset = some length → length < Text.utf8Length text) ∧
    (m.decider? c s k = (m.rules.handler? k.state).map (fun a ↦ (.handler a, [c])) ↔
      ∀ l ∈ m.rules.lexemes k.state, ∀ n, l.matcher.rawSpan? s = some n → n = 0) := by
  refine ⟨step_of_decider? hs hkept, ?_, ?_, ?_⟩
  · constructor
    · rintro ⟨l, text, h⟩
      obtain ⟨n, hwins, _⟩ := decider?_eq_rule_iff.1 h
      refine ⟨l, hwins.mem, ?_⟩
      rw [Matcher.isSome_lengthAt hspot, hwins.span?_eq, Option.isSome_some]
    · rintro ⟨l, hl, hmatch⟩
      rw [Matcher.isSome_lengthAt hspot] at hmatch
      cases hlongest : longestMatch (m.rules.lexemes k.state) s with
      | none =>
        rw [longestMatch_eq_none_iff.1 hlongest l hl] at hmatch
        cases hmatch
      | some winner =>
        exact ⟨winner.1, _, decider?_eq_rule_iff.2 ⟨_, longestMatch_eq_some_iff.1 hlongest, rfl⟩⟩
  · intro l text h
    obtain ⟨n, hwins, rfl⟩ := decider?_eq_rule_iff.1 h
    obtain ⟨htext, hoffset⟩ := Spot.at?_eq_some_iff.1 hspot
    refine ⟨hwins.lengthAt_eq hspot, ?_, hwins.lengthAt_le hspot,
      hwins.exists_earlier_lengthAt_lt hspot⟩
    refine ⟨s.behind.reverse, s.ahead.drop n, ?_, ?_⟩
    · rw [List.append_assoc, List.take_append_drop, ← htext, Spot.text]
    · rw [Text.utf8Length_reverse, ← hoffset, Spot.offset]
  · simp only [decider?_eq_handler_iff, Matcher.span?_eq_none_iff]

end Machine

/-- A word of its own, and words in general. -/
def keywordDeclarations : List Declaration :=
  [.tokens ["IF", "NAME"], .rule "IF" (.literal "ïf") none,
   .rule "NAME" (.repetition (.charClass (.ofChars ['ï', 'f'])) 1 none) none]

/-- These rules compiled. -/
def keywordRules : RuleSet :=
  (RuleSet.ofDeclarations keywordDeclarations).toOption.get (by decide +kernel)

/-- The lexeme of the word of its own. -/
def keywordLexeme : Lexeme :=
  ⟨"IF", .literal "ïf", none⟩

/-- Both lexemes match all three bytes that are left, so the one registered first decides. -/
theorem Machine.step_of_longest_match_keywordRules :
    keywordLexeme.matcher.lengthAt "ffïf".toList 2 = some 3 ∧
      (∀ l ∈ keywordRules.lexemes "initial", ∀ length,
        l.matcher.lengthAt "ffïf".toList 2 = some length → length ≤ 3) ∧
      ((Machine.ofDepth keywordRules .quiet 0).decider? 'ï' ⟨['f', 'f'], ['ï', 'f']⟩ .initial =
          (keywordRules.handler? "initial").map (fun a ↦ (.handler a, ['ï'])) ↔
        ∀ l ∈ keywordRules.lexemes "initial", ∀ n,
          l.matcher.rawSpan? ⟨['f', 'f'], ['ï', 'f']⟩ = some n → n = 0) := by
  have hspot : Spot.at? "ffïf".toList 2 = some ⟨['f', 'f'], ['ï', 'f']⟩ := by decide +kernel
  have hkept : (Machine.ofDepth keywordRules .quiet 0).rules.ignores?
      Cursor.initial.state 'ï' = false := by decide +kernel
  obtain ⟨_, _, hrule, hnone⟩ := Machine.step_of_longest_match hspot rfl hkept
  have hdecider : (Machine.ofDepth keywordRules .quiet 0).decider? 'ï' ⟨['f', 'f'], ['ï', 'f']⟩
      .initial = some (.rule keywordLexeme, ['ï', 'f']) := rfl
  obtain ⟨hlength, _, hle, _⟩ := hrule keywordLexeme ['ï', 'f'] hdecider
  exact ⟨hlength, hle, hnone⟩

end ModalLexer
