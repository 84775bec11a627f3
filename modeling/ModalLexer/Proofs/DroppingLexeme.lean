import ModalLexer.Action.Step
import ModalLexer.Proofs.Agreement

/-!
# Ignoring by a lexeme

Characters that a state ignores are passed over before any lexeme is tried. A lexeme that matches
one of them and drops it does the same (`steps_agree_of_droppingIn`), unless another lexeme matches
there, which would never be tried if the character were ignored. So the state may as well have such
a lexeme, at any place among its own, and ignore nothing.
-/

namespace ModalLexer

open Text (Spot)

/-! ### A lexeme that drops characters -/

/-- A lexeme that drops each character of a set. -/
def Lexeme.dropping (name : String) (set : CharSet) : Lexeme :=
  ⟨name, .charClass set, some .drop⟩

/-- It matches the next character if the set holds it. -/
theorem Lexeme.span?_dropping (name : String) (set : CharSet) {s : Spot} {c : Char}
    {rest : List Char} (hahead : s.ahead = c :: rest) :
    (dropping name set).matcher.span? s = if set.contains c then some 1 else none := by
  by_cases hc : set.contains c = true <;>
    simp [dropping, Matcher.span?, Matcher.rawSpan?, hahead, hc]

/-- A lexeme that does not match makes no difference to the longest match. -/
theorem Machine.longestMatch_insert {k : Lexeme} {s : Spot} (hk : k.matcher.span? s = none)
    (earlier later : List Lexeme) :
    longestMatch (earlier ++ k :: later) s = longestMatch (earlier ++ later) s := by
  induction earlier with
  | nil =>
    rw [List.nil_append, List.nil_append, longestMatch, hk]
  | cons l earlier ih => rw [List.cons_append, List.cons_append, longestMatch, longestMatch, ih]

/-- The set of the characters of a text holds those that the text says are to be ignored. -/
theorem CharSet.contains_ofChars_eq (text : String) (c : Char) :
    (ofChars text.toList).contains c = (IgnoreSet.chars text).contains c := by
  rw [IgnoreSet.contains, Bool.eq_iff_iff, contains_ofChars, List.contains_iff_mem]

namespace RuleSet

/-- The same rules, but one state ignores nothing and has a lexeme more, at some place among its
own, that drops the characters of a set. -/
def droppingIn (r : RuleSet) (state name : String) (set : CharSet) (place : Nat) : RuleSet :=
  { r with
    tables := r.tables.modify state (.new state) fun t ↦
      ⟨t.name, t.lexemes.take place ++ .dropping name set :: t.lexemes.drop place⟩
    ignores := r.ignores.insert state .default }

variable (r : RuleSet) (state name : String) (set : CharSet) (place : Nat) {other : String}

private theorem lexemes_droppingIn_self : (r.droppingIn state name set place).lexemes state =
    (r.lexemes state).take place ++ .dropping name set :: (r.lexemes state).drop place := by
  rw [lexemes, lexemes, droppingIn]
  dsimp only
  rw [Table.get?_modify, if_pos rfl]
  cases r.tables.get? state <;> simp [State.new]

private theorem lexemes_droppingIn_of_ne (hother : other ≠ state) :
    (r.droppingIn state name set place).lexemes other = r.lexemes other := by
  rw [lexemes, lexemes, droppingIn]
  dsimp only
  rw [Table.get?_modify, if_neg hother]

private theorem ignores?_droppingIn_self (c : Char) :
    (r.droppingIn state name set place).ignores? state c = false := by
  rw [ignores?, ignore?, droppingIn]
  dsimp only
  rw [Table.get?_insert_self]
  rfl

private theorem ignores?_droppingIn_of_ne (hother : other ≠ state) (c : Char) :
    (r.droppingIn state name set place).ignores? other c = r.ignores? other c := by
  rw [ignores?, ignores?, ignore?, ignore?, droppingIn]
  dsimp only
  rw [Table.get?_insert, if_neg hother]

/-- Where a state ignores the next character, none of its lexemes matches. -/
def IgnoredUnmatched (state : String) (sit : Situation) : Prop :=
  sit.cursor.state = state → ∀ c rest, sit.spot.ahead = c :: rest → r.ignores? state c = true →
    ∀ l ∈ r.lexemes state, l.matcher.span? sit.spot = none

variable {r state set}

/-- Where the state does not ignore the next character, the longest match is the same. -/
theorem longestMatch_droppingIn {s : Spot} {c : Char} {rest : List Char}
    (hahead : s.ahead = c :: rest) (hset : set.contains c = r.ignores? state c)
    (hkept : other = state → r.ignores? state c = false) :
    Machine.longestMatch ((r.droppingIn state name set place).lexemes other) s =
      Machine.longestMatch (r.lexemes other) s := by
  by_cases hother : other = state
  · subst hother
    have hunmatched : (Lexeme.dropping name set).matcher.span? s = none := by
      rw [Lexeme.span?_dropping name set hahead, hset, hkept rfl, if_neg Bool.false_ne_true]
    rw [lexemes_droppingIn_self, Machine.longestMatch_insert hunmatched, List.take_append_drop]
  · rw [lexemes_droppingIn_of_ne r state name set place hother]

/-- Where it does and none of its lexemes matches, the lexeme wins that drops it. -/
theorem wins_dropping {s : Spot} {c : Char} {rest : List Char} (hahead : s.ahead = c :: rest)
    (hset : set.contains c = true) (hunmatched : ∀ l ∈ r.lexemes state, l.matcher.span? s = none) :
    Wins ((r.droppingIn state name set place).lexemes state) s (.dropping name set) 1 := by
  have hmatch : (Lexeme.dropping name set).matcher.span? s = some 1 := by
    rw [Lexeme.span?_dropping name set hahead, if_pos hset]
  rw [lexemes_droppingIn_self]
  refine ⟨_, _, rfl, hmatch, fun l hl i hi ↦ ?_, fun l hl i hi ↦ ?_⟩
  · rw [hunmatched l (List.mem_of_mem_take hl)] at hi
    cases hi
  · rw [hunmatched l (List.mem_of_mem_drop hl)] at hi
    cases hi

end RuleSet

/-! ### Steps -/

namespace Machine

variable {m m' : Machine} {state name : String} {set : CharSet} {place : Nat} {s : Spot}
  {k : Cursor}

/-- Where nothing is to be skipped, nothing is. -/
theorem applySkip_eq (hk : k.pendingSkip = 0) : applySkip s k = (s, k) := by
  obtain ⟨state, stack, line, passed, pendingSkip⟩ := k
  obtain rfl : pendingSkip = 0 := hk
  rw [applySkip, consume, UInt64.toNat_zero, List.take_zero]
  exact congrArg (Prod.mk s) (Cursor.advanceColumn_zero _)

/-- A step with a lexeme that drops a character leaves the scan where it would be left if the
character were ignored. -/
theorem step_of_dropping {c : Char} {rest : List Char} (hahead : s.ahead = c :: rest)
    (hname : name ≠ Token.newlineName) (hk : k.pendingSkip = 0)
    (hkept : m.rules.ignores? k.state c = false)
    (hwins : Wins (m.rules.lexemes k.state) s (.dropping name set) 1) :
    m.step c s k = some (.moved none ⟨s.advance 1, k.advanceColumn 1, m.tryEvents k⟩) := by
  have htext : (s.ahead.take 1).length = 1 := by rw [hahead]; rfl
  have hpass : (Decider.rule (.dropping name set)).pass 1 k = k.advanceColumn 1 := if_neg hname
  have hskip : applySkip (s.advance 1) (k.advanceColumn 1) = (s.advance 1, k.advanceColumn 1) :=
    applySkip_eq hk
  rw [step_of_decides hahead (.rule hahead hkept hwins)]
  change some (m.settle .suppress (s.advance (s.ahead.take 1).length)
    ((Decider.rule _).pass (s.ahead.take 1).length k) (m.tryEvents k ++ [])) = _
  rw [htext, hpass, List.append_nil, settle, hskip]

/-- Steps agree if no lexeme of the state matches where it ignores the next character, provided that
the scans agree that actions start. -/
theorem steps_agree_of_droppingIn (hrules : m'.rules = m.rules.droppingIn state name set place)
    (hname : name ≠ Token.newlineName) (hset : ∀ c, set.contains c = m.rules.ignores? state c)
    (hk : k.pendingSkip = 0)
    (hunmatched : k.state = state → ∀ c rest, s.ahead = c :: rest →
      m.rules.ignores? state c = true → ∀ l ∈ m.rules.lexemes state, l.matcher.span? s = none)
    (hnested : ∀ d text, m.Decides s k d text → m.AgreeOn m' (m.calls (d.routine text k) k)) :
    StepsAgree Scan.NeverApart m m' s k := by
  intro c rest hahead
  by_cases hdropped : k.state = state ∧ m.rules.ignores? state c = true
  · -- The character is ignored on the one machine and dropped by the lexeme on the other.
    obtain ⟨rfl, hignored⟩ := hdropped
    have hkept : m'.rules.ignores? k.state c = false := by
      rw [hrules, RuleSet.ignores?_droppingIn_self]
    have hwins : Wins (m'.rules.lexemes k.state) s (.dropping name set) 1 := by
      rw [hrules]
      exact RuleSet.wins_dropping name place hahead ((hset c).trans hignored)
        (hunmatched rfl c rest hahead hignored)
    rw [step_of_dropping hahead hname hk hkept hwins, step, if_pos hignored]
    refine .some (.moved rfl rfl ?_)
    rw [notes_tryEvents]
    rfl
  · -- The lexeme does not match, or there is none in the current state.
    have hkept (hstate : k.state = state) : m.rules.ignores? state c = false :=
      Bool.eq_false_iff.2 fun hignored ↦ hdropped ⟨hstate, hignored⟩
    refine steps_agree_of_longestMatch_eq (hrules ▸ rfl) ?_ ?_ (hrules ▸ rfl) hnested c rest hahead
    · intro c' rest' hahead'
      obtain ⟨rfl, -⟩ := List.cons.inj (hahead.symm.trans hahead')
      rw [hrules]
      by_cases hstate : k.state = state
      · rw [hstate, hkept hstate, RuleSet.ignores?_droppingIn_self]
      · rw [RuleSet.ignores?_droppingIn_of_ne _ _ _ _ _ hstate]
    · rw [hrules]
      exact (RuleSet.longestMatch_droppingIn name place hahead (hset c) hkept).symm

end Machine

namespace Situation

variable {rules : RuleSet} {config : Config} {start sit : Situation}

/-- Nothing is to be skipped wherever a scan comes. -/
theorem Arises.pendingSkip_eq (h : Arises rules config start sit)
    (hstart : start.cursor.pendingSkip = 0) : sit.cursor.pendingSkip = 0 := by
  induction h with
  | start => exact hstart
  | step _ takes ih => exact takes.pendingSkip_eq ih
  | within => rfl

/-- So it is in the scans that actions start. -/
theorem Inside.pendingSkip {P : Situation → Prop} (h : Inside rules config P sit) :
    Inside rules config (fun sit' ↦ sit'.cursor.pendingSkip = 0 ∧ P sit') sit := by
  intro start hstarts sit' hsit
  refine ⟨hsit.pendingSkip_eq ?_, h start hstarts sit' hsit⟩
  cases hstarts
  rfl

end Situation

/-! ### Scans -/

namespace Lexer

/-- The lexer, but one state ignores nothing and has a lexeme more that drops the characters of a
set. -/
def droppingIn (l : Lexer) (state name : String) (set : CharSet) (place : Nat) : Lexer :=
  { l with rules := l.rules.droppingIn state name set place }

/-- Letters, and a sign that has a blank and a letter scanned; blanks are ignored. -/
def blankDeclarations : List Declaration :=
  [.tokens ["LETTER", "SIGN"], .rule "LETTER" (.charClass .alpha) none,
   .rule "SIGN" (.literal "@") (some (Step.action [.tokenize " b"])), .ignore none (.chars " ")]

/-- The lexer for letters and signs. -/
def blankLexer : Lexer :=
  (define blankDeclarations .quiet).toOption.get (by decide +kernel)

private theorem ignoredUnmatched_blankLexer (sit : Situation) :
    blankLexer.rules.IgnoredUnmatched "initial" sit := by
  intro _ c rest hahead hignored l hl
  have hblank : (IgnoreSet.chars " ").contains c = true := hignored
  obtain rfl : c = ' ' := by simpa [IgnoreSet.contains] using hblank
  have hlexemes : l ∈ [(⟨"LETTER", .charClass .alpha, none⟩ : Lexeme),
      ⟨"SIGN", .literal "@", some (Step.action [.tokenize " b"])⟩] := hl
  rcases List.mem_pair.1 hlexemes with rfl | rfl
  · simp [Matcher.span?, Matcher.rawSpan?, hahead, CharSet.contains, CharSet.alpha]
  · simp [Matcher.span?, Matcher.rawSpan?, hahead]

end Lexer

end ModalLexer
