import ModalLexer.Action.Step
import ModalLexer.Proofs.Inheritance
import ModalLexer.Proofs.Overflow

/-!
# What a lexer goes through

A `Lexer.History` is any sequence of operations on a lexer, scans among them, whether they are
followed to their end, dropped or fail, and whatever their actions do with the lexer meanwhile. What
the operations on cursors keep holds after every history. So a lexer is always in a declared state
that has lexemes, and so are the states to which it can return.
-/

namespace ModalLexer

open Text (Spot)

namespace Lexer

/-- What an operation that does not scan makes of a lexer, whether it fails or not. -/
inductive Operates : Request → Lexer → Lexer → Prop
  | begin (l : Lexer) (state : String) : Operates (.begin state) l (l.begin state).2
  | push (l : Lexer) (state : String) : Operates (.push state) l (l.push state).2
  | pop (l : Lexer) : Operates .pop l l.pop.2
  | skip (l : Lexer) (count : Counter) : Operates (.skip count) l (l.skip count)
  | advanceLine (l : Lexer) (count : Counter) :
      Operates (.advanceLine count) l (l.advanceLine count)
  | advanceColumn (l : Lexer) (count : Counter) :
      Operates (.advanceColumn count) l (l.advanceColumn count)
  | rewind (l : Lexer) : Operates .rewind l l.rewind

/-- What scanning a text makes of a lexer, whether it fails or not. The scan is asked for what comes
next some number of times, with or without logging what is known of the rules first; or its tokens
are handed to a function; or they are listed. -/
inductive ScansText (depth : Nat) (text : String) (l l' : Lexer) : Prop
  | pulls {bound : Option Nat} {ps : List Pull}
      (scanned : l.pulls depth text bound = some (ps, l'))
  | announcedPulls {bound : Option Nat} {journal : Journal} {ps : List Pull}
      (scanned : l.announcedPulls depth text bound = some (journal, ps, l'))
  | stream {σ : Type} {gather : σ → Token → σ} {start gathered : σ}
      {result : Except LexError Unit} {journal : Journal}
      (scanned : l.stream depth gather start text = some (gathered, result, l', journal))
  | tokenize {result : Except LexError (List Token)} {journal : Journal}
      (scanned : l.tokenize depth text = some (result, l', journal))

/-- What scanning some text makes of a lexer. -/
def Scans (l l' : Lexer) : Prop :=
  ∃ depth text, ScansText depth text l l'

/-- What may become of a lexer if all calls of the engine are as allowed: any sequence of operations
and scans. A copy of a lexer is no different from it. Actions may do more in a scan than scan other
texts to their end (`reenters`): when they use the lexer to scan, what becomes of it may be any
other such history, so that they may drop that scan as well. -/
inductive HistoryOf (allowed : Call → Prop) : Lexer → Lexer → Prop
  | same (l : Lexer) : HistoryOf allowed l l
  | operates {l l₁ l₂ : Lexer} {r : Request} (before : HistoryOf allowed l l₁)
      (last : Operates r l₁ l₂) (call : allowed ⟨l₁.cursor, r⟩) : HistoryOf allowed l l₂
  | scans {l l₁ l₂ : Lexer} {depth : Nat} {text : String} (before : HistoryOf allowed l l₁)
      (last : ScansText depth text l₁ l₂)
      (calls : (l₁.situation depth text).AllCalls l₁.rules l₁.config allowed) :
      HistoryOf allowed l l₂
  | reenters {l l₁ : Lexer} {nested : Nested} {text : String} {count : Nat} {ps : List Pull}
      (before : HistoryOf allowed l l₁)
      (within : ∀ text k outcome, nested text k = some outcome →
        HistoryOf allowed (l₁.withCursor k) (l₁.withCursor outcome.cursor))
      (last : Machine.pulls ⟨l₁.rules, l₁.config, nested⟩ count (l₁.scan text) = some ps)
      (calls : Machine.AllCalls ⟨l₁.rules, l₁.config, nested⟩ allowed (l₁.scan text)) :
      HistoryOf allowed l (l₁.withCursor (l₁.scanAfter text ps).cursor)

/-- What may become of a lexer, whatever calls are made of the engine. -/
abbrev History : Lexer → Lexer → Prop := HistoryOf fun _ ↦ True

variable {l l' : Lexer} {r : Request} {P : Cursor → Prop} {allowed : Call → Prop}

/-- An operation does what the engine does when an action asks for it. -/
theorem Operates.exists_answer (h : Operates r l l') :
    (∀ input, r ≠ .tokenize input) ∧
      ∃ reply, (l.machine 0).answer l.cursor r = some reply ∧ l' = l.withCursor reply.cursor := by
  cases h <;> exact ⟨by simp, _, rfl, rfl⟩

/-- An operation keeps what every operation on cursors keeps. -/
theorem Operates.keeps (h : Operates r l l') :
    ∃ k, l' = l.withCursor k ∧ ∀ {P}, Cursor.Stable l.rules P → P l.cursor → P k := by
  obtain ⟨_, reply, hreply, rfl⟩ := h.exists_answer
  exact ⟨reply.cursor, rfl, fun hP hk ↦ Machine.answer_keeps hP (fun _ h ↦ nomatch h) hk hreply⟩

/-- However a text is scanned, the lexer is left where the scan stands after some number of
steps. -/
theorem ScansText.exists_asked {depth : Nat} {text : String} (h : ScansText depth text l l') :
    ∃ scan, (l.machine depth).Asked (l.scan text) scan ∧ l' = l.withCursor scan.cursor := by
  cases h with
  | pulls scanned =>
    obtain ⟨ps', hps, heq⟩ := Option.map_eq_some_iff.1 scanned
    cases heq
    exact ⟨_, Machine.pulls_asked hps, rfl⟩
  | announcedPulls scanned =>
    obtain ⟨⟨ps', l₁⟩, hpulls, heq⟩ := Option.map_eq_some_iff.1 scanned
    cases heq
    obtain ⟨ps', hps, heq⟩ := Option.map_eq_some_iff.1 hpulls
    cases heq
    exact ⟨_, Machine.pulls_asked hps, rfl⟩
  | stream scanned =>
    obtain ⟨⟨gathered', result', scan, journal'⟩, hstream, heq⟩ :=
      Option.map_eq_some_iff.1 scanned
    cases heq
    exact ⟨scan, Machine.stream_asked hstream, rfl⟩
  | tokenize scanned =>
    obtain ⟨outcome, houtcome, heq⟩ := Option.map_eq_some_iff.1 scanned
    obtain ⟨⟨result', scan, journal'⟩, hcollect, rfl⟩ := Option.map_eq_some_iff.1 houtcome
    cases heq
    exact ⟨scan, Machine.collect_asked hcollect, rfl⟩

namespace HistoryOf

/-- After every history a lexer has its rules, and its cursor has kept what every operation on
cursors keeps. -/
theorem keeps (h : HistoryOf allowed l l') :
    ∃ k, l' = l.withCursor k ∧ ∀ {P}, Cursor.Stable l.rules P → P l.cursor → P k := by
  induction h with
  | same l => exact ⟨l.cursor, rfl, fun _ h ↦ h⟩
  | operates before last call ih =>
    obtain ⟨k₁, rfl, hbefore⟩ := ih
    obtain ⟨k, rfl, hlast⟩ := last.keeps
    exact ⟨k, rfl, fun hP h ↦ hlast hP (hbefore hP h)⟩
  | @scans l l₁ l₂ depth text before last calls ih =>
    obtain ⟨k₁, rfl, hbefore⟩ := ih
    obtain ⟨scan, hasked, rfl⟩ := last.exists_asked
    refine ⟨scan.cursor, rfl, fun hP h ↦ ?_⟩
    exact hasked.keeps hP (Machine.keeps_nestedOfDepth hP _ depth) (hP.clearSkip (hbefore hP h))
  | @reenters l l₁ nested text count ps before within last calls ih ihwithin =>
    obtain ⟨k₁, rfl, hbefore⟩ := ih
    refine ⟨_, rfl, fun {P} hP h ↦ ?_⟩
    have hnested : nested.Keeps P := by
      intro text k outcome hk hrun
      obtain ⟨k', heq, hkeep⟩ := ihwithin text k outcome hrun
      have hcursor : outcome.cursor = k' := congrArg Lexer.cursor heq
      rw [hcursor]
      exact hkeep hP hk
    exact (Machine.pulls_asked last).keeps hP hnested (hP.clearSkip (hbefore hP h))

end HistoryOf

namespace History

/-- Nothing has become of a lexer yet. -/
theorem same (l : Lexer) : l.History l := HistoryOf.same l

/-- A scan adds to what a lexer has gone through. -/
theorem scans {l₁ : Lexer} {depth : Nat} {text : String} (h : l.History l₁)
    (hscan : ScansText depth text l₁ l') : l.History l' :=
  HistoryOf.scans h hscan fun _ _ _ _ _ _ _ ↦ trivial

end History

end Lexer

/-! ### Usable states -/

namespace RuleSet

variable {r : RuleSet} {state : String}

/-- Compiled rules have the states that were declared. -/
theorem states_of_ofDeclarations {ds : List Declaration} (h : ofDeclarations ds = .ok r) :
    r.states = declaredStates ds := by
  obtain ⟨d, hstates, -, rfl⟩ := follows_of_ofDeclarations h
  exact hstates

/-- Compiled rules have the initial state. -/
theorem hasState_initialState {ds : List Declaration} (h : ofDeclarations ds = .ok r) :
    r.hasState initialState = true := by
  rw [hasState, kind?, states_of_ofDeclarations h]
  exact isSome_find?_initialState ds

/-- A state that compiled rules have is one of their states. -/
theorem mem_states_of_hasState (h : r.hasState state = true) : ∃ kind,
    (state, kind) ∈ r.states := by
  have hname : state ∈ (Table.mk r.states).names := Table.mem_names_iff.2 h
  obtain ⟨⟨name, kind⟩, hmem, rfl⟩ := List.mem_map.1 hname
  exact ⟨kind, hmem⟩

/-- Rules that were checked leave no declared state without lexemes. -/
theorem lexemes_ne_nil_of_lint {report : LintReport} (h : r.lint = .ok report)
    (hstate : r.hasState state = true) : r.lexemes state ≠ [] := by
  have hrules : r.checkRules = .ok () := by
    unfold lint at h
    cases htokens : r.checkTokens with
    | error e => rw [htokens] at h; cases h
    | ok =>
      rw [htokens] at h
      cases hcheck : r.checkRules with
      | error e => rw [hcheck] at h; cases h
      | ok => rfl
  unfold checkRules at hrules
  split at hrules
  · cases hrules
  · split at hrules
    · cases hrules
    · next hnone =>
      obtain ⟨kind, hmem⟩ := mem_states_of_hasState hstate
      have hsome : ¬ (r.lexemes state).isEmpty = true := List.find?_eq_none.1 hnone _ hmem
      intro hnil
      rw [hnil] at hsome
      exact hsome rfl

end RuleSet

namespace Cursor

/-- Whether an engine can go on from a cursor: the current state and those to which it can return
are declared. -/
structure Usable (rules : RuleSet) (k : Cursor) : Prop where
  state : rules.hasState k.state = true
  stack : ∀ state ∈ k.stack, rules.hasState state = true

/-- Every operation leaves an engine that can go on. -/
theorem stable_usable {rules : RuleSet} (h : rules.hasState initialState = true) :
    Stable rules (Usable rules) where
  initial := ⟨h, by simp [Cursor.initial]⟩
  begin := by
    intro k k' state hk hbegin
    obtain ⟨hstate, rfl⟩ := begin_eq_ok_iff.1 hbegin
    exact ⟨hstate, hk.stack⟩
  push := by
    intro k k' state hk hpush
    obtain ⟨hstate, rfl⟩ := push_eq_ok_iff.1 hpush
    exact ⟨hstate, List.forall_mem_cons.2 ⟨hk.state, hk.stack⟩⟩
  pop := by
    intro k k' hk hpop
    obtain ⟨state, stack, hstack, rfl⟩ := pop_eq_ok_iff.1 hpop
    have hsaved := hk.stack
    rw [hstack] at hsaved
    obtain ⟨hstate, hrest⟩ := List.forall_mem_cons.1 hsaved
    exact ⟨hstate, hrest⟩
  skip := fun _ hk ↦ ⟨hk.state, hk.stack⟩
  advanceLine := fun _ hk ↦ ⟨hk.state, hk.stack⟩
  advanceColumn := fun _ hk ↦ ⟨hk.state, hk.stack⟩
  clearSkip := fun hk ↦ ⟨hk.state, hk.stack⟩

end Cursor

namespace Lexer

variable {l l' : Lexer}

/-- A lexer stays on a line as long as no call makes the count of lines wrap around. -/
theorem HistoryOf.keepsLine (h : HistoryOf Call.LineFits l l') :
    l.cursor.KeepsLine l'.cursor := by
  have hcourse := Cursor.course_keepsLine
  induction h with
  | same l => exact hcourse.refl l.cursor
  | operates before last call ih =>
    obtain ⟨hscan, reply, hreply, rfl⟩ := last.exists_answer
    exact hcourse.trans ih (Machine.relates_keepsLine call hscan reply hreply)
  | @scans l l₁ l₂ depth text before last calls ih =>
    obtain ⟨scan, hasked, rfl⟩ := last.exists_asked
    have hforward : (l₁.situation depth text).Forward l₁.rules l₁.config Cursor.KeepsLine :=
      ⟨fun sit hsit d text hd c hc ↦ Machine.relates_keepsLine (calls sit hsit d text hd c hc),
        fun _ _ _ _ _ hk ↦ hk⟩
    exact hcourse.trans ih (hforward.rel_of_asked hcourse hasked)
  | @reenters l l₁ nested text count ps before within last calls ih ihwithin =>
    refine hcourse.trans ih ((Machine.pulls_asked last).rel hcourse fun {τs s k} hrun ↦ ?_)
    refine ⟨fun d text hd c hc ↦ ?_, fun _ _ _ hk ↦ hk⟩
    have hfits := calls τs s k hrun d text hd c hc
    obtain ⟨k', r⟩ := c
    cases r with
    | tokenize input =>
      intro reply hreply
      exact ihwithin input.toList k' reply hreply
    | _ => exact Machine.relates_keepsLine hfits (by simp)

/-- Whatever a lexer for declared rules has gone through, its state and the states that it has saved
are declared and have lexemes. Its line is one at least, unless the count of lines has wrapped
around. -/
theorem usable_of_history {ds : List Declaration} {rules : RuleSet} {config : Config} {l : Lexer}
    (hrules : RuleSet.ofDeclarations ds = .ok rules) (hnew : new rules config = .ok l) :
    (∀ l', l.History l' → ∀ state ∈ l'.cursor.state :: l'.cursor.stack,
      l'.rules.hasState state = true ∧ l'.rules.lexemes state ≠ []) ∧
    ∀ l', l.HistoryOf Call.LineFits l' → 1 ≤ l'.cursor.line := by
  unfold new at hnew
  split at hnew
  · cases hnew
  · next report hlint =>
    cases hnew
    refine ⟨fun l' h state hstate ↦ ?_, fun l' h ↦ h.keepsLine (UInt64.le_refl 1)⟩
    obtain ⟨k, rfl, hkeeps⟩ := h.keeps
    have hstable := Cursor.stable_usable (RuleSet.hasState_initialState hrules)
    have hk : k.Usable rules := hkeeps hstable hstable.initial
    have hdeclared : rules.hasState state = true := by
      rcases List.mem_cons.mp hstate with rfl | hsaved
      · exact hk.state
      · exact hk.stack state hsaved
    exact ⟨hdeclared, RuleSet.lexemes_ne_nil_of_lint hlint hdeclared⟩

/-- Parentheses, which enter and leave a state of their own; one that is opened inside another
is closed in a scan of its own. -/
def bracketDeclarations : List Declaration :=
  [.tokens ["OPEN", "CLOSE"], .states [("inner", .exclusive)],
   .rule "OPEN" (.literal "(") (some (Step.action [.push "inner"])),
   .rule "inner_OPEN" (.literal "(") (some (Step.action [.push "inner", .tokenize ")"])),
   .rule "inner_CLOSE" (.literal ")") (some (Step.action [.pop]))]

/-- The rules for parentheses. -/
def bracketRules : RuleSet :=
  (RuleSet.ofDeclarations bracketDeclarations).toOption.get (by decide +kernel)

/-- The lexer for parentheses. -/
def bracketLexer : Lexer :=
  (new bracketRules .quiet).toOption.get (by decide +kernel)

/-- A lexer inside parentheses, and one that has moved down as far as lines are counted. -/
theorem usable_of_history_bracketLexer :
    (∃ l', bracketLexer.History l' ∧ l'.cursor.state = "inner" ∧ l'.cursor.stack = ["initial"] ∧
      ∀ state ∈ ["inner", "initial"],
        l'.rules.hasState state = true ∧ l'.rules.lexemes state ≠ []) ∧
    bracketLexer.HistoryOf Call.LineFits (bracketLexer.advanceLine (Counter.last - 1)) ∧
      1 ≤ (bracketLexer.advanceLine (Counter.last - 1)).cursor.line := by
  have hrules : RuleSet.ofDeclarations bracketDeclarations = .ok bracketRules := rfl
  have hnew : new bracketRules .quiet = .ok bracketLexer := rfl
  obtain ⟨hstates, hlines⟩ := usable_of_history hrules hnew
  constructor
  · have hsome : (bracketLexer.pulls 1 "(()" (some 2)).isSome = true := by decide +kernel
    obtain ⟨⟨ps, l'⟩, hps⟩ := Option.isSome_iff_exists.1 hsome
    have hcursor : l'.cursor.state = "inner" ∧ l'.cursor.stack = ["initial"] := by
      have : (bracketLexer.pulls 1 "(()" (some 2)).map (fun r ↦
          (r.2.cursor.state, r.2.cursor.stack)) = some ("inner", ["initial"]) := by decide +kernel
      rw [hps] at this
      exact Prod.mk.inj (Option.some.inj this)
    have hscan : bracketLexer.History l' := (History.same bracketLexer).scans (.pulls hps)
    have hhistory : bracketLexer.History (l'.advanceLine 2) :=
      .operates hscan (.advanceLine l' 2) trivial
    have hdeclared := hstates (l'.advanceLine 2) hhistory
    change ∀ state ∈ l'.cursor.state :: l'.cursor.stack, _ at hdeclared
    rw [hcursor.1, hcursor.2] at hdeclared
    exact ⟨l'.advanceLine 2, hhistory, hcursor.1, hcursor.2, hdeclared⟩
  · have hhistory :
        bracketLexer.HistoryOf Call.LineFits (bracketLexer.advanceLine (Counter.last - 1)) := by
      refine .operates (.same bracketLexer) (.advanceLine bracketLexer _) fun count hcount ↦ ?_
      obtain rfl := Request.advanceLine.inj hcount
      decide +kernel
    exact ⟨hhistory, hlines _ hhistory⟩

/-- A lexer that moves down by the greatest count is on no line: the count of lines wraps around. -/
theorem not_forall_one_le_line :
    ¬ ∀ (ds : List Declaration) (rules : RuleSet) (config : Config) (l l' : Lexer),
      RuleSet.ofDeclarations ds = .ok rules → new rules config = .ok l → l.History l' →
      1 ≤ l'.cursor.line := by
  intro h
  have hhistory : bracketLexer.History (bracketLexer.advanceLine .last) :=
    .operates (.same bracketLexer) (.advanceLine bracketLexer _) trivial
  have hline : 1 ≤ (bracketLexer.advanceLine .last).cursor.line :=
    h bracketDeclarations bracketRules .quiet bracketLexer _ rfl rfl hhistory
  exact absurd hline (by decide +kernel)

end Lexer

end ModalLexer
