import Mathlib.Data.List.Basic
import ModalLexer.Proofs.Resumption
import ModalLexer.Proofs.Sessions
import ModalLexer.Proofs.Views

/-!
# Rules that say the same of declared states

An engine is always in a declared state and can only return to declared ones. So it makes no
difference to it what rules say of other states: with rules that say the same of the declared ones
(`RuleSet.AgreesOnDeclared`), a lexer does the same, down to what is logged (`session_withRules`).
-/

namespace ModalLexer

open Text (Spot)

namespace RuleSet

/-- Two rule sets say the same of every declared state. What they say of other states may differ. -/
structure AgreesOnDeclared (r r' : RuleSet) : Prop where
  tokens : r.tokens = r'.tokens
  states : r.states = r'.states
  tables : r.tables = r'.tables
  ignores : ∀ state, r.hasState state = true → r.ignores.get? state = r'.ignores.get? state
  errors : ∀ state, r.hasState state = true → r.errors.get? state = r'.errors.get? state
  ruleCount : r.ruleCount = r'.ruleCount

namespace AgreesOnDeclared

variable {r r' : RuleSet} (h : r.AgreesOnDeclared r')
include h

private theorem hasState_eq : r.hasState = r'.hasState := by
  funext state
  rw [hasState, hasState, kind?, kind?, h.states]

private theorem lexemes_eq : r.lexemes = r'.lexemes := by
  funext state
  rw [lexemes, lexemes, h.tables]

private theorem ignores?_eq {state : String} (hstate : r.hasState state = true) :
    r.ignores? state = r'.ignores? state := by
  funext c
  rw [ignores?, ignores?, ignore?, ignore?, h.ignores state hstate]

private theorem handler?_eq {state : String} (hstate : r.hasState state = true) :
    r.handler? state = r'.handler? state := by
  rw [handler?, handler?, h.errors state hstate]

/-- What is said of each listed state is the same. -/
theorem flatMap_states_eq {β : Type} {f g : String → StateKind → List β}
    (hfg : ∀ state kind, r.hasState state = true → f state kind = g state kind) :
    (r.states.flatMap fun (state, kind) ↦ f state kind) =
      r'.states.flatMap fun (state, kind) ↦ g state kind := by
  rw [← h.states]
  refine List.flatMap_congr fun (state, kind) hmem ↦ hfg state kind ?_
  exact Table.mem_names_iff.1 (List.mem_map.2 ⟨_, hmem, rfl⟩ : state ∈ (Table.mk r.states).names)

private theorem warnings_eq : r.warnings = r'.warnings := by
  refine h.flatMap_states_eq fun state kind hstate ↦ ?_
  rw [warningsFor, warningsFor, hasErrorEntry, hasErrorEntry, ignore?, ignore?,
    h.ignores state hstate, h.errors state hstate]

/-- A check finds the same, whether it fails or warns. -/
theorem lint_eq : r.lint = r'.lint := by
  have htokens : r.checkTokens = r'.checkTokens := by
    rw [checkTokens, checkTokens, h.tokens]
  have hrules : r.checkRules = r'.checkRules := by
    rw [checkRules, checkRules, h.ruleCount, h.states, h.lexemes_eq]
  rw [lint, lint, htokens, hrules, h.warnings_eq]

/-- And it warns of the same on the way. -/
theorem lintLog_eq : r.lintLog = r'.lintLog := by
  have htokens : r.checkTokens = r'.checkTokens := by
    rw [checkTokens, checkTokens, h.tokens]
  rw [lintLog, lintLog, htokens, h.warnings_eq]

end AgreesOnDeclared

end RuleSet

/-! ### What an engine does -/

namespace Machine

/-- Two machines do the same wherever an engine can go on: their options are the same, their rules
say the same of declared states, and the scans that actions start do the same and leave an engine
that can go on. -/
structure Alike (m m' : Machine) : Prop where
  rules : m.rules.AgreesOnDeclared m'.rules
  initial : m.rules.hasState initialState = true
  config : m.config = m'.config
  nested : ∀ text (k : Cursor), k.Usable m.rules → m.nested text k = m'.nested text k
  keeps : m.nested.Keeps (Cursor.Usable m.rules)

namespace Alike

variable {m m' : Machine} {k : Cursor} (h : m.Alike m')
include h

private theorem answer_eq (hk : k.Usable m.rules) (r : Request) : m.answer k r = m'.answer k r := by
  cases r with
  | begin state => rw [answer, answer, Cursor.begin, Cursor.begin, h.rules.hasState_eq]
  | push state => rw [answer, answer, Cursor.push, Cursor.push, h.rules.hasState_eq]
  | tokenize input => exact h.nested input.toList k hk
  | _ => rfl

private theorem perform_eq (hk : k.Usable m.rules) (routine : Routine) :
    m.perform routine k = m'.perform routine k := by
  induction routine generalizing k with
  | finish outcome => rfl
  | ask r next ih =>
    rw [perform, perform, ← h.answer_eq hk]
    refine Option.bind_congr fun reply hreply ↦ ?_
    have hstable := Cursor.stable_usable h.initial
    rw [ih reply.value (answer_keeps hstable h.keeps hk hreply)]

private theorem tryEvents_eq : m.tryEvents k = m'.tryEvents k := by
  rw [tryEvents, tryEvents, h.config, h.rules.lexemes_eq]

private theorem settle_eq : m.settle = m'.settle := by
  funext verdict s k journal
  rw [settle, settle, h.config]

/-- One step is the same. -/
theorem step_eq (hk : k.Usable m.rules) (c : Char) (s : Spot) : m.step c s k = m'.step c s k := by
  have hrule (l : Lexeme) (count : Nat) : m.applyRule l count s k = m'.applyRule l count s k := by
    rw [applyRule, applyRule, h.perform_eq hk, h.tryEvents_eq, h.settle_eq]
  have hrecover : m.recover c s k = m'.recover c s k := by
    rw [recover, recover, h.rules.handler?_eq hk.state, h.tryEvents_eq, h.settle_eq]
    cases m'.rules.handler? k.state with
    | none => rfl
    | some handler => simp only [h.perform_eq hk]
  rw [step, step, h.rules.ignores?_eq hk.state, h.rules.lexemes_eq, hrecover]
  simp only [hrule]

private theorem nextFrom_eq (hk : k.Usable m.rules) (s : Spot) :
    m.nextFrom s k = m'.nextFrom s k := by
  fun_induction nextFrom m s k with
  | case1 s k hs => exact (nextFrom_of_nil hs).symm
  | case2 s k c rest hs hstep =>
    rw [nextFrom_of_cons hs, ← h.step_eq hk, hstep]
    rfl
  | case3 s k c rest hs e place hstep =>
    rw [nextFrom_of_cons hs, ← h.step_eq hk, hstep]
    rfl
  | case4 s k c rest hs token place hstep =>
    rw [nextFrom_of_cons hs, ← h.step_eq hk, hstep]
    rfl
  | case5 s k c rest hs place hstep ih =>
    obtain ⟨σ, htakes, _⟩ := takes_iff.2 ⟨c, rest, place.journal, hs, hstep⟩
    have hplace : place.cursor.Usable m.rules :=
      htakes.keeps (Cursor.stable_usable h.initial) h.keeps hk
    rw [nextFrom_of_cons hs, ← h.step_eq hk, hstep, Option.bind_some, follow, ih hplace]

variable {scan : Scan} (hscan : scan.cursor.Usable m.rules)
include hscan

private theorem next_eq : m.next scan = m'.next scan := by
  rw [next, next, h.nextFrom_eq hscan]

/-- A scan gives the same, as far as it is followed. -/
theorem pulls_eq (count : Nat) : m.pulls count scan = m'.pulls count scan := by
  induction count generalizing scan with
  | zero => rfl
  | succ count ih =>
    rw [pulls, pulls, ← h.next_eq hscan]
    refine Option.bind_congr fun pull hnext ↦ ?_
    rw [ih (next_keeps (Cursor.stable_usable h.initial) h.keeps hnext hscan)]

private theorem collect_eq : m.collect scan = m'.collect scan := by
  fun_induction collect m scan with
  | case1 scan hnext => rw [collect_eq_bind, ← h.next_eq hscan, hnext]; rfl
  | case2 scan scan₁ journal hnext => rw [collect_eq_bind, ← h.next_eq hscan, hnext]; rfl
  | case3 scan e scan₁ journal hnext => rw [collect_eq_bind, ← h.next_eq hscan, hnext]; rfl
  | case4 scan token scan₁ journal hnext ih =>
    have hlater := ih (next_keeps (Cursor.stable_usable h.initial) h.keeps hnext hscan)
    rw [hlater, collect_eq_bind m' scan, ← h.next_eq hscan, hnext]
    rfl

private theorem stream_eq {σ : Type} (gather : σ → Token → σ) (gathered : σ) :
    m.stream gather gathered scan = m'.stream gather gathered scan := by
  fun_induction stream m gather gathered scan with
  | case1 gathered scan hnext => rw [stream_eq_bind, ← h.next_eq hscan, hnext]; rfl
  | case2 gathered scan scan₁ journal hnext =>
    rw [stream_eq_bind, ← h.next_eq hscan, hnext]
    rfl
  | case3 gathered scan e scan₁ journal hnext =>
    rw [stream_eq_bind, ← h.next_eq hscan, hnext]
    rfl
  | case4 gathered scan token scan₁ journal hnext ih =>
    have hlater := ih (next_keeps (Cursor.stable_usable h.initial) h.keeps hnext hscan)
    rw [hlater, stream_eq_bind m' gather gathered scan, ← h.next_eq hscan, hnext]
    rfl

omit hscan

private theorem tableEvents_eq : m.tableEvents = m'.tableEvents := by
  have hstates := h.rules.flatMap_states_eq (f := fun state kind ↦
      [Entry.event (.table state kind ((m.rules.lexemes state).map (·.name))),
       .event (.settings state (m.rules.ignore? state) (m.rules.hasErrorEntry state))])
    (g := fun state kind ↦
      [Entry.event (.table state kind ((m'.rules.lexemes state).map (·.name))),
       .event (.settings state (m'.rules.ignore? state) (m'.rules.hasErrorEntry state))]) ?_
  · rw [tableEvents, tableEvents, h.config, h.rules.tokens, hstates]
  · intro state kind hstate
    rw [h.rules.lexemes_eq, RuleSet.ignore?, RuleSet.ignore?, RuleSet.hasErrorEntry,
      RuleSet.hasErrorEntry, h.rules.ignores state hstate, h.rules.errors state hstate]

private theorem tokenize_eq (hk : k.Usable m.rules) (text : List Char) :
    m.tokenize text k = m'.tokenize text k := by
  have hscan : (Machine.scan k text).cursor.Usable m.rules :=
    (Cursor.stable_usable h.initial).clearSkip hk
  rw [tokenize, tokenize, h.collect_eq hscan, h.tableEvents_eq]

end Alike

/-- Machines of one depth whose rules say the same of declared states do the same. -/
theorem alike_ofDepth {r r' : RuleSet} (h : r.AgreesOnDeclared r')
    (hinitial : r.hasState initialState = true) (config : Config) (depth : Nat) :
    (ofDepth r config depth).Alike (ofDepth r' config depth) := by
  have hkeeps := keeps_nestedOfDepth (Cursor.stable_usable hinitial) config
  induction depth with
  | zero => exact ⟨h, hinitial, rfl, fun _ _ _ ↦ rfl, fun _ hrun ↦ nomatch hrun⟩
  | succ depth ih =>
    exact ⟨h, hinitial, rfl, fun text k hk ↦ ih.tokenize_eq hk text,
      fun hk hrun ↦ hkeeps (depth + 1) hk hrun⟩

end Machine

/-! ### What a lexer answers -/

namespace Lexer

/-- The lexer with other rules. -/
def withRules (l : Lexer) (r : RuleSet) : Lexer := { l with rules := r }

section

variable {l : Lexer} {r : RuleSet} (h : l.rules.AgreesOnDeclared r)
  (hinitial : l.rules.hasState initialState = true)

include h hinitial in
private theorem alike_withRules (depth : Nat) : (l.machine depth).Alike
    ((l.withRules r).machine depth) :=
  Machine.alike_ofDepth h hinitial l.config depth

variable (hl : l.cursor.Usable l.rules)
include h hinitial hl

/-- A text gives the same items. -/
theorem pulls_withRules (depth : Nat) (text : String) (bound : Option Nat) :
    (l.withRules r).pulls depth text bound =
      (l.pulls depth text bound).map fun (ps, l') ↦ (ps, l'.withRules r) := by
  have hscan : (l.scan text).cursor.Usable l.rules := (Cursor.stable_usable hinitial).clearSkip hl
  have heq := (alike_withRules h hinitial depth).pulls_eq hscan
    (bound.getD (text.toList.length + 2))
  rw [pulls, pulls, Option.map_map]
  change Option.map _ (Machine.pulls _ _ (l.scan text)) = _
  rw [← heq]
  rfl

/-- An operation is answered in the same way. -/
theorem answer_withRules (depth : Nat) (op : Operation) :
    (l.withRules r).answer depth op =
      (l.answer depth op).map fun (a, l') ↦ (a, l'.withRules r) := by
  have halike := alike_withRules h hinitial depth
  let answered (result : Except LexError Unit × Cursor) : Option (Answer × Lexer) :=
    some (.done result.1, (l.withRules r).withCursor result.2)
  cases op with
  | begin state =>
    have hbegin : l.cursor.begin r state = l.cursor.begin l.rules state := by
      rw [Cursor.begin, Cursor.begin, h.hasState_eq]
    exact congrArg answered hbegin
  | push state =>
    have hpush : l.cursor.push r state = l.cursor.push l.rules state := by
      rw [Cursor.push, Cursor.push, h.hasState_eq]
    exact congrArg answered hpush
  | pop | skip | advanceLine | advanceColumn | rewind => rfl
  | pulls text bound =>
    rw [answer, answer, pulls_withRules h hinitial hl, Option.map_map, Option.map_map]
    rfl
  | announcedPulls text bound =>
    rw [answer, answer, announcedPulls, announcedPulls, pulls_withRules h hinitial hl,
      halike.tableEvents_eq]
    simp only [Option.map_map]
    rfl
  | stream text =>
    have hscan : (l.scan text).cursor.Usable l.rules :=
      (Cursor.stable_usable hinitial).clearSkip hl
    have heq := halike.stream_eq hscan (fun tokens token ↦ tokens ++ [token]) []
    rw [answer, answer, stream, stream]
    change Option.map _ (Option.map _ (Machine.stream _ _ _ (l.scan text))) = _
    rw [← heq, halike.tableEvents_eq]
    simp only [Option.map_map]
    rfl
  | tokenize text =>
    have heq := halike.tokenize_eq hl text.toList
    rw [answer, answer, tokenize, tokenize]
    change Option.map _ (Option.map _ (Machine.tokenize _ text.toList l.cursor)) = _
    rw [← heq]
    simp only [Option.map_map]
    rfl

/-- So is everything in a session, and every operation leaves the lexer at the same place and in the
same state. -/
theorem session_withRules (depth : Nat) (ops : List Operation) :
    (l.withRules r).session depth ops =
      (l.session depth ops).map (·.map fun (a, l') ↦ (a, l'.withRules r)) := by
  induction ops generalizing l with
  | nil => rfl
  | cons op ops ih =>
    rw [session, session, answer_withRules h hinitial hl, Option.bind_map, Option.map_bind]
    refine Option.bind_congr fun (a, l') hanswer ↦ ?_
    obtain ⟨k, heq, hkeeps⟩ := ((History.same l).answer hanswer).keeps
    obtain rfl : l' = l.withCursor k := heq
    have hk : k.Usable l.rules := hkeeps (Cursor.stable_usable hinitial) hl
    have hlater : ((l.withCursor k).withRules r).session depth ops = _ := ih h hinitial hk
    rw [Function.comp_apply, hlater, Function.comp_apply, Option.map_map, Option.map_map]
    rfl

end

end Lexer

end ModalLexer
