import Mathlib.Data.List.Find
import ModalLexer.Proofs.Acceptance

/-!
# What checking finds

What the check of compiled rules finds follows from the declarations they were compiled from
(`RuleSet.lint_of_ofDeclarations`). Their tokens were checked before. There are no rules just if
none was declared, and a state is without rules just if it takes over none and none was declared for
it (`Unruled`): once the initial state has a rule, every state that inherits has one. Settings are
missing just where none was declared.
-/

namespace ModalLexer

/-- Whether a state has no rules: it takes over none from the initial state, and none belongs to
it. -/
def Unruled (rules : List DeclaredRule) (state : String × StateKind) : Prop :=
  (state.1 = initialState ∨ state.2 = .exclusive) ∧ ∀ rule ∈ rules, state.1 ∉ rule.name.targets

instance (rules : List DeclaredRule) : DecidablePred (Unruled rules) :=
  fun _ ↦ inferInstanceAs (Decidable (_ ∧ _))

namespace LintWarning

/-- The state that a warning says to have no error entry. -/
def errorless? : LintWarning → Option String
  | noErrorRule s => some s
  | _ => none

/-- The state that a warning says to have nothing told to ignore. -/
def ignoreless? : LintWarning → Option String
  | noIgnoreRule s => some s
  | _ => none

end LintWarning

/-! ### Tokens -/

/-- Tokens that are compiled without error are checked without failure. -/
theorem RuleSet.tokenFailure?_eq_none {names earlier seen : List String}
    (hseen : ∀ name, name ∈ seen ↔ name ∈ earlier) (h : tokensError? earlier names = none) :
    tokenFailure? seen names = none := by
  induction names generalizing earlier seen with
  | nil => rfl
  | cons name names ih =>
    have hcontains : seen.contains name = earlier.contains name := by
      simp only [List.contains_eq_mem, hseen]
    rw [tokensError?] at h
    rw [tokenFailure?, hcontains]
    split at h
    · cases h
    · split at h
      · cases h
      · next hname hnew =>
        rw [if_neg hname, if_neg hnew]
        refine ih (fun other ↦ ?_) h
        rw [List.mem_cons, List.mem_append, List.mem_singleton, hseen, or_comm]

/-! ### Rules -/

/-- A rule belongs to some state. -/
theorem RuleName.targets_ne_nil (isState : String → Bool) (raw : String) :
    (resolve isState raw).targets ≠ [] := by
  unfold resolve
  dsimp only
  split
  · simp
  · next h =>
    rw [Bool.or_eq_true, not_or, List.isEmpty_iff] at h
    exact h.1

private theorem DeclaredRule.targets_ne_nil {isState : String → Bool} {ds : List Declaration}
    {rule : DeclaredRule} (h : rule ∈ declaredRules isState ds) : rule.name.targets ≠ [] := by
  obtain ⟨d, _, hd⟩ := List.mem_filterMap.1 h
  cases d with
  | rule raw pattern action =>
    cases hd
    exact RuleName.targets_ne_nil isState raw
  | _ => cases hd

private theorem declaredRules_eq_nil_iff (isState : String → Bool) {ds : List Declaration} :
    declaredRules isState ds = [] ↔ declarationsOf .rule ds = [] := by
  rw [declaredRules, declarationsOf, List.filterMap_eq_nil_iff, List.filter_eq_nil_iff]
  refine forall₂_congr fun d _ ↦ ?_
  cases d <;> simp [Declaration.kind]

/-- The initial state comes first. -/
theorem exists_declaredStates_eq (ds : List Declaration) :
    ∃ kind rest, declaredStates ds = (initialState, kind) :: rest := by
  have hnames := names_declaredStates ds
  rw [List.eraseDups_cons, List.map_eq_cons_iff] at hnames
  obtain ⟨⟨_, kind⟩, rest, heq, rfl, _⟩ := hnames
  exact ⟨kind, rest, heq⟩

/-- A declared state takes over nothing if it is the initial one or exclusive. -/
theorem not_inherits_iff {ds : List Declaration} {s : String × StateKind}
    (h : s ∈ declaredStates ds) :
    ¬ Inherits (declaredStates ds) s.1 ↔ s.1 = initialState ∨ s.2 = .exclusive := by
  rw [Inherits, (Table.find?_eq_some_iff (nodup_declaredStates ds)).2 h, Option.some.injEq,
    not_and_or, Classical.not_not, or_comm]
  cases s.2 <;> simp

namespace RuleSet

variable {ds : List Declaration} {r : RuleSet}

private theorem checkTokens_of_ofDeclarations (h : ofDeclarations ds = .ok r) : r.checkTokens = .ok
    () := by
  have hacceptable := exists_ofDeclarations_iff.1 ⟨r, h⟩
  have htokens : tokensError? [] (declaredTokens ds) = none := by
    rw [Option.eq_none_iff_forall_ne_some]
    intro e
    rw [Ne, tokensError?_eq_some_iff]
    exact (acceptable_iff.1 hacceptable).2.1 e
  rw [checkTokens, (remembers_of_ofDeclarations h).1,
    if_neg (mt List.isEmpty_iff.1 hacceptable.tokens_ne_nil),
    tokenFailure?_eq_none (fun _ ↦ Iff.rfl) htokens]

/-- No rules are counted just if none was declared. -/
theorem ruleCount_eq_zero_iff (h : ofDeclarations ds = .ok r) :
    r.ruleCount = 0 ↔ declarationsOf .rule ds = [] := by
  rw [(remembers_of_ofDeclarations h).2, List.length_eq_zero_iff, List.flatMap_eq_nil_iff,
    ← declaredRules_eq_nil_iff (declares ds)]
  constructor
  · intro hkeys
    rw [List.eq_nil_iff_forall_not_mem]
    intro rule hrule
    exact DeclaredRule.targets_ne_nil hrule (List.map_eq_nil_iff.1 (hkeys rule hrule))
  · intro hnil rule hrule
    rw [hnil] at hrule
    cases hrule

/-- A state has no lexemes just if no rule reaches it. -/
theorem isEmpty_lexemes_iff (h : ofDeclarations ds = .ok r) (state : String) :
    (r.lexemes state).isEmpty = true ↔
      ∀ rule ∈ declaredRules (declares ds) ds, ¬ rule.Reaches (declaredStates ds) state := by
  have hstate := hasState_of_ofDeclarations h
  obtain ⟨d, hstates, hfollows, rfl⟩ := follows_of_ofDeclarations h
  have hd : (d.states.map (·.1)).Nodup := hstates ▸ nodup_declaredStates ds
  have hdeclares : d.hasState = declares ds := hstate
  have hnames := hfollows.names_eq state
  rw [lexemes_finish hfollows hd, List.isEmpty_iff, ← List.map_eq_nil_iff (f := (·.name))]
  rw [State.names, hstates, hdeclares] at hnames
  rw [hnames, List.eq_nil_iff_forall_not_mem]
  constructor
  · intro hnone rule hrule hreaches
    exact hnone _ (mem_reachingNames_iff.2 ⟨rule, hrule, hreaches, rfl⟩)
  · intro hnone name hname
    obtain ⟨rule, hrule, hreaches, _⟩ := mem_reachingNames_iff.1 hname
    exact hnone rule hrule hreaches

/-- Once a rule belongs to the initial state, only states that have no rules have no lexemes. -/
theorem isEmpty_lexemes_eq_unruled (h : ofDeclarations ds = .ok r)
    (hinitial : ∃ rule ∈ declaredRules (declares ds) ds, initialState ∈ rule.name.targets)
    {s : String × StateKind} (hs : s ∈ declaredStates ds) :
    (r.lexemes s.1).isEmpty = decide (Unruled (declaredRules (declares ds) ds) s) := by
  rw [Bool.eq_iff_iff, decide_eq_true_eq, isEmpty_lexemes_iff h, Unruled, ← not_inherits_iff hs]
  by_cases hinherits : Inherits (declaredStates ds) s.1
  · obtain ⟨rule, hrule, htarget⟩ := hinitial
    constructor
    · intro hnone
      exact absurd (.inr ⟨hinherits, htarget⟩) (hnone rule hrule)
    · rintro ⟨hnot, _⟩
      exact absurd hinherits hnot
  · rw [and_iff_right hinherits]
    refine forall₂_congr fun rule _ ↦ ?_
    rw [DeclaredRule.Reaches, or_iff_left fun hboth ↦ hinherits hboth.1]

/-- The first state without lexemes is the first that has no rules. -/
theorem find?_isEmpty_lexemes (h : ofDeclarations ds = .ok r) :
    (declaredStates ds).find? (fun s ↦ (r.lexemes s.1).isEmpty) =
      (declaredStates ds).find? (Unruled (declaredRules (declares ds) ds)) := by
  by_cases hinitial : ∃ rule ∈ declaredRules (declares ds) ds, initialState ∈ rule.name.targets
  · exact List.find?_congr fun s hs ↦ isEmpty_lexemes_eq_unruled h hinitial hs
  · -- No state can inherit anything, but the initial state comes before all others.
    have huntold : ∀ rule ∈ declaredRules (declares ds) ds, initialState ∉ rule.name.targets :=
      fun rule hrule htarget ↦ hinitial ⟨rule, hrule, htarget⟩
    have hempty : (r.lexemes initialState).isEmpty = true := by
      rw [isEmpty_lexemes_iff h]
      rintro rule hrule (htarget | ⟨hself, _⟩)
      · exact huntold rule hrule htarget
      · exact not_inherits_initialState _ hself
    obtain ⟨kind, rest, heq⟩ := exists_declaredStates_eq ds
    have hunruled : Unruled (declaredRules (declares ds) ds) (initialState, kind) :=
      ⟨.inl rfl, huntold⟩
    rw [heq, List.find?_cons, List.find?_cons, hempty, decide_eq_true hunruled]

/-- The check of rules finds the first state without lexemes. -/
theorem checkRules_eq (r : RuleSet) :
    r.checkRules =
      if r.ruleCount = 0 then .error .noRules
      else
        match r.states.find? (fun s ↦ (r.lexemes s.1).isEmpty) with
        | some s => .error (.noRulesForState s.1)
        | none => .ok () := by
  unfold checkRules
  split
  · rfl
  · split
    · next state kind hfirst =>
      have hfind : r.states.find? (fun s ↦ (r.lexemes s.1).isEmpty) = some (state, kind) := hfirst
      rw [hfind]
    · next hnone =>
      have hfind : r.states.find? (fun s ↦ (r.lexemes s.1).isEmpty) = none := hnone
      rw [hfind]

/-- What the check of compiled rules finds: that there are no rules, or the first state that has
none, or nothing but warnings. -/
theorem lint_eq (h : ofDeclarations ds = .ok r) :
    r.lint =
      if declarationsOf .rule ds = [] then .error .noRules
      else
        match (declaredStates ds).find? (Unruled (declaredRules (declares ds) ds)) with
        | some s => .error (.noRulesForState s.1)
        | none => .ok ⟨r.warnings⟩ := by
  have hrules := r.checkRules_eq
  rw [states_of_ofDeclarations h, find?_isEmpty_lexemes h] at hrules
  rw [lint, checkTokens_of_ofDeclarations h, hrules]
  by_cases hnil : declarationsOf .rule ds = []
  · rw [if_pos hnil, if_pos ((ruleCount_eq_zero_iff h).2 hnil)]
    rfl
  · rw [if_neg hnil, if_neg (mt (ruleCount_eq_zero_iff h).1 hnil)]
    cases (declaredStates ds).find? (Unruled (declaredRules (declares ds) ds)) with
    | none => rfl
    | some s => rfl

/-! ### Warnings -/

private theorem flatMap_ite {α β : Type} (p : α → Prop) [DecidablePred p] (f : α → β)
    (xs : List α) :
    xs.flatMap (fun x ↦ if p x then [f x] else []) = (xs.filter p).map f := by
  induction xs with
  | nil => rfl
  | cons x xs ih =>
    rw [List.flatMap_cons, ih, List.filter_cons]
    by_cases hx : p x
    · simp [hx]
    · simp [hx]

/-- The warnings of a kind are given about some of the states, in order. -/
private theorem filterMap_warnings (r : RuleSet) (f : LintWarning → Option String)
    (p : String × StateKind → Prop) [DecidablePred p]
    (h : ∀ s ∈ r.states, (r.warningsFor s.1 s.2).filterMap f = if p s then [s.1] else []) :
    r.warnings.filterMap f = (r.states.filter p).map (·.1) := by
  rw [← flatMap_ite, warnings, List.filterMap_flatMap, List.flatMap_def, List.flatMap_def]
  exact congrArg List.flatten (List.map_congr_left h)

private theorem filterMap_unprefixable (r : RuleSet) {f : LintWarning → Option String}
    (h : ∀ state, f (.unprefixableState state) = none) (state : String) (kind : StateKind) :
    (r.warningsFor state kind).filterMap f =
      if kind = .exclusive then
        (if r.hasErrorEntry state then [] else [.noErrorRule state]).filterMap f ++
          (if (r.ignore? state).isSome then [] else [.noIgnoreRule state]).filterMap f
      else [] := by
  have hprefix (b : Bool) :
      (if b = true then [LintWarning.unprefixableState state] else []).filterMap f = [] := by
    cases b <;> simp [h]
  rw [warningsFor, List.filterMap_append, hprefix, List.nil_append]
  split
  · exact List.filterMap_append
  · rfl

/-- An exclusive state has an error entry just if one was declared for it. -/
theorem hasErrorEntry_iff (h : ofDeclarations ds = .ok r) {s : String × StateKind}
    (hs : s ∈ declaredStates ds) (hkind : s.2 = .exclusive) :
    r.hasErrorEntry s.1 = false ↔ ∀ a ∈ errorAssignments ds, s.1 ∉ a.targets := by
  have hnot := (not_inherits_iff hs).2 (.inr hkind)
  rw [hasErrorEntry, (settings_of_ofDeclarations h).2, states_of_ofDeclarations h, if_neg hnot,
    Option.or_none, ← lastFor_eq_none_iff, Option.isSome_eq_false_iff, Option.isNone_iff_eq_none]

/-- An exclusive state is told what to ignore just if that was declared for it, or if it is the
initial state. -/
theorem isSome_ignore?_iff (h : ofDeclarations ds = .ok r) {s : String × StateKind}
    (hs : s ∈ declaredStates ds) (hkind : s.2 = .exclusive) :
    (r.ignore? s.1).isSome = false ↔
      s.1 ≠ initialState ∧ ∀ a ∈ ignoreAssignments ds, s.1 ∉ a.targets := by
  have hnot := (not_inherits_iff hs).2 (.inr hkind)
  rw [(settings_of_ofDeclarations h).1, states_of_ofDeclarations h, if_neg hnot, Option.or_none,
    ← lastFor_eq_none_iff]
  by_cases hinitial : s.1 = initialState
  · simp [hinitial]
  · rw [if_neg hinitial, and_iff_right hinitial, Option.isSome_eq_false_iff,
      Option.isNone_iff_eq_none]

/-- The states that are warned of since they have no error entry. -/
theorem filterMap_errorless (h : ofDeclarations ds = .ok r) :
    r.warnings.filterMap LintWarning.errorless? =
      ((declaredStates ds).filter fun s ↦
        s.2 = .exclusive ∧ ∀ a ∈ errorAssignments ds, s.1 ∉ a.targets).map (·.1) := by
  rw [← states_of_ofDeclarations h]
  refine r.filterMap_warnings _ _ fun s hs ↦ ?_
  rw [states_of_ofDeclarations h] at hs
  rw [filterMap_unprefixable r fun _ ↦ rfl]
  by_cases hkind : s.2 = .exclusive
  · simp only [hkind, true_and, if_true, ← hasErrorEntry_iff h hs hkind]
    cases r.hasErrorEntry s.1 <;> cases (r.ignore? s.1).isSome <;> rfl
  · simp only [hkind, false_and, if_false]

/-- The states that are warned of since they are not told what to ignore. -/
theorem filterMap_ignoreless (h : ofDeclarations ds = .ok r) :
    r.warnings.filterMap LintWarning.ignoreless? =
      ((declaredStates ds).filter fun s ↦ s.2 = .exclusive ∧ s.1 ≠ initialState ∧
        ∀ a ∈ ignoreAssignments ds, s.1 ∉ a.targets).map (·.1) := by
  rw [← states_of_ofDeclarations h]
  refine r.filterMap_warnings _ _ fun s hs ↦ ?_
  rw [states_of_ofDeclarations h] at hs
  rw [filterMap_unprefixable r fun _ ↦ rfl]
  by_cases hkind : s.2 = .exclusive
  · simp only [hkind, true_and, if_true, ← isSome_ignore?_iff h hs hkind]
    cases r.hasErrorEntry s.1 <;> cases (r.ignore? s.1).isSome <;> rfl
  · simp only [hkind, false_and, if_false]

/-- What checking finds follows from the declarations. Tokens are never at fault. There are no rules
just if none was declared; else the first state fails that takes over no rules and that none belongs
to, the initial state being the first of all; else nothing fails. Then the warnings about missing
settings are about the exclusive states for which none were declared, in order; the initial state
always knows what to ignore. -/
theorem lint_of_ofDeclarations (h : ofDeclarations ds = .ok r) :
    r.lint ≠ .error .noTokens ∧ (∀ name, r.lint ≠ .error (.badTokenName name)) ∧
    (∀ name, r.lint ≠ .error (.duplicateToken name)) ∧
    (r.lint = .error .noRules ↔ declarationsOf .rule ds = []) ∧
    (∃ kind rest, declaredStates ds = (initialState, kind) :: rest) ∧
    (declarationsOf .rule ds ≠ [] →
      (∀ state, r.lint = .error (.noRulesForState state) ↔
        ((declaredStates ds).find? (Unruled (declaredRules (declares ds) ds))).map (·.1) =
          some state) ∧
      ((∃ report, r.lint = .ok report) ↔
        ∀ s ∈ declaredStates ds, ¬ Unruled (declaredRules (declares ds) ds) s)) ∧
    ∀ report, r.lint = .ok report →
      report.warnings.filterMap LintWarning.errorless? =
        ((declaredStates ds).filter fun s ↦
          s.2 = .exclusive ∧ ∀ a ∈ errorAssignments ds, s.1 ∉ a.targets).map (·.1) ∧
      report.warnings.filterMap LintWarning.ignoreless? =
        ((declaredStates ds).filter fun s ↦ s.2 = .exclusive ∧ s.1 ≠ initialState ∧
          ∀ a ∈ ignoreAssignments ds, s.1 ∉ a.targets).map (·.1) := by
  have hlint := lint_eq h
  have hfirst := exists_declaredStates_eq ds
  by_cases hnil : declarationsOf .rule ds = []
  · rw [if_pos hnil] at hlint
    rw [hlint]
    exact ⟨nofun, nofun, nofun, iff_of_true rfl hnil, hfirst, fun hne ↦ absurd hnil hne, nofun⟩
  · rw [if_neg hnil] at hlint
    cases hfind : (declaredStates ds).find? (Unruled (declaredRules (declares ds) ds)) with
    | some s =>
      rw [hfind] at hlint
      have hunruled : Unruled (declaredRules (declares ds) ds) s := by
        simpa using List.find?_some hfind
      rw [hlint]
      refine ⟨nofun, nofun, nofun, iff_of_false nofun hnil, hfirst,
        fun _ ↦ ⟨fun state ↦ by simp, iff_of_false nofun ?_⟩, nofun⟩
      intro hnone
      exact hnone s (List.mem_of_find?_eq_some hfind) hunruled
    | none =>
      rw [hfind] at hlint
      have hnone : ∀ s ∈ declaredStates ds, ¬ Unruled (declaredRules (declares ds) ds) s := by
        simpa using List.find?_eq_none.1 hfind
      rw [hlint]
      refine ⟨nofun, nofun, nofun, iff_of_false nofun hnil, hfirst,
        fun _ ↦ ⟨fun state ↦ by simp, iff_of_true ⟨_, rfl⟩ hnone⟩, ?_⟩
      rintro report ⟨⟩
      exact ⟨filterMap_errorless h, filterMap_ignoreless h⟩

/-- An inclusive state and two exclusive ones, of which the second has no rules and the first has an
error entry. -/
def unruledDeclarations : List Declaration :=
  [.tokens ["WORD"], .states [("quiet", .inclusive), ("raw", .exclusive), ("bare", .exclusive)],
   .rule "raw_WORD" (.charClass .alpha) none, .rule "WORD" (.literal "x") none,
   .error (some "raw") none]

/-- These rules compiled. -/
def unruledRules : RuleSet :=
  (ofDeclarations unruledDeclarations).toOption.get (by decide +kernel)

/-- The same compiled with a rule for the second state. -/
def ruledRules : RuleSet :=
  (ofDeclarations (unruledDeclarations ++ [.rule "bare_WORD" (.literal "y") none])).toOption.get
    (by decide +kernel)

/-- A state without rules, and the same state with one. -/
theorem lint_of_ofDeclarations_unruled :
    unruledRules.lint = .error (.noRulesForState "bare") ∧
      ∃ report, ruledRules.lint = .ok report ∧
        report.warnings.filterMap LintWarning.errorless? = ["bare"] ∧
        report.warnings.filterMap LintWarning.ignoreless? = ["raw", "bare"] := by
  have hunruled : ofDeclarations unruledDeclarations = .ok unruledRules := rfl
  have hruled : ofDeclarations (unruledDeclarations ++ [.rule "bare_WORD" (.literal "y") none]) =
      .ok ruledRules := rfl
  obtain ⟨_, _, _, _, _, hfails, _⟩ := lint_of_ofDeclarations hunruled
  obtain ⟨_, _, _, _, _, hsucceeds, hwarnings⟩ := lint_of_ofDeclarations hruled
  refine ⟨((hfails (by decide)).1 "bare").2 (by decide +kernel), ?_⟩
  obtain ⟨report, hreport⟩ := (hsucceeds (by decide)).2.2 (by decide +kernel)
  obtain ⟨herrorless, hignoreless⟩ := hwarnings report hreport
  exact ⟨report, hreport, herrorless.trans (by decide +kernel),
    hignoreless.trans (by decide +kernel)⟩

end RuleSet

end ModalLexer
