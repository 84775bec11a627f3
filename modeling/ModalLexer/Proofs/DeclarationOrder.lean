import ModalLexer.Proofs.Settings

/-!
# The order of declarations

Declarations of different kinds do not meet. Tokens and states apply from the start. Rules change
lexemes and never look at settings, which a draft may as well be without
(`applyAll_withoutSettings`). What is ignored and what is done about errors are tables of their own,
and each of them is settled by its own declarations, however often it is filled. So declarations of
different kinds may be interleaved in any way: only the order within each kind counts.
-/

namespace ModalLexer

namespace Declaration

/-- What a declaration is about. -/
inductive Kind where
  | tokens
  | states
  | rule
  | ignore
  | error
  deriving DecidableEq

/-- The kind of a declaration. -/
def kind : Declaration → Kind
  | tokens _ => .tokens
  | states _ => .states
  | rule _ _ _ => .rule
  | ignore _ _ => .ignore
  | error _ _ => .error

end Declaration

/-- The declarations of one kind, in order. -/
def declarationsOf (kind : Declaration.Kind) (ds : List Declaration) : List Declaration :=
  ds.filter (·.kind = kind)

/-- Two lists of declarations have the same declarations of each kind, in the same order. -/
def SameByKind (ds es : List Declaration) : Prop :=
  ∀ kind, declarationsOf kind ds = declarationsOf kind es

section Kinds

variable (kind : Declaration.Kind) {ds es : List Declaration}

private theorem foldl_declarationsOf {β : Type} {f : β → Declaration → β}
    (hf : ∀ b d, d.kind ≠ kind → f b d = b) (b : β) (ds : List Declaration) :
    (declarationsOf kind ds).foldl f b = ds.foldl f b := by
  rw [declarationsOf, List.foldl_filter]
  congr 1
  funext b d
  by_cases hd : d.kind = kind
  · simp [hd]
  · simp [hd, hf b d hd]

/-- What only declarations of one kind give is given by these alone. -/
theorem filterMap_declarationsOf {β : Type} {f : Declaration → Option β}
    (hf : ∀ d, d.kind ≠ kind → f d = none) (ds : List Declaration) :
    (declarationsOf kind ds).filterMap f = ds.filterMap f := by
  rw [declarationsOf, List.filterMap_filter]
  congr 1
  funext d
  by_cases hd : d.kind = kind
  · simp [hd]
  · simp [hd, hf d hd]

private theorem flatMap_declarationsOf {β : Type} {f : Declaration → List β}
    (hf : ∀ d, d.kind ≠ kind → f d = []) (ds : List Declaration) :
    (declarationsOf kind ds).flatMap f = ds.flatMap f := by
  induction ds with
  | nil => rfl
  | cons d ds ih =>
    rw [declarationsOf] at ih ⊢
    rw [List.flatMap_cons]
    by_cases hd : d.kind = kind
    · rw [List.filter_cons_of_pos (by simp [hd]), List.flatMap_cons, ih]
    · rw [List.filter_cons_of_neg (by simp [hd]), ih, hf d hd, List.nil_append]

private theorem filterMap_congr_kind {β : Type} {f : Declaration → Option β}
    (h : declarationsOf kind ds = declarationsOf kind es) (hf : ∀ d, d.kind ≠ kind → f d = none) :
    ds.filterMap f = es.filterMap f := by
  rw [← filterMap_declarationsOf kind hf, h, filterMap_declarationsOf kind hf]

end Kinds

section Same

variable {ds es : List Declaration}

/-- The token names depend on the declarations of tokens only. -/
theorem declaredTokens_congr (h : declarationsOf .tokens ds = declarationsOf .tokens es) :
    declaredTokens ds = declaredTokens es := by
  unfold declaredTokens
  rw [← foldl_declarationsOf .tokens, h, foldl_declarationsOf]
  all_goals
    intro names d hd
    cases d with
    | tokens => exact absurd rfl hd
    | _ => rfl

/-- The states depend on the declarations of states only. -/
theorem declaredStates_congr (h : declarationsOf .states ds = declarationsOf .states es) :
    declaredStates ds = declaredStates es := by
  unfold declaredStates
  rw [← flatMap_declarationsOf .states, h, flatMap_declarationsOf]
  all_goals
    intro d hd
    cases d with
    | states => exact absurd rfl hd
    | _ => rfl

/-- What is ignored depends on the declarations of it only. -/
theorem ignoreAssignments_congr (h : declarationsOf .ignore ds = declarationsOf .ignore es) :
    ignoreAssignments ds = ignoreAssignments es := by
  apply filterMap_congr_kind .ignore h
  intro d hd
  cases d with
  | ignore => exact absurd rfl hd
  | _ => rfl

/-- What is done about errors depends on the declarations of it only. -/
theorem errorAssignments_congr (h : declarationsOf .error ds = declarationsOf .error es) :
    errorAssignments ds = errorAssignments es := by
  apply filterMap_congr_kind .error h
  intro d hd
  cases d with
  | error => exact absurd rfl hd
  | _ => rfl

/-- All that a draft starts from is said about tokens and states. -/
theorem SameByKind.start_eq (h : SameByKind ds es) : Draft.start ds = Draft.start es := by
  unfold Draft.start
  rw [declaredTokens_congr (h .tokens), declaredStates_congr (h .states)]

end Same

/-! ### Rules without settings -/

namespace Draft

variable {d d' : Draft}

/-- A draft of which the settings are forgotten. -/
def withoutSettings (d : Draft) : Draft := { d with ignores := .empty, errors := .empty }

@[simp] private theorem tokens_withoutSettings (d : Draft) :
    d.withoutSettings.tokens = d.tokens := rfl

@[simp] private theorem keys_withoutSettings (d : Draft) : d.withoutSettings.keys = d.keys := rfl

@[simp] private theorem hasState_withoutSettings (d : Draft) :
    d.withoutSettings.hasState = d.hasState := rfl

private theorem register_withoutSettings (raw : String) (l : Lexeme) (d : Draft)
    (targets : List String) :
    register raw l d.withoutSettings targets =
      (register raw l d targets).map withoutSettings := by
  induction targets generalizing d with
  | nil => rfl
  | cons state targets ih =>
    rw [register, register, keys_withoutSettings]
    split
    · rfl
    · exact ih { d with
        keys := d.keys ++ [(state, l.name)]
        tables := d.tables.modify state (.new state) (·.register l) }

/-- A rule is added in the same way whatever the settings are. -/
theorem addRule_withoutSettings (d : Draft) (raw : String) (pattern : Pattern)
    (action : Option Action) :
    d.withoutSettings.addRule raw pattern action =
      (d.addRule raw pattern action).map withoutSettings := by
  unfold addRule
  dsimp only
  rw [hasState_withoutSettings, tokens_withoutSettings]
  generalize RuleName.resolve d.hasState raw = name
  by_cases hempty : name.token.toList.isEmpty = true
  · rw [if_pos hempty, if_pos hempty]
    rfl
  by_cases hundeclared : (isUppercaseName name.token && !d.tokens.contains name.token) = true
  · rw [if_neg hempty, if_neg hempty, if_pos hundeclared, if_pos hundeclared]
    rfl
  rw [if_neg hempty, if_neg hempty, if_neg hundeclared, if_neg hundeclared]
  cases pattern.compile with
  | error reason => rfl
  | ok matcher =>
    dsimp only
    rw [register_withoutSettings]
    cases register raw ⟨name.token, matcher, action⟩ d name.targets with
    | error e => rfl
    | ok d' => rfl

/-- Any declaration but a rule is applied without fail and leaves what rules are about. -/
theorem apply_of_not_rule {decl : Declaration} (h : decl.kind ≠ .rule) (d : Draft) :
    ∃ d', d.apply decl = .ok d' ∧ d'.withoutSettings = d.withoutSettings := by
  cases decl with
  | rule => exact absurd rfl h
  | tokens | states => exact ⟨d, rfl, rfl⟩
  | ignore states chars => exact ⟨_, rfl, rfl⟩
  | error states handler => exact ⟨_, rfl, rfl⟩

/-- As far as rules are concerned, no other declaration needs to be applied. -/
theorem applyAll_withoutSettings (d : Draft) (ds : List Declaration) :
    (d.withoutSettings.applyAll (declarationsOf .rule ds)).2 =
      (d.applyAll ds).2.map withoutSettings := by
  induction ds generalizing d with
  | nil => rfl
  | cons decl ds ih =>
    rw [declarationsOf] at ih ⊢
    by_cases hdecl : decl.kind = .rule
    · rw [List.filter_cons_of_pos (by simp [hdecl])]
      cases decl with
      | rule raw pattern action =>
        rw [applyAll, applyAll, apply, apply, addRule_withoutSettings]
        cases d.addRule raw pattern action with
        | error e => rfl
        | ok d' => exact ih d'
      | _ => cases hdecl
    · rw [List.filter_cons_of_neg (by simp [hdecl])]
      obtain ⟨d', happly, hrest⟩ := apply_of_not_rule hdecl d
      rw [applyAll, happly, ← hrest]
      exact ih d'

end Draft

/-! ### Rules that say the same -/

namespace RuleSet

/-- Two rule sets say the same: all that can be asked of them has the same answer. -/
structure Agrees (r r' : RuleSet) : Prop where
  tokens : r.tokens = r'.tokens
  states : r.states = r'.states
  tables : r.tables = r'.tables
  ignores : ∀ state, r.ignores.get? state = r'.ignores.get? state
  errors : ∀ state, r.errors.get? state = r'.errors.get? state
  ruleCount : r.ruleCount = r'.ruleCount

variable {ds es : List Declaration} {r r' : RuleSet}

/-- Settings are the same for the same states if the same is declared about them. -/
theorem settings_congr (hignore : declarationsOf .ignore ds = declarationsOf .ignore es)
    (herror : declarationsOf .error ds = declarationsOf .error es) (hr : ofDeclarations ds = .ok r)
    (hr' : ofDeclarations es = .ok r') (hstates : r.states = r'.states) (state : String) :
    r.ignores.get? state = r'.ignores.get? state ∧
      r.errors.get? state = r'.errors.get? state := by
  obtain ⟨hignores, herrors⟩ := settings_of_ofDeclarations hr
  obtain ⟨hignores', herrors'⟩ := settings_of_ofDeclarations hr'
  constructor
  · have hleft := hignores state
    have hright := hignores' state
    rw [ignoreAssignments_congr hignore, hstates] at hleft
    exact hleft.trans hright.symm
  · rw [herrors, herrors', errorAssignments_congr herror, hstates]

/-- The lexemes and all else that rules are about are finished without the settings. -/
theorem finish_withoutSettings (d : Draft) :
    d.withoutSettings.finish.tokens = d.finish.tokens ∧
      d.withoutSettings.finish.states = d.finish.states ∧
      d.withoutSettings.finish.tables = d.finish.tables ∧
      d.withoutSettings.finish.ruleCount = d.finish.ruleCount :=
  ⟨rfl, rfl, rfl, rfl⟩

/-- Declarations of different kinds may be interleaved in any way. What compiles in one order
compiles in the other, to rules that say the same, and what does not compile gives the same
error. -/
theorem ofDeclarations_of_sameByKind (h : SameByKind ds es) :
    (∃ e, ofDeclarations ds = .error e ∧ ofDeclarations es = .error e) ∨
      ∃ r r', ofDeclarations ds = .ok r ∧ ofDeclarations es = .ok r' ∧ r.Agrees r' := by
  cases hstart : Draft.start ds with
  | error e =>
    refine .inl ⟨e, ?_, ?_⟩
    · rw [ofDeclarations, build, hstart]
    · rw [ofDeclarations, build, ← h.start_eq, hstart]
  | ok d =>
    have hds : ofDeclarations ds = (d.applyAll ds).2.map Draft.finish := by
      rw [ofDeclarations, build, hstart]
    have hes : ofDeclarations es = (d.applyAll es).2.map Draft.finish := by
      rw [ofDeclarations, build, ← h.start_eq, hstart]
    have hrules : (d.applyAll ds).2.map Draft.withoutSettings =
        (d.applyAll es).2.map Draft.withoutSettings := by
      rw [← Draft.applyAll_withoutSettings, h .rule, Draft.applyAll_withoutSettings]
    cases hdraft : (d.applyAll ds).2 with
    | error e =>
      cases hdraft' : (d.applyAll es).2 with
      | error e' =>
        rw [hdraft, hdraft'] at hrules
        cases hrules
        exact .inl ⟨e, by rw [hds, hdraft]; rfl, by rw [hes, hdraft']; rfl⟩
      | ok d₂ =>
        rw [hdraft, hdraft'] at hrules
        cases hrules
    | ok d₁ =>
      cases hdraft' : (d.applyAll es).2 with
      | error e' =>
        rw [hdraft, hdraft'] at hrules
        cases hrules
      | ok d₂ =>
        rw [hdraft] at hds
        rw [hdraft'] at hes
        rw [hdraft, hdraft'] at hrules
        have hsame : d₁.withoutSettings = d₂.withoutSettings := Except.ok.inj hrules
        obtain ⟨htokens, hstates, htables, hcount⟩ := finish_withoutSettings d₁
        obtain ⟨htokens', hstates', htables', hcount'⟩ := finish_withoutSettings d₂
        have hstates₂ : d₁.finish.states = d₂.finish.states := by
          rw [← hstates, hsame, hstates']
        have hsettings := settings_congr (h .ignore) (h .error) hds hes hstates₂
        refine .inr ⟨_, _, hds, hes, ?_⟩
        exact {
          tokens := by rw [← htokens, hsame, htokens']
          states := hstates₂
          tables := by rw [← htables, hsame, htables']
          ignores := fun state ↦ (hsettings state).1
          errors := fun state ↦ (hsettings state).2
          ruleCount := by rw [← hcount, hsame, hcount'] }

/-- Rules and settings for an inclusive and an exclusive state, tokens and states first. -/
def sortedDeclarations : List Declaration :=
  [.tokens ["WORD", "DASH"], .states [("quiet", .inclusive), ("raw", .exclusive)],
   .rule "WORD" (.charClass .alpha) none, .rule "quiet_raw_DASH" (.literal "-") none,
   .ignore none (.chars " "), .ignore (some "raw") (.chars "\t"),
   .error none (some .drop), .error (some "raw") none]

/-- The same declarations, those of each kind in the same order. -/
def mixedDeclarations : List Declaration :=
  [.error none (some .drop), .rule "WORD" (.charClass .alpha) none, .ignore none (.chars " "),
   .error (some "raw") none, .rule "quiet_raw_DASH" (.literal "-") none,
   .states [("quiet", .inclusive), ("raw", .exclusive)], .ignore (some "raw") (.chars "\t"),
   .tokens ["WORD", "DASH"]]

/-- The same declarations in two orders. -/
theorem sortedDeclarations_agree_mixedDeclarations :
    SameByKind sortedDeclarations mixedDeclarations ∧
      ∃ r r', ofDeclarations sortedDeclarations = .ok r ∧
        ofDeclarations mixedDeclarations = .ok r' ∧ r.Agrees r' := by
  have hsame : SameByKind sortedDeclarations mixedDeclarations := by
    intro kind
    cases kind <;> rfl
  refine ⟨hsame, ?_⟩
  rcases ofDeclarations_of_sameByKind hsame with ⟨e, herror, _⟩ | hagree
  · have hok : (ofDeclarations sortedDeclarations).toOption.isSome = true := by decide +kernel
    rw [herror] at hok
    cases hok
  · exact hagree

end RuleSet

end ModalLexer
