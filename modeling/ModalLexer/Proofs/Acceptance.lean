import Mathlib.Data.List.Nodup
import ModalLexer.Proofs.Undeclared

/-!
# Which declarations compile

The token names are looked at first, then the rules, in order. What is wrong with one may depend on
those before it, and the first with which something is wrong gives the error (`FirstFault`). For
rules, all that needs to be remembered of those before is their names (`Draft.Remembers`). So
declarations compile just if they are acceptable, and otherwise the error says what is wrong first
(`RuleSet.ofDeclarations_verdict`).
-/

namespace ModalLexer

/-! ### The first fault -/

section FirstFault

variable {α ε : Type} {Fault : List α → α → ε → Prop} {earlier xs : List α} {x : α} {e : ε}

/-- What is wrong with the first item with which something is wrong. What is wrong with an item may
depend on those before it, of which some come before the list. -/
inductive FirstFault (Fault : List α → α → ε → Prop) : List α → List α → ε → Prop where
  | here {earlier xs : List α} {x : α} {e : ε} (h : Fault earlier x e) :
    FirstFault Fault earlier (x :: xs) e
  | later {earlier xs : List α} {x : α} {e : ε} (hx : ∀ e', ¬ Fault earlier x e')
    (h : FirstFault Fault (earlier ++ [x]) xs e) : FirstFault Fault earlier (x :: xs) e

/-- Nothing is wrong where there is nothing. -/
theorem not_firstFault_nil : ¬ FirstFault Fault earlier [] e :=
  nofun

/-- After an item with which just one thing is wrong no other is looked at. -/
theorem firstFault_cons_of_fault {e₀ : ε} (h : ∀ e', Fault earlier x e' ↔ e' = e₀) :
    FirstFault Fault earlier (x :: xs) e ↔ e = e₀ := by
  constructor
  · intro hfirst
    cases hfirst with
    | here hx => exact (h e).1 hx
    | later hx => exact absurd ((h e₀).2 rfl) (hx e₀)
  · intro heq
    exact .here ((h e).2 heq)

/-- An item with which nothing is wrong is passed over. -/
theorem firstFault_cons_of_sound (h : ∀ e', ¬ Fault earlier x e') :
    FirstFault Fault earlier (x :: xs) e ↔ FirstFault Fault (earlier ++ [x]) xs e := by
  constructor
  · intro hfirst
    cases hfirst with
    | here hx => exact absurd hx (h e)
    | later _ hxs => exact hxs
  · exact .later h

/-- There is no first fault if nothing is wrong with any item. -/
theorem faultless_cons_iff : (∀ e, ¬ FirstFault Fault earlier (x :: xs) e) ↔
    (∀ e, ¬ Fault earlier x e) ∧ ∀ e, ¬ FirstFault Fault (earlier ++ [x]) xs e := by
  constructor
  · intro h
    have hx : ∀ e, ¬ Fault earlier x e := fun e hfault ↦ h e (.here hfault)
    exact ⟨hx, fun e hxs ↦ h e (.later hx hxs)⟩
  · rintro ⟨hx, hxs⟩ e hfirst
    exact hxs e ((firstFault_cons_of_sound hx).1 hfirst)

end FirstFault

/-! ### The names of tokens -/

/-- A character that names of tokens are made of: an ASCII letter or digit. -/
def IsTokenChar (c : Char) : Prop :=
  ('A' ≤ c ∧ c ≤ 'Z') ∨ ('a' ≤ c ∧ c ≤ 'z') ∨ ('0' ≤ c ∧ c ≤ '9')

/-- A name that tokens may be declared with. -/
def IsTokenName (name : String) : Prop :=
  name ≠ "" ∧ ∀ c ∈ name.toList, IsTokenChar c

/-- What may be wrong with the name of a token, after some others: it is not made as it should be,
or else it was there before. -/
inductive TokenFault (earlier : List String) (name : String) : DefinitionError → Prop where
  | bad (h : ¬ IsTokenName name) : TokenFault earlier name (.badTokenName name)
  | duplicate (hname : IsTokenName name) (h : name ∈ earlier) :
    TokenFault earlier name (.duplicateToken name)

private theorem isAlphanum_iff {c : Char} : c.isAlphanum = true ↔ IsTokenChar c := by
  have hranges : c.isAlphanum =
      (decide ('A' ≤ c ∧ c ≤ 'Z') || decide ('a' ≤ c) && decide (c ≤ 'z') ||
        decide ('0' ≤ c) && decide (c ≤ '9')) := rfl
  simp only [hranges, Bool.or_eq_true, Bool.and_eq_true, decide_eq_true_eq, IsTokenChar, or_assoc]

private theorem isTokenName_iff {name : String} : isTokenName name = true ↔ IsTokenName name := by
  rw [isTokenName, IsTokenName, Bool.and_eq_true, List.all_eq_true, Bool.not_eq_true',
    List.isEmpty_eq_false_iff, Ne, String.toList_eq_nil_iff]
  simp only [isAlphanum_iff, Ne]

instance : DecidablePred IsTokenName :=
  fun _ ↦ decidable_of_iff _ isTokenName_iff

section Tokens

variable {earlier names : List String} {name : String} {e : DefinitionError}

private theorem TokenFault.iff_of_bad (h : ¬ IsTokenName name) :
    TokenFault earlier name e ↔ e = .badTokenName name := by
  constructor
  · intro hfault
    cases hfault with
    | bad => rfl
    | duplicate hname => exact absurd hname h
  · rintro rfl
    exact .bad h

private theorem TokenFault.iff_of_duplicate (hname : IsTokenName name) (h : name ∈ earlier) :
    TokenFault earlier name e ↔ e = .duplicateToken name := by
  constructor
  · intro hfault
    cases hfault with
    | bad hbad => exact absurd hname hbad
    | duplicate => rfl
  · rintro rfl
    exact .duplicate hname h

/-- Nothing is wrong with a token's name that is well made and new. -/
theorem tokenFault_sound_iff :
    (∀ e, ¬ TokenFault earlier name e) ↔ IsTokenName name ∧ name ∉ earlier := by
  constructor
  · intro h
    have hname : IsTokenName name := Classical.not_not.1 fun hbad ↦ h _ (.bad hbad)
    exact ⟨hname, fun hmem ↦ h _ (.duplicate hname hmem)⟩
  · rintro ⟨hname, hnew⟩ e hfault
    cases hfault with
    | bad hbad => exact hbad hname
    | duplicate _ hmem => exact hnew hmem

/-- The error for a list of token names says what is wrong with the first at fault. -/
theorem tokensError?_eq_some_iff :
    tokensError? earlier names = some e ↔ FirstFault TokenFault earlier names e := by
  induction names generalizing earlier with
  | nil => simp [tokensError?, not_firstFault_nil]
  | cons name names ih =>
    rw [tokensError?]
    by_cases hname : IsTokenName name
    · rw [if_neg (by simp [isTokenName_iff.2 hname])]
      by_cases hmem : name ∈ earlier
      · rw [if_pos (List.contains_iff_mem.2 hmem),
          firstFault_cons_of_fault fun _ ↦ TokenFault.iff_of_duplicate hname hmem,
          Option.some.injEq, eq_comm]
      · rw [if_neg fun hc ↦ hmem (List.contains_iff_mem.1 hc), ih,
          firstFault_cons_of_sound (tokenFault_sound_iff.2 ⟨hname, hmem⟩)]
    · rw [if_pos (by simp [mt isTokenName_iff.1 hname]),
        firstFault_cons_of_fault fun _ ↦ TokenFault.iff_of_bad hname, Option.some.injEq, eq_comm]

/-- Token names without fault are well made, come once each and are new. -/
theorem faultless_tokens_iff : (∀ e, ¬ FirstFault TokenFault earlier names e) ↔
    (∀ name ∈ names, IsTokenName name) ∧ names.Nodup ∧ ∀ name ∈ names, name ∉ earlier := by
  induction names generalizing earlier with
  | nil => simp [not_firstFault_nil]
  | cons name names ih =>
    rw [faultless_cons_iff, tokenFault_sound_iff, ih, List.nodup_cons, List.forall_mem_cons,
      List.forall_mem_cons]
    simp only [List.mem_append, List.mem_singleton, not_or]
    constructor
    · rintro ⟨⟨hname, hnew⟩, hnames, hnodup, hapart⟩
      exact ⟨⟨hname, hnames⟩, ⟨fun hmem ↦ (hapart name hmem).2 rfl, hnodup⟩, hnew,
        fun other hother ↦ (hapart other hother).1⟩
    · rintro ⟨⟨hname, hnames⟩, ⟨honce, hnodup⟩, hnew, hapart⟩
      refine ⟨⟨hname, hnew⟩, hnames, hnodup, fun other hother ↦ ⟨hapart other hother, ?_⟩⟩
      rintro rfl
      exact honce hother

end Tokens

/-! ### Rules -/

/-- Whether a rule may have the token that its name gives: it has a name, and if that is in upper
case throughout, it is declared. -/
def RuleName.Allowed (tokens : List String) (n : RuleName) : Prop :=
  n.token ≠ "" ∧ ((∀ c ∈ n.token.toList, Unicode.isUppercase c = true) → n.token ∈ tokens)

private theorem isUppercaseName_iff {name : String} :
    isUppercaseName name = true ↔ ∀ c ∈ name.toList, Unicode.isUppercase c = true :=
  List.all_eq_true

instance (tokens : List String) : DecidablePred (RuleName.Allowed tokens) :=
  fun n ↦ decidable_of_iff
    (n.token ≠ "" ∧ (isUppercaseName n.token = true → n.token ∈ tokens))
    (by rw [RuleName.Allowed, isUppercaseName_iff])

/-- Whether the rule of a name is there before: in one of its states an earlier rule has the same
token, or one of its states is named twice. -/
def RuleName.Clashes (earlier : List DeclaredRule) (n : RuleName) : Prop :=
  (∃ key ∈ n.keys, ∃ rule ∈ earlier, key ∈ rule.name.keys) ∨ ¬ n.keys.Nodup

instance (earlier : List DeclaredRule) : DecidablePred (RuleName.Clashes earlier) :=
  fun _ ↦ inferInstanceAs (Decidable (_ ∨ _))

/-- What may be wrong with a declaration after some others, given the token names and which names
are states. Only with rules anything may be wrong: first with the name of the token, then with the
pattern, and else the rule may be there before. -/
inductive RuleFault (tokens : List String) (isState : String → Bool) (earlier : List Declaration) :
    Declaration → DefinitionError → Prop where
  | unnamed {raw : String} {pattern : Pattern} {action : Option Action}
    (h : (RuleName.resolve isState raw).token = "") :
    RuleFault tokens isState earlier (.rule raw pattern action) (.badTokenName raw)
  | undeclared {raw : String} {pattern : Pattern} {action : Option Action}
    (hnamed : (RuleName.resolve isState raw).token ≠ "")
    (hupper : ∀ c ∈ (RuleName.resolve isState raw).token.toList, Unicode.isUppercase c = true)
    (h : (RuleName.resolve isState raw).token ∉ tokens) :
    RuleFault tokens isState earlier (.rule raw pattern action)
      (.undeclaredToken raw (RuleName.resolve isState raw).token)
  | invalid {raw : String} {pattern : Pattern} {action : Option Action}
    {reason : Regex.SyntaxError}
    (hallowed : (RuleName.resolve isState raw).Allowed tokens)
    (h : pattern.compile = .error reason) :
    RuleFault tokens isState earlier (.rule raw pattern action) (.invalidPattern raw reason)
  | redefined {raw : String} {pattern : Pattern} {action : Option Action} {matcher : Matcher}
    (hallowed : (RuleName.resolve isState raw).Allowed tokens)
    (hcompile : pattern.compile = .ok matcher)
    (h : (RuleName.resolve isState raw).Clashes (declaredRules isState earlier)) :
    RuleFault tokens isState earlier (.rule raw pattern action) (.ruleRedefined raw)

section Rules

variable {tokens : List String} {isState : String → Bool} {earlier : List Declaration}
  {raw : String} {pattern : Pattern} {action : Option Action}

private theorem RuleName.mem_keys_iff {n : RuleName} {state token : String} :
    (state, token) ∈ n.keys ↔ state ∈ n.targets ∧ token = n.token := by
  simp [RuleName.keys, eq_comm]

/-- The keys of a name are apart if its states are. -/
theorem RuleName.nodup_keys_iff {n : RuleName} : n.keys.Nodup ↔ n.targets.Nodup :=
  List.nodup_map_iff fun _ _ heq ↦ (Prod.mk.inj heq).1

/-- Nothing is wrong with a rule that may have its token, whose pattern compiles, and that is not
there before. -/
theorem ruleFault_sound_iff :
    (∀ e, ¬ RuleFault tokens isState earlier (.rule raw pattern action) e) ↔
      (RuleName.resolve isState raw).Allowed tokens ∧ (∃ matcher, pattern.compile = .ok matcher) ∧
        ¬ (RuleName.resolve isState raw).Clashes (declaredRules isState earlier) := by
  constructor
  · intro h
    have hnamed : (RuleName.resolve isState raw).token ≠ "" := fun hempty ↦ h _ (.unnamed hempty)
    have hallowed : (RuleName.resolve isState raw).Allowed tokens :=
      ⟨hnamed, fun hupper ↦ Classical.not_not.1 fun hnew ↦ h _ (.undeclared hnamed hupper hnew)⟩
    cases hcompile : pattern.compile with
    | error reason => exact absurd (.invalid hallowed hcompile) (h _)
    | ok matcher =>
      exact ⟨hallowed, ⟨matcher, rfl⟩, fun hclash ↦ h _ (.redefined hallowed hcompile hclash)⟩
  · rintro ⟨hallowed, ⟨matcher, hcompile⟩, hnew⟩ e hfault
    cases hfault with
    | unnamed hempty => exact hallowed.1 hempty
    | undeclared _ hupper hundeclared => exact hundeclared (hallowed.2 hupper)
    | invalid _ herror => rw [hcompile] at herror; cases herror
    | redefined _ _ hclash => exact hnew hclash

/-- Only rules are at fault. -/
theorem not_ruleFault {d : Declaration} {e : DefinitionError} (h : d.kind ≠ .rule) :
    ¬ RuleFault tokens isState earlier d e := by
  intro hfault
  cases hfault <;> exact h rfl

/-- Declarations that are not rules add none. -/
theorem declaredRules_cons_of_not_rule {d : Declaration} {ds : List Declaration}
    (h : d.kind ≠ .rule) : declaredRules isState (d :: ds) = declaredRules isState ds := by
  cases d with
  | rule => exact absurd rfl h
  | _ => rfl

private theorem declaredRules_cons_rule (raw : String) (pattern : Pattern) (action : Option Action)
    (ds : List Declaration) : declaredRules isState (.rule raw pattern action :: ds) =
      ⟨.resolve isState raw, pattern, action⟩ :: declaredRules isState ds :=
  rfl

private theorem declaredRules_append (ds es : List Declaration) : declaredRules isState (ds ++ es) =
    declaredRules isState ds ++ declaredRules isState es :=
  List.filterMap_append

/-- With one more rule, the keys of rules are apart if they were before and it does not clash. -/
theorem nodup_keys_concat_iff (rules : List DeclaredRule) (r : DeclaredRule) :
    ((rules ++ [r]).flatMap (·.name.keys)).Nodup ↔
      (rules.flatMap (·.name.keys)).Nodup ∧ ¬ r.name.Clashes rules := by
  have hapart : List.Disjoint (rules.flatMap (·.name.keys)) r.name.keys ↔
      ¬ ∃ key ∈ r.name.keys, ∃ rule ∈ rules, key ∈ rule.name.keys := by
    constructor
    · rintro h ⟨key, hkey, rule, hrule, hmem⟩
      exact h (List.mem_flatMap.2 ⟨rule, hrule, hmem⟩) hkey
    · intro h key hmem hkey
      obtain ⟨rule, hrule, hmem⟩ := List.mem_flatMap.1 hmem
      exact h ⟨key, hkey, rule, hrule, hmem⟩
  rw [List.flatMap_append, List.flatMap_singleton, List.nodup_append', hapart, RuleName.Clashes,
    not_or, Classical.not_not]
  constructor
  · rintro ⟨hrules, hkeys, hnew⟩
    exact ⟨hrules, hnew, hkeys⟩
  · rintro ⟨hrules, hnew, hkeys⟩
    exact ⟨hrules, hkeys, hnew⟩

/-- Rules without fault may have their tokens, their patterns compile, and their keys are apart. -/
theorem faultless_rules_iff {ds : List Declaration} (earlier : List Declaration)
    (hearlier : ((declaredRules isState earlier).flatMap (·.name.keys)).Nodup) :
    (∀ e, ¬ FirstFault (RuleFault tokens isState) earlier ds e) ↔
      (∀ rule ∈ declaredRules isState ds, rule.name.Allowed tokens) ∧
      (∀ rule ∈ declaredRules isState ds, ∃ matcher, rule.pattern.compile = .ok matcher) ∧
      ((declaredRules isState (earlier ++ ds)).flatMap (·.name.keys)).Nodup := by
  induction ds generalizing earlier with
  | nil => simpa [not_firstFault_nil, declaredRules] using hearlier
  | cons d ds ih =>
    have happend : earlier ++ d :: ds = (earlier ++ [d]) ++ ds := by simp
    rw [faultless_cons_iff, happend]
    by_cases hd : d.kind = .rule
    · cases d with
      | rule raw pattern action =>
        have hconcat : declaredRules isState (earlier ++ [.rule raw pattern action]) =
            declaredRules isState earlier ++ [⟨.resolve isState raw, pattern, action⟩] :=
          declaredRules_append _ _
        have hnodup := nodup_keys_concat_iff (declaredRules isState earlier)
          ⟨.resolve isState raw, pattern, action⟩
        rw [← hconcat, and_iff_right hearlier] at hnodup
        rw [declaredRules_cons_rule, List.forall_mem_cons, List.forall_mem_cons,
          ruleFault_sound_iff, ← hnodup]
        constructor
        · rintro ⟨⟨hallowed, hcompiles, hnew⟩, hrest⟩
          obtain ⟨hallowed', hcompiles', hapart⟩ := (ih _ hnew).1 hrest
          exact ⟨⟨hallowed, hallowed'⟩, ⟨hcompiles, hcompiles'⟩, hapart⟩
        · rintro ⟨⟨hallowed, hallowed'⟩, ⟨hcompiles, hcompiles'⟩, hapart⟩
          have hnew := hapart
          rw [declaredRules_append, List.flatMap_append] at hnew
          exact ⟨⟨hallowed, hcompiles, hnew.of_append_left⟩,
            (ih _ hnew.of_append_left).2 ⟨hallowed', hcompiles', hapart⟩⟩
      | _ => cases hd
    · have hsame : declaredRules isState (earlier ++ [d]) = declaredRules isState earlier := by
        rw [declaredRules_append, declaredRules_cons_of_not_rule hd]
        exact List.append_nil _
      rw [ih _ (hsame ▸ hearlier), declaredRules_cons_of_not_rule hd,
        and_iff_right fun e ↦ not_ruleFault hd]

end Rules

/-! ### Drafts -/

private theorem map_eq_error_iff {α β ε : Type} {f : α → β} {x : Except ε α} {e : ε} :
    x.map f = .error e ↔ x = .error e := by
  cases x <;> simp [Except.map]

namespace Draft

variable {d d' : Draft} {tokens targets : List String} {isState : String → Bool}
  {seen : List Declaration} {raw : String} {pattern : Pattern} {action : Option Action}
  {l : Lexeme} {e : DefinitionError}

/-- A lexeme is not registered just if one of its states has a rule of its name, or is named
twice. -/
theorem register_eq_error_iff : register raw l d targets = .error e ↔
    e = .ruleRedefined raw ∧
      ((∃ state ∈ targets, (state, l.name) ∈ d.keys) ∨ ¬ targets.Nodup) := by
  induction targets generalizing d with
  | nil => simp [register]
  | cons state targets ih =>
    rw [register]
    by_cases hmem : (state, l.name) ∈ d.keys
    · rw [if_pos (List.contains_iff_mem.2 hmem), Except.error.injEq, eq_comm]
      refine (and_iff_left (.inl ⟨state, List.mem_cons_self, hmem⟩)).symm
    · rw [if_neg fun hc ↦ hmem (List.contains_iff_mem.1 hc), ih]
      -- The states that come later must not be this one, since it is remembered now.
      simp only [List.mem_append, List.mem_cons, List.not_mem_nil, Prod.mk.injEq, and_true,
        or_false, exists_eq_or_imp, hmem, false_or, List.nodup_cons, not_and_or,
        Classical.not_not, and_or_left, exists_or, exists_eq_right, or_assoc]

private theorem addRule_of_unnamed (h : (RuleName.resolve d.hasState raw).token = "") :
    d.addRule raw pattern action = .error (.badTokenName raw) := by
  rw [addRule, if_pos (by simp [h])]

private theorem addRule_of_undeclared (hnamed : (RuleName.resolve d.hasState raw).token ≠ "")
    (hupper : ∀ c ∈ (RuleName.resolve d.hasState raw).token.toList, Unicode.isUppercase c = true)
    (h : (RuleName.resolve d.hasState raw).token ∉ d.tokens) :
    d.addRule raw pattern action =
      .error (.undeclaredToken raw (RuleName.resolve d.hasState raw).token) := by
  have hname : isUppercaseName (RuleName.resolve d.hasState raw).token = true :=
    isUppercaseName_iff.2 hupper
  rw [addRule, if_neg (by simpa using hnamed), if_pos (by simp [hname, h])]

/-- A rule that may have its token is added if its pattern compiles and its lexeme can be
registered. -/
theorem addRule_of_allowed (h : (RuleName.resolve d.hasState raw).Allowed d.tokens) :
    d.addRule raw pattern action =
      match pattern.compile with
      | .error reason => .error (.invalidPattern raw reason)
      | .ok matcher =>
        (d.register raw ⟨(RuleName.resolve d.hasState raw).token, matcher, action⟩
          (RuleName.resolve d.hasState raw).targets).map inherit := by
  have hdeclared : (isUppercaseName (RuleName.resolve d.hasState raw).token &&
      !d.tokens.contains (RuleName.resolve d.hasState raw).token) ≠ true := by
    intro hboth
    rw [Bool.and_eq_true, Bool.not_eq_true', List.contains_eq_mem, decide_eq_false_iff_not] at hboth
    exact hboth.2 (h.2 (isUppercaseName_iff.1 hboth.1))
  rw [addRule, if_neg (by simpa using h.1), if_neg hdeclared]
  cases pattern.compile with
  | error reason => rfl
  | ok matcher => rfl

/-- What of a draft counts for whether rules are added: the token names, the states, and the rules
seen so far, of which it knows the states and tokens. -/
structure Remembers (d : Draft) (tokens : List String) (isState : String → Bool)
    (seen : List Declaration) : Prop where
  tokens_eq : d.tokens = tokens
  hasState_eq : d.hasState = isState
  keys_eq : d.keys = (declaredRules isState seen).flatMap (·.name.keys)

namespace Remembers

/-- A name clashes with those of the rules seen so far just if it cannot be registered. -/
theorem clashes_iff (h : d.Remembers tokens isState seen) {n : RuleName} :
    n.Clashes (declaredRules isState seen) ↔
      (∃ state ∈ n.targets, (state, n.token) ∈ d.keys) ∨ ¬ n.targets.Nodup := by
  rw [RuleName.Clashes, RuleName.nodup_keys_iff, h.keys_eq]
  refine or_congr_left ?_
  simp only [List.mem_flatMap]
  constructor
  · rintro ⟨key, hkey, hrule⟩
    obtain ⟨state, hstate, rfl⟩ := List.mem_map.1 hkey
    exact ⟨state, hstate, hrule⟩
  · rintro ⟨state, hstate, hrule⟩
    exact ⟨_, RuleName.mem_keys_iff.2 ⟨hstate, rfl⟩, hrule⟩

/-- A rule is not added just if something is wrong with it, and that gives the error. -/
theorem addRule_eq_error_iff (h : d.Remembers tokens isState seen) :
    d.addRule raw pattern action = .error e ↔
      RuleFault tokens isState seen (.rule raw pattern action) e := by
  obtain rfl := h.tokens_eq
  obtain rfl := h.hasState_eq
  constructor
  · intro hadd
    by_cases hempty : (RuleName.resolve d.hasState raw).token = ""
    · rw [addRule_of_unnamed hempty] at hadd
      cases hadd
      exact .unnamed hempty
    by_cases hallowed : (RuleName.resolve d.hasState raw).Allowed d.tokens
    · rw [addRule_of_allowed hallowed] at hadd
      cases hcompile : pattern.compile with
      | error reason =>
        rw [hcompile] at hadd
        cases hadd
        exact .invalid hallowed hcompile
      | ok matcher =>
        simp only [hcompile] at hadd
        obtain ⟨rfl, hclash⟩ := register_eq_error_iff.1 (map_eq_error_iff.1 hadd)
        exact .redefined hallowed hcompile (h.clashes_iff.2 hclash)
    · obtain ⟨hupper, hnew⟩ := Classical.not_imp.1 fun himp ↦ hallowed ⟨hempty, himp⟩
      rw [addRule_of_undeclared hempty hupper hnew] at hadd
      cases hadd
      exact .undeclared hempty hupper hnew
  · intro hfault
    cases hfault with
    | unnamed hempty => exact addRule_of_unnamed hempty
    | undeclared hnamed hupper hnew => exact addRule_of_undeclared hnamed hupper hnew
    | invalid hallowed hcompile => rw [addRule_of_allowed hallowed, hcompile]
    | redefined hallowed hcompile hclash =>
      rw [addRule_of_allowed hallowed, hcompile]
      exact map_eq_error_iff.2 (register_eq_error_iff.2 ⟨rfl, h.clashes_iff.1 hclash⟩)

/-- Whatever is applied, the draft goes on to remember the same tokens and states, and the rules. -/
theorem apply (h : d.Remembers tokens isState seen) {decl : Declaration}
    (happly : d.apply decl = .ok d') : d'.Remembers tokens isState (seen ++ [decl]) := by
  obtain rfl := h.hasState_eq
  have hstate : d'.hasState = d.hasState := by
    funext state
    rw [hasState, hasState, states_apply happly]
  have hkeys (added : List (String × String))
      (hadded : (declaredRules d.hasState [decl]).flatMap (·.name.keys) = added) :
      d.keys ++ added =
        (declaredRules d.hasState (seen ++ [decl])).flatMap (·.name.keys) := by
    rw [declaredRules_append, List.flatMap_append, hadded, ← h.keys_eq]
  cases decl with
  | rule raw pattern action =>
    obtain ⟨l, d₁, hl, hregister, rfl⟩ := addRule_eq_ok happly
    obtain ⟨_, _, rfl⟩ := register_eq_ok hregister
    refine ⟨h.tokens_eq, hstate, hkeys _ ?_⟩
    rw [DeclaredRule.name_of_lexeme? hl, declaredRules_cons_rule]
    exact List.append_nil _
  | tokens | states | ignore | error =>
    cases happly
    exact ⟨h.tokens_eq, hstate, (List.append_nil _).symm.trans (hkeys [] rfl)⟩

/-- Declarations are not all applied just if something is wrong with one of them. -/
theorem applyAll_eq_error_iff (h : d.Remembers tokens isState seen) {ds : List Declaration} :
    (d.applyAll ds).2 = .error e ↔ FirstFault (RuleFault tokens isState) seen ds e := by
  induction ds generalizing d seen with
  | nil => simp [applyAll, not_firstFault_nil]
  | cons decl ds ih =>
    have hdecl (e : DefinitionError) : d.apply decl = .error e ↔
        RuleFault tokens isState seen decl e := by
      by_cases hrule : decl.kind = .rule
      · cases decl with
        | rule raw pattern action => exact h.addRule_eq_error_iff
        | _ => cases hrule
      · obtain ⟨d', happly, _⟩ := apply_of_not_rule hrule d
        simp [happly, not_ruleFault hrule]
    rw [applyAll]
    cases happly : d.apply decl with
    | error e' =>
      have hfault (e : DefinitionError) : RuleFault tokens isState seen decl e ↔ e = e' := by
        rw [← hdecl, happly, Except.error.injEq, eq_comm]
      rw [firstFault_cons_of_fault hfault, Except.error.injEq, eq_comm]
    | ok d' =>
      have hsound (e : DefinitionError) : ¬ RuleFault tokens isState seen decl e := by
        rw [← hdecl, happly]
        intro h
        cases h
      rw [firstFault_cons_of_sound hsound, ← ih (h.apply happly)]

end Remembers

/-- A draft starts just if there are token names and nothing is wrong with them. -/
theorem start_eq_error_iff {ds : List Declaration} : start ds = .error e ↔
    (declaredTokens ds = [] ∧ e = .noTokens) ∨
      FirstFault TokenFault [] (declaredTokens ds) e := by
  rw [start, ← tokensError?_eq_some_iff]
  by_cases hempty : declaredTokens ds = []
  · rw [hempty]
    simp [tokensError?, eq_comm]
  · rw [if_neg (mt List.isEmpty_iff.1 hempty)]
    cases tokensError? [] (declaredTokens ds) with
    | none => simp [hempty]
    | some e' => simp [hempty]

/-- A draft starts if there are token names with which nothing is wrong. -/
theorem startable_iff {ds : List Declaration} : (∀ e, start ds ≠ .error e) ↔
    declaredTokens ds ≠ [] ∧ ∀ e, ¬ FirstFault TokenFault [] (declaredTokens ds) e := by
  simp only [Ne, start_eq_error_iff, not_or, not_and]
  constructor
  · intro h
    exact ⟨fun hempty ↦ (h .noTokens).1 hempty rfl, fun e ↦ (h e).2⟩
  · rintro ⟨hne, hsound⟩ e
    exact ⟨fun hempty ↦ absurd hempty hne, hsound e⟩

/-- The first draft remembers no rules. -/
theorem remembers_start {ds : List Declaration} (h : start ds = .ok d) :
    d.Remembers (declaredTokens ds) (declares ds) [] := by
  rw [start_eq_ok h]
  exact ⟨rfl, rfl, rfl⟩

end Draft

/-! ### The verdict -/

/-- What must hold of declarations so that they compile: there are token names, they are well made
and no two of them are the same; every rule may have its token, its pattern compiles, no two rules
have one token in one state, and no rule has a state twice. -/
structure Acceptable (ds : List Declaration) : Prop where
  tokens_ne_nil : declaredTokens ds ≠ []
  tokens_named : ∀ name ∈ declaredTokens ds, IsTokenName name
  tokens_nodup : (declaredTokens ds).Nodup
  allowed : ∀ rule ∈ declaredRules (declares ds) ds, rule.name.Allowed (declaredTokens ds)
  compiles : ∀ rule ∈ declaredRules (declares ds) ds, ∃ matcher, rule.pattern.compile = .ok matcher
  keys_nodup : ((declaredRules (declares ds) ds).flatMap (·.name.keys)).Nodup

/-- Acceptable declarations are those that are not at fault. -/
theorem acceptable_iff {ds : List Declaration} : Acceptable ds ↔
    declaredTokens ds ≠ [] ∧ (∀ e, ¬ FirstFault TokenFault [] (declaredTokens ds) e) ∧
      ∀ e, ¬ FirstFault (RuleFault (declaredTokens ds) (declares ds)) [] ds e := by
  rw [faultless_tokens_iff, faultless_rules_iff [] .nil,
    List.nil_append]
  constructor
  · intro h
    exact ⟨h.tokens_ne_nil, ⟨h.tokens_named, h.tokens_nodup, by simp⟩, h.allowed, h.compiles,
      h.keys_nodup⟩
  · rintro ⟨hne, ⟨hnamed, hnodup, _⟩, hallowed, hcompiles, hkeys⟩
    exact ⟨hne, hnamed, hnodup, hallowed, hcompiles, hkeys⟩

namespace RuleSet

variable {ds : List Declaration} {r : RuleSet} {e : DefinitionError}

/-- Compiled rules have the declared tokens, and count the states of each rule. -/
theorem remembers_of_ofDeclarations (h : ofDeclarations ds = .ok r) :
    r.tokens = declaredTokens ds ∧
      r.ruleCount = ((declaredRules (declares ds) ds).flatMap (·.name.keys)).length := by
  obtain ⟨d, hremembers, rfl⟩ := ofDeclarations_invariant
    (I := fun d seen ↦ d.Remembers (declaredTokens ds) (declares ds) seen)
    Draft.remembers_start (fun h happly ↦ h.apply happly) h
  exact ⟨hremembers.tokens_eq, congrArg List.length hremembers.keys_eq⟩

/-- Declarations fail where no draft starts, or else by the first fault of a rule. -/
theorem ofDeclarations_eq_error_iff : ofDeclarations ds = .error e ↔
    Draft.start ds = .error e ∨ ((∀ e', Draft.start ds ≠ .error e') ∧
      FirstFault (RuleFault (declaredTokens ds) (declares ds)) [] ds e) := by
  rw [ofDeclarations, build]
  cases hstart : Draft.start ds with
  | error e' => simp
  | ok d =>
    rw [← (Draft.remembers_start hstart).applyAll_eq_error_iff]
    simp [map_eq_error_iff]

/-- Declarations compile just if they are acceptable. -/
theorem exists_ofDeclarations_iff : (∃ r, ofDeclarations ds = .ok r) ↔ Acceptable ds := by
  have hsuccess : (∃ r, ofDeclarations ds = .ok r) ↔ ∀ e, ofDeclarations ds ≠ .error e := by
    cases ofDeclarations ds <;> simp
  rw [hsuccess, acceptable_iff, ← and_assoc, ← Draft.startable_iff]
  simp only [Ne, ofDeclarations_eq_error_iff, not_or, not_and]
  constructor
  · intro h
    exact ⟨fun e ↦ (h e).1, fun e ↦ (h e).2 fun e ↦ (h e).1⟩
  · rintro ⟨hstart, hrules⟩ e
    exact ⟨hstart e, fun _ ↦ hrules e⟩

/-- Declarations compile just if they are acceptable. Otherwise the error says what is wrong first:
there are no token names; or something is wrong with one of them; or, if nothing is, something is
wrong with a rule. What compiles counts the states of all rules together. -/
theorem ofDeclarations_verdict (ds : List Declaration) :
    ((∃ r, ofDeclarations ds = .ok r) ↔ Acceptable ds) ∧
    (∀ e, ofDeclarations ds = .error e ↔
      (declaredTokens ds = [] ∧ e = .noTokens) ∨
      FirstFault TokenFault [] (declaredTokens ds) e ∨
      (declaredTokens ds ≠ [] ∧ (∀ e', ¬ FirstFault TokenFault [] (declaredTokens ds) e') ∧
        FirstFault (RuleFault (declaredTokens ds) (declares ds)) [] ds e)) ∧
    ∀ r, ofDeclarations ds = .ok r →
      r.ruleCount = ((declaredRules (declares ds) ds).flatMap (·.name.keys)).length := by
  refine ⟨exists_ofDeclarations_iff, fun e ↦ ?_, fun r hr ↦ (remembers_of_ofDeclarations hr).2⟩
  rw [ofDeclarations_eq_error_iff, Draft.startable_iff, Draft.start_eq_error_iff, or_assoc,
    and_assoc]

/-- A rule for two states; one for a token that is not declared, with a pattern that does not
compile; and one that is there before. -/
def faultyDeclarations : List Declaration :=
  [.rule "tag_attr_WORD" (.charClass .alpha) none, .tokens ["WORD"],
   .states [("tag", .exclusive), ("attr", .exclusive)], .rule "TEXT" (.regex "(") none,
   .rule "attr_WORD" (.literal "x") none]

/-- The first rule at fault gives the error, and what stands before it compiles. -/
theorem ofDeclarations_verdict_faultyDeclarations :
    ofDeclarations faultyDeclarations = .error (.undeclaredToken "TEXT" "TEXT") ∧
      ∃ r, ofDeclarations (faultyDeclarations.take 3) = .ok r ∧ r.ruleCount = 2 := by
  obtain ⟨_, herror, _⟩ := ofDeclarations_verdict faultyDeclarations
  obtain ⟨haccept, _, hcount⟩ := ofDeclarations_verdict (faultyDeclarations.take 3)
  constructor
  · have htokens : ∀ e, ¬ FirstFault TokenFault [] (declaredTokens faultyDeclarations) e :=
      faultless_tokens_iff.2 (by decide)
    refine (herror _).2 (.inr (.inr ⟨by decide, htokens, ?_⟩))
    refine .later ?_ (.later (fun _ ↦ not_ruleFault (by decide))
      (.later (fun _ ↦ not_ruleFault (by decide)) (.here ?_)))
    · exact ruleFault_sound_iff.2 ⟨by decide +kernel, ⟨_, rfl⟩, by decide +kernel⟩
    · exact .undeclared (by decide +kernel) (isUppercaseName_iff.1 (by decide +kernel))
        (by decide +kernel)
  · have hcompiles : ∀ rule ∈ declaredRules (declares (faultyDeclarations.take 3))
        (faultyDeclarations.take 3), ∃ matcher, rule.pattern.compile = .ok matcher := by
      intro rule hrule
      obtain rfl := List.mem_singleton.1 hrule
      exact ⟨_, rfl⟩
    obtain ⟨r, hr⟩ := haccept.2 ⟨by decide, by decide, by decide, by decide +kernel, hcompiles,
      by decide +kernel⟩
    exact ⟨r, hr, (hcount r hr).trans (by decide +kernel)⟩

end RuleSet

end ModalLexer
