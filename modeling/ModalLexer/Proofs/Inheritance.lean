import ModalLexer.Proofs.DeclaredRules

/-!
# What states inherit

A rule is registered in the states that it belongs to and added to those that inherit it: that is
all that declaring a rule does (`Draft.Adds`). So the lexemes of a state follow from the list of the
declared rules (`Draft.Follows`). Its names are those of the rules that reach it, the first of a
name giving its place; and a lexeme is the state's own, wherever its rule was declared, before it is
an inherited one.
-/

namespace ModalLexer

/-! ### What a declared rule does -/

/-- The states that a name gives a rule to are declared, or the initial one. -/
theorem RuleName.isState_of_mem_targets {isState : String → Bool} {raw state : String}
    (h : state ∈ (resolve isState raw).targets) :
    isState state = true ∨ state = initialState := by
  unfold resolve at h
  simp only at h
  split at h
  · exact .inr (List.mem_singleton.mp h)
  · exact .inl (List.all_eq_true.1 List.all_takeWhile state h)

namespace Draft

variable {d d' : Draft} {l : Lexeme} {rules : List DeclaredRule} {targets : List String}

/-- A state of a draft with its lexemes; a state that has none yet is empty. -/
def state (d : Draft) (name : String) : State :=
  (d.tables.get? name).getD (.new name)

/-- A lexeme is registered in each of some states, none of which has a rule of its name and none of
which is named twice. -/
theorem register_eq_ok {raw : String} (h : register raw l d targets = .ok d') :
    targets.Nodup ∧ (∀ name ∈ targets, (name, l.name) ∉ d.keys) ∧
      d' = { d with
        keys := d.keys ++ targets.map fun name ↦ (name, l.name)
        tables := targets.foldl (fun t name ↦ t.modify name (.new name) (·.register l)) d.tables }
    := by
  induction targets generalizing d with
  | nil =>
    cases h
    simp
  | cons name targets ih =>
    rw [register] at h
    split at h
    · cases h
    · next hnew =>
      obtain ⟨hnodup, hfresh, rfl⟩ := ih h
      have hnew : (name, l.name) ∉ d.keys := fun hmem ↦ hnew (List.contains_iff_mem.2 hmem)
      refine ⟨List.nodup_cons.2 ⟨?_, hnodup⟩, List.forall_mem_cons.2 ⟨hnew, ?_⟩, ?_⟩
      · intro hmem
        exact hfresh name hmem (List.mem_append_right _ (List.mem_singleton.2 rfl))
      · intro name' hname' hmem
        exact hfresh name' hname' (List.mem_append_left _ hmem)
      · rw [List.map_cons, List.foldl_cons, List.append_assoc]
        rfl

/-- A rule that is added has a pattern that compiles; its lexeme is registered and then
inherited. -/
theorem addRule_eq_ok {raw : String} {pattern : Pattern} {action : Option Action}
    (h : d.addRule raw pattern action = .ok d') :
    ∃ l d₁, DeclaredRule.lexeme? ⟨.resolve d.hasState raw, pattern, action⟩ = some l ∧
      register raw l d (RuleName.resolve d.hasState raw).targets = .ok d₁ ∧ d' = d₁.inherit := by
  unfold addRule at h
  simp only at h
  split at h
  · cases h
  · split at h
    · cases h
    · cases hcompile : pattern.compile with
      | error reason => simp [hcompile] at h
      | ok matcher =>
        simp only [hcompile] at h
        cases hregister : d.register raw
            ⟨(RuleName.resolve d.hasState raw).token, matcher, action⟩
            (RuleName.resolve d.hasState raw).targets with
        | error e => rw [hregister] at h; cases h
        | ok d₁ =>
          rw [hregister] at h
          cases h
          exact ⟨_, d₁, by rw [DeclaredRule.lexeme?, hcompile]; rfl, hregister, rfl⟩

/-- What a registration does to each state. -/
theorem state_register {raw : String} (h : register raw l d targets = .ok d') (name : String) :
    d'.state name = if name ∈ targets then (d.state name).register l else d.state name := by
  obtain ⟨hnodup, _, rfl⟩ := register_eq_ok h
  rw [state, Table.get?_foldl_modify hnodup]
  split <;> rfl

/-- What inheritance does to each state. -/
theorem state_inherit (hd : (d.states.map (·.1)).Nodup) (name : String) :
    d.inherit.state name =
      if Inherits d.states name then (d.state name).update (d.state initialState).lexemes
      else d.state name := by
  have hinitial : (d.tables.get? initialState).elim [] (·.lexemes) =
      (d.state initialState).lexemes := by
    rw [state]
    cases d.tables.get? initialState <;> rfl
  rw [state, inherit]
  simp only [hinitial]
  rw [Table.get?_foldl_modify (nodup_inclusiveStates hd)]
  simp only [mem_inclusiveStates_iff hd]
  split <;> rfl

/-- Only declared states come to have lexemes by inheritance. -/
theorem isSome_get?_inherit (hd : (d.states.map (·.1)).Nodup) {name : String}
    (h : (d.inherit.tables.get? name).isSome) :
    d.hasState name = true ∨ (d.tables.get? name).isSome := by
  rw [inherit] at h
  simp only at h
  rw [Table.get?_foldl_modify (nodup_inclusiveStates hd)] at h
  split at h
  · next hmem =>
    rw [mem_inclusiveStates_iff hd] at hmem
    rw [hasState, hmem.1]
    exact .inl rfl
  · exact .inr h

/-- A declared rule is registered in the states that it belongs to, and added to those that inherit
it, if they had all of the initial state's lexemes before. -/
theorem state_addRule {raw : String} (hd : (d.states.map (·.1)).Nodup)
    (hinherited : ∀ name, Inherits d.states name → ∀ k ∈ (d.state initialState).lexemes,
      k.name ∈ (d.state name).names)
    (hnew : initialState ∈ targets → l.name ∉ (d.state initialState).names)
    (h : register raw l d targets = .ok d') (name : String) :
    d'.inherit.state name =
      if name ∈ targets then (d.state name).register l
      else if Inherits d.states name ∧ initialState ∈ targets then (d.state name).add l
      else d.state name := by
  have hstates : d'.states = d.states := by
    obtain ⟨_, _, rfl⟩ := register_eq_ok h
    rfl
  rw [state_inherit (hstates ▸ hd), hstates, state_register h, state_register h]
  by_cases hname : Inherits d.states name
  · have hkept : ∀ k ∈ (d.state initialState).lexemes,
        k.name ∈ ((d.state name).register l).names := by
      intro k hk
      exact State.mem_names_register.2 (.inr (hinherited name hname k hk))
    have hthere : l.name ∈ ((d.state name).register l).names :=
      State.mem_names_register.2 (.inl rfl)
    -- The initial state has the lexeme last, so inheriting adds it and nothing else.
    by_cases hinitial : initialState ∈ targets
    · rw [if_pos hname, if_pos hinitial, State.lexemes_register_of_notMem (hnew hinitial),
        State.update_concat]
      by_cases htarget : name ∈ targets
      · rw [if_pos htarget, if_pos htarget, State.update_of_mem hkept, State.add_of_mem hthere]
      · rw [if_neg htarget, if_neg htarget, if_pos ⟨hname, hinitial⟩,
          State.update_of_mem (hinherited name hname)]
    · rw [if_pos hname, if_neg hinitial]
      by_cases htarget : name ∈ targets
      · rw [if_pos htarget, if_pos htarget, State.update_of_mem hkept]
      · rw [if_neg htarget, if_neg htarget, State.update_of_mem (hinherited name hname),
          if_neg fun hboth ↦ hinitial hboth.2]
  · rw [if_neg hname]
    simp only [hname, false_and, if_false]

/-! ### What a draft follows -/

/-- A draft follows the rules declared so far: it is determined by them. All of them compile and are
remembered in their states, and no state has two of one name. Only declared states have lexemes. The
names of a state are those of the rules that reach it. A state that inherits nothing has its own
lexemes; one that inherits has its own of each name, or else that of the initial state. -/
structure Follows (d : Draft) (rules : List DeclaredRule) : Prop where
  compiled : ∀ r ∈ rules, r.lexeme?.isSome
  keys_eq : d.keys = rules.flatMap (·.name.keys)
  nodup : (rules.flatMap (·.name.keys)).Nodup
  declared : ∀ name, (d.tables.get? name).isSome → d.hasState name = true
  names_eq : ∀ name, (d.state name).names = reachingNames d.states name rules
  own : ∀ name, ¬ Inherits d.states name → (d.state name).lexemes = ownLexemes name rules
  inherited : ∀ name, Inherits d.states name → ∀ token, (d.state name).get? token =
    ((ownLexemes name rules).find? (·.name == token)).or
      ((ownLexemes initialState rules).find? (·.name == token))

/-- What adding a rule does: it is remembered in its states, in none of which it was before; it is
registered there, and added to the states that inherit it. Only declared states come to have
lexemes. -/
structure Adds (d : Draft) (r : DeclaredRule) (l : Lexeme) (d' : Draft) : Prop where
  lexeme : r.lexeme? = some l
  states_eq : d'.states = d.states
  keys_eq : d'.keys = d.keys ++ r.name.keys
  nodup : r.name.targets.Nodup
  fresh : ∀ name ∈ r.name.targets, (name, r.name.token) ∉ d.keys
  state_eq : ∀ name, d'.state name =
    if name ∈ r.name.targets then (d.state name).register l
    else if Inherits d.states name ∧ initialState ∈ r.name.targets then (d.state name).add l
    else d.state name
  declared : ∀ name, (d'.tables.get? name).isSome →
    (d.tables.get? name).isSome ∨ d.hasState name = true

private theorem find?_ownLexemes {name token : String}
    (h : (name, token) ∉ rules.flatMap (·.name.keys)) :
    (ownLexemes name rules).find? (·.name == token) = none := by
  rw [List.find?_eq_none]
  intro l hl hname
  rw [beq_iff_eq] at hname
  obtain ⟨r, hr, hrl⟩ := List.mem_filterMap.1 hl
  rw [List.mem_filter, decide_eq_true_eq] at hr
  apply h
  rw [List.mem_flatMap]
  refine ⟨r, hr.1, List.mem_map.2 ⟨name, hr.2, ?_⟩⟩
  rw [← hname, DeclaredRule.name_of_lexeme? hrl]

namespace Follows

/-- A state that inherits has the names of the initial one. -/
theorem mem_names (h : d.Follows rules) {name : String} (hname : Inherits d.states name) :
    ∀ k ∈ (d.state initialState).lexemes, k.name ∈ (d.state name).names := by
  intro k hk
  have hmem : k.name ∈ (d.state initialState).names := List.mem_map_of_mem hk
  rw [h.names_eq, mem_reachingNames_iff] at hmem ⊢
  obtain ⟨r, hr, hreaches, htoken⟩ := hmem
  refine ⟨r, hr, .inr ⟨hname, ?_⟩, htoken⟩
  rcases hreaches with htarget | ⟨hself, _⟩
  · exact htarget
  · exact absurd hself (not_inherits_initialState _)

/-- A state that inherits nothing has no lexeme of a name that was not declared in it. -/
theorem notMem_names (h : d.Follows rules) {name token : String}
    (hname : ¬ Inherits d.states name) (hnew : (name, token) ∉ d.keys) :
    token ∉ (d.state name).names := by
  rw [h.names_eq, mem_reachingNames_iff]
  rintro ⟨r, hr, hreaches, rfl⟩
  apply hnew
  rw [h.keys_eq, List.mem_flatMap]
  refine ⟨r, hr, List.mem_map.2 ⟨name, ?_, rfl⟩⟩
  rcases hreaches with htarget | ⟨hself, _⟩
  · exact htarget
  · exact absurd hself hname

/-- Inheriting again changes no state. -/
theorem state_inherit (h : d.Follows rules) (hd : (d.states.map (·.1)).Nodup) (name : String) :
    d.inherit.state name = d.state name := by
  rw [Draft.state_inherit hd]
  split
  · next hname => exact State.update_of_mem (h.mem_names hname)
  · rfl

/-- What adding a rule does to a draft that follows the rules before it. -/
theorem adds (h : d.Follows rules) (hd : (d.states.map (·.1)).Nodup)
    (hinitial : d.hasState initialState = true) {raw : String} {pattern : Pattern}
    {action : Option Action} (hadd : d.addRule raw pattern action = .ok d') :
    ∃ l, d.Adds ⟨.resolve d.hasState raw, pattern, action⟩ l d' := by
  obtain ⟨l, d₁, hl, hregister, rfl⟩ := addRule_eq_ok hadd
  obtain ⟨hnodup, hfresh, hd₁⟩ := register_eq_ok hregister
  have htoken := DeclaredRule.name_of_lexeme? hl
  have hstates : d₁.states = d.states := by rw [hd₁]
  refine ⟨l, ⟨hl, hstates, ?_, hnodup, ?_, ?_, ?_⟩⟩
  · change d₁.keys = _
    rw [hd₁, RuleName.keys, ← htoken]
  · intro name hname
    rw [← htoken]
    exact hfresh name hname
  · exact state_addRule hd (fun name ↦ h.mem_names)
      (fun hmem ↦ h.notMem_names (not_inherits_initialState _) (hfresh _ hmem)) hregister
  · intro name hsome
    rcases isSome_get?_inherit (hstates ▸ hd) hsome with hstate | hbefore
    · right
      rw [hasState, ← hstates]
      exact hstate
    · rw [hd₁, Table.get?_foldl_modify hnodup] at hbefore
      split at hbefore
      · next hmem =>
        right
        rcases RuleName.isState_of_mem_targets hmem with hstate | rfl
        · exact hstate
        · exact hinitial
      · exact .inl hbefore

section Adds

variable {r : DeclaredRule}

private theorem nodup_of_adds (h : d.Follows rules) (hadds : d.Adds r l d') :
    ((rules ++ [r]).flatMap (·.name.keys)).Nodup := by
  rw [List.flatMap_append, List.flatMap_singleton, List.nodup_append]
  refine ⟨h.nodup, ?_, ?_⟩
  · exact List.Pairwise.map _ (fun _ _ hne heq ↦ hne (Prod.mk.inj heq).1) hadds.nodup
  · rintro key hkey _ hnew rfl
    obtain ⟨name, hname, rfl⟩ := List.mem_map.1 hnew
    rw [← h.keys_eq] at hkey
    exact hadds.fresh name hname hkey

private theorem names_of_adds (h : d.Follows rules) (hadds : d.Adds r l d') (name : String) :
    (d'.state name).names = reachingNames d.states name (rules ++ [r]) := by
  have htoken := DeclaredRule.name_of_lexeme? hadds.lexeme
  rw [hadds.state_eq, reachingNames_concat, ← h.names_eq, ← htoken]
  by_cases htarget : name ∈ r.name.targets
  · have hreaches : r.Reaches d.states name := .inl htarget
    rw [if_pos htarget, State.names_register]
    by_cases hmem : l.name ∈ (d.state name).names
    · simp [hmem]
    · simp [hmem, hreaches]
  · rw [if_neg htarget]
    by_cases hboth : Inherits d.states name ∧ initialState ∈ r.name.targets
    · have hreaches : r.Reaches d.states name := .inr hboth
      rw [if_pos hboth, State.names_add]
      by_cases hmem : l.name ∈ (d.state name).names
      · simp [hmem]
      · simp [hmem, hreaches]
    · have hreaches : ¬ r.Reaches d.states name := not_or.2 ⟨htarget, hboth⟩
      rw [if_neg hboth]
      simp [hreaches]

private theorem own_of_adds (h : d.Follows rules) (hadds : d.Adds r l d') {name : String}
    (hname : ¬ Inherits d.states name) :
    (d'.state name).lexemes = ownLexemes name (rules ++ [r]) := by
  have htoken := DeclaredRule.name_of_lexeme? hadds.lexeme
  rw [hadds.state_eq, ownLexemes_concat hadds.lexeme, ← h.own name hname]
  by_cases htarget : name ∈ r.name.targets
  · have hnew : l.name ∉ (d.state name).names :=
      h.notMem_names hname (htoken ▸ hadds.fresh name htarget)
    rw [if_pos htarget, if_pos htarget, State.lexemes_register_of_notMem hnew]
  · rw [if_neg htarget, if_neg htarget, if_neg fun hboth ↦ hname hboth.1]

private theorem inherited_of_adds (h : d.Follows rules) (hadds : d.Adds r l d') {name : String}
    (hname : Inherits d.states name) (token : String) :
    (d'.state name).get? token =
      ((ownLexemes name (rules ++ [r])).find? (·.name == token)).or
        ((ownLexemes initialState (rules ++ [r])).find? (·.name == token)) := by
  have htoken := DeclaredRule.name_of_lexeme? hadds.lexeme
  have hlast : [l].find? (·.name == token) = if token = l.name then some l else none := by
    rw [List.find?_singleton]
    by_cases heq : token = l.name
    · simp [heq]
    · simp [heq, Ne.symm heq]
  have hinherited := h.inherited name hname token
  rw [hadds.state_eq, ownLexemes_concat hadds.lexeme, ownLexemes_concat hadds.lexeme]
  by_cases htarget : name ∈ r.name.targets
  · -- The state had no rule of this name, so the one that it may have inherited gives way.
    have hnew := hadds.fresh name htarget
    rw [h.keys_eq, ← htoken] at hnew
    rw [if_pos htarget, if_pos htarget, State.get?_register, List.find?_append, hlast]
    by_cases heq : token = l.name
    · subst heq
      simp [find?_ownLexemes hnew]
    · rw [if_neg heq, if_neg heq, hinherited, Option.or_none]
      split
      · rw [List.find?_append, hlast, if_neg heq, Option.or_none]
      · rfl
  · rw [if_neg htarget, if_neg htarget]
    by_cases hinitial : initialState ∈ r.name.targets
    · rw [if_pos ⟨hname, hinitial⟩, if_pos hinitial, State.get?_add, hinherited,
        List.find?_append, hlast, Option.or_assoc]
    · rw [if_neg fun hboth ↦ hinitial hboth.2, if_neg hinitial, hinherited]

/-- A draft to which a rule is added follows the rules with it. -/
theorem of_adds (h : d.Follows rules) (hadds : d.Adds r l d') : d'.Follows (rules ++ [r]) := by
  constructor
  case compiled =>
    intro r' hr'
    rcases List.mem_append.mp hr' with hr' | hr'
    · exact h.compiled r' hr'
    · rw [List.mem_singleton.mp hr', hadds.lexeme]
      rfl
  case keys_eq =>
    rw [hadds.keys_eq, h.keys_eq, List.flatMap_append, List.flatMap_singleton]
  case nodup => exact nodup_of_adds h hadds
  case declared =>
    intro name hsome
    rw [hasState, hadds.states_eq]
    rcases hadds.declared name hsome with hbefore | hstate
    · exact h.declared name hbefore
    · exact hstate
  case names_eq =>
    rw [hadds.states_eq]
    exact names_of_adds h hadds
  case own =>
    rw [hadds.states_eq]
    exact fun name ↦ own_of_adds h hadds
  case inherited =>
    rw [hadds.states_eq]
    exact fun name ↦ inherited_of_adds h hadds

end Adds

/-- A draft that differs in nothing that rules determine follows the same rules. -/
theorem congr (h : d.Follows rules) (hstates : d'.states = d.states)
    (htables : d'.tables = d.tables) (hkeys : d'.keys = d.keys) : d'.Follows rules := by
  cases d
  cases d'
  cases hstates
  cases htables
  cases hkeys
  exact ⟨h.compiled, h.keys_eq, h.nodup, h.declared, h.names_eq, h.own, h.inherited⟩

/-- A lexeme is the state's own, or it is inherited and the state has none of its name. -/
theorem own_or_inherited (h : d.Follows rules) {name : String} (hl : l ∈ (d.state name).lexemes) :
    l ∈ ownLexemes name rules ∨
      (Inherits d.states name ∧ l ∈ ownLexemes initialState rules ∧
        ∀ k ∈ ownLexemes name rules, k.name ≠ l.name) := by
  by_cases hname : Inherits d.states name
  · have hnodup : (d.state name).names.Nodup := by
      rw [h.names_eq]
      exact nodup_reachingNames _ _ _
    have hget := h.inherited name hname l.name
    rw [State.get?_of_mem hnodup hl, eq_comm, Option.or_eq_some_iff] at hget
    rcases hget with hown | ⟨hnone, hinitial⟩
    · exact .inl (List.mem_of_find?_eq_some hown)
    · refine .inr ⟨hname, List.mem_of_find?_eq_some hinitial, ?_⟩
      intro k hk heq
      exact List.find?_eq_none.1 hnone k hk (beq_iff_eq.2 heq)
  · rw [h.own name hname] at hl
    exact .inl hl

end Follows

/-- The first draft follows no rules. -/
theorem follows_start {ds : List Declaration} (h : start ds = .ok d) :
    d.states = declaredStates ds ∧ d.Follows [] := by
  rw [start_eq_ok h]
  have hstate (name : String) :
      ((Table.empty.insert initialState (.new initialState)).get? name).getD (.new name) =
        State.new name := by
    rw [Table.get?_insert]
    split
    · next heq => rw [heq]; rfl
    · rfl
  refine ⟨rfl, by simp, rfl, by simp, ?_, ?_, ?_, ?_⟩
  · intro name hsome
    rw [Table.get?_insert] at hsome
    split at hsome
    · next heq =>
      rw [heq]
      exact isSome_find?_initialState ds
    · cases hsome
  · intro name
    rw [state, hstate]
    rfl
  · intro name _
    rw [state, hstate]
    rfl
  · intro name _ token
    rw [state, hstate]
    rfl

/-- Every declaration leads to a draft that follows the rules with it. -/
theorem Follows.apply {ds seen : List Declaration} {decl : Declaration}
    (h : d.states = declaredStates ds ∧ d.Follows (declaredRules d.hasState seen))
    (happly : d.apply decl = .ok d') :
    d'.states = declaredStates ds ∧
      d'.Follows (declaredRules d'.hasState (seen ++ [decl])) := by
  obtain ⟨hstates, hfollows⟩ := h
  have hnodup : (d.states.map (·.1)).Nodup := hstates ▸ nodup_declaredStates ds
  have hinitial : d.hasState initialState = true := by
    rw [hasState, hstates]
    exact isSome_find?_initialState ds
  cases decl with
  | rule raw pattern action =>
    obtain ⟨l, hadds⟩ := hfollows.adds hnodup hinitial happly
    have hstate : d'.hasState = d.hasState := by
      unfold hasState
      rw [hadds.states_eq]
    rw [hadds.states_eq, hstate, declaredRules, List.filterMap_append]
    exact ⟨hstates, hfollows.of_adds hadds⟩
  | tokens | states =>
    cases happly
    rw [declaredRules, filterMap_concat_none rfl]
    exact ⟨hstates, hfollows⟩
  | ignore | error =>
    cases happly
    rw [declaredRules, filterMap_concat_none rfl]
    exact ⟨hstates, hfollows.congr rfl rfl rfl⟩

end Draft

/-! ### The lexemes of compiled rules -/

/-- A compiled state has the lexemes that it had in the draft. -/
theorem lexemes_finish {d : Draft} {rules : List DeclaredRule} (h : d.Follows rules)
    (hd : (d.states.map (·.1)).Nodup) (name : String) :
    d.finish.lexemes name = (d.state name).lexemes := by
  rw [← h.state_inherit hd]
  change (d.inherit.tables.get? name).elim [] (·.lexemes) = _
  rw [Draft.state]
  cases d.inherit.tables.get? name <;> rfl

/-- Compiled rules are finished from a draft that follows all declared rules. -/
theorem RuleSet.follows_of_ofDeclarations {ds : List Declaration} {r : RuleSet}
    (h : ofDeclarations ds = .ok r) :
    ∃ d : Draft, d.states = declaredStates ds ∧
      d.Follows (declaredRules d.hasState ds) ∧ r = d.finish := by
  obtain ⟨d, ⟨hstates, hfollows⟩, rfl⟩ := ofDeclarations_invariant (I := fun d seen ↦
    d.states = declaredStates ds ∧ d.Follows (declaredRules d.hasState seen))
    Draft.follows_start Draft.Follows.apply h
  exact ⟨d, hstates, hfollows, rfl⟩

/-- The lexemes of every state are determined by the rules that were declared. All of them compile,
no state has two of one name, and only declared states have lexemes. The names of a state's lexemes
are those of the rules that reach it, each where it came first. A lexeme is that of the state's own
rule of its name, or else that of the initial state's, and a state that inherits nothing, such as an
exclusive one, has those of its own rules in order. -/
theorem RuleSet.lexemes_of_ofDeclarations {ds : List Declaration} {r : RuleSet}
    (h : ofDeclarations ds = .ok r) :
    (∀ rule ∈ declaredRules r.hasState ds, rule.lexeme?.isSome) ∧
    ((declaredRules r.hasState ds).flatMap (·.name.keys)).Nodup ∧
    (∀ name ∈ r.tables.names, r.hasState name = true) ∧
    ∀ name, r.hasState name = true →
      (r.lexemes name).map (·.name) =
        reachingNames r.states name (declaredRules r.hasState ds) ∧
      ((r.lexemes name).map (·.name)).Nodup ∧
      (∀ l ∈ r.lexemes name, l ∈ ownLexemes name (declaredRules r.hasState ds) ∨
        (Inherits r.states name ∧ l ∈ ownLexemes initialState (declaredRules r.hasState ds) ∧
          ∀ k ∈ ownLexemes name (declaredRules r.hasState ds), k.name ≠ l.name)) ∧
      (¬ Inherits r.states name →
        r.lexemes name = ownLexemes name (declaredRules r.hasState ds)) := by
  obtain ⟨d, ⟨hstates, hfollows⟩, rfl⟩ := ofDeclarations_invariant (I := fun d seen ↦
    d.states = declaredStates ds ∧ d.Follows (declaredRules d.hasState seen))
    Draft.follows_start Draft.Follows.apply h
  have hd : (d.states.map (·.1)).Nodup := hstates ▸ nodup_declaredStates ds
  have hnames (name : String) : (d.finish.lexemes name).map (·.name) =
      reachingNames d.states name (declaredRules d.hasState ds) := by
    rw [lexemes_finish hfollows hd, ← hfollows.names_eq]
    rfl
  refine ⟨hfollows.compiled, hfollows.nodup, ?_, fun name _ ↦ ⟨hnames name, ?_, ?_, ?_⟩⟩
  · intro name hname
    rcases Draft.isSome_get?_inherit hd (Table.mem_names_iff.1 hname) with hstate | hbefore
    · exact hstate
    · exact hfollows.declared name hbefore
  · rw [hnames]
    exact nodup_reachingNames _ _ _
  · intro l hl
    rw [lexemes_finish hfollows hd] at hl
    exact hfollows.own_or_inherited hl
  · intro hname
    rw [lexemes_finish hfollows hd]
    exact hfollows.own name hname

/-- Two rules of the initial state, for which other states have rules of their own. -/
def inheritingDeclarations : List Declaration :=
  [.rule "loud_NUMBER" (.literal "ONE") none, .tokens ["WORD", "NUMBER"],
   .rule "WORD" (.literal "word") none, .rule "NUMBER" (.literal "one") none,
   .rule "loud_raw_WORD" (.literal "WORD") none,
   .states [("loud", .inclusive), ("raw", .exclusive)]]

/-- These rules compiled. -/
def inheritingRules : RuleSet :=
  (RuleSet.ofDeclarations inheritingDeclarations).toOption.get (by decide +kernel)

/-- A state with a rule of its own and one that it inherits, and a state that inherits none. -/
theorem lexemes_of_inheritingDeclarations :
    RuleSet.ofDeclarations inheritingDeclarations = .ok inheritingRules ∧
      reachingNames inheritingRules.states "loud"
        (declaredRules inheritingRules.hasState inheritingDeclarations) = ["NUMBER", "WORD"] ∧
      (inheritingRules.lexemes "loud").map (·.name) = ["NUMBER", "WORD"] ∧
      inheritingRules.lexemes "raw" =
        ownLexemes "raw" (declaredRules inheritingRules.hasState inheritingDeclarations) := by
  have hbuild : RuleSet.ofDeclarations inheritingDeclarations = .ok inheritingRules := rfl
  have hreaching : reachingNames inheritingRules.states "loud"
      (declaredRules inheritingRules.hasState inheritingDeclarations) = ["NUMBER", "WORD"] := by
    decide +kernel
  obtain ⟨_, _, _, hlexemes⟩ := RuleSet.lexemes_of_ofDeclarations hbuild
  have hloud := (hlexemes "loud" (by decide +kernel)).1
  have hraw := (hlexemes "raw" (by decide +kernel)).2.2.2
  exact ⟨hbuild, hreaching, hloud.trans hreaching, hraw (by decide +kernel)⟩

end ModalLexer
