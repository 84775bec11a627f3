import Mathlib.Data.List.TakeWhile
import ModalLexer.Proofs.Undeclared

/-!
# States that rules can name

A rule's name gives its rule to states by a prefix if it starts with states and does not consist of
states only (`RuleName.HasPrefix`). Whatever other states are declared, a state can be in a prefix
just if its name has no underscore, since some token is never a state
(`RuleName.exists_targets_iff`). The check of compiled rules warns of all other states, as it
should; but it also warns of a state with the empty name, which can be in a prefix like any other.
-/

namespace ModalLexer

namespace RuleName

/-- Whether a rule's name has a prefix of states: its first segment is a state, and not all of its
segments are. -/
def HasPrefix (isState : String → Bool) (raw : String) : Prop :=
  (∃ first rest, Text.segments raw = first :: rest ∧ isState first = true) ∧
    ∃ s ∈ Text.segments raw, isState s = false

variable {isState : String → Bool} {raw state : String}

/-- A prefix has a state in it, and something follows it. -/
theorem HasPrefix.parts_ne_nil (h : HasPrefix isState raw) :
    (Text.segments raw).takeWhile isState ≠ [] ∧ (Text.segments raw).dropWhile isState ≠ [] := by
  obtain ⟨⟨first, rest, hsegments, hfirst⟩, s, hs, hother⟩ := h
  constructor
  · rw [hsegments, List.takeWhile_cons_of_pos hfirst]
    exact List.cons_ne_nil _ _
  · intro hnil
    rw [List.dropWhile_eq_nil_iff] at hnil
    rw [hnil s hs] at hother
    cases hother

/-- The targets of a rule whose name has a prefix are the states up to the first segment that is
none; the rest of the name is its token. -/
theorem resolve_of_hasPrefix (h : HasPrefix isState raw) :
    resolve isState raw = ⟨(Text.segments raw).takeWhile isState,
      Text.join ((Text.segments raw).dropWhile isState)⟩ := by
  obtain ⟨hstates, hrest⟩ := h.parts_ne_nil
  unfold resolve
  dsimp only
  rw [if_neg]
  rw [Bool.or_eq_true, List.isEmpty_iff, List.isEmpty_iff, not_or]
  exact ⟨hstates, hrest⟩

/-- A state can be in the prefix of a rule's name just if its own name has no underscore, provided
that some token is not a state. -/
theorem exists_targets_iff (hstate : isState state = true)
    (hfresh : ∃ token : String, '_' ∉ token.toList ∧ isState token = false) :
    (∃ raw, HasPrefix isState raw ∧ state ∈ (resolve isState raw).targets) ↔
      '_' ∉ state.toList := by
  constructor
  · rintro ⟨raw, hprefix, hmem⟩
    rw [resolve_of_hasPrefix hprefix] at hmem
    exact Text.notMem_of_mem_segments ((List.takeWhile_prefix _).subset hmem)
  · intro hname
    obtain ⟨token, htoken, hother⟩ := hfresh
    have hsegments : Text.segments (Text.join [state, token]) = [state, token] :=
      Text.segments_join (by simp) (by simp [hname, htoken])
    have hprefix : HasPrefix isState (Text.join [state, token]) := by
      rw [HasPrefix, hsegments]
      exact ⟨⟨state, [token], rfl, hstate⟩, token, by simp, hother⟩
    refine ⟨_, hprefix, ?_⟩
    rw [resolve_of_hasPrefix hprefix, hsegments, List.takeWhile_cons_of_pos hstate]
    exact List.mem_cons_self

end RuleName

/-- Some text without underscores is none of some names: one that is longer than all of them. -/
theorem Text.exists_notMem (names : List String) :
    ∃ text : String, '_' ∉ text.toList ∧ text ∉ names := by
  have hlonger : ∃ n, ∀ name ∈ names, name.toList.length < n := by
    induction names with
    | nil => exact ⟨0, by simp⟩
    | cons name names ih =>
      obtain ⟨n, hn⟩ := ih
      refine ⟨max n (name.toList.length + 1), ?_⟩
      rw [List.forall_mem_cons]
      refine ⟨by omega, fun other hother ↦ ?_⟩
      have := hn other hother
      omega
  obtain ⟨n, hn⟩ := hlonger
  refine ⟨String.ofList (List.replicate n 'a'), by simp, fun hmem ↦ ?_⟩
  have hlength := hn _ hmem
  simp at hlength

namespace RuleSet

variable {ds : List Declaration} {r : RuleSet} {report : LintReport} {state : String}

/-- Some text without underscores is not a state. -/
theorem exists_not_hasState (r : RuleSet) :
    ∃ token : String, '_' ∉ token.toList ∧ r.hasState token = false := by
  obtain ⟨token, htoken, hnew⟩ := Text.exists_notMem (r.states.map (·.1))
  refine ⟨token, htoken, ?_⟩
  rw [Bool.eq_false_iff]
  intro hstate
  obtain ⟨kind, hmem⟩ := mem_states_of_hasState hstate
  exact hnew (List.mem_map_of_mem (f := (·.1)) hmem)

/-- A successful check reports all warnings. -/
theorem warnings_of_lint (h : r.lint = .ok report) : report.warnings = r.warnings := by
  unfold lint at h
  cases htokens : r.checkTokens with
  | error e => rw [htokens] at h; cases h
  | ok =>
    cases hrules : r.checkRules with
    | error e => rw [htokens, hrules] at h; cases h
    | ok => rw [htokens, hrules] at h; cases h; rfl

/-- A declared state is warned of just if its name is empty or has an underscore. -/
theorem unprefixableState_mem_warnings_iff (hstate : r.hasState state = true) :
    .unprefixableState state ∈ r.warnings ↔ state = "" ∨ '_' ∈ state.toList := by
  have hmem (name : String) (kind : StateKind) :
      .unprefixableState state ∈ r.warningsFor name kind ↔
        name = state ∧ (state = "" ∨ '_' ∈ state.toList) := by
    have hsettings : LintWarning.unprefixableState state ∉
        (if kind = .exclusive then
          (if r.hasErrorEntry name then [] else [LintWarning.noErrorRule name]) ++
            if (r.ignore? name).isSome then [] else [.noIgnoreRule name]
        else []) := by
      split
      · cases r.hasErrorEntry name <;> cases (r.ignore? name).isSome <;> simp
      · simp
    rw [warningsFor, List.mem_append, or_iff_left hsettings]
    by_cases hname : name = state
    · subst hname
      simp
    · have hother : state ≠ name := Ne.symm hname
      simp [hname, hother]
  rw [warnings, List.mem_flatMap]
  constructor
  · rintro ⟨⟨name, kind⟩, _, hwarned⟩
    exact ((hmem name kind).1 hwarned).2
  · intro hname
    obtain ⟨kind, hdeclared⟩ := mem_states_of_hasState hstate
    exact ⟨_, hdeclared, (hmem state kind).2 ⟨rfl, hname⟩⟩

/-- The check warns that rules cannot name a state, just if no rule's name has a prefix with it,
except for the state with the empty name: it is always warned of, though there are such names. -/
theorem unprefixable_iff (hbuild : ofDeclarations ds = .ok r) (hlint : r.lint = .ok report)
    (state : String) (hstate : r.hasState state = true) :
    (state ≠ "" → (.unprefixableState state ∈ report.warnings ↔
      ¬ ∃ raw, RuleName.HasPrefix (declares ds) raw ∧
        state ∈ (RuleName.resolve (declares ds) raw).targets)) ∧
    (state = "" → .unprefixableState state ∈ report.warnings ∧
      ∃ raw, RuleName.HasPrefix (declares ds) raw ∧
        state ∈ (RuleName.resolve (declares ds) raw).targets) := by
  rw [warnings_of_lint hlint, unprefixableState_mem_warnings_iff hstate,
    ← hasState_of_ofDeclarations hbuild, RuleName.exists_targets_iff hstate r.exists_not_hasState]
  constructor
  · intro hne
    rw [or_iff_right hne, Classical.not_not]
  · rintro rfl
    exact ⟨.inl rfl, by simp⟩

/-- A rule for the initial state and one for a state with the empty name, and a state that rules
cannot name. -/
def emptyNameDeclarations : List Declaration :=
  [.tokens ["A"], .states [("", .inclusive), ("block_comment", .inclusive)],
   .rule "A" (.literal "a") none, .rule "_A" (.literal "b") none]

/-- These rules compiled. -/
def emptyNameRules : RuleSet :=
  (ofDeclarations emptyNameDeclarations).toOption.get (by decide +kernel)

private theorem lint_emptyNameRules : emptyNameRules.lint =
    .ok ⟨[.unprefixableState "", .unprefixableState "block_comment"]⟩ := by
  decide +kernel

/-- A state with an underscore in its name, and one with an empty name. -/
theorem unprefixable_iff_emptyNameRules :
    (¬ ∃ raw, RuleName.HasPrefix (declares emptyNameDeclarations) raw ∧
      "block_comment" ∈ (RuleName.resolve (declares emptyNameDeclarations) raw).targets) ∧
    ∃ raw, RuleName.HasPrefix (declares emptyNameDeclarations) raw ∧
      "" ∈ (RuleName.resolve (declares emptyNameDeclarations) raw).targets := by
  have hbuild : ofDeclarations emptyNameDeclarations = .ok emptyNameRules := rfl
  have hlint := lint_emptyNameRules
  have hcomment := (unprefixable_iff hbuild hlint "block_comment" (by decide +kernel)).1
  have hempty := (unprefixable_iff hbuild hlint "" (by decide +kernel)).2
  exact ⟨(hcomment (by decide)).1 (by simp), (hempty rfl).2⟩

/-- A state may be warned of though a rule's name has a prefix with it. -/
theorem not_forall_unprefixable_iff :
    ¬ ∀ ds r report state, ofDeclarations ds = .ok r → r.lint = .ok report →
      r.hasState state = true → (.unprefixableState state ∈ report.warnings ↔
        ¬ ∃ raw, RuleName.HasPrefix (declares ds) raw ∧
          state ∈ (RuleName.resolve (declares ds) raw).targets) := by
  intro h
  have hnone := (h emptyNameDeclarations emptyNameRules _ "" rfl lint_emptyNameRules
    (by decide +kernel)).1 (by simp)
  have hprefix : RuleName.HasPrefix (declares emptyNameDeclarations) "_A" :=
    ⟨⟨"", ["A"], by decide +kernel, by decide +kernel⟩, "A", by decide +kernel, by decide +kernel⟩
  exact hnone ⟨"_A", hprefix, by decide +kernel⟩

end RuleSet

end ModalLexer
