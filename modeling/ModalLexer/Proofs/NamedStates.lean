import ModalLexer.Proofs.Undeclared

/-!
# States named in settings

The last declaration of what is ignored, or of what is done about errors, sets just the states that
its text names (`Sets`): they have the setting, and all else is as it would be without it, apart
from what states take over from the initial one. A text is split at its underscores, so it names a
state alone just if the state's name has none (`Text.mem_segments_self_iff`). A state with an
underscore in its name cannot be named at all: the text names others, or none that is declared.
-/

namespace ModalLexer

/-! ### One more setting -/

/-- One more setting for some states: they have it, and every other state has what it would have
without it, unless it takes over what the initial state has, which is set anew. -/
structure Sets {α : Type} (states : List (String × StateKind)) (a : Assignment α)
    (entry without : String → Option α) : Prop where
  told : ∀ state ∈ a.targets, entry state = some a.value
  untold : ∀ state, state ∉ a.targets →
    ¬ (initialState ∈ a.targets ∧ Inherits states state) → entry state = without state

section Assignments

variable {α : Type} {states : List (String × StateKind)} {as : List (Assignment α)}
  {a : Assignment α} {state : String}

private theorem firstFor_concat_of_notMem (h : state ∉ a.targets) :
    firstFor state (as ++ [a]) = firstFor state as := by
  rw [firstFor_concat, if_neg h, Option.or_none]

private theorem lastFor_concat_of_mem (h : state ∈ a.targets) :
    lastFor state (as ++ [a]) = some a.value := by
  rw [lastFor_concat, if_pos h]

private theorem lastFor_concat_of_notMem (h : state ∉ a.targets) :
    lastFor state (as ++ [a]) = lastFor state as := by
  rw [lastFor_concat, if_neg h]

/-- In a settled table one more setting sets its states. -/
theorem Settled.sets {t t' : Table α} (h : Settled states t (as ++ [a]))
    (h' : Settled states t' as) : Sets states a t.get? t'.get? := by
  constructor
  · intro state htarget
    rw [h, lastFor_concat_of_mem htarget, Option.some_or]
  · intro state htarget hkept
    rw [h, h', lastFor_concat_of_notMem htarget]
    by_cases hinherits : Inherits states state
    · have hinitial : initialState ∉ a.targets := fun hmem ↦ hkept ⟨hmem, hinherits⟩
      rw [firstFor_concat_of_notMem hinitial]
    · rw [if_neg hinherits, if_neg hinherits]

end Assignments

section Declarations

variable {before after : List Declaration} {d : Declaration}

/-- Without a declaration, those of other kinds are the same. -/
theorem declarationsOf_without {kind : Declaration.Kind} (h : d.kind ≠ kind) :
    declarationsOf kind (before ++ d :: after) = declarationsOf kind (before ++ after) := by
  rw [declarationsOf, declarationsOf, List.filter_append, List.filter_append,
    List.filter_cons_of_neg (by simpa using h)]

/-- What the last declaration that says something says comes last. -/
theorem filterMap_of_last {β : Type} {f : Declaration → Option β} {b : β} (hd : f d = some b)
    (hlast : ∀ d ∈ after, f d = none) :
    (before ++ d :: after).filterMap f = (before ++ after).filterMap f ++ [b] := by
  rw [List.filterMap_append, List.filterMap_append, List.filterMap_cons_some hd,
    List.filterMap_eq_nil_iff.2 hlast, List.append_nil]

private theorem ignoreAssignments_of_last {names : Option String} {chars : IgnoreSet}
    (hlast : ∀ d ∈ after, d.kind ≠ .ignore) :
    ignoreAssignments (before ++ .ignore names chars :: after) =
      ignoreAssignments (before ++ after) ++ [⟨namedStates names, chars⟩] := by
  refine filterMap_of_last rfl fun d hd ↦ ?_
  cases d with
  | ignore => exact absurd rfl (hlast _ hd)
  | _ => rfl

private theorem errorAssignments_of_last {names : Option String} {handler : Option Action}
    (hlast : ∀ d ∈ after, d.kind ≠ .error) :
    errorAssignments (before ++ .error names handler :: after) =
      errorAssignments (before ++ after) ++ [⟨namedStates names, handler⟩] := by
  refine filterMap_of_last rfl fun d hd ↦ ?_
  cases d with
  | error => exact absurd rfl (hlast _ hd)
  | _ => rfl

private theorem declares_without (h : d.kind ≠ .states) :
    declares (before ++ d :: after) = declares (before ++ after) := by
  funext state
  rw [declares, declares, declaredStates_congr (declarationsOf_without h)]

end Declarations

namespace RuleSet

variable {before after : List Declaration} {d : Declaration} {r r' : RuleSet}

/-- What compiles with a setting compiles without it, to rules for the same states. -/
theorem exists_ofDeclarations_without (hd : d.kind = .ignore ∨ d.kind = .error)
    (h : ofDeclarations (before ++ d :: after) = .ok r) :
    ∃ r', ofDeclarations (before ++ after) = .ok r' ∧ r'.states = r.states := by
  have hother {kind : Declaration.Kind} (hignore : kind ≠ .ignore) (herror : kind ≠ .error) :
      declarationsOf kind (before ++ d :: after) = declarationsOf kind (before ++ after) := by
    apply declarationsOf_without
    rcases hd with hkind | hkind
    · rw [hkind]
      exact Ne.symm hignore
    · rw [hkind]
      exact Ne.symm herror
  have hstart : Draft.start (before ++ d :: after) = Draft.start (before ++ after) := by
    unfold Draft.start
    rw [declaredTokens_congr (hother (by decide) (by decide)),
      declaredStates_congr (hother (by decide) (by decide))]
  rcases ofDeclarations_of_sameRules hstart (hother (by decide) (by decide)) with
    ⟨e, herror, _⟩ | ⟨_, d', _, hr', _⟩
  · rw [h] at herror
    cases herror
  · refine ⟨d'.finish, hr', ?_⟩
    rw [states_of_ofDeclarations h, states_of_ofDeclarations hr',
      declaredStates_congr (hother (by decide) (by decide))]

/-- A setting for declared states logs nothing. -/
theorem events_build_without (hd : d.strays (declares (before ++ after)) = [])
    (hkind : d.kind ≠ .states) (h : ofDeclarations (before ++ d :: after) = .ok r)
    (h' : ofDeclarations (before ++ after) = .ok r') :
    (build (before ++ d :: after)).1 = (build (before ++ after)).1 := by
  rw [events_build, events_build, applied_eq h, applied_eq h', declares_without hkind,
    List.flatMap_append, List.flatMap_append, List.flatMap_cons, hd, List.nil_append]

/-- The last declaration of what is ignored sets the states that it names. -/
theorem sets_ignore {names : Option String} {chars : IgnoreSet}
    (hlast : ∀ d ∈ after, d.kind ≠ .ignore)
    (h : ofDeclarations (before ++ .ignore names chars :: after) = .ok r)
    (h' : ofDeclarations (before ++ after) = .ok r') (hstates : r'.states = r.states) :
    Sets r.states ⟨namedStates names, chars⟩ r.ignore? r'.ignore? ∧
      ∀ state, r.errors.get? state = r'.errors.get? state := by
  obtain ⟨hignores, herrors⟩ := settings_of_ofDeclarations h
  obtain ⟨hignores', herrors'⟩ := settings_of_ofDeclarations h'
  rw [ignoreAssignments_of_last hlast] at hignores
  rw [hstates] at hignores' herrors'
  refine ⟨⟨fun state htarget ↦ ?_, fun state htarget hkept ↦ ?_⟩, fun state ↦ ?_⟩
  · rw [hignores]
    by_cases hinitial : state = initialState
    · rw [if_pos hinitial, lastFor_concat_of_mem (hinitial ▸ htarget), Option.getD_some]
    · rw [if_neg hinitial, lastFor_concat_of_mem htarget, Option.some_or]
  · rw [hignores, hignores']
    by_cases hinitial : state = initialState
    · rw [if_pos hinitial, if_pos hinitial, lastFor_concat_of_notMem (hinitial ▸ htarget)]
    · rw [if_neg hinitial, if_neg hinitial, lastFor_concat_of_notMem htarget]
      by_cases hinherits : Inherits r.states state
      · rw [firstFor_concat_of_notMem fun hmem ↦ hkept ⟨hmem, hinherits⟩]
      · rw [if_neg hinherits, if_neg hinherits]
  · rw [herrors, herrors',
      errorAssignments_congr (declarationsOf_without (by simp [Declaration.kind]))]

/-- The last declaration of what is done about errors sets the states that it names. -/
theorem sets_error {names : Option String} {handler : Option Action}
    (hlast : ∀ d ∈ after, d.kind ≠ .error)
    (h : ofDeclarations (before ++ .error names handler :: after) = .ok r)
    (h' : ofDeclarations (before ++ after) = .ok r') (hstates : r'.states = r.states) :
    Sets r.states ⟨namedStates names, handler⟩ r.errors.get? r'.errors.get? ∧
      ∀ state, r.ignore? state = r'.ignore? state := by
  obtain ⟨hignores, herrors⟩ := settings_of_ofDeclarations h
  obtain ⟨hignores', herrors'⟩ := settings_of_ofDeclarations h'
  rw [errorAssignments_of_last hlast] at herrors
  rw [hstates] at hignores' herrors'
  refine ⟨herrors.sets herrors', fun state ↦ ?_⟩
  rw [hignores, hignores',
    ignoreAssignments_congr (declarationsOf_without (by simp [Declaration.kind]))]

/-- A name of no state in a setting is logged. -/
theorem mem_events_build {event : Event} (h : ofDeclarations (before ++ d :: after) = .ok r)
    (hevent : event ∈ d.strays r.hasState) : event ∈ (build (before ++ d :: after)).1 := by
  rw [events_build, applied_eq h, ← hasState_of_ofDeclarations h]
  exact List.mem_flatMap.2 ⟨d, by simp, hevent⟩

/-- A declared state that has no underscore in its name is the only one that its name names, and it
is no stray. -/
theorem filter_namedStates_eq_nil {isState : String → Bool} {state : String}
    (hname : '_' ∉ state.toList) (hstate : isState state = true) :
    (namedStates (some state)).filter (!isState ·) = [] := by
  rw [namedStates, Text.segments_of_notMem hname]
  simp [hstate]

/-- A segment that is no state is a stray. -/
theorem mem_filter_namedStates {isState : String → Bool} {state segment : String}
    (h : segment ∈ Text.segments state) (hundeclared : isState segment = false) :
    segment ∈ (namedStates (some state)).filter (!isState ·) := by
  rw [namedStates, List.mem_filter, hundeclared]
  exact ⟨h, rfl⟩

/-- Named alone in the last declaration of its kind, a declared state without an underscore in its
name is set by it, nothing is logged, and nothing else is set but what states take over from the
initial one. If there is an underscore in the name, it is not the state that is set, but those that
the segments of its name are, and segments that are no states are logged. -/
theorem sets_named_state (before after : List Declaration) (state : String) :
    (∀ chars r, ofDeclarations (before ++ .ignore (some state) chars :: after) = .ok r →
      r.hasState state = true → (∀ d ∈ after, d.kind ≠ .ignore) →
      ∃ r', ofDeclarations (before ++ after) = .ok r' ∧
        (∀ other, r.errors.get? other = r'.errors.get? other) ∧
        ('_' ∉ state.toList → Sets r.states ⟨[state], chars⟩ r.ignore? r'.ignore? ∧
          (build (before ++ .ignore (some state) chars :: after)).1 = (build (before ++ after)).1) ∧
        ('_' ∈ state.toList → state ∉ Text.segments state ∧
          Sets r.states ⟨Text.segments state, chars⟩ r.ignore? r'.ignore? ∧
          ∀ s ∈ Text.segments state, r.hasState s = false → .ignoreForUndeclared s ∈
            (build (before ++ .ignore (some state) chars :: after)).1)) ∧
    (∀ handler r, ofDeclarations (before ++ .error (some state) handler :: after) = .ok r →
      r.hasState state = true → (∀ d ∈ after, d.kind ≠ .error) →
      ∃ r', ofDeclarations (before ++ after) = .ok r' ∧
        (∀ other, r.ignore? other = r'.ignore? other) ∧
        ('_' ∉ state.toList → Sets r.states ⟨[state], handler⟩ r.errors.get? r'.errors.get? ∧
          (build (before ++ .error (some state) handler :: after)).1 =
            (build (before ++ after)).1) ∧
        ('_' ∈ state.toList → state ∉ Text.segments state ∧
          Sets r.states ⟨Text.segments state, handler⟩ r.errors.get? r'.errors.get? ∧
          ∀ s ∈ Text.segments state, r.hasState s = false → .errorForUndeclared s ∈
            (build (before ++ .error (some state) handler :: after)).1)) := by
  have hsegments (hname : '_' ∈ state.toList) : state ∉ Text.segments state :=
    fun hmem ↦ Text.mem_segments_self_iff.1 hmem hname
  constructor
  · intro chars r hr hstate hlast
    obtain ⟨r', hr', hstates⟩ := exists_ofDeclarations_without (.inl rfl) hr
    obtain ⟨hsets, hother⟩ := sets_ignore hlast hr hr' hstates
    rw [hasState_of_ofDeclarations hr, declares_without (by simp [Declaration.kind])] at hstate
    refine ⟨r', hr', hother, fun hname ↦ ⟨?_, ?_⟩, fun hname ↦ ⟨hsegments hname, hsets, ?_⟩⟩
    · rwa [namedStates, Text.segments_of_notMem hname] at hsets
    · refine events_build_without ?_ (by simp [Declaration.kind]) hr hr'
      rw [Declaration.strays, filter_namedStates_eq_nil hname hstate, List.map_nil]
    · intro s hs hundeclared
      exact mem_events_build hr (List.mem_map_of_mem (mem_filter_namedStates hs hundeclared))
  · intro handler r hr hstate hlast
    obtain ⟨r', hr', hstates⟩ := exists_ofDeclarations_without (.inr rfl) hr
    obtain ⟨hsets, hother⟩ := sets_error hlast hr hr' hstates
    rw [hasState_of_ofDeclarations hr, declares_without (by simp [Declaration.kind])] at hstate
    refine ⟨r', hr', hother, fun hname ↦ ⟨?_, ?_⟩, fun hname ↦ ⟨hsegments hname, hsets, ?_⟩⟩
    · rwa [namedStates, Text.segments_of_notMem hname] at hsets
    · refine events_build_without ?_ (by simp [Declaration.kind]) hr hr'
      rw [Declaration.strays, filter_namedStates_eq_nil hname hstate, List.map_nil]
    · intro s hs hundeclared
      exact mem_events_build hr (List.mem_map_of_mem (mem_filter_namedStates hs hundeclared))

/-- Two states, each named alone in a setting. -/
def commentDeclarations : List Declaration :=
  [.tokens ["A"], .states [("raw", .inclusive), ("block_comment", .inclusive)],
   .rule "A" (.literal "a") none, .ignore (some "block_comment") (.chars "-"),
   .error (some "raw") none]

/-- These rules compiled. -/
def commentRules : RuleSet :=
  (ofDeclarations commentDeclarations).toOption.get (by decide +kernel)

/-- A setting for one state with an underscore in its name is for the parts of the name instead. -/
theorem sets_named_state_comment :
    commentRules.errors.get? "raw" = some none ∧ commentRules.ignore? "block" = some (.chars "-") ∧
      .ignoreForUndeclared "block" ∈ (build commentDeclarations).1 := by
  have hbuild : ofDeclarations commentDeclarations = .ok commentRules := rfl
  obtain ⟨hignore, _⟩ := sets_named_state (commentDeclarations.take 3) [.error (some "raw") none]
    "block_comment"
  obtain ⟨_, herror⟩ := sets_named_state (commentDeclarations.take 4) [] "raw"
  obtain ⟨_, _, _, _, hsegments⟩ := hignore _ _ hbuild (by decide +kernel)
    (by simp [Declaration.kind])
  obtain ⟨_, hsets, hlogged⟩ := hsegments (by decide)
  obtain ⟨_, _, _, halone, _⟩ := herror _ _ hbuild (by decide +kernel) (by simp)
  exact ⟨(halone (by decide)).1.told "raw" (by simp), hsets.told "block" (by decide +kernel),
    hlogged "block" (by decide +kernel) (by decide +kernel)⟩

/-- A setting for a declared state may not be what the state has. -/
theorem not_forall_sets_named_state :
    ¬ ∀ before after state chars r,
      ofDeclarations (before ++ .ignore (some state) chars :: after) = .ok r →
      r.hasState state = true → (∀ d ∈ after, d.kind ≠ .ignore) →
      r.ignore? state = some chars := by
  intro h
  have hsame : some (IgnoreSet.chars "") = some (.chars "-") :=
    h (commentDeclarations.take 3) [.error (some "raw") none] "block_comment" _ commentRules rfl
      (by decide +kernel) (by simp [Declaration.kind])
  simp at hsame

end RuleSet

end ModalLexer
