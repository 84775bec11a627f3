import ModalLexer.Proofs.Inheritance

/-!
# What states ignore, and what they do about errors

Settings are declared for some states at a time. A state has the setting declared for it last,
whatever is declared for others (`own_settings`); a state that inherits and has none declared for it
has the one that was declared first for the initial state, since it is given that one at once and
keeps it (`Settled`). So it is set as the initial state is just if the first and the last
declaration for the initial state agree.
-/

namespace ModalLexer

/-- A setting that is declared for some states. -/
structure Assignment (α : Type) where
  targets : List String
  value : α

/-- What declarations say is ignored, in order. -/
def ignoreAssignments (ds : List Declaration) : List (Assignment IgnoreSet) :=
  ds.filterMap fun d ↦ match d with
    | .ignore states chars => some ⟨namedStates states, chars⟩
    | _ => none

/-- What declarations say is done about errors, in order. -/
def errorAssignments (ds : List Declaration) : List (Assignment (Option Action)) :=
  ds.filterMap fun d ↦ match d with
    | .error states handler => some ⟨namedStates states, handler⟩
    | _ => none

section Assignments

variable {α : Type}

/-- The setting that is declared first for a state. -/
def firstFor (state : String) (as : List (Assignment α)) : Option α :=
  (as.find? (state ∈ ·.targets)).map (·.value)

/-- The setting that is declared last for a state. -/
def lastFor (state : String) (as : List (Assignment α)) : Option α :=
  firstFor state as.reverse

private theorem find?_target (state : String) (a : Assignment α) :
    ([a].find? (state ∈ ·.targets)).map (·.value) =
      if state ∈ a.targets then some a.value else none := by
  rw [List.find?_singleton]
  by_cases h : state ∈ a.targets
  · simp [h]
  · simp [h]

/-- One more assignment is the first for a state if none was before. -/
theorem firstFor_concat (state : String) (as : List (Assignment α)) (a : Assignment α) :
    firstFor state (as ++ [a]) =
      (firstFor state as).or (if state ∈ a.targets then some a.value else none) := by
  rw [firstFor, List.find?_append, Option.map_or, find?_target]
  rfl

/-- One more assignment is the last for its states. -/
theorem lastFor_concat (state : String) (as : List (Assignment α)) (a : Assignment α) :
    lastFor state (as ++ [a]) = if state ∈ a.targets then some a.value else lastFor state as := by
  rw [lastFor, List.reverse_append, List.reverse_singleton, firstFor, List.find?_append,
    Option.map_or, find?_target]
  split
  · rfl
  · rfl

private theorem firstFor_eq_none_iff {state : String} {as : List (Assignment α)} :
    firstFor state as = none ↔ ∀ a ∈ as, state ∉ a.targets := by
  simp [firstFor]

/-- A setting is declared last for a state just if one is declared at all. -/
theorem lastFor_eq_none_iff {state : String} {as : List (Assignment α)} :
    lastFor state as = none ↔ ∀ a ∈ as, state ∉ a.targets := by
  rw [lastFor, firstFor_eq_none_iff]
  simp

private theorem isSome_firstFor (state : String) (as : List (Assignment α)) :
    (firstFor state as).isSome = (lastFor state as).isSome := by
  rw [Bool.eq_iff_iff, ← Option.ne_none_iff_isSome, ← Option.ne_none_iff_isSome, Ne, Ne,
    firstFor_eq_none_iff, lastFor_eq_none_iff]

/-- After the first setting the last one adds nothing. -/
theorem firstFor_or_lastFor (state : String) (as : List (Assignment α)) :
    (firstFor state as).or (lastFor state as) = firstFor state as := by
  cases h : firstFor state as with
  | some v => rfl
  | none => rw [lastFor_eq_none_iff.2 (firstFor_eq_none_iff.1 h)]; rfl

private theorem some_getD_inj {x y : Option α} (h : x.isSome = y.isSome) (v : α) :
    some (x.getD v) = some (y.getD v) ↔ x = y := by
  cases x with
  | none =>
    cases y with
    | none => simp
    | some w => cases h
  | some u =>
    cases y with
    | none => cases h
    | some w => simp

/-- An assignment is the last one for a state: none after it names the state. -/
def LastFor (state : String) (as : List (Assignment α)) (a : Assignment α) : Prop :=
  ∃ earlier later, as = earlier ++ a :: later ∧ state ∈ a.targets ∧ ∀ b ∈ later, state ∉ b.targets

/-- The setting that is declared last is that of the last assignment. -/
theorem LastFor.lastFor_eq {state : String} {as : List (Assignment α)} {a : Assignment α}
    (h : LastFor state as a) : lastFor state as = some a.value := by
  obtain ⟨earlier, later, rfl, ha, hlater⟩ := h
  have hnone : later.reverse.find? (state ∈ ·.targets) = none := by
    simpa [List.find?_eq_none] using hlater
  rw [lastFor, firstFor, List.reverse_append, List.reverse_cons, List.append_assoc,
    List.find?_append, hnone]
  simp [ha]

/-- A state that is named at all has a last assignment. -/
theorem exists_lastFor {state : String} {as : List (Assignment α)}
    (h : ∃ a ∈ as, state ∈ a.targets) : ∃ a, LastFor state as a := by
  induction as with
  | nil => simp at h
  | cons b as ih =>
    by_cases hrest : ∃ a ∈ as, state ∈ a.targets
    · obtain ⟨a, earlier, later, rfl, ha, hlater⟩ := ih hrest
      exact ⟨a, b :: earlier, later, rfl, ha, hlater⟩
    · have hb : state ∈ b.targets := by
        obtain ⟨a, ha, hstate⟩ := h
        rcases List.mem_cons.1 ha with rfl | ha
        · exact hstate
        · exact absurd ⟨a, ha, hstate⟩ hrest
      refine ⟨b, [], as, rfl, hb, ?_⟩
      intro a ha hstate
      exact hrest ⟨a, ha, hstate⟩

/-- A table of settings is settled by what was declared: a state has its own last setting, and one
that inherits has the first one of the initial state if it has none of its own. -/
def Settled (states : List (String × StateKind)) (t : Table α) (as : List (Assignment α)) : Prop :=
  ∀ state, t.get? state =
    (lastFor state as).or (if Inherits states state then firstFor initialState as else none)

/-- The initial state has its own last setting. -/
theorem Settled.get?_initialState {states : List (String × StateKind)} {t : Table α}
    {as : List (Assignment α)} (h : Settled states t as) :
    t.get? initialState = lastFor initialState as := by
  rw [h, if_neg (not_inherits_initialState states), Option.or_none]

end Assignments

namespace Draft

variable {d d' : Draft} {α : Type} {t : Table α} {as : List (Assignment α)}

/-- A table in which the states that inherit and have no value are given that of the initial
state. -/
def fill (d : Draft) (t : Table α) : Table α :=
  match t.get? initialState with
  | none => t
  | some v => d.inclusiveStates.foldl (fun t name ↦ t.insertNew name v) t

/-- Tables of settings are filled. -/
theorem backfill_eq (d : Draft) :
    d.backfill = { d with ignores := d.fill d.ignores, errors := d.fill d.errors } :=
  rfl

private theorem get?_fill (hd : (d.states.map (·.1)).Nodup) (t : Table α) (state : String) :
    (d.fill t).get? state =
      (t.get? state).or (if Inherits d.states state then t.get? initialState else none) := by
  unfold fill
  cases hinitial : t.get? initialState with
  | none => simp
  | some v =>
    simp only
    rw [Table.get?_foldl_insertNew]
    simp only [mem_inclusiveStates_iff hd]
    split
    · cases t.get? state <;> rfl
    · rw [Option.or_none]

/-- A settled table is full. -/
theorem settled_fill (hd : (d.states.map (·.1)).Nodup) (h : Settled d.states t as) :
    Settled d.states (d.fill t) as := by
  intro state
  rw [get?_fill hd, h.get?_initialState, h state, Option.or_assoc]
  split
  · rw [firstFor_or_lastFor]
  · rfl

/-- A table is settled again once it is changed as declared and filled. -/
theorem settled_insert (hd : (d.states.map (·.1)).Nodup) (h : Settled d.states t as)
    (a : Assignment α) : Settled d.states
      (d.fill (a.targets.foldl (fun t name ↦ t.insert name a.value) t)) (as ++ [a]) := by
  intro state
  rw [get?_fill hd, Table.get?_foldl_insert, Table.get?_foldl_insert, h.get?_initialState, h state,
    lastFor_concat, firstFor_concat]
  by_cases htarget : state ∈ a.targets
  · rw [if_pos htarget, if_pos htarget, Option.some_or, Option.some_or]
  · rw [if_neg htarget, if_neg htarget, Option.or_assoc]
    congr 1
    by_cases hstate : Inherits d.states state
    · rw [if_pos hstate, if_pos hstate, if_pos hstate]
      by_cases hinitial : initialState ∈ a.targets
      · rw [if_pos hinitial, if_pos hinitial]
      · rw [if_neg hinitial, if_neg hinitial, firstFor_or_lastFor, Option.or_none]
    · rw [if_neg hstate, if_neg hstate, if_neg hstate]
      rfl

/-- The tables of a draft are settled by the declarations seen so far, and no state is declared
twice. -/
structure SettledBy (d : Draft) (seen : List Declaration) : Prop where
  nodup : (d.states.map (·.1)).Nodup
  ignores : Settled d.states d.ignores (ignoreAssignments seen)
  errors : Settled d.states d.errors (errorAssignments seen)

private theorem settings_addRule {raw : String} {pattern : Pattern} {action : Option Action}
    (h : d.addRule raw pattern action = .ok d') :
    d'.states = d.states ∧ d'.ignores = d.ignores ∧ d'.errors = d.errors := by
  obtain ⟨l, d₁, _, hregister, rfl⟩ := addRule_eq_ok h
  obtain ⟨_, _, rfl⟩ := register_eq_ok hregister
  exact ⟨rfl, rfl, rfl⟩

private theorem settledBy_start {ds : List Declaration} (h : start ds = .ok d) : d.SettledBy
    [] := by
  rw [start_eq_ok h]
  refine ⟨nodup_declaredStates ds, ?_, ?_⟩
  · intro state
    exact (ite_self _).symm
  · intro state
    exact (ite_self _).symm

/-- Every declaration leaves the tables settled. -/
theorem SettledBy.apply {seen : List Declaration} {decl : Declaration} (h : d.SettledBy seen)
    (happly : d.apply decl = .ok d') : d'.SettledBy (seen ++ [decl]) := by
  obtain ⟨hd, hignores, herrors⟩ := h
  cases decl with
  | tokens | states =>
    cases happly
    refine ⟨hd, ?_, ?_⟩
    · rw [ignoreAssignments, filterMap_concat_none rfl]
      exact hignores
    · rw [errorAssignments, filterMap_concat_none rfl]
      exact herrors
  | rule raw pattern action =>
    obtain ⟨hstates, hig, her⟩ := settings_addRule happly
    refine ⟨hstates ▸ hd, ?_, ?_⟩
    · rw [ignoreAssignments, filterMap_concat_none rfl, hstates, hig]
      exact hignores
    · rw [errorAssignments, filterMap_concat_none rfl, hstates, her]
      exact herrors
  | ignore states chars =>
    cases happly
    rw [setIgnore, backfill_eq]
    refine ⟨hd, ?_, ?_⟩
    · rw [ignoreAssignments, List.filterMap_append]
      exact settled_insert hd hignores ⟨namedStates states, chars⟩
    · rw [errorAssignments, filterMap_concat_none rfl]
      exact settled_fill hd herrors
  | error states handler =>
    cases happly
    rw [setError, backfill_eq]
    refine ⟨hd, ?_, ?_⟩
    · rw [ignoreAssignments, filterMap_concat_none rfl]
      exact settled_fill hd hignores
    · rw [errorAssignments, List.filterMap_append]
      exact settled_insert hd herrors ⟨namedStates states, handler⟩

end Draft

namespace RuleSet

variable {ds : List Declaration} {r : RuleSet}

/-- What the compiled rules say about a state's settings. The initial state ignores nothing unless
it is told otherwise. -/
theorem settings_of_ofDeclarations (h : ofDeclarations ds = .ok r) :
    (∀ state, r.ignore? state = if state = initialState then
        some ((lastFor initialState (ignoreAssignments ds)).getD .default)
      else (lastFor state (ignoreAssignments ds)).or (if Inherits r.states state then
        some ((firstFor initialState (ignoreAssignments ds)).getD .default) else none)) ∧
      Settled r.states r.errors (errorAssignments ds) := by
  obtain ⟨d, ⟨hd, hignores, herrors⟩, rfl⟩ :=
    ofDeclarations_invariant Draft.settledBy_start Draft.SettledBy.apply h
  refine ⟨fun state ↦ ?_, Draft.settled_fill hd herrors⟩
  change (d.fill (d.ignores.insertNew initialState .default)).get? state = _
  have hinitial : (d.ignores.insertNew initialState .default).get? initialState =
      some ((lastFor initialState (ignoreAssignments ds)).getD .default) := by
    rw [Table.get?_insertNew, if_pos rfl, hignores.get?_initialState]
  rw [Draft.get?_fill hd, hinitial]
  by_cases hstate : state = initialState
  · rw [if_pos hstate, hstate, hinitial, Option.some_or]
  · rw [if_neg hstate, Table.get?_insertNew, if_neg hstate, hignores state, Option.or_assoc]
    congr 1
    change _ = if Inherits d.states state then _ else _
    split
    · cases hfirst : firstFor initialState (ignoreAssignments ds) with
      | some v => rfl
      | none => rw [lastFor_eq_none_iff.2 (firstFor_eq_none_iff.1 hfirst)]; rfl
    · rfl

/-- A state that inherits, and for which nothing is said to be ignored, ignores what the initial
state was told first; it ignores what the initial state does just if that was not told otherwise
later. In the same way it has an error entry just if the initial state has one, and the same handler
just if the handler was not changed. -/
theorem inherited_settings (h : ofDeclarations ds = .ok r) {state : String}
    (hstate : Inherits r.states state) :
    ((∀ a ∈ ignoreAssignments ds, state ∉ a.targets) →
      r.ignore? state = some ((firstFor initialState (ignoreAssignments ds)).getD .default) ∧
      r.ignore? initialState = some ((lastFor initialState (ignoreAssignments ds)).getD .default) ∧
      (r.ignore? state = r.ignore? initialState ↔
        firstFor initialState (ignoreAssignments ds) =
          lastFor initialState (ignoreAssignments ds))) ∧
    ((∀ a ∈ errorAssignments ds, state ∉ a.targets) →
      r.hasErrorEntry state = r.hasErrorEntry initialState ∧
      r.handler? state = (firstFor initialState (errorAssignments ds)).join ∧
      r.handler? initialState = (lastFor initialState (errorAssignments ds)).join ∧
      (r.handler? state = r.handler? initialState ↔
        (firstFor initialState (errorAssignments ds)).join =
          (lastFor initialState (errorAssignments ds)).join)) := by
  obtain ⟨hignores, herrors⟩ := settings_of_ofDeclarations h
  constructor
  · intro huntold
    have hown := lastFor_eq_none_iff.2 huntold
    have hfirst := hignores state
    have hlast := hignores initialState
    rw [if_neg hstate.2, hown, if_pos hstate, Option.none_or] at hfirst
    rw [if_pos rfl] at hlast
    refine ⟨hfirst, hlast, ?_⟩
    rw [hfirst, hlast]
    exact some_getD_inj (isSome_firstFor _ _) _
  · intro huntold
    have hown := lastFor_eq_none_iff.2 huntold
    have hfirst := herrors state
    have hlast := herrors.get?_initialState
    rw [hown, if_pos hstate, Option.none_or] at hfirst
    have hf : r.handler? state = (firstFor initialState (errorAssignments ds)).join := by
      rw [handler?, hfirst]
    have hl : r.handler? initialState = (lastFor initialState (errorAssignments ds)).join := by
      rw [handler?, hlast]
    refine ⟨?_, hf, hl, by rw [hf, hl]⟩
    rw [hasErrorEntry, hasErrorEntry, hfirst, hlast, isSome_firstFor]

/-- What the initial state ignores is told twice. -/
def restatedDeclarations : List Declaration :=
  [.tokens ["A"], .states [("s", .inclusive)], .rule "A" (.literal "a") none,
   .ignore none (.chars " "), .ignore none (.chars "-")]

/-- These rules compiled. -/
def restatedRules : RuleSet :=
  (ofDeclarations restatedDeclarations).toOption.get (by decide +kernel)

/-- What the initial state ignores is declared twice. -/
theorem inherited_settings_restated :
    restatedRules.ignore? "s" = some (.chars " ") ∧
      restatedRules.ignore? initialState = some (.chars "-") ∧
      restatedRules.hasErrorEntry "s" = restatedRules.hasErrorEntry initialState := by
  have hbuild : ofDeclarations restatedDeclarations = .ok restatedRules := rfl
  have hstate : Inherits restatedRules.states "s" := by decide +kernel
  obtain ⟨hignores, herrors⟩ := inherited_settings hbuild hstate
  obtain ⟨hfirst, hlast, _⟩ := hignores (by decide)
  exact ⟨hfirst, hlast, (herrors (by decide)).1⟩

/-- A state may ignore something else than the initial state though nothing was said for it. -/
theorem not_forall_inherited_ignore :
    ¬ ∀ ds r state, ofDeclarations ds = .ok r → Inherits r.states state →
      (∀ a ∈ ignoreAssignments ds, state ∉ a.targets) →
      r.ignore? state = r.ignore? initialState := by
  intro h
  have hstate : Inherits restatedRules.states "s" := by decide +kernel
  have hsame : some (IgnoreSet.chars " ") = some (IgnoreSet.chars "-") :=
    h restatedDeclarations restatedRules "s" rfl hstate (by decide)
  simp at hsame

/-! ### Settings of one's own -/

/-- A state for which something is declared has the setting declared for it last, whatever is
declared for other states. A state that does not inherit and for which nothing is declared has no
setting, apart from the initial state, which ignores nothing. -/
theorem own_settings (h : ofDeclarations ds = .ok r) (state : String) :
    ((∃ a ∈ ignoreAssignments ds, state ∈ a.targets) →
      ∃ a, LastFor state (ignoreAssignments ds) a ∧ r.ignore? state = some a.value) ∧
    ((∃ a ∈ errorAssignments ds, state ∈ a.targets) →
      ∃ a, LastFor state (errorAssignments ds) a ∧
        r.hasErrorEntry state = true ∧ r.handler? state = a.value) ∧
    (r.kind? state ≠ some .inclusive → state ≠ initialState →
      ((∀ a ∈ ignoreAssignments ds, state ∉ a.targets) → r.ignore? state = none) ∧
      ((∀ a ∈ errorAssignments ds, state ∉ a.targets) → r.hasErrorEntry state = false)) ∧
    ((∀ a ∈ ignoreAssignments ds, initialState ∉ a.targets) →
      r.ignore? initialState = some .default ∧ ∀ c, r.ignores? initialState c = false) ∧
    ((∀ a ∈ errorAssignments ds, initialState ∉ a.targets) →
      r.hasErrorEntry initialState = false) := by
  obtain ⟨hignores, herrors⟩ := settings_of_ofDeclarations h
  refine ⟨?_, ?_, ?_, ?_, ?_⟩
  · intro htold
    obtain ⟨a, ha⟩ := exists_lastFor htold
    refine ⟨a, ha, ?_⟩
    rw [hignores]
    by_cases hstate : state = initialState
    · subst hstate
      rw [if_pos rfl, ha.lastFor_eq, Option.getD_some]
    · rw [if_neg hstate, ha.lastFor_eq, Option.some_or]
  · intro htold
    obtain ⟨a, ha⟩ := exists_lastFor htold
    have hentry : r.errors.get? state = some a.value := by
      rw [herrors, ha.lastFor_eq, Option.some_or]
    exact ⟨a, ha, by rw [hasErrorEntry, hentry, Option.isSome_some], by
      rw [handler?, hentry, Option.join_some]⟩
  · intro hkind hstate
    have hown : ¬ Inherits r.states state := fun hinherits ↦ hkind hinherits.1
    constructor
    · intro huntold
      rw [hignores, if_neg hstate, if_neg hown, lastFor_eq_none_iff.2 huntold, Option.or_none]
    · intro huntold
      rw [hasErrorEntry, herrors, if_neg hown, lastFor_eq_none_iff.2 huntold, Option.or_none,
        Option.isSome_none]
  · intro huntold
    have hempty : r.ignore? initialState = some .default := by
      rw [hignores, if_pos rfl, lastFor_eq_none_iff.2 huntold, Option.getD_none]
    refine ⟨hempty, ?_⟩
    intro c
    rw [ignores?, hempty]
    exact IgnoreSet.contains_of_isEmpty (s := .default) (by decide +kernel) c
  · intro huntold
    rw [hasErrorEntry, herrors.get?_initialState, lastFor_eq_none_iff.2 huntold, Option.isSome_none]

/-- A state is told what to ignore along with another one, then alone; its errors are left alone on
purpose before the initial state gets a handler. -/
def ownDeclarations : List Declaration :=
  [.tokens ["A"], .states [("s", .inclusive), ("x", .exclusive), ("y", .exclusive)],
   .rule "A" (.literal "a") none, .ignore (some "s_x") (.chars "-"),
   .ignore (some "s") (.chars "+"),
   .error (some "s") none, .error none (some Action.drop)]

/-- These rules compiled. -/
def ownRules : RuleSet :=
  (ofDeclarations ownDeclarations).toOption.get (by decide +kernel)

/-- A state with settings of its own, and one without any. -/
theorem own_settings_of_ownDeclarations :
    ownRules.ignore? "s" = some (.chars "+") ∧ ownRules.hasErrorEntry "s" = true ∧
      ownRules.handler? "s" = none ∧ ownRules.ignore? "y" = none ∧
      ownRules.hasErrorEntry "y" = false ∧ ownRules.ignore? initialState = some .default ∧
      restatedRules.hasErrorEntry initialState = false := by
  have hbuild : ofDeclarations ownDeclarations = .ok ownRules := rfl
  obtain ⟨hignore, herror, _, hinitial, _⟩ := own_settings hbuild "s"
  obtain ⟨a, ha, hchars⟩ := hignore (by decide)
  obtain ⟨b, hb, hentry, hhandler⟩ := herror (by decide)
  have hplus : a.value = .chars "+" := Option.some.inj (ha.lastFor_eq.symm.trans rfl)
  have hunhandled : b.value = none := Option.some.inj (hb.lastFor_eq.symm.trans rfl)
  obtain ⟨_, _, hother, _, _⟩ := own_settings hbuild "y"
  obtain ⟨hnone, hunset⟩ := hother (by decide +kernel) (by decide)
  have hrestated : ofDeclarations restatedDeclarations = .ok restatedRules := rfl
  obtain ⟨_, _, _, _, hnoentry⟩ := own_settings hrestated "s"
  exact ⟨hchars.trans (congrArg some hplus), hentry, hhandler.trans hunhandled,
    hnone (by decide), hunset (by decide), (hinitial (by decide)).1, hnoentry (by decide)⟩

end RuleSet

end ModalLexer
