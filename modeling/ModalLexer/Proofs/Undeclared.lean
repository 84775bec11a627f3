import ModalLexer.Proofs.DeclarationOrder
import ModalLexer.Proofs.DeclaredStates

/-!
# Settings for states that are not declared

What is declared about states that are not declared is kept in the tables of settings, and each such
declaration has them filled again. Nevertheless it makes no difference: without the names of such
states, and without the declarations that name no others (`withoutStrays`), declarations compile in
the same way, to rules that say the same of declared states. Only the warnings are missing that are
logged for these names.
-/

namespace ModalLexer

/-! ### Leaving out what is not declared -/

/-- Whether declarations declare a state. -/
def declares (ds : List Declaration) (state : String) : Bool :=
  (Table.find? state (declaredStates ds)).isSome

/-- The text that names those of the states of a text that are wanted, if there are any. -/
def keepSegments (wanted : String → Bool) (text : String) : Option String :=
  let kept := (Text.segments text).filter wanted
  if kept.isEmpty then none else some (Text.join kept)

/-- A declaration of settings that is left for the wanted states only, if it names any. All other
declarations are left as they are. -/
def Declaration.restrict (wanted : String → Bool) : Declaration → Option Declaration
  | .ignore (some text) chars => (keepSegments wanted text).map fun kept ↦ .ignore (some kept) chars
  | .error (some text) handler =>
    (keepSegments wanted text).map fun kept ↦ .error (some kept) handler
  | d => some d

/-- The declarations, but no settings for states that are not declared. -/
def withoutStrays (ds : List Declaration) : List Declaration :=
  ds.filterMap (Declaration.restrict (declares ds))

/-- The warnings about those states of a declaration that are not wanted: one for each time that one
is named. -/
def Declaration.strays (wanted : String → Bool) : Declaration → List Event
  | .ignore names _ => ((namedStates names).filter (!wanted ·)).map .ignoreForUndeclared
  | .error names _ => ((namedStates names).filter (!wanted ·)).map .errorForUndeclared
  | _ => []

/-- The assignment for the wanted states only, if it has any. -/
def Assignment.restrict {α : Type} (wanted : String → Bool) (a : Assignment α) :
    Option (Assignment α) :=
  let kept := a.targets.filter wanted
  if kept.isEmpty then none else some ⟨kept, a.value⟩

/-- All of these are warnings. -/
theorem level_strays {wanted : String → Bool} {d : Declaration} {event : Event}
    (h : event ∈ d.strays wanted) : event.level = "WARN" := by
  cases d with
  | tokens | states | rule => cases h
  | ignore | error =>
    obtain ⟨name, _, rfl⟩ := List.mem_map.1 h
    rfl

section Restrict

variable (wanted : String → Bool) {α : Type} {state : String}

/-- The states that are kept are those of the text that are wanted. -/
theorem segments_of_keepSegments {text kept : String} (h : keepSegments wanted text = some kept) :
    Text.segments kept = (Text.segments text).filter wanted := by
  unfold keepSegments at h
  dsimp only at h
  split at h
  · cases h
  · next hkept =>
    cases h
    refine Text.segments_join (mt List.isEmpty_iff.2 hkept) fun s hs ↦ ?_
    exact Text.notMem_of_mem_segments (List.mem_of_mem_filter hs)

/-- To keep some of the states that a text names is to restrict what is assigned to them. -/
theorem map_keepSegments (text : String) (value : α) :
    (keepSegments wanted text).map (fun kept ↦ Assignment.mk (Text.segments kept) value) =
      Assignment.restrict wanted ⟨Text.segments text, value⟩ := by
  rw [Assignment.restrict]
  by_cases hkept : ((Text.segments text).filter wanted).isEmpty = true
  · have hnone : keepSegments wanted text = none := if_pos hkept
    rw [if_pos hkept, hnone, Option.map_none]
  · have hsome : keepSegments wanted text =
        some (Text.join ((Text.segments text).filter wanted)) := if_neg hkept
    rw [if_neg hkept, hsome, Option.map_some, segments_of_keepSegments wanted hsome]

variable {wanted}

/-- A restricted assignment says the same of the wanted states. -/
theorem firstFor_restrict (hstate : wanted state = true) (as : List (Assignment α)) :
    firstFor state (as.filterMap (Assignment.restrict wanted)) = firstFor state as := by
  induction as with
  | nil => rfl
  | cons a as ih =>
    have htargets : state ∈ a.targets.filter wanted ↔ state ∈ a.targets := by
      rw [List.mem_filter, and_iff_left hstate]
    rw [firstFor] at ih ⊢
    rw [List.filterMap_cons, Assignment.restrict]
    by_cases hkept : (a.targets.filter wanted).isEmpty = true
    · have hother : state ∉ a.targets := by
        rw [← htargets, List.isEmpty_iff.1 hkept]
        exact List.not_mem_nil
      rw [if_pos hkept, firstFor, List.find?_cons_of_neg (by simpa using hother)]
      exact ih
    · rw [if_neg hkept, firstFor]
      by_cases htarget : state ∈ a.targets
      · rw [List.find?_cons_of_pos (by simpa using htargets.2 htarget),
          List.find?_cons_of_pos (by simpa using htarget)]
        rfl
      · rw [List.find?_cons_of_neg (by simpa using mt htargets.1 htarget),
          List.find?_cons_of_neg (by simpa using htarget)]
        exact ih

private theorem lastFor_restrict (hstate : wanted state = true) (as : List (Assignment α)) :
    lastFor state (as.filterMap (Assignment.restrict wanted)) = lastFor state as := by
  rw [lastFor, ← List.filterMap_reverse, firstFor_restrict hstate, lastFor]

/-- Whatever is wanted, only settings are restricted. -/
theorem declarationsOf_restrict {kind : Declaration.Kind} (hignore : kind ≠ .ignore)
    (herror : kind ≠ .error) (ds : List Declaration) :
    declarationsOf kind (ds.filterMap (Declaration.restrict wanted)) = declarationsOf kind ds := by
  rw [declarationsOf, declarationsOf, List.filter_filterMap, ← List.filterMap_eq_filter]
  congr 1
  funext d
  cases d with
  | tokens | states | rule => rfl
  | ignore names value | error names value =>
    cases names with
    | none =>
      simp [Declaration.restrict, Option.guard, Declaration.kind, Ne.symm hignore, Ne.symm herror]
    | some text =>
      cases h : keepSegments wanted text <;>
        simp [Declaration.restrict, Option.guard, Declaration.kind, Ne.symm hignore,
          Ne.symm herror, h]

variable (hinitial : wanted initialState = true)
include hinitial

private theorem restrict_initialState (value : α) :
    Assignment.restrict wanted ⟨[initialState], value⟩ = some ⟨[initialState], value⟩ := by
  simp [Assignment.restrict, hinitial]

private theorem ignoreAssignments_restrict (ds : List Declaration) :
    ignoreAssignments (ds.filterMap (Declaration.restrict wanted)) =
      (ignoreAssignments ds).filterMap (Assignment.restrict wanted) := by
  rw [ignoreAssignments, ignoreAssignments, List.filterMap_filterMap, List.filterMap_filterMap]
  congr 1
  funext d
  cases d with
  | tokens | states | rule => rfl
  | ignore names chars =>
    cases names with
    | none => exact (restrict_initialState hinitial chars).symm
    | some text =>
      refine Eq.trans ?_ (map_keepSegments wanted text chars)
      rw [Declaration.restrict]
      cases keepSegments wanted text <;> rfl
  | error names handler =>
    cases names with
    | none => rfl
    | some text =>
      rw [Declaration.restrict]
      cases keepSegments wanted text <;> rfl

private theorem errorAssignments_restrict (ds : List Declaration) :
    errorAssignments (ds.filterMap (Declaration.restrict wanted)) =
      (errorAssignments ds).filterMap (Assignment.restrict wanted) := by
  rw [errorAssignments, errorAssignments, List.filterMap_filterMap, List.filterMap_filterMap]
  congr 1
  funext d
  cases d with
  | tokens | states | rule => rfl
  | error names handler =>
    cases names with
    | none => exact (restrict_initialState hinitial handler).symm
    | some text =>
      refine Eq.trans ?_ (map_keepSegments wanted text handler)
      rw [Declaration.restrict]
      cases keepSegments wanted text <;> rfl
  | ignore names chars =>
    cases names with
    | none => rfl
    | some text =>
      rw [Declaration.restrict]
      cases keepSegments wanted text <;> rfl

/-- Nothing is to be warned of in what is left of a declaration. -/
theorem strays_of_restrict {d d' : Declaration} (h : d.restrict wanted = some d') :
    d'.strays wanted = [] := by
  have hkept {text kept : String} (hkept : keepSegments wanted text = some kept) :
      (Text.segments kept).filter (!wanted ·) = [] := by
    rw [segments_of_keepSegments wanted hkept, List.filter_filter]
    simp
  cases d with
  | tokens | states | rule =>
    cases h
    rfl
  | ignore names value | error names value =>
    cases names with
    | none =>
      cases h
      simp [Declaration.strays, namedStates, hinitial]
    | some text =>
      obtain ⟨kept, hsome, rfl⟩ := Option.map_eq_some_iff.1 h
      rw [Declaration.strays, namedStates, hkept hsome, List.map_nil]

end Restrict

/-! ### What is compiled, and what is logged -/

section Compiled

variable {ds : List Declaration}

private theorem declares_initialState (ds : List Declaration) : declares ds initialState = true :=
  isSome_find?_initialState ds

private theorem declaredStates_withoutStrays (ds : List Declaration) :
    declaredStates (withoutStrays ds) = declaredStates ds :=
  declaredStates_congr (declarationsOf_restrict (by decide) (by decide) ds)

private theorem start_withoutStrays (ds : List Declaration) :
    Draft.start (withoutStrays ds) = Draft.start ds := by
  have htokens : declaredTokens (withoutStrays ds) = declaredTokens ds :=
    declaredTokens_congr (declarationsOf_restrict (by decide) (by decide) ds)
  unfold Draft.start
  rw [htokens, declaredStates_withoutStrays]

end Compiled

namespace Draft

variable {d d' : Draft}

/-- No declaration changes which states are declared. -/
theorem states_apply {decl : Declaration} (h : d.apply decl = .ok d') : d'.states = d.states := by
  cases decl with
  | tokens | states | ignore | error =>
    cases h
    rfl
  | rule raw pattern action =>
    obtain ⟨l, d₁, _, hregister, rfl⟩ := addRule_eq_ok h
    obtain ⟨_, _, rfl⟩ := register_eq_ok hregister
    rfl

/-- Those of some declarations that are applied: all that come before the first that fails. -/
def applied (d : Draft) : List Declaration → List Declaration
  | [] => []
  | decl :: decls =>
    match d.apply decl with
    | .error _ => []
    | .ok d' => decl :: applied d' decls

private theorem applied_begins (d : Draft) (ds : List Declaration) : d.applied ds <+: ds := by
  induction ds generalizing d with
  | nil => exact List.nil_prefix
  | cons decl ds ih =>
    rw [applied]
    split
    · exact List.nil_prefix
    · next d' _ => exact (List.prefix_cons_inj decl).2 (ih d')

/-- All declarations are applied if none fails. -/
theorem applied_eq {ds : List Declaration} (h : (d.applyAll ds).2 = .ok d') :
    d.applied ds = ds := by
  induction ds generalizing d with
  | nil => rfl
  | cons decl ds ih =>
    rw [applyAll] at h
    rw [applied]
    cases hdecl : d.apply decl with
    | error e => simp [hdecl] at h
    | ok d₁ =>
      simp only [hdecl] at h
      exact congrArg (decl :: ·) (ih h)

/-- A warning is logged for each name of a state that is not declared, in the declarations that are
applied. -/
theorem events_applyAll (d : Draft) (ds : List Declaration) :
    (d.applyAll ds).1 = (d.applied ds).flatMap (Declaration.strays d.hasState) := by
  have hevents (d : Draft) (decl : Declaration) : d.eventsOf decl = decl.strays d.hasState := by
    cases decl <;> rfl
  induction ds generalizing d with
  | nil => rfl
  | cons decl ds ih =>
    rw [applyAll, applied]
    cases hdecl : d.apply decl with
    | error e =>
      -- Only rules fail, and nothing is logged when they do.
      cases decl with
      | rule => rfl
      | _ => cases hdecl
    | ok d' =>
      have hstates : d'.hasState = d.hasState := by
        funext state
        rw [hasState, hasState, states_apply hdecl]
      have hrest := ih d'
      rw [hstates] at hrest
      rw [List.flatMap_cons, ← hrest, hevents]

end Draft

namespace RuleSet

/-- Those of a list of declarations that are applied when they are compiled: all that come before
the first that fails. -/
def applied (ds : List Declaration) : List Declaration :=
  match Draft.start ds with
  | .error _ => []
  | .ok d => d.applied ds

variable {ds es : List Declaration} {r r' : RuleSet}

private theorem applied_begins (ds : List Declaration) : applied ds <+: ds := by
  unfold applied
  split
  · exact List.nil_prefix
  · next d _ => exact d.applied_begins ds

/-- All declarations are applied if they compile. -/
theorem applied_eq (h : ofDeclarations ds = .ok r) : applied ds = ds := by
  rw [ofDeclarations, build] at h
  rw [applied]
  cases hstart : Draft.start ds with
  | error e => simp [hstart] at h
  | ok d =>
    rw [hstart] at h
    cases happly : (d.applyAll ds).2 with
    | error e => simp [happly, Except.map] at h
    | ok d' => exact Draft.applied_eq happly

/-- All that is logged when declarations are compiled is about names of states that are not
declared. -/
theorem events_build (ds : List Declaration) :
    (build ds).1 = (applied ds).flatMap (Declaration.strays (declares ds)) := by
  rw [build, applied]
  cases hstart : Draft.start ds with
  | error e => rfl
  | ok d =>
    have hstates : d.hasState = declares ds := by
      rw [Draft.start_eq_ok hstart]
      rfl
    rw [← hstates]
    exact d.events_applyAll ds

/-- Without settings for states that are not declared, there is nothing to be logged. -/
theorem events_build_withoutStrays (ds : List Declaration) : (build (withoutStrays ds)).1 = [] := by
  rw [events_build, List.flatMap_eq_nil_iff]
  intro decl hdecl
  have hmem : decl ∈ withoutStrays ds := (applied_begins _).subset hdecl
  obtain ⟨d, _, hrestrict⟩ := List.mem_filterMap.1 hmem
  have hdeclares : declares (withoutStrays ds) = declares ds := by
    funext state
    rw [declares, declares, declaredStates_withoutStrays]
  rw [hdeclares]
  exact strays_of_restrict (declares_initialState ds) hrestrict

/-- Declarations compile in the same way if they start from the same and have the same rules: they
give the same error, or drafts with the same lexemes. -/
theorem ofDeclarations_of_sameRules (hstart : Draft.start ds = Draft.start es)
    (hrules : declarationsOf .rule ds = declarationsOf .rule es) :
    (∃ e, ofDeclarations ds = .error e ∧ ofDeclarations es = .error e) ∨
      ∃ d d' : Draft, ofDeclarations ds = .ok d.finish ∧ ofDeclarations es = .ok d'.finish ∧
        d.withoutSettings = d'.withoutSettings := by
  rw [ofDeclarations, ofDeclarations, build, build, hstart]
  cases Draft.start es with
  | error e => exact .inl ⟨e, rfl, rfl⟩
  | ok d =>
    have hsame : (d.applyAll ds).2.map Draft.withoutSettings =
        (d.applyAll es).2.map Draft.withoutSettings := by
      rw [← Draft.applyAll_withoutSettings, hrules, Draft.applyAll_withoutSettings]
    dsimp only
    generalize (d.applyAll ds).2 = x, (d.applyAll es).2 = y at hsame
    cases x with
    | error e =>
      cases y with
      | error e' =>
        cases hsame
        exact .inl ⟨e, rfl, rfl⟩
      | ok d₂ => cases hsame
    | ok d₁ =>
      cases y with
      | error e' => cases hsame
      | ok d₂ => exact .inr ⟨d₁, d₂, rfl, rfl, Except.ok.inj hsame⟩

/-- Compiled rules have the states that the declarations declare. -/
theorem hasState_of_ofDeclarations (h : ofDeclarations ds = .ok r) : r.hasState = declares ds := by
  funext state
  rw [hasState, kind?, states_of_ofDeclarations h, declares]

/-- The rules that are compiled say the same of declared states. -/
theorem agreesOnDeclared_withoutStrays (hr : ofDeclarations ds = .ok r)
    (hr' : ofDeclarations (withoutStrays ds) = .ok r') (htokens : r.tokens = r'.tokens)
    (htables : r.tables = r'.tables) (hcount : r.ruleCount = r'.ruleCount) :
    r.AgreesOnDeclared r' := by
  have hstates : r.states = r'.states := by
    rw [states_of_ofDeclarations hr, states_of_ofDeclarations hr', declaredStates_withoutStrays]
  have hdeclared := hasState_of_ofDeclarations hr
  have hinitial := declares_initialState ds
  obtain ⟨hignores, herrors⟩ := settings_of_ofDeclarations hr
  obtain ⟨hignores', herrors'⟩ := settings_of_ofDeclarations hr'
  refine ⟨htokens, hstates, htables, fun state hstate ↦ ?_, fun state hstate ↦ ?_, hcount⟩
  · -- What the initial state ignores is handed on, so it has to be the same first.
    rw [hdeclared] at hstate
    have hleft := hignores state
    have hright := hignores' state
    rw [withoutStrays, ignoreAssignments_restrict hinitial, lastFor_restrict hinitial,
      lastFor_restrict hstate, firstFor_restrict hinitial, ← hstates] at hright
    exact hleft.trans hright.symm
  · rw [hdeclared] at hstate
    rw [herrors, herrors', withoutStrays, errorAssignments_restrict hinitial,
      lastFor_restrict hstate, firstFor_restrict hinitial, ← hstates]

/-- Settings for two states of which one is declared, and for one that is not. -/
def strayingDeclarations : List Declaration :=
  [.tokens ["WORD"], .ignore (some "initial_nowhere_") (.chars " "),
   .error (some "lost") (some .keep), .rule "WORD" (.charClass .alpha) none]

/-- The rules that these declarations compile to. -/
def strayingRules : RuleSet :=
  (ofDeclarations strayingDeclarations).toOption.get (by decide +kernel)

end RuleSet

end ModalLexer
