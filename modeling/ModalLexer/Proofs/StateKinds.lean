import ModalLexer.Proofs.Histories

/-!
# The declared states

Compiled rules list the declared states: the initial one first, then the others where they were
first given a kind, and each with the kind that it was given last (`RuleSet.states_in_order`). This
goes for the initial state too. It is inclusive unless it is declared; but it may be declared like
any other, and then it may be exclusive.
-/

namespace ModalLexer

namespace RuleSet

variable {ds : List Declaration} {r : RuleSet}

/-- The declared states are listed once each. The initial one comes first, and it is inclusive if it
is given no kind. The others follow in the order in which they were first given one. All that were
given a kind are of the kind that they were given last. -/
theorem states_in_order (h : ofDeclarations ds = .ok r) :
    ∃ kind rest, r.states = (initialState, kind) :: rest ∧
      kind = (lastKind? initialState (stateDeclarations ds)).getD .inclusive ∧
      rest.map (·.1) =
        (((stateDeclarations ds).map (·.1)).filter (· != initialState)).eraseDups ∧
      (r.states.map (·.1)).Nodup ∧
      ∀ s ∈ rest, lastKind? s.1 (stateDeclarations ds) = some s.2 := by
  rw [states_of_ofDeclarations h]
  have hnodup := nodup_declaredStates ds
  have hkind {state : String} {kind : StateKind} (hmem : (state, kind) ∈ declaredStates ds) :
      (lastKind? state (stateDeclarations ds)).or
        (if initialState = state then some .inclusive else none) = some kind := by
    rw [← find?_declaredStates, (Table.find?_eq_some_iff hnodup).2 hmem]
  have hnames := names_declaredStates ds
  rw [List.eraseDups_cons, List.map_eq_cons_iff] at hnames
  obtain ⟨⟨_, kind⟩, rest, heq, rfl, hrest⟩ := hnames
  refine ⟨kind, rest, heq, ?_, hrest, hnodup, fun s hs ↦ ?_⟩
  · have hinitial := hkind (heq ▸ List.mem_cons_self)
    rw [if_pos rfl] at hinitial
    rw [← Option.some_inj, ← hinitial]
    cases lastKind? initialState (stateDeclarations ds) <;> rfl
  · have hother : initialState ≠ s.1 := by
      rw [heq, List.map_cons, List.nodup_cons] at hnodup
      have hname : s.1 ∈ rest.map (·.1) := List.mem_map_of_mem hs
      intro hsame
      exact hnodup.1 (hsame ▸ hname)
    have hs := hkind (heq ▸ List.mem_cons_of_mem _ hs)
    rwa [if_neg hother, Option.or_none] at hs

/-- States that are declared again, the initial one among them. -/
def redeclaringDeclarations : List Declaration :=
  [.tokens ["A"], .states [("raw", .exclusive), ("tag", .inclusive), ("raw", .inclusive)],
   .rule "A" (.literal "a") none, .states [("initial", .exclusive), ("tag", .exclusive)]]

/-- These rules compiled. -/
def redeclaringRules : RuleSet :=
  (ofDeclarations redeclaringDeclarations).toOption.get (by decide +kernel)

/-- States that are declared again with other kinds. -/
theorem states_in_order_redeclaringRules :
    ∃ rest, redeclaringRules.states = ("initial", .exclusive) :: rest ∧
      rest.map (·.1) = ["raw", "tag"] ∧
      ∀ s ∈ rest, lastKind? s.1 (stateDeclarations redeclaringDeclarations) = some s.2 := by
  have hbuild : ofDeclarations redeclaringDeclarations = .ok redeclaringRules := rfl
  obtain ⟨kind, rest, hstates, hkind, hnames, _, hkinds⟩ := states_in_order hbuild
  have hexclusive : kind = .exclusive := hkind.trans (by decide)
  exact ⟨rest, hexclusive ▸ hstates, hnames.trans (by decide), hkinds⟩

/-- The initial state may not be inclusive. -/
theorem not_forall_inclusive_initialState :
    ¬ ∀ ds r, ofDeclarations ds = .ok r →
      ∃ rest, r.states = (initialState, .inclusive) :: rest := by
  intro h
  obtain ⟨rest, hstates⟩ := h redeclaringDeclarations redeclaringRules rfl
  have hfirst : redeclaringRules.states.head? = some ("initial", .exclusive) := by decide +kernel
  rw [hstates] at hfirst
  cases hfirst

end RuleSet

end ModalLexer
