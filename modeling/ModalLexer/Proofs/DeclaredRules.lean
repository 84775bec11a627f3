import ModalLexer.Proofs.Compilation

/-!
# The declared rules

Declarations make lexemes: each rule one, for the states that it belongs to. `ownLexemes` and
`reachingNames` say, by the declared rules alone, which lexemes a state has itself and which names
reach it. The lemmas on states say what registering and adding lexemes does to the lexeme of each
name, so that nothing else needs to look into a state's list.
-/

namespace ModalLexer

/-! ### The lexemes of a state -/

namespace State

variable {s : State} {l : Lexeme} {ls : List Lexeme} {name : String}

/-- No lexeme is found just under those names that are not there. -/
theorem get?_eq_none_iff : s.get? name = none ↔ name ∉ s.names := by
  simp [get?, names]

/-- A registered lexeme puts its name last, unless it is there. -/
theorem names_register (s : State) (l : Lexeme) :
    (s.register l).names = if l.name ∈ s.names then s.names else s.names ++ [l.name] := by
  obtain ⟨_, ls⟩ := s
  unfold register names
  induction ls with
  | nil => rfl
  | cons k ks ih =>
    rw [registerIn]
    split
    · next hk => simp [hk]
    · next hk =>
      rw [List.map_cons, ih]
      by_cases hmem : l.name ∈ ks.map (·.name)
      · simp [hmem]
      · simp [hmem, Ne.symm hk]

/-- A lexeme of a new name comes last. -/
theorem lexemes_register_of_notMem (h : l.name ∉ s.names) :
    (s.register l).lexemes = s.lexemes ++ [l] := by
  obtain ⟨_, ls⟩ := s
  unfold register names at *
  induction ls with
  | nil => rfl
  | cons k ks ih =>
    rw [List.map_cons, List.mem_cons, not_or] at h
    have hks := ih h.2
    rw [registerIn, if_neg (Ne.symm h.1), List.cons_append, ← hks]

/-- A registered lexeme is found under its name, and no other name is touched. -/
theorem get?_register (s : State) (l : Lexeme) (name : String) :
    (s.register l).get? name = if name = l.name then some l else s.get? name := by
  obtain ⟨_, ls⟩ := s
  unfold register get?
  induction ls with
  | nil =>
    by_cases hname : name = l.name
    · simp [registerIn, hname]
    · simp [registerIn, hname, Ne.symm hname]
  | cons k ks ih =>
    rw [registerIn]
    split
    · next hk =>
      by_cases hname : name = l.name
      · simp [hname]
      · simp [hk, hname, Ne.symm hname]
    · next hk =>
      rw [List.find?_cons, List.find?_cons, ih]
      by_cases hkname : k.name = name
      · have hname : name ≠ l.name := fun h ↦ hk (hkname.trans h)
        simp [hkname, hname]
      · have hother : (k.name == name) = false := beq_false_of_ne hkname
        simp [hother]

/-- A lexeme of a name that is there already is not added. -/
theorem add_of_mem (h : l.name ∈ s.names) : s.add l = s := by
  rw [add, if_pos (List.contains_iff_mem.2 h)]

/-- An added lexeme is found under its name if there was none. -/
theorem get?_add (s : State) (l : Lexeme) (name : String) :
    (s.add l).get? name = (s.get? name).or (if name = l.name then some l else none) := by
  by_cases hmem : l.name ∈ s.names
  · rw [add_of_mem hmem]
    by_cases hname : name = l.name
    · subst hname
      cases hget : s.get? l.name with
      | none => exact absurd hmem (get?_eq_none_iff.1 hget)
      | some k => rfl
    · simp [hname]
  · have hadd : s.add l = ⟨s.name, s.lexemes ++ [l]⟩ := by
      rw [add, if_neg fun hc ↦ hmem (List.contains_iff_mem.1 hc)]
    rw [hadd, get?, get?, List.find?_append, List.find?_singleton]
    by_cases hname : name = l.name
    · simp [hname]
    · simp [hname, Ne.symm hname]

/-- A registered lexeme is there, and no name is lost. -/
theorem mem_names_register : name ∈ (s.register l).names ↔ name = l.name ∨ name ∈ s.names := by
  rw [names_register]
  split
  · next hmem =>
    constructor
    · exact .inr
    · rintro (rfl | hname)
      · exact hmem
      · exact hname
  · rw [List.mem_append, List.mem_singleton, or_comm]

/-- A lexeme is found under its name if no other has it. -/
theorem get?_of_mem (h : s.names.Nodup) (hl : l ∈ s.lexemes) : s.get? l.name = some l := by
  obtain ⟨_, ls⟩ := s
  unfold names get? at *
  induction ls with
  | nil => cases hl
  | cons k ks ih =>
    rw [List.map_cons, List.nodup_cons] at h
    rcases List.mem_cons.mp hl with rfl | hl
    · simp
    · have hother : (k.name == l.name) = false := by
        rw [beq_eq_false_iff_ne]
        intro heq
        exact h.1 (heq ▸ List.mem_map_of_mem hl)
      rw [List.find?_cons, hother]
      exact ih h.2 hl

/-- Lexemes of names that are there already change nothing. -/
theorem update_of_mem (h : ∀ l ∈ ls, l.name ∈ s.names) : s.update ls = s := by
  induction ls with
  | nil => rfl
  | cons l ls ih =>
    obtain ⟨hl, hrest⟩ := List.forall_mem_cons.1 h
    rw [update, List.foldl_cons, add_of_mem hl]
    exact ih hrest

/-- The last of the lexemes that are added is added last. -/
theorem update_concat (s : State) (ls : List Lexeme) (l : Lexeme) :
    s.update (ls ++ [l]) = (s.update ls).add l := by
  rw [update, List.foldl_append]
  rfl

end State

/-! ### The declared rules -/

/-- A rule as it was declared, its name read. -/
structure DeclaredRule where
  name : RuleName
  pattern : Pattern
  action : Option Action

namespace DeclaredRule

/-- The lexeme that a rule makes, if its pattern compiles. -/
def lexeme? (r : DeclaredRule) : Option Lexeme :=
  r.pattern.compile.toOption.map fun matcher ↦ ⟨r.name.token, matcher, r.action⟩

/-- Whether a rule reaches a state: it belongs to it, or to the initial state that it inherits. -/
def Reaches (states : List (String × StateKind)) (state : String) (r : DeclaredRule) : Prop :=
  state ∈ r.name.targets ∨ (Inherits states state ∧ initialState ∈ r.name.targets)

instance (states : List (String × StateKind)) (state : String) :
    DecidablePred (Reaches states state) :=
  fun _ ↦ inferInstanceAs (Decidable (_ ∨ _))

/-- The lexeme of a rule has the name of the rule's tokens. -/
theorem name_of_lexeme? {r : DeclaredRule} {l : Lexeme} (h : r.lexeme? = some l) :
    l.name = r.name.token := by
  obtain ⟨matcher, _, rfl⟩ := Option.map_eq_some_iff.1 h
  rfl

end DeclaredRule

/-- The rules among declarations, in order, given which names are states. -/
def declaredRules (isState : String → Bool) (ds : List Declaration) : List DeclaredRule :=
  ds.filterMap fun d ↦ match d with
    | .rule raw pattern action => some ⟨.resolve isState raw, pattern, action⟩
    | _ => none

/-- The lexemes of the rules that belong to a state itself, in order. -/
def ownLexemes (state : String) (rules : List DeclaredRule) : List Lexeme :=
  (rules.filter (state ∈ ·.name.targets)).filterMap (·.lexeme?)

/-- The names of the rules that reach a state, each where it came first. -/
def reachingNames (states : List (String × StateKind)) (state : String)
    (rules : List DeclaredRule) : List String :=
  ((rules.filter (DeclaredRule.Reaches states state)).map (·.name.token)).eraseDups

/-- Every name that reaches a state is there once. -/
theorem nodup_reachingNames (states : List (String × StateKind)) (state : String)
    (rules : List DeclaredRule) : (reachingNames states state rules).Nodup :=
  nodup_eraseDups _

/-- The names that reach a state are those of the rules that do. -/
theorem mem_reachingNames_iff {states : List (String × StateKind)} {state name : String}
    {rules : List DeclaredRule} : name ∈ reachingNames states state rules ↔
      ∃ r ∈ rules, r.Reaches states state ∧ r.name.token = name := by
  simp [reachingNames, List.mem_eraseDups, and_assoc]

/-- One more rule puts its name last, unless it is there. -/
theorem reachingNames_concat (states : List (String × StateKind)) (state : String)
    (rules : List DeclaredRule) (r : DeclaredRule) :
    reachingNames states state (rules ++ [r]) =
      if r.Reaches states state ∧ r.name.token ∉ reachingNames states state rules then
        reachingNames states state rules ++ [r.name.token]
      else reachingNames states state rules := by
  unfold reachingNames
  rw [List.filter_append]
  by_cases hr : r.Reaches states state
  · rw [List.filter_cons_of_pos (by simpa using hr), List.filter_nil, List.map_append,
      List.map_singleton, eraseDups_concat]
    by_cases hmem : r.name.token ∈
        ((rules.filter (DeclaredRule.Reaches states state)).map (·.name.token)).eraseDups
    · simp [hmem]
    · simp [hmem, hr]
  · rw [List.filter_cons_of_neg (by simpa using hr), List.filter_nil, List.append_nil]
    simp [hr]

/-- One more rule gives its lexeme to the states that it belongs to. -/
theorem ownLexemes_concat {r : DeclaredRule} {l : Lexeme} (hl : r.lexeme? = some l)
    (state : String) (rules : List DeclaredRule) :
    ownLexemes state (rules ++ [r]) =
      if state ∈ r.name.targets then ownLexemes state rules ++ [l]
      else ownLexemes state rules := by
  unfold ownLexemes
  rw [List.filter_append]
  by_cases hstate : state ∈ r.name.targets
  · simp [hstate, hl]
  · simp [hstate]

end ModalLexer
