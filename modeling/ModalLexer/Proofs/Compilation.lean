import ModalLexer.Declaration

/-!
# What compiling keeps

Compiling starts from a draft and applies declarations to it in order, so whatever every declaration
keeps holds of the draft that is finished (`ofDeclarations_invariant`). The draft's tables are
changed for several names at once; the lemmas on tables say what that does to each name.
-/

namespace ModalLexer

/-! ### Names where they came first -/

/-- One more name comes last, unless it is there. -/
theorem eraseDups_concat (names : List String) (name : String) :
    (names ++ [name]).eraseDups =
      if name ∈ names.eraseDups then names.eraseDups else names.eraseDups ++ [name] := by
  rw [List.eraseDups_append]
  by_cases hmem : name ∈ names
  · simp [List.removeAll, hmem, List.mem_eraseDups]
  · simp [List.removeAll, hmem, List.mem_eraseDups, List.eraseDups_cons]

/-- Without repetitions every name is there once. -/
theorem nodup_eraseDups (names : List String) : names.eraseDups.Nodup := by
  cases names with
  | nil => simp
  | cons name names =>
    rw [List.eraseDups_cons, List.nodup_cons]
    constructor
    · simp [List.mem_eraseDups]
    · exact nodup_eraseDups _
termination_by names.length
decreasing_by
  have hlength := List.length_filter_le (fun key ↦ !key == name) names
  rw [List.length_cons]
  omega

/-! ### Changes for several names -/

namespace Table

variable {α : Type u}

private theorem mem_map_fst_iff {key : String} {entries : List (String × α)} :
    key ∈ entries.map (·.1) ↔ (find? key entries).isSome := by
  induction entries with
  | nil => simp [find?]
  | cons e entries ih =>
    obtain ⟨k, v⟩ := e
    rw [find?, List.map_cons, List.mem_cons, ih]
    split
    · next hk => simp [hk]
    · next hk => simp [Ne.symm hk]

/-- The names of a table are those that have a value. -/
theorem mem_names_iff {t : Table α} {key : String} : key ∈ t.names ↔ (t.get? key).isSome :=
  mem_map_fst_iff

/-- A value is found under its name if no name is there twice. -/
theorem find?_eq_some_iff {entries : List (String × α)} (h : (entries.map (·.1)).Nodup)
    {key : String} {value : α} : find? key entries = some value ↔ (key, value) ∈ entries := by
  induction entries with
  | nil => simp [find?]
  | cons e entries ih =>
    obtain ⟨k, v⟩ := e
    obtain ⟨hnew, hrest⟩ := List.nodup_cons.1 h
    rw [find?, List.mem_cons]
    split
    · next hk =>
      subst hk
      have hout : (k, value) ∉ entries := fun hmem ↦ hnew (List.mem_map.2 ⟨_, hmem, rfl⟩)
      simp [hout, eq_comm]
    · next hk =>
      rw [ih hrest]
      simp [Ne.symm hk]

private theorem map_fst_insertIn (name : String) (value : α) (entries : List (String × α)) :
    (insertIn name value entries).map (·.1) =
      if name ∈ entries.map (·.1) then entries.map (·.1) else entries.map (·.1) ++ [name] := by
  induction entries with
  | nil => rfl
  | cons e entries ih =>
    obtain ⟨k, v⟩ := e
    rw [insertIn]
    split
    · next hk => simp [hk]
    · next hk =>
      rw [List.map_cons, ih]
      by_cases hmem : name ∈ entries.map (·.1)
      · simp [hmem]
      · simp [hmem, Ne.symm hk]

/-- Insertions leave each name where it came first. -/
theorem map_fst_foldl_insertIn (pairs : List (String × α)) {entries : List (String × α)}
    {names : List String} (h : entries.map (·.1) = names.eraseDups) :
    (pairs.foldl (fun entries pair ↦ insertIn pair.1 pair.2 entries) entries).map (·.1) =
      (names ++ pairs.map (·.1)).eraseDups := by
  induction pairs generalizing entries names with
  | nil => simpa using h
  | cons pair pairs ih =>
    rw [List.foldl_cons, List.map_cons, ← List.singleton_append, ← List.append_assoc]
    apply ih
    rw [map_fst_insertIn, h, eraseDups_concat]

private theorem find?_concat (key : String) (entries : List (String × α)) (e : String × α) :
    find? key (entries ++ [e]) = (find? key entries).or (if key = e.1 then some e.2 else none) := by
  induction entries with
  | nil => simp [find?, eq_comm]
  | cons e' entries ih =>
    rw [List.cons_append, find?, find?, ih]
    split
    · rfl
    · rfl

/-- After insertions a name has the value that was inserted last. -/
theorem find?_foldl_insertIn (key : String) (pairs entries : List (String × α)) :
    find? key (pairs.foldl (fun entries pair ↦ insertIn pair.1 pair.2 entries) entries) =
      (find? key pairs.reverse).or (find? key entries) := by
  induction pairs generalizing entries with
  | nil => rfl
  | cons pair pairs ih =>
    rw [List.foldl_cons, ih, find?_insertIn, List.reverse_cons, find?_concat, Option.or_assoc]
    split
    · rfl
    · rfl

/-- Changing the values of some names touches no other name. -/
theorem get?_foldl_modify {names : List String} (h : names.Nodup) (start : String → α) (f : α → α)
    (t : Table α) (key : String) :
    (names.foldl (fun t name ↦ t.modify name (start name) f) t).get? key =
      if key ∈ names then some (f ((t.get? key).getD (start key))) else t.get? key := by
  induction names generalizing t with
  | nil => rfl
  | cons name names ih =>
    obtain ⟨hnew, hrest⟩ := List.nodup_cons.1 h
    rw [List.foldl_cons, ih hrest, get?_modify]
    by_cases hkey : key = name
    · subst hkey
      simp [hnew]
    · simp [hkey]

/-- Giving some names a value each touches no other name. -/
theorem get?_foldl_insert (names : List String) (value : String → α) (t : Table α) (key : String) :
    (names.foldl (fun t name ↦ t.insert name (value name)) t).get? key =
      if key ∈ names then some (value key) else t.get? key := by
  induction names generalizing t with
  | nil => rfl
  | cons name names ih =>
    rw [List.foldl_cons, ih, get?_insert]
    by_cases hmem : key ∈ names
    · simp [hmem]
    · by_cases hkey : key = name
      · simp [hkey]
      · simp [hmem, hkey]

/-- Giving a value to those of some names that have none touches nothing else. -/
theorem get?_foldl_insertNew (names : List String) (value : α) (t : Table α) (key : String) :
    (names.foldl (fun t name ↦ t.insertNew name value) t).get? key =
      if key ∈ names then some ((t.get? key).getD value) else t.get? key := by
  induction names generalizing t with
  | nil => rfl
  | cons name names ih =>
    rw [List.foldl_cons, ih, get?_insertNew]
    by_cases hkey : key = name
    · simp [hkey]
    · simp [hkey]

end Table

/-- What declarations say does not change with one that says nothing. -/
theorem filterMap_concat_none {β : Type} {f : Declaration → Option β} {seen : List Declaration}
    {decl : Declaration} (h : f decl = none) :
    (seen ++ [decl]).filterMap f = seen.filterMap f := by
  rw [List.filterMap_append, List.filterMap_cons_none h, List.filterMap_nil, List.append_nil]

/-! ### The declared states -/

/-- Whether a state takes over what the initial state has: it is another one, and inclusive. -/
def Inherits (states : List (String × StateKind)) (state : String) : Prop :=
  Table.find? state states = some .inclusive ∧ state ≠ initialState

instance (states : List (String × StateKind)) (state : String) :
    Decidable (Inherits states state) :=
  inferInstanceAs (Decidable (_ ∧ _))

/-- The initial state takes over nothing. -/
theorem not_inherits_initialState (states : List (String × StateKind)) :
    ¬ Inherits states initialState :=
  fun h ↦ h.2 rfl

/-- The states that declarations give kinds, in order, each as often as it is given one. -/
def stateDeclarations (ds : List Declaration) : List (String × StateKind) :=
  ds.flatMap fun d ↦ match d with | .states states => states | _ => []

/-- The kind that a state is given last. -/
def lastKind? (state : String) (pairs : List (String × StateKind)) : Option StateKind :=
  Table.find? state pairs.reverse

/-- The initial state is declared first, and the others where they are first given a kind. -/
theorem names_declaredStates (ds : List Declaration) : (declaredStates ds).map (·.1) =
    (initialState :: (stateDeclarations ds).map (·.1)).eraseDups := by
  have hstart : [(initialState, StateKind.inclusive)].map (·.1) = [initialState].eraseDups := rfl
  exact Table.map_fst_foldl_insertIn (stateDeclarations ds) hstart

/-- A state is of the kind that it is given last; the initial state is inclusive if it is given
none. -/
theorem find?_declaredStates (ds : List Declaration) (state : String) :
    Table.find? state (declaredStates ds) = (lastKind? state (stateDeclarations ds)).or
      (if initialState = state then some .inclusive else none) :=
  Table.find?_foldl_insertIn state (stateDeclarations ds) [(initialState, .inclusive)]

/-- No state is declared twice. -/
theorem nodup_declaredStates (ds : List Declaration) : ((declaredStates ds).map (·.1)).Nodup := by
  rw [names_declaredStates]
  exact nodup_eraseDups _

/-- The initial state is declared. -/
theorem isSome_find?_initialState (ds : List Declaration) :
    (Table.find? initialState (declaredStates ds)).isSome := by
  rw [find?_declaredStates, if_pos rfl, Option.isSome_or, Option.isSome_some, Bool.or_true]

namespace Draft

/-- The states that take over what the initial one has are listed once each. -/
theorem nodup_inclusiveStates {d : Draft} (h : (d.states.map (·.1)).Nodup) :
    d.inclusiveStates.Nodup :=
  h.sublist (List.filter_sublist.map _)

/-- These states are those that take over what the initial one has. -/
theorem mem_inclusiveStates_iff {d : Draft} (h : (d.states.map (·.1)).Nodup) {state : String} :
    state ∈ d.inclusiveStates ↔ Inherits d.states state := by
  rw [Inherits, Table.find?_eq_some_iff h, inclusiveStates]
  simp only [List.mem_map, List.mem_filter, Bool.and_eq_true, beq_iff_eq, bne_iff_ne]
  constructor
  · rintro ⟨⟨name, kind⟩, ⟨hmem, rfl, hne⟩, rfl⟩
    exact ⟨hmem, hne⟩
  · rintro ⟨hmem, hne⟩
    exact ⟨_, ⟨hmem, rfl, hne⟩, rfl⟩

/-- The draft that declarations start from has no rules and no settings. -/
theorem start_eq_ok {ds : List Declaration} {d : Draft} (h : start ds = .ok d) :
    d = ⟨declaredTokens ds, declaredStates ds, Table.empty.insert initialState (.new initialState),
      .empty, .empty, []⟩ := by
  unfold start at h
  simp only at h
  split at h
  · cases h
  · split at h
    · cases h
    · cases h
      rfl

/-! ### Invariants -/

/-- What every declaration keeps is kept by all. -/
theorem applyAll_invariant {I : Draft → List Declaration → Prop}
    (hstep : ∀ {d d' : Draft} {seen : List Declaration} {decl : Declaration}, I d seen →
      d.apply decl = .ok d' → I d' (seen ++ [decl]))
    {d d' : Draft} {seen ds : List Declaration} (h : I d seen)
    (happly : (d.applyAll ds).2 = .ok d') : I d' (seen ++ ds) := by
  induction ds generalizing d seen with
  | nil =>
    cases happly
    rw [List.append_nil]
    exact h
  | cons decl ds ih =>
    rw [applyAll] at happly
    cases hdecl : d.apply decl with
    | error e => simp [hdecl] at happly
    | ok d₁ =>
      simp only [hdecl] at happly
      have := ih (hstep h hdecl) happly
      rwa [List.append_assoc] at this

end Draft

/-- Compiled rules are finished from a draft of which everything holds that holds at the start and
that every declaration keeps. -/
theorem RuleSet.ofDeclarations_invariant {I : Draft → List Declaration → Prop}
    {ds : List Declaration} {r : RuleSet} (hstart : ∀ {d : Draft}, Draft.start ds = .ok d → I d [])
    (hstep : ∀ {d d' : Draft} {seen : List Declaration} {decl : Declaration}, I d seen →
      d.apply decl = .ok d' → I d' (seen ++ [decl]))
    (h : ofDeclarations ds = .ok r) : ∃ d, I d ds ∧ r = d.finish := by
  rw [ofDeclarations, build] at h
  cases hd : Draft.start ds with
  | error e => simp [hd] at h
  | ok d =>
    simp only [hd] at h
    cases happly : (d.applyAll ds).2 with
    | error e => simp [happly, Except.map] at h
    | ok d' =>
      simp only [happly, Except.map, Except.ok.injEq] at h
      exact ⟨d', Draft.applyAll_invariant hstep (hstart hd) happly, h.symm⟩

end ModalLexer
