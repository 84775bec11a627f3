import ModalLexer.Proofs.Acceptance
import ModalLexer.Proofs.Progress
import ModalLexer.Proofs.Resumption

/-!
# Other engines for regular expressions

Little depends on how regular expressions are searched for. `Declaration.under` leaves them to an
arbitrary engine. What it finds depends on the rest of the text only, since it is given nothing else
(`RuleSet.positionIndependent_under`). If it only finds matches that end where a text may be cut,
each is the match of the pattern unless it is empty (`Pattern.lengthAt_under`). Whether declarations
compile, and the error if not, depends on which texts it refuses
(`RuleSet.exists_ofDeclarations_under_iff`, `RuleSet.ofDeclarations_under_eq_error_iff`). The engine
that is built in is one of them: under it patterns compile and match just as they do by themselves.
-/

namespace ModalLexer

open Text (Spot)

/-- A text may be cut after any number of characters. -/
private theorem splitBytes?_take (n : Nat) (text : List Char) :
    Text.splitBytes? (Text.utf8Length (text.take n)) text = some (text.take n, text.drop n) :=
  Text.splitBytes?_eq_some_iff.2 ⟨(List.take_append_drop n text).symm, rfl⟩

/-- An engine for regular expressions. It makes a search of a text, unless it refuses the text, and
a search says where the match ends that it finds, in bytes from the start of what is searched. -/
structure Regex.Engine where
  search? : String → Option (List Char → Option Nat)

namespace Regex.Engine

/-- Whether all matches that an engine finds end where what is searched may be cut. -/
def EndsAtBoundaries (E : Engine) : Prop :=
  ∀ source search, E.search? source = some search →
    ∀ text n, search text = some n → Text.IsBoundary text n

/-- Whether an engine refuses none of the regular expressions in a pattern. -/
def Accepts (E : Engine) : Pattern → Prop
  | .literal _ | .charClass _ | .custom _ => True
  | .repetition inner _ _ => E.Accepts inner
  | .regex source => (E.search? (Pattern.anchoredSource source)).isSome = true

/-- The engine that is built in. -/
def builtIn : Engine where
  search? source := (compile source).toOption.map fun r text ↦
    (r.search text).map fun n ↦ Text.utf8Length (text.take n)

/-- The built-in engine searches for what compiles. -/
private theorem search?_builtIn_of_ok {source : String} {r : Regex} (h : compile source = .ok r) :
    builtIn.search? source =
      some fun text ↦ (r.search text).map fun n ↦ Text.utf8Length (text.take n) := by
  simp only [builtIn, h]
  rfl

/-- The built-in engine refuses what does not compile. -/
private theorem search?_builtIn_of_error {source : String} {reason : SyntaxError}
    (h : compile source = .error reason) : builtIn.search? source = none := by
  simp only [builtIn, h]
  rfl

/-- The matches that the built-in engine finds end where the text may be cut. -/
theorem builtIn_endsAtBoundaries : builtIn.EndsAtBoundaries := by
  intro source search hsearch text n h
  obtain ⟨r, _, rfl⟩ := Option.map_eq_some_iff.1 hsearch
  obtain ⟨count, _, rfl⟩ := Option.map_eq_some_iff.1 h
  rw [Text.IsBoundary, splitBytes?_take]
  rfl

end Regex.Engine

open Regex (Engine)

variable {E E' : Engine}

/-! ### Patterns -/

namespace Pattern

/-- A pattern with its regular expressions left to an engine. Each of them becomes a matcher written
by hand that searches what lies ahead; one that is refused becomes one that does not compile. -/
def under (E : Engine) : Pattern → Pattern
  | literal text => .literal text
  | charClass set => .charClass set
  | repetition inner least most => .repetition (inner.under E) least most
  | regex source =>
    match E.search? (anchoredSource source) with
    | some search => .custom fun s ↦ search s.ahead
    | none => .regex "("
  | custom matcher => .custom matcher

/-- Whether the matchers written by hand in a pattern look at what lies ahead only. -/
def LooksAhead : Pattern → Prop
  | literal _ | charClass _ | regex _ => True
  | repetition inner _ _ => inner.LooksAhead
  | custom matcher => ∀ s, matcher s = matcher (.start s.ahead)

variable {p : Pattern} {m : Matcher}

/-- A repetition compiles just if what it repeats does. -/
private theorem compile_repetition_eq_ok_iff {least : Nat} {most : Option Nat} :
    (repetition p least most).compile = .ok m ↔
      ∃ inner, p.compile = .ok inner ∧ m = .repetition inner least most := by
  rw [compile]
  cases p.compile with
  | error reason => exact iff_of_false (fun h ↦ by cases h) (by simp)
  | ok inner => simp [eq_comm, pure, Except.pure, bind, Except.bind]

/-- Under an engine a pattern compiles unless a regular expression in it is refused. -/
private theorem compile_under (E : Engine) (p : Pattern) :
    (E.Accepts p ∧ ∃ m, (p.under E).compile = .ok m) ∨
      (¬ E.Accepts p ∧ (p.under E).compile = .error .groupUnclosed) := by
  induction p with
  | literal | charClass | custom => exact .inl ⟨trivial, _, rfl⟩
  | repetition inner least most ih =>
    rw [Engine.Accepts, under, compile]
    rcases ih with ⟨haccepts, m, hm⟩ | ⟨hrefuses, herror⟩
    · exact .inl ⟨haccepts, .repetition m least most, by rw [hm]; rfl⟩
    · exact .inr ⟨hrefuses, by rw [herror]; rfl⟩
  | regex source =>
    rw [Engine.Accepts, under]
    cases E.search? (anchoredSource source) with
    | some search => exact .inl ⟨rfl, _, rfl⟩
    | none => exact .inr ⟨Bool.false_ne_true, rfl⟩

/-- Patterns that compile under an engine are those that it accepts. -/
theorem exists_compile_under_iff : (∃ m, (p.under E).compile = .ok m) ↔ E.Accepts p := by
  rcases compile_under E p with ⟨haccepts, hcompile⟩ | ⟨hrefuses, herror⟩
  · exact iff_of_true hcompile haccepts
  · simp [herror, hrefuses]

/-- All others are refused for one reason. -/
theorem compile_under_eq_error_iff {reason : Regex.SyntaxError} :
    (p.under E).compile = .error reason ↔ ¬ E.Accepts p ∧ reason = .groupUnclosed := by
  rcases compile_under E p with ⟨haccepts, m, hm⟩ | ⟨hrefuses, herror⟩
  · simp [hm, haccepts]
  · simp [herror, hrefuses, eq_comm]

/-- What an engine finds depends on what lies ahead only. -/
theorem positionIndependent_of_compile_under (hp : p.LooksAhead)
    (h : (p.under E).compile = .ok m) : m.PositionIndependent := by
  induction p generalizing m with
  | literal | charClass =>
    cases h
    trivial
  | custom matcher =>
    cases h
    exact hp
  | repetition inner least most ih =>
    obtain ⟨matcher, hinner, rfl⟩ := compile_repetition_eq_ok_iff.1 h
    have hmatcher : matcher.PositionIndependent := ih hp hinner
    exact hmatcher
  | regex source =>
    rw [under] at h
    split at h
    · cases h
      exact fun _ ↦ rfl
    · cases h

/-- A regular expression matches at an offset what the engine finds in the rest of the text, unless
that is empty. -/
theorem lengthAt_under {source : String} {search : List Char → Option Nat}
    (hE : E.EndsAtBoundaries) (hsearch : E.search? (anchoredSource source) = some search)
    (h : ((regex source).under E).compile = .ok m) (text : List Char) (offset : Nat) :
    m.lengthAt text offset =
      (Spot.at? text offset).bind fun s ↦ (search s.ahead).filter (0 < ·) := by
  rw [under, hsearch] at h
  cases h
  rw [Matcher.lengthAt]
  congr 1
  funext s
  rw [Matcher.span?, Matcher.rawSpan?]
  cases hfound : search s.ahead with
  | none => rfl
  | some n =>
    obtain ⟨⟨front, back⟩, hsplit⟩ := Option.isSome_iff_exists.1 (hE _ _ hsearch _ _ hfound)
    obtain ⟨hahead, rfl⟩ := Text.splitBytes?_eq_some_iff.1 hsplit
    rw [Option.bind_some, hsplit, Option.map_some]
    cases front with
    | nil => rfl
    | cons c cs =>
      have hpos : 0 < Text.utf8Length (c :: cs) := by
        rw [Text.utf8Length_cons]
        exact Nat.add_pos_left (Char.utf8Size_pos c) _
      rw [Option.filter_some_pos (by simp), Option.filter_some_pos (by simpa using hpos),
        Option.map_some, hahead, List.take_left]

/-- The built-in engine accepts the patterns that compile. -/
theorem accepts_builtIn_iff : Engine.builtIn.Accepts p ↔ ∃ m, p.compile = .ok m := by
  induction p with
  | literal | charClass | custom => exact iff_of_true trivial ⟨_, rfl⟩
  | repetition inner least most ih =>
    rw [Engine.Accepts, ih, compile]
    cases inner.compile with
    | error reason => simp
    | ok m => exact iff_of_true ⟨_, rfl⟩ ⟨_, rfl⟩
  | regex source =>
    rw [Engine.Accepts, compile]
    cases hcompile : Regex.compile (anchoredSource source) with
    | error reason => simp [Regex.Engine.search?_builtIn_of_error hcompile]
    | ok r => exact iff_of_true (by rw [Regex.Engine.search?_builtIn_of_ok hcompile]; rfl) ⟨_, rfl⟩

/-- Under the built-in engine a pattern matches what it matches by itself. -/
theorem rawSpan?_under_builtIn {m' : Matcher} (h : p.compile = .ok m)
    (h' : (p.under .builtIn).compile = .ok m') : m'.rawSpan? = m.rawSpan? := by
  induction p generalizing m m' with
  | literal | charClass | custom =>
    cases h
    cases h'
    rfl
  | repetition inner least most ih =>
    obtain ⟨matcher, hinner, rfl⟩ := compile_repetition_eq_ok_iff.1 h
    obtain ⟨matcher', hinner', rfl⟩ := compile_repetition_eq_ok_iff.1 h'
    funext s
    rw [Matcher.rawSpan?, Matcher.rawSpan?, ih hinner hinner']
  | regex source =>
    rw [compile] at h
    cases hcompile : Regex.compile (anchoredSource source) with
    | error reason =>
      rw [hcompile] at h
      cases h
    | ok r =>
      rw [hcompile] at h
      rw [under, Regex.Engine.search?_builtIn_of_ok hcompile] at h'
      cases h
      cases h'
      funext s
      simp only [Matcher.rawSpan?]
      cases hfound : r.search s.ahead with
      | none => rfl
      | some n =>
        have hsplit := splitBytes?_take n s.ahead
        rw [Option.map_some, Option.bind_some, hsplit, Option.map_some,
          List.length_take_of_le (Regex.search_le hfound)]

end Pattern

/-! ### Declarations -/

/-- A declaration with its pattern left to an engine. -/
def Declaration.under (E : Engine) : Declaration → Declaration
  | .rule name pattern action => .rule name (pattern.under E) action
  | d => d

/-- A declared rule with its pattern left to an engine. -/
def DeclaredRule.under (E : Engine) (r : DeclaredRule) : DeclaredRule :=
  { r with pattern := r.pattern.under E }

section Declarations

variable {ds : List Declaration}

/-- An engine has nothing to do with the declared tokens. -/
theorem declaredTokens_under (E : Engine) (ds : List Declaration) :
    declaredTokens (ds.map (·.under E)) = declaredTokens ds := by
  rw [declaredTokens, declaredTokens, List.foldl_map]
  congr 1
  funext names d
  cases d <;> rfl

/-- An engine has nothing to do with the declared states. -/
theorem declares_under (E : Engine) (ds : List Declaration) :
    declares (ds.map (·.under E)) = declares ds := by
  have hstates : declaredStates (ds.map (·.under E)) = declaredStates ds := by
    rw [declaredStates, declaredStates, List.flatMap_map]
    congr 2
    funext d
    cases d <;> rfl
  funext state
  rw [declares, declares, hstates]

/-- An engine changes the patterns of declared rules only. -/
theorem declaredRules_under (E : Engine) (isState : String → Bool) (ds : List Declaration) :
    declaredRules isState (ds.map (·.under E)) = (declaredRules isState ds).map (·.under E) := by
  rw [declaredRules, declaredRules, List.filterMap_map, List.map_filterMap]
  congr 1
  funext d
  cases d <;> rfl

/-- The keys of rules are the same under every engine. -/
theorem keys_under (E : Engine) (rules : List DeclaredRule) :
    (rules.map (·.under E)).flatMap (·.name.keys) = rules.flatMap (·.name.keys) := by
  rw [List.flatMap_map]
  rfl

/-- A name clashes with the same rules under every engine. -/
theorem clashes_under_iff {n : RuleName} {rules : List DeclaredRule} :
    n.Clashes (rules.map (·.under E)) ↔ n.Clashes rules := by
  simp [RuleName.Clashes, DeclaredRule.under]

/-- A rule makes a lexeme of the matcher that its pattern compiles to. -/
private theorem compile_of_lexeme? {r : DeclaredRule} {l : Lexeme} (h : r.lexeme? = some l) :
    r.pattern.compile = .ok l.matcher := by
  unfold DeclaredRule.lexeme? at h
  cases hcompile : r.pattern.compile with
  | error reason =>
    rw [hcompile] at h
    cases h
  | ok matcher =>
    rw [hcompile] at h
    cases h
    rfl

/-- Rules whose matchers written by hand look at what lies ahead only do so under every engine. -/
theorem RuleSet.positionIndependent_under {r : RuleSet}
    (h : ofDeclarations (ds.map (·.under E)) = .ok r)
    (hds : ∀ rule ∈ declaredRules r.hasState ds, rule.pattern.LooksAhead) :
    r.PositionIndependent := by
  obtain ⟨d, hstates, hfollows, rfl⟩ := follows_of_ofDeclarations h
  have hown {name : String} {l : Lexeme}
      (hl : l ∈ ownLexemes name (declaredRules d.hasState (ds.map (·.under E)))) :
      l.matcher.PositionIndependent := by
    obtain ⟨rule', hrule', hlexeme⟩ := List.mem_filterMap.1 hl
    have hmem := List.mem_of_mem_filter hrule'
    rw [declaredRules_under] at hmem
    obtain ⟨rule, hrule, rfl⟩ := List.mem_map.1 hmem
    exact Pattern.positionIndependent_of_compile_under (hds rule hrule)
      (compile_of_lexeme? hlexeme)
  intro state l hl
  rw [lexemes_finish hfollows (hstates ▸ nodup_declaredStates _)] at hl
  rcases hfollows.own_or_inherited hl with hl | ⟨_, hl, _⟩
  · exact hown hl
  · exact hown hl

/-- Declarations compile under an engine just if it accepts all patterns and nothing else is
wrong. -/
theorem RuleSet.exists_ofDeclarations_under_iff :
    (∃ r, ofDeclarations (ds.map (·.under E)) = .ok r) ↔
      declaredTokens ds ≠ [] ∧ (∀ name ∈ declaredTokens ds, IsTokenName name) ∧
        (declaredTokens ds).Nodup ∧
        (∀ rule ∈ declaredRules (declares ds) ds, rule.name.Allowed (declaredTokens ds)) ∧
        (∀ rule ∈ declaredRules (declares ds) ds, E.Accepts rule.pattern) ∧
        ((declaredRules (declares ds) ds).flatMap (·.name.keys)).Nodup := by
  have hcompiles : (∀ rule ∈ (declaredRules (declares ds) ds).map (·.under E),
        ∃ matcher, rule.pattern.compile = .ok matcher) ↔
      ∀ rule ∈ declaredRules (declares ds) ds, E.Accepts rule.pattern := by
    rw [List.forall_mem_map]
    exact forall₂_congr fun rule _ ↦ Pattern.exists_compile_under_iff
  rw [exists_ofDeclarations_iff, ← hcompiles]
  constructor
  · rintro ⟨hne, hnamed, hnodup, hallowed, haccepts, hkeys⟩
    rw [declares_under, declaredRules_under] at hallowed haccepts hkeys
    rw [declaredTokens_under] at hne hnamed hnodup hallowed
    rw [keys_under] at hkeys
    refine ⟨hne, hnamed, hnodup, fun rule hrule ↦ ?_, haccepts, hkeys⟩
    exact hallowed (rule.under E) (List.mem_map_of_mem hrule)
  · rintro ⟨hne, hnamed, hnodup, hallowed, haccepts, hkeys⟩
    constructor
    all_goals
      simp only [declaredTokens_under, declares_under, declaredRules_under, keys_under]
    · exact hne
    · exact hnamed
    · exact hnodup
    · rw [List.forall_mem_map]
      exact hallowed
    · exact haccepts
    · exact hkeys

/-- The first fault stays the first if each item is made another that is at fault just where it is
itself. -/
private theorem firstFault_map {α β ε : Type} {Fault : List β → β → ε → Prop} {f g : α → β}
    (h : ∀ (earlier : List α) (x : α) (e : ε),
      Fault (earlier.map f) (f x) e ↔ Fault (earlier.map g) (g x) e)
    (earlier xs : List α) {e : ε} (hfirst : FirstFault Fault (earlier.map f) (xs.map f) e) :
    FirstFault Fault (earlier.map g) (xs.map g) e := by
  induction xs generalizing earlier with
  | nil => exact absurd hfirst not_firstFault_nil
  | cons x xs ih =>
    cases hfirst with
    | here hx => exact .here ((h earlier x e).1 hx)
    | later hx hxs =>
      have hrest := ih (earlier ++ [x])
      rw [List.map_append, List.map_append] at hrest
      exact .later (fun e' hx' ↦ hx e' ((h earlier x e').2 hx')) (hrest hxs)

/-- Engines that refuse the same texts accept the same patterns. -/
theorem Regex.Engine.accepts_congr
    (h : ∀ source, (E.search? source).isSome = (E'.search? source).isSome) (p : Pattern) :
    E.Accepts p ↔ E'.Accepts p := by
  induction p with
  | literal | charClass | custom => exact Iff.rfl
  | repetition inner least most ih => exact ih
  | regex source => rw [Accepts, Accepts, h]

/-- What is wrong with a rule is the same under engines that refuse the same texts. -/
private theorem ruleFault_under
    (h : ∀ source, (E.search? source).isSome = (E'.search? source).isSome) {tokens : List String}
    {isState : String → Bool} {earlier : List Declaration} {d : Declaration} {e : DefinitionError}
    (hfault : RuleFault tokens isState (earlier.map (·.under E)) (d.under E) e) :
    RuleFault tokens isState (earlier.map (·.under E')) (d.under E') e := by
  cases d with
  | tokens | states | ignore | error => cases hfault
  | rule raw pattern action =>
    have haccepts := Regex.Engine.accepts_congr h pattern
    rw [Declaration.under] at hfault ⊢
    cases hfault with
    | unnamed hempty => exact .unnamed hempty
    | undeclared hnamed hupper hundeclared => exact .undeclared hnamed hupper hundeclared
    | invalid hallowed herror =>
      rw [Pattern.compile_under_eq_error_iff, haccepts] at herror
      exact .invalid hallowed (Pattern.compile_under_eq_error_iff.2 herror)
    | redefined hallowed hcompile hclash =>
      obtain ⟨matcher, hcompile'⟩ := Pattern.exists_compile_under_iff.2
        (haccepts.1 (Pattern.exists_compile_under_iff.1 ⟨_, hcompile⟩))
      refine .redefined hallowed hcompile' ?_
      rw [declaredRules_under, clashes_under_iff] at hclash ⊢
      exact hclash

/-- Under engines that refuse the same texts declarations fail with the same error. -/
theorem RuleSet.ofDeclarations_under_eq_error_iff
    (h : ∀ source, (E.search? source).isSome = (E'.search? source).isSome) {e : DefinitionError} :
    ofDeclarations (ds.map (·.under E)) = .error e ↔
      ofDeclarations (ds.map (·.under E')) = .error e := by
  have hfault (earlier : List Declaration) (d : Declaration) (e : DefinitionError) :
      RuleFault (declaredTokens ds) (declares ds) (earlier.map (·.under E)) (d.under E) e ↔
        RuleFault (declaredTokens ds) (declares ds) (earlier.map (·.under E')) (d.under E') e :=
    ⟨ruleFault_under h, ruleFault_under fun source ↦ (h source).symm⟩
  have hfirst : FirstFault (RuleFault (declaredTokens ds) (declares ds)) []
        (ds.map (·.under E)) e ↔
      FirstFault (RuleFault (declaredTokens ds) (declares ds)) [] (ds.map (·.under E')) e :=
    ⟨firstFault_map hfault [] ds,
      firstFault_map (fun earlier d e ↦ (hfault earlier d e).symm) [] ds⟩
  rw [ofDeclarations_eq_error_iff, ofDeclarations_eq_error_iff, Draft.startable_iff,
    Draft.startable_iff, Draft.start_eq_error_iff, Draft.start_eq_error_iff]
  simp only [declaredTokens_under, declares_under]
  rw [hfirst]

/-- Under the built-in engine just those declarations compile that compile by themselves. -/
theorem RuleSet.exists_ofDeclarations_under_builtIn_iff :
    (∃ r, ofDeclarations (ds.map (·.under .builtIn)) = .ok r) ↔ ∃ r, ofDeclarations ds = .ok r := by
  rw [exists_ofDeclarations_under_iff, exists_ofDeclarations_iff]
  simp only [Pattern.accepts_builtIn_iff]
  constructor
  · rintro ⟨hne, hnamed, hnodup, hallowed, hcompiles, hkeys⟩
    exact ⟨hne, hnamed, hnodup, hallowed, hcompiles, hkeys⟩
  · rintro ⟨hne, hnamed, hnodup, hallowed, hcompiles, hkeys⟩
    exact ⟨hne, hnamed, hnodup, hallowed, hcompiles, hkeys⟩

end Declarations

end ModalLexer
