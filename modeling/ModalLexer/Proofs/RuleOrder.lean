import Mathlib.Data.List.Nodup
import ModalLexer.Proofs.Agreement
import ModalLexer.Proofs.DeclarationOrder

/-!
# The order of rules

Rules that are declared in another order make the same lexemes for each state, in another order
(`RuleSet.sameButOrder_of_rulesPermuted`), though a state's own lexeme may have taken the place of
an inherited one at any time. The order decides between matches of one length only. Where no two
lexemes have a longest match, the same one wins whatever the order (`Wins.perm`), and so scans agree
that come to no other places: actions see nothing of the rules but which states there are.
-/

namespace ModalLexer

open Text (Spot)

/-! ### Rules in another order -/

/-- Two lists of declarations have the same rules in some order each, and the same declarations of
every other kind in the same order. -/
structure RulesPermuted (ds es : List Declaration) : Prop where
  rules : (declarationsOf .rule ds).Perm (declarationsOf .rule es)
  others : ∀ kind, kind ≠ .rule → declarationsOf kind ds = declarationsOf kind es

section Lexemes

variable {rules rules' : List DeclaredRule} {name : String} {l : Lexeme} {d : Draft}

private theorem ownLexemes_perm (h : rules.Perm rules') (name : String) :
    (ownLexemes name rules).Perm (ownLexemes name rules') :=
  (h.filter _).filterMap _

/-- Every lexeme of a state itself comes from a rule that is remembered for the state. -/
private theorem sublist_keys (name : String) (rules : List DeclaredRule) :
    ((ownLexemes name rules).map fun l ↦ (name, l.name)).Sublist
      (rules.flatMap (·.name.keys)) := by
  induction rules with
  | nil => exact .slnil
  | cons r rules ih =>
    rw [List.flatMap_cons]
    unfold ownLexemes at ih ⊢
    by_cases hname : name ∈ r.name.targets
    · rw [List.filter_cons_of_pos (by simpa using hname)]
      cases hl : r.lexeme? with
      | none =>
        rw [List.filterMap_cons_none hl]
        exact ih.trans (List.sublist_append_right _ _)
      | some l =>
        rw [List.filterMap_cons_some hl, List.map_cons, ← List.singleton_append]
        refine .append (List.singleton_sublist.2 (List.mem_map.2 ⟨name, hname, ?_⟩)) ih
        rw [DeclaredRule.name_of_lexeme? hl]
    · rw [List.filter_cons_of_neg (by simpa using hname)]
      exact ih.trans (List.sublist_append_right _ _)

/-- No two rules of a state itself have one name. -/
theorem nodup_names_ownLexemes (h : (rules.flatMap (·.name.keys)).Nodup) (name : String) :
    ((ownLexemes name rules).map (·.name)).Nodup := by
  have hpairs := h.sublist (sublist_keys name rules)
  apply List.Nodup.of_map (fun token ↦ (name, token))
  rw [List.map_map]
  exact hpairs

namespace Draft.Follows

/-- Which lexemes a state has: its own, and those it inherits of other names. -/
theorem mem_lexemes_iff (h : d.Follows rules) : l ∈ (d.state name).lexemes ↔
    l ∈ ownLexemes name rules ∨
      (Inherits d.states name ∧ l ∈ ownLexemes initialState rules ∧
        ∀ k ∈ ownLexemes name rules, k.name ≠ l.name) := by
  refine ⟨h.own_or_inherited, fun hl ↦ ?_⟩
  by_cases hname : Inherits d.states name
  · apply List.mem_of_find?_eq_some (p := (·.name == l.name))
    change (d.state name).get? l.name = some l
    rw [h.inherited name hname, Option.or_eq_some_iff]
    rcases hl with hown | ⟨_, hinitial, hnone⟩
    · exact .inl (State.get?_of_mem (s := ⟨name, _⟩) (nodup_names_ownLexemes h.nodup name) hown)
    · refine .inr ⟨?_, State.get?_of_mem (s := ⟨initialState, _⟩)
        (nodup_names_ownLexemes h.nodup initialState) hinitial⟩
      rw [List.find?_eq_none]
      intro k hk heq
      exact hnone k hk (beq_iff_eq.1 heq)
  · rw [h.own name hname]
    exact hl.resolve_right fun hboth ↦ hname hboth.1

private theorem nodup_lexemes (h : d.Follows rules) (name : String) :
    (d.state name).lexemes.Nodup := by
  have hnames : (d.state name).names.Nodup := by
    rw [h.names_eq]
    exact nodup_reachingNames _ _ _
  exact hnames.of_map _

/-- Rules in another order give each state the same lexemes. -/
theorem lexemes_perm {d' : Draft} (h : d.Follows rules) (h' : d'.Follows rules')
    (hstates : d.states = d'.states) (hrules : rules.Perm rules') (name : String) :
    (d.state name).lexemes.Perm (d'.state name).lexemes := by
  rw [List.perm_ext_iff_of_nodup (h.nodup_lexemes name) (h'.nodup_lexemes name)]
  intro l
  rw [h.mem_lexemes_iff, h'.mem_lexemes_iff, hstates, (ownLexemes_perm hrules name).mem_iff,
    (ownLexemes_perm hrules initialState).mem_iff]
  have hown {P : Lexeme → Prop} :
      (∀ k ∈ ownLexemes name rules, P k) ↔ ∀ k ∈ ownLexemes name rules', P k :=
    forall_congr' fun k ↦ by rw [(ownLexemes_perm hrules name).mem_iff]
  rw [hown]

end Draft.Follows

end Lexemes

namespace RuleSet

variable {ds es : List Declaration} {r r' : RuleSet}

private theorem declaredRules_perm (h : RulesPermuted ds es) (isState : String → Bool) :
    (declaredRules isState ds).Perm (declaredRules isState es) := by
  unfold declaredRules
  rw [← filterMap_declarationsOf .rule ?_ ds, ← filterMap_declarationsOf .rule ?_ es]
  · exact h.rules.filterMap _
  all_goals
    intro d hd
    cases d with
    | rule => exact absurd rfl hd
    | _ => rfl

/-- Two rule sets say the same but for the order of the lexemes of each state. -/
structure SameButOrder (r r' : RuleSet) : Prop where
  states : r.states = r'.states
  lexemes : ∀ state, (r.lexemes state).Perm (r'.lexemes state)
  ignores : ∀ state, r.ignores.get? state = r'.ignores.get? state
  errors : ∀ state, r.errors.get? state = r'.errors.get? state

/-- Rules in another order compile to rule sets that say the same but for the order of lexemes. -/
theorem sameButOrder_of_rulesPermuted (h : RulesPermuted ds es) (hr : ofDeclarations ds = .ok r)
    (hr' : ofDeclarations es = .ok r') : r.SameButOrder r' := by
  obtain ⟨d, hd, hfollows, hfinish⟩ := follows_of_ofDeclarations hr
  obtain ⟨d', hd', hfollows', hfinish'⟩ := follows_of_ofDeclarations hr'
  have hstates : d.states = d'.states := by
    rw [hd, hd', declaredStates_congr (h.others .states (by decide))]
  have hisState : d.hasState = d'.hasState := by
    unfold Draft.hasState
    rw [hstates]
  have hrstates : r.states = r'.states := by
    rw [hfinish, hfinish']
    exact hstates
  have hsettings := settings_congr (h.others .ignore (by decide)) (h.others .error (by decide)) hr
    hr' hrstates
  refine ⟨hrstates, fun state ↦ ?_, fun state ↦ (hsettings state).1,
    fun state ↦ (hsettings state).2⟩
  rw [hisState] at hfollows
  rw [hfinish, hfinish', lexemes_finish hfollows (hd ▸ nodup_declaredStates ds),
    lexemes_finish hfollows' (hd' ▸ nodup_declaredStates es)]
  exact hfollows.lexemes_perm hfollows' hstates (declaredRules_perm h _) state

end RuleSet

/-! ### Places without ties -/

/-- No two lexemes have a longest match at a spot. -/
def Untied (ls : List Lexeme) (s : Spot) : Prop :=
  ∀ l ∈ ls, ∀ l' ∈ ls, ∀ n, l.matcher.span? s = some n → l'.matcher.span? s = some n →
    (∀ k ∈ ls, ∀ i, k.matcher.span? s = some i → i ≤ n) → l = l'

/-- Where there is no tie, the same lexeme wins in every order. -/
theorem Wins.perm {ls ls' : List Lexeme} {s : Spot} {l : Lexeme} {n : Nat} (h : Wins ls s l n)
    (hperm : ls.Perm ls') (huntied : Untied ls s) : Wins ls' s l n := by
  -- The first place of the lexeme is taken: no other lexeme before it matches as much.
  obtain ⟨earlier, later, hls', hfirst⟩ := List.eq_append_cons_of_mem (hperm.mem_iff.1 h.mem)
  have hmem {k : Lexeme} (hk : k ∈ earlier ∨ k ∈ later) : k ∈ ls := by
    rw [hperm.mem_iff, hls', List.mem_append, List.mem_cons]
    exact hk.imp_right .inr
  refine ⟨earlier, later, hls', h.span?_eq, ?_, fun k hk i hi ↦ h.span?_le (hmem (.inr hk)) hi⟩
  intro k hk i hi
  refine Nat.lt_of_le_of_ne (h.span?_le (hmem (.inl hk)) hi) ?_
  rintro rfl
  have heq : k = l := huntied k (hmem (.inl hk)) l h.mem i hi h.span?_eq
    fun j hj i' hi' ↦ h.span?_le hj hi'
  exact hfirst (heq ▸ hk)

/-- A match of a word is as long as the word. -/
private theorem length_of_literal {word : String} {s : Spot} {n : Nat}
    (h : (Matcher.literal word).span? s = some n) : n = word.toList.length := by
  have hraw := (Option.filter_eq_some_iff.1 h).1
  rw [Matcher.rawSpan?] at hraw
  split at hraw
  · exact (Option.some.inj hraw).symm
  · cases hraw

/-- Two words of different lengths are never tied. -/
theorem untied_pair {l l' : Lexeme} {word word' : String} (hl : l.matcher = .literal word)
    (hl' : l'.matcher = .literal word') (hlength : word.toList.length ≠ word'.toList.length)
    (s : Spot) : Untied [l, l'] s := by
  have hnot {n : Nat} (h : l.matcher.span? s = some n) : l'.matcher.span? s ≠ some n := by
    intro h'
    rw [hl] at h
    rw [hl'] at h'
    exact hlength ((length_of_literal h).symm.trans (length_of_literal h'))
  intro k hk k' hk' n hn hn' _
  rcases List.mem_pair.1 hk with rfl | rfl <;> rcases List.mem_pair.1 hk' with rfl | rfl
  · rfl
  · exact absurd hn' (hnot hn)
  · exact absurd hn (hnot hn')
  · rfl

namespace RuleSet

/-- No two lexemes of the current state have a longest match in a situation. -/
def UntiedIn (r : RuleSet) (sit : Situation) : Prop :=
  Untied (r.lexemes sit.cursor.state) sit.spot

namespace SameButOrder

variable {r r' : RuleSet} {m m' : Machine} {s : Spot} {k : Cursor}

private theorem hasState_eq (h : r.SameButOrder r') : r.hasState = r'.hasState := by
  unfold hasState kind?
  rw [h.states]

private theorem ignores?_eq (h : r.SameButOrder r') (state : String) (c : Char) :
    r.ignores? state c = r'.ignores? state c := by
  rw [ignores?, ignores?, ignore?, ignore?, h.ignores]

private theorem handler?_eq (h : r.SameButOrder r') (state : String) :
    r.handler? state = r'.handler? state := by
  rw [handler?, handler?, h.errors]

/-- Where there is no tie, the same characters are decided about in the same way. -/
theorem decides (h : m.rules.SameButOrder m'.rules) (huntied : Untied (m.rules.lexemes k.state) s)
    {d : Decider} {text : List Char} (hd : m.Decides s k d text) : m'.Decides s k d text := by
  cases hd with
  | rule hahead hkept hwins =>
    rw [h.ignores?_eq] at hkept
    exact .rule hahead hkept (hwins.perm (h.lexemes k.state) huntied)
  | handler hahead hkept hunmatched hhandles =>
    rw [h.ignores?_eq] at hkept
    rw [h.handler?_eq] at hhandles
    refine .handler hahead hkept (fun l hl ↦ hunmatched l ?_) hhandles
    exact (h.lexemes k.state).mem_iff.2 hl

/-- Where there is no tie, steps agree if the scans agree that actions start there. -/
theorem steps_agree (h : m.rules.SameButOrder m'.rules)
    (huntied : Untied (m.rules.lexemes k.state) s)
    (hnested : ∀ d text, m.Decides s k d text → m.AgreeOn m' (m.calls (d.routine text k) k)) :
    Machine.StepsAgree Scan.NeverApart m m' s k := by
  refine Machine.steps_agree h.hasState_eq (fun c _ _ ↦ h.ignores?_eq _ c) (fun d text hd ↦ ?_) ?_
    hnested
  · exact ⟨d, h.decides huntied hd, rfl, rfl, fun _ _ _ _ ↦ .inl rfl⟩
  · intro hunmatched hunhandled
    refine ⟨fun l hl ↦ hunmatched l ((h.lexemes k.state).mem_iff.2 hl), ?_⟩
    rw [← h.handler?_eq, hunhandled]

end SameButOrder

end RuleSet

namespace Lexer

private theorem rules_of_define {ds : List Declaration} {config : Config} {l : Lexer}
    (h : define ds config = .ok l) :
    RuleSet.ofDeclarations ds = .ok l.rules ∧ l.config = config := by
  unfold define new at h
  split at h
  · cases h
  · next rules hrules =>
    split at h
    · cases h
    · cases h
      exact ⟨hrules, rfl⟩

/-- The order in which rules are declared matters for ties only. Let two lexers be declared with the
same rules in different orders and all else the same, and let them scan a text from the same place.
If no two lexemes have a longest match wherever the scan of the first one comes before its last
result, in the scans that its actions start as well, then both scans give the same tokens and errors
one after the other, and each of these leaves both at the same offset, position and state. Either
scan may be asked any number of times, or until its end; and if some action does not end, then it
does not on either lexer. -/
theorem pulls_of_rulesPermuted {ds es : List Declaration} {config : Config} {l l' : Lexer}
    (hds : define ds config = .ok l) (hes : define es config = .ok l') (h : RulesPermuted ds es)
    (k : Cursor) (depth : Nat) (text : String) (bound : Option Nat)
    (huntied : Situation.Before l.rules l.config
      (fun sit ↦ l.rules.UntiedIn sit ∧ Situation.Inside l.rules l.config l.rules.UntiedIn sit)
      (bound.getD (text.toList.length + 2)) ((l.withCursor k).situation depth text)) :
    ((l.withCursor k).pulls depth text bound).map shown =
      ((l'.withCursor k).pulls depth text bound).map shown := by
  obtain ⟨hrules, hconfig⟩ := rules_of_define hds
  obtain ⟨hrules', hconfig'⟩ := rules_of_define hes
  have hsame := RuleSet.sameButOrder_of_rulesPermuted h hrules hrules'
  have hlocal (sit : Situation) (huntied : l.rules.UntiedIn sit)
      (hnested : Situation.NestedAgree l.rules l'.rules l.config l'.config sit) :
      (sit.machine l.rules l.config).StepsAgree Scan.NeverApart
        (sit.machine l'.rules l'.config) sit.spot sit.cursor :=
    hsame.steps_agree huntied hnested
  refine map_shown_pulls rfl (Machine.pulls_agree fun σs s k' hrun hless ↦ ?_)
  obtain ⟨hhere, hinside⟩ := huntied σs s k' hrun hless
  exact hlocal ⟨depth, s, k'⟩ hhere (hinside.nestedAgree hlocal)

/-- Operators of which one begins another, and a state with a longer one of its own, which scans two
characters more. -/
def operatorDeclarations : List Declaration :=
  [.tokens ["ASSIGN", "EQUAL"], .states [("strict", .inclusive)],
   .rule "ASSIGN" (.literal "=") none, .rule "EQUAL" (.literal "==") none,
   .rule "strict_EQUAL" (.literal "===") (some (Step.action [.tokenize "=="])),
   .ignore none (.chars " ")]

/-- The same with the rules the other way round, before all else. -/
def reversedDeclarations : List Declaration :=
  [.rule "strict_EQUAL" (.literal "===") (some (Step.action [.tokenize "=="])),
   .rule "EQUAL" (.literal "==") none, .rule "ASSIGN" (.literal "=") none,
   .tokens ["ASSIGN", "EQUAL"], .states [("strict", .inclusive)], .ignore none (.chars " ")]

/-- The lexer for operators. -/
def operatorLexer : Lexer :=
  (define operatorDeclarations .quiet).toOption.get (by decide +kernel)

/-- The lexer for operators with the rules the other way round. -/
def reversedLexer : Lexer :=
  (define reversedDeclarations .quiet).toOption.get (by decide +kernel)

private theorem untied_operatorLexer (state : String) (s : Spot) :
    Untied (operatorLexer.rules.lexemes state) s := by
  have htables : operatorLexer.rules.tables =
      ⟨[("initial", ⟨"initial", [⟨"ASSIGN", .literal "=", none⟩, ⟨"EQUAL", .literal "==", none⟩]⟩),
        ("strict", ⟨"strict", [⟨"ASSIGN", .literal "=", none⟩,
          ⟨"EQUAL", .literal "===", some (Step.action [.tokenize "=="])⟩]⟩)]⟩ := rfl
  rw [RuleSet.lexemes, htables, Table.get?, Table.find?, Table.find?, Table.find?]
  split
  · exact untied_pair rfl rfl (by decide) s
  · split
    · exact untied_pair rfl rfl (by decide) s
    · exact fun l hl ↦ absurd hl List.not_mem_nil

/-- The rules for operators in two orders, in the state that has one of its own. -/
theorem pulls_of_rulesPermuted_operatorLexer :
    define operatorDeclarations .quiet = .ok operatorLexer ∧
      define reversedDeclarations .quiet = .ok reversedLexer ∧
      RulesPermuted operatorDeclarations reversedDeclarations ∧
      (operatorLexer.rules.lexemes "strict").map (·.name) = ["ASSIGN", "EQUAL"] ∧
      (reversedLexer.rules.lexemes "strict").map (·.name) = ["EQUAL", "ASSIGN"] ∧
      ((operatorLexer.withCursor ⟨"strict", ["initial"], 2, 5, 0⟩).pulls 1 "==== =x" none).map
          (fun given ↦ given.1.map fun p ↦ p.item.map fun item ↦ item.map (·.name)) =
        some [some (.ok "EQUAL"), some (.ok "ASSIGN"), some (.ok "ASSIGN"),
          some (.error (.illegalCharacter 'x' 2 14)), none] ∧
      ((operatorLexer.withCursor ⟨"strict", ["initial"], 2, 5, 0⟩).pulls 1 "==== =x" none).map
          shown =
        ((reversedLexer.withCursor ⟨"strict", ["initial"], 2, 5, 0⟩).pulls 1 "==== =x" none).map
          shown := by
  have hds : define operatorDeclarations .quiet = .ok operatorLexer := rfl
  have hes : define reversedDeclarations .quiet = .ok reversedLexer := rfl
  have hpermuted : RulesPermuted operatorDeclarations reversedDeclarations := by
    refine ⟨List.reverse_perm _ |>.symm, fun kind hkind ↦ ?_⟩
    cases kind with
    | rule => exact absurd rfl hkind
    | _ => rfl
  refine ⟨hds, hes, hpermuted, by decide +kernel, by decide +kernel, by decide +kernel, ?_⟩
  apply pulls_of_rulesPermuted hds hes hpermuted
  intro σs s k _ _
  exact ⟨untied_operatorLexer _ _, fun _ _ _ _ ↦ untied_operatorLexer _ _⟩

end Lexer

end ModalLexer
