import ModalLexer.Proofs.Walks
import ModalLexer.Proofs.WellNested

/-!
# Suppressing tokens

An action that asks the same of the engine but drops its match leaves the engine where it would be
anyway: whether a token is emitted makes no difference to what is consumed or to what comes next. So
rules in which some lexemes and handlers drop what they would emit (`RuleSet.suppressing`) take the
same steps (`Walk.suppressed`), and a scan gives the same tokens but for those that come from the
chosen lexemes and handlers.
-/

namespace ModalLexer

open Text (Spot)

/-! ### Actions that drop their match -/

/-- An action that asks the same and fails in the same way, but drops its match. -/
def Action.suppressing (a : Action) : Action := fun token ↦
  (a token).mapVerdict fun _ ↦ .suppress

/-- The lexeme with an action that drops its match. -/
def Lexeme.suppressing (l : Lexeme) : Lexeme :=
  { l with action := some l.effectiveAction.suppressing }

/-- A choice of lexemes and handlers, each in some states. -/
structure Selection where
  lexeme : String → Lexeme → Bool
  handler : String → Bool

namespace Selection

variable (K : Selection) (state : String)

/-- A lexeme of a state, which drops its match if it is chosen. -/
def suppressLexeme (l : Lexeme) : Lexeme :=
  if K.lexeme state l then l.suppressing else l

/-- The handler of a state, which drops its match if it is chosen. -/
def suppressHandler (a : Action) : Action :=
  if K.handler state then a.suppressing else a

/-- Whether those who decide in a state are chosen. -/
def chooses : Decider → Bool
  | .rule l => K.lexeme state l
  | .handler _ => K.handler state

/-- Who decides in a state, dropping the match if chosen. -/
def suppress : Decider → Decider
  | .rule l => .rule (K.suppressLexeme state l)
  | .handler a => .handler (K.suppressHandler state a)

/-- Whether a step is a decision of a lexeme or a handler that is chosen. -/
def holds (p : Passage) : Bool :=
  match p.stride with
  | .ignored _ => false
  | .decided d => K.chooses p.cursor.state d.decider

@[simp] private theorem matcher_suppressLexeme (l : Lexeme) :
    (K.suppressLexeme state l).matcher = l.matcher := by
  unfold suppressLexeme
  split <;> rfl

@[simp] private theorem name_suppress (d : Decider) : (K.suppress state d).name = d.name := by
  cases d with
  | rule l =>
    change (K.suppressLexeme state l).name = l.name
    unfold suppressLexeme
    split <;> rfl
  | handler a => rfl

private theorem action_suppress (d : Decider) : (K.suppress state d).action =
    if K.chooses state d then d.action.suppressing else d.action := by
  cases d with
  | rule l =>
    change (K.suppressLexeme state l).effectiveAction = if K.lexeme state l then _ else _
    unfold suppressLexeme
    split <;> rfl
  | handler a => rfl

/-- Where a failure leaves a scan does not depend on what is chosen. -/
theorem over_suppress (d : Decider) (s : Spot) (k : Cursor) :
    (K.suppress state d).over s k = d.over s k := by
  cases d <;> rfl

end Selection

/-- A table with each value replaced by another one, depending on its name. -/
def Table.mapValues {α β : Type} (f : String → α → β) (t : Table α) : Table β :=
  ⟨t.entries.map fun e ↦ (e.1, f e.1 e.2)⟩

private theorem Table.get?_mapValues {α β : Type} (f : String → α → β) (t : Table α)
    (name : String) :
    (t.mapValues f).get? name = (t.get? name).map (f name) := by
  obtain ⟨entries⟩ := t
  change find? name (entries.map fun e ↦ (e.1, f e.1 e.2)) = (find? name entries).map (f name)
  induction entries with
  | nil => rfl
  | cons e entries ih =>
    rw [List.map_cons, find?, find?, ih]
    split
    · next hname => rw [hname, Option.map_some]
    · rfl

namespace RuleSet

/-- The same rules, but the lexemes and handlers that are chosen drop what they would emit. -/
def suppressing (r : RuleSet) (K : Selection) : RuleSet :=
  { r with
    tables := r.tables.mapValues fun state t ↦ ⟨t.name, t.lexemes.map (K.suppressLexeme state)⟩
    errors := r.errors.mapValues fun state entry ↦ entry.map (K.suppressHandler state) }

private theorem lexemes_suppressing (r : RuleSet) (K : Selection) (state : String) :
    (r.suppressing K).lexemes state = (r.lexemes state).map (K.suppressLexeme state) := by
  rw [lexemes, lexemes, suppressing]
  dsimp only
  rw [Table.get?_mapValues]
  cases r.tables.get? state <;> rfl

private theorem handler?_suppressing (r : RuleSet) (K : Selection) (state : String) :
    (r.suppressing K).handler? state = (r.handler? state).map (K.suppressHandler state) := by
  rw [handler?, handler?, suppressing]
  dsimp only
  rw [Table.get?_mapValues]
  cases r.errors.get? state <;> rfl

end RuleSet

/-- What wins is decided by what lexemes match. -/
theorem Wins.map {ls : List Lexeme} {s : Spot} {l : Lexeme} {n : Nat} (h : Wins ls s l n)
    {f : Lexeme → Lexeme} (hf : ∀ l, (f l).matcher = l.matcher) : Wins (ls.map f) s (f l) n := by
  obtain ⟨earlier, later, rfl, hl, he, ha⟩ := h
  refine ⟨earlier.map f, later.map f, by simp, ?_, ?_, ?_⟩
  · rw [hf]
    exact hl
  · simpa [hf] using he
  · simpa [hf] using ha

namespace Machine

variable {m m' : Machine} {K : Selection} {s s' : Spot} {k k' : Cursor}

/-- What a routine does does not depend on what becomes of its verdict. -/
theorem perform_mapVerdict (m : Machine) (f : Verdict → Verdict) (routine : Routine) (k : Cursor) :
    m.perform (routine.mapVerdict f) k = (m.perform routine k).map fun outcome ↦
      { outcome with value := outcome.value.map f } := by
  induction routine generalizing k with
  | finish outcome => rfl
  | ask r next ih =>
    rw [Routine.mapVerdict, perform, perform, Option.map_bind]
    congr 1
    funext reply
    rw [ih, Function.comp_apply, Option.map_map, Option.map_map]
    rfl

/-- No action that a scan comes to perform starts a scan of another text. -/
def StartsNoScan (m : Machine) (scan : Scan) : Prop :=
  ∀ ⦃σs s k⦄, m.Run scan.spot scan.cursor σs s k → ∀ ⦃d text⦄, m.Decides s k d text →
    ∀ c ∈ m.calls (d.routine text k) k, ∀ input, c.request ≠ .tokenize input

section Rules

variable (hrules : m'.rules = m.rules.suppressing K)
include hrules

/-- The same characters are decided about by the same lexeme or handler. -/
theorem Decides.suppressed {d : Decider} {text : List Char} (h : m.Decides s k d text) :
    m'.Decides s k (K.suppress k.state d) text := by
  cases h with
  | rule hahead hkept hwins =>
    refine .rule hahead (hrules ▸ hkept) ?_
    rw [hrules, RuleSet.lexemes_suppressing]
    exact hwins.map (K.matcher_suppressLexeme k.state)
  | handler hahead hkept hunmatched hhandles =>
    refine .handler hahead (hrules ▸ hkept) ?_ ?_
    · rw [hrules, RuleSet.lexemes_suppressing]
      simpa using hunmatched
    · rw [hrules, RuleSet.handler?_suppressing, hhandles]
      rfl

/-- What is done about the characters leaves the engine at the same place, and decides the same or
drops the match. -/
theorem perform_suppressed {d : Decider} {text : List Char} {value : Except LexError Verdict}
    {journal : Journal} (hscans : ∀ c ∈ m.calls (d.routine text k) k, ∀ input,
      c.request ≠ .tokenize input)
    (h : m.perform (d.routine text k) k = some ⟨value, k', journal⟩) :
    ∃ journal', m'.perform ((K.suppress k.state d).routine text k) k =
      some ⟨if K.chooses k.state d then value.map fun _ ↦ .suppress else value, k', journal'⟩ := by
  have hstates : m.rules.hasState = m'.rules.hasState := by rw [hrules]; rfl
  have hagree : AgreeOn m m' (m.calls (d.routine text k) k) := fun k₁ input hcall ↦
    absurd rfl (hscans _ hcall input)
  obtain ⟨journal', hperform⟩ := exists_perform_eq hstates hagree h
  refine ⟨journal', ?_⟩
  rw [Decider.routine, K.name_suppress, K.action_suppress]
  split
  · rw [Action.suppressing, perform_mapVerdict]
    exact congrArg (Option.map _) hperform
  · exact hperform

/-- A step is taken, and its token is emitted unless it is one of a chosen lexeme or handler. -/
theorem Takes.suppressed {σ : Stride} (hscans : ∀ ⦃d text⦄, m.Decides s k d text →
      ∀ c ∈ m.calls (d.routine text k) k, ∀ input, c.request ≠ .tokenize input)
    (h : m.Takes s k σ s' k') :
    ∃ σ', m'.Takes s k σ' s' k' ∧ σ'.token? = if K.holds ⟨k, σ⟩ then none else σ.token? := by
  cases h with
  | ignored hahead hignores => exact ⟨_, .ignored hahead (hrules ▸ hignores), rfl⟩
  | @decided d k₁ journal hdecides hcandidate hrequests hperformed hskipped =>
    rw [hcandidate] at hperformed
    obtain ⟨journal', hperformed'⟩ := perform_suppressed hrules (hscans hdecides) hperformed
    have hverdict : (if K.chooses k.state d.decider then
          (Except.ok d.verdict).map fun _ ↦ Verdict.suppress else .ok d.verdict) =
        (.ok (if K.chooses k.state d.decider then .suppress else d.verdict) :
          Except LexError Verdict) := by
      split <;> rfl
    rw [hverdict] at hperformed'
    let d' : Decision := ⟨K.suppress k.state d.decider, d.text,
      Token.ofMatch (K.suppress k.state d.decider).name d.text k.position,
      m'.requests ((K.suppress k.state d.decider).routine d.text k) k,
      if K.chooses k.state d.decider then .suppress else d.verdict, d.skipped⟩
    have htakes : m'.Takes s k (.decided d') _ _ :=
      .decided (hdecides.suppressed hrules) rfl rfl hperformed' hskipped
    have hpass : d'.decider.pass d'.text.length k₁ = d.decider.pass d.text.length k₁ := by
      rw [Decider.pass, Decider.pass, K.name_suppress]
    rw [hpass] at htakes
    refine ⟨.decided d', htakes, ?_⟩
    change (if K.chooses k.state d.decider then Verdict.suppress else d.verdict).token? =
      if K.chooses k.state d.decider then none else d.verdict.token?
    split <;> rfl

/-- A walk is taken in which the chosen lexemes and handlers emit nothing. -/
theorem Walk.suppressed {ps : List Passage} (h : m.Walk s k ps s' k')
    (hscans : m.StartsNoScan ⟨s, k, false⟩) :
    ∃ qs, m'.Walk s k qs s' k' ∧
      qs.filterMap (·.token?) = (ps.filter (!K.holds ·)).filterMap (·.token?) := by
  induction h with
  | nil s k => exact ⟨[], .nil s k, rfl⟩
  | @cons s s₁ s' k k₁ k' σ ps first _ ih =>
    obtain ⟨σ', first', hσ'⟩ := first.suppressed hrules (hscans (.nil s k))
    obtain ⟨qs, hwalk, htokens⟩ := ih fun _ _ _ hrun ↦ hscans (.cons first hrun)
    refine ⟨⟨k, σ'⟩ :: qs, .cons first' hwalk, ?_⟩
    cases hK : K.holds ⟨k, σ⟩ with
    | true =>
      rw [hK, if_pos rfl] at hσ'
      have hnone : (Passage.mk k σ').token? = none := hσ'
      rw [List.filterMap_cons_none hnone, List.filter_cons_of_neg (by simp [hK]), htokens]
    | false =>
      rw [hK, if_neg Bool.false_ne_true] at hσ'
      have hsame : (Passage.mk k σ').token? = (Passage.mk k σ).token? := hσ'
      rw [List.filterMap_cons, hsame, List.filter_cons_of_pos (by simp [hK]), List.filterMap_cons,
        htokens]

/-- A scan comes to its end in the same way. -/
theorem Ends.suppressed {failure : Option LexError} {left : Scan} {last : Journal}
    (h : m.Ends s k failure left last) (hscans : ∀ ⦃d text⦄, m.Decides s k d text →
      ∀ c ∈ m.calls (d.routine text k) k, ∀ input, c.request ≠ .tokenize input) :
    ∃ last', m'.Ends s k failure left last' := by
  cases h with
  | reached hahead => exact ⟨_, .reached hahead⟩
  | unrecognized hahead hkept hunmatched hunhandled =>
    refine ⟨_, .unrecognized hahead (hrules ▸ hkept) ?_ ?_⟩
    · rw [hrules, RuleSet.lexemes_suppressing]
      simpa using hunmatched
    · rw [hrules, RuleSet.handler?_suppressing, hunhandled]
      rfl
  | @failed d text e k₁ own hdecides hperformed =>
    obtain ⟨journal', hperformed'⟩ := perform_suppressed hrules (hscans hdecides) hperformed
    have herror : (if K.chooses k.state d then
          (.error e : Except LexError Verdict).map fun _ ↦ Verdict.suppress else .error e) =
        .error e := by
      split <;> rfl
    rw [herror] at hperformed'
    rw [← K.over_suppress k.state]
    exact ⟨_, .failed (hdecides.suppressed hrules) hperformed'⟩

end Rules

/-- What holds of all requests that a routine may make holds of those that it does make. -/
theorem request_of_asks {P : Request → Prop} {routine : Routine} (h : routine.Asks P) :
    ∀ c ∈ m.calls routine k, P c.request := by
  induction h generalizing k with
  | finish => simp [calls]
  | @ask r next hr _ ih =>
    rw [calls]
    refine List.forall_mem_cons.2 ⟨hr, ?_⟩
    cases m.answer k r with
    | none => simp
    | some reply => exact ih reply.value

/-- Actions that never start a scan start none in any scan. -/
theorem startsNoScan_of_asks
    (hrules : ∀ state, ∀ l ∈ m.rules.lexemes state, ∀ token,
      (l.effectiveAction token).Asks fun r ↦ ∀ input, r ≠ .tokenize input)
    (hhandlers : ∀ state a, m.rules.handler? state = some a → ∀ token,
      (a token).Asks fun r ↦ ∀ input, r ≠ .tokenize input) (scan : Scan) :
    m.StartsNoScan scan := by
  intro σs s k _ d text hdecides
  rcases hdecides.rule_or_handler with ⟨l, hl, rfl⟩ | ⟨a, ha, rfl⟩
  · exact request_of_asks (hrules _ l hl _)
  · exact request_of_asks (hhandlers _ a ha _)

/-- A scan in which no action starts another one can be followed to its end. -/
theorem StartsNoScan.exists_unfolds {scan : Scan} (h : m.StartsNoScan scan) :
    ∃ tokens failure left journal, m.Unfolds scan tokens failure left journal := by
  refine (m.unfolds_or_stalls scan).resolve_right fun hstalls ↦ hstalls.not_actionsEnd ?_
  intro σs s k d text hrun hdecides
  apply perform_isSome
  have hcalls := h hrun hdecides
  change ∀ r ∈ m.requests (d.routine text k) k, ∀ input, r ≠ .tokenize input
  rw [← map_request_calls]
  exact List.forall_mem_map.2 hcalls

end Machine

namespace Lexer

/-- The lexer, but the lexemes and handlers that are chosen drop what they would emit. -/
def suppressing (l : Lexer) (K : Selection) : Lexer := { l with rules := l.rules.suppressing K }

/-- A scan that is followed to its end gives what it unfolds to, and leaves the lexer there. -/
theorem pulls_of_unfolds (l : Lexer) {depth : Nat} (text : String) {tokens : List Token}
    {failure : Option LexError} {left : Scan} {journal : Journal}
    (h : (l.machine depth).Unfolds (l.scan text) tokens failure left journal) :
    ∃ given, l.pulls depth text none = some (given, l.withCursor left.cursor) ∧
      given.map (·.item) =
        tokens.map (some ∘ .ok) ++ failure.toList.map (some ∘ .error) ++ [none] ∧
      l.scanAfter text given = left ∧ given.flatMap (·.journal) = journal := by
  have hlength : tokens.length + failure.toList.length ≤ text.toList.length := h.length_le
  obtain ⟨given, hgiven, hitems, hleft, hjournal⟩ :=
    h.pulls_eq (show tokens.length + failure.toList.length < text.toList.length + 2 by omega)
  refine ⟨given, ?_, hitems, hleft, hjournal⟩
  rw [← hleft]
  exact congrArg (Option.map _) hgiven

/-- No rule for words and comments starts a scan. -/
theorem startsNoScan_commentLexer (depth : Nat) (scan : Scan) :
    (commentLexer.machine depth).StartsNoScan scan := by
  refine Machine.startsNoScan_of_asks (fun state l hl token ↦ ?_) (fun state a ha token ↦ ?_) scan
  · rcases lexemes_commentRules hl with ⟨_, hl⟩ | ⟨_, hl⟩ | ⟨_, hl⟩ | ⟨_, _, hl⟩
    · rw [hl]
      exact .finish _
    · rw [hl]
      refine .ask (fun _ h ↦ nomatch h) fun reply ↦ ?_
      cases reply <;> exact .finish _
    · rw [hl]
      exact .ask (fun _ h ↦ nomatch h) fun _ ↦ .finish _
    · rw [hl]
      refine .ask (fun _ h ↦ nomatch h) fun reply ↦ ?_
      cases reply <;> exact .finish _
  · rcases handler_commentRules ha with rfl | rfl <;> exact .finish _

/-- The lexemes for words outside of comments, and what handles characters in comments. -/
def outerWords : Selection where
  lexeme state l := state == "initial" && l.name == "WORD"
  handler state := state == "comment"

private theorem given_tokens (tokens : List Token) (failure : Option LexError) :
    (tokens.map (some ∘ .ok) ++ failure.toList.map (some ∘ .error) ++ [none] :
      List (Option (Except LexError Token))).filterMap (·.bind Except.toOption) = tokens := by
  cases failure <;> simp [List.filterMap_map, Function.comp_def, Except.toOption]

end Lexer

end ModalLexer
