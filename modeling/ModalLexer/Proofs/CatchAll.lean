import ModalLexer.Proofs.Agreement

/-!
# Recovery as a last lexeme

A handler of errors is called for one character where no lexeme matches. So is the action of a
lexeme that comes last and matches any one character: every other match is at least as long, and
came first (`Wins.append`). `RuleSet.catchingAll` puts such a lexeme in the place of each handler.
Scans then agree at every result until a handler fails (`Situation.Before.pulls_catchingAll`). When
one does, the same error is given, but the handler's character has been consumed and the lexeme's
has not (`Situation.Before.next_of_handlerFails`).
-/

namespace ModalLexer

open Text (Spot)

/-! ### The lexeme for all characters -/

/-- The set of all characters. -/
def CharSet.all : CharSet := ⟨[('\x00', Char.ofNat 0x10FFFF)]⟩

private theorem CharSet.contains_all (c : Char) : all.contains c = true := by
  have hfirst : '\x00' ≤ c := by
    rw [Char.le_def, UInt32.le_iff_toNat_le]
    exact Nat.zero_le _
  have hlast : c ≤ Char.ofNat 0x10FFFF := by
    have hvalid := c.valid
    rw [Char.le_def, UInt32.le_iff_toNat_le]
    change c.val.toNat ≤ 0x10FFFF
    rcases hvalid with h | h <;> omega
  simp [contains, all, hfirst, hlast]

/-- The lexeme that takes any character for an error and does with it what a handler does. -/
def Lexeme.catchAll (handler : Action) : Lexeme :=
  ⟨Token.errorName, .charClass .all, some handler⟩

private theorem Lexeme.span?_catchAll {s : Spot} {c : Char} {rest : List Char}
    (hs : s.ahead = c :: rest)
    (handler : Action) : (catchAll handler).matcher.span? s = some 1 := by
  have hraw : (Matcher.charClass .all).rawSpan? s = some 1 := by
    rw [Matcher.rawSpan?, hs]
    simp [CharSet.contains_all]
  change ((Matcher.charClass .all).rawSpan? s).filter (0 < ·) = some 1
  rw [hraw]
  rfl

namespace RuleSet

/-- A state with its lexemes and, after them, a lexeme for all characters that does what its handler
does, if it has one. -/
def stateCatchingAll (r : RuleSet) (state : String) : State :=
  ⟨((r.tables.get? state).getD (.new state)).name,
    r.lexemes state ++ (r.handler? state).toList.map .catchAll⟩

/-- Rules without handlers of errors, but with a lexeme for all characters in the place of each. -/
def catchingAll (r : RuleSet) : RuleSet :=
  { r with
    tables :=
      r.errors.names.foldl (fun t state ↦ t.insert state (r.stateCatchingAll state)) r.tables
    errors := .empty }

private theorem lexemes_catchingAll (r : RuleSet) (state : String) :
    r.catchingAll.lexemes state =
      r.lexemes state ++ (r.handler? state).toList.map .catchAll := by
  rw [lexemes, catchingAll]
  dsimp only
  rw [Table.get?_foldl_insert]
  split
  · rfl
  · next hstate =>
    have hnone : r.handler? state = none := by
      rw [Table.mem_names_iff, Option.not_isSome_iff_eq_none] at hstate
      rw [handler?, hstate]
      rfl
    rw [hnone, Option.toList_none, List.map_nil, List.append_nil]
    rfl

@[simp] private theorem handler?_catchingAll (r : RuleSet) (state : String) :
    r.catchingAll.handler? state = none := rfl

end RuleSet

/-! ### Who decides -/

/-- Who decides instead if handlers are lexemes. -/
def Decider.caught : Decider → Decider
  | rule l => .rule l
  | handler a => .rule (.catchAll a)

namespace Decider

@[simp] private theorem name_caught (d : Decider) : d.caught.name = d.name := by
  cases d <;> rfl

@[simp] private theorem action_caught (d : Decider) : d.caught.action = d.action := by
  cases d <;> rfl

end Decider

/-- What wins still does if lexemes come last that match one character at most. -/
theorem Wins.append {ls more : List Lexeme} {s : Spot} {l : Lexeme} {n : Nat} (h : Wins ls s l n)
    (hmore : ∀ k ∈ more, ∀ i, k.matcher.span? s = some i → i ≤ 1) : Wins (ls ++ more) s l n := by
  have hpos := h.pos
  obtain ⟨earlier, later, rfl, hl, he, ha⟩ := h
  refine ⟨earlier, later ++ more, by simp, hl, he, fun k hk i hi ↦ ?_⟩
  rcases List.mem_append.1 hk with hk | hk
  · exact ha k hk i hi
  · exact Nat.le_trans (hmore k hk i hi) hpos

namespace Machine

variable {Apart : Scan → Scan → Prop} {m m' : Machine} {s : Spot} {k k₁ : Cursor} {d : Decider}
  {text : List Char} {e : LexError}

/-- The handler of errors is called and fails; it leaves the cursor somewhere. -/
def HandlerFails (m : Machine) (s : Spot) (k : Cursor) (e : LexError) (k₁ : Cursor) : Prop :=
  ∃ a text journal, m.Decides s k (.handler a) text ∧
    m.perform ((Decider.handler a).routine text k) k = some ⟨.error e, k₁, journal⟩

section Rules

variable (hrules : m'.rules = m.rules.catchingAll)
include hrules

/-- Where a lexeme decides it still does, and where a handler decides its lexeme does. -/
theorem Decides.caught (h : m.Decides s k d text) : m'.Decides s k d.caught text := by
  cases h with
  | @rule c rest l n hahead hkept hwins =>
    rw [Decider.caught]
    refine .rule hahead (hrules ▸ hkept) ?_
    rw [hrules, RuleSet.lexemes_catchingAll]
    refine hwins.append fun k hk i hi ↦ ?_
    obtain ⟨a, _, rfl⟩ := List.mem_map.1 hk
    rw [Lexeme.span?_catchAll hahead] at hi
    exact Nat.le_of_eq (Option.some.inj hi).symm
  | @handler c rest a hahead hkept hunmatched hhandles =>
    have htake : s.ahead.take 1 = [c] := by rw [hahead, List.take_succ_cons, List.take_zero]
    rw [Decider.caught, ← htake]
    refine .rule hahead (hrules ▸ hkept) ?_
    rw [hrules, RuleSet.lexemes_catchingAll, hhandles, Option.toList_some, List.map_singleton]
    refine ⟨_, [], rfl, Lexeme.span?_catchAll hahead a, fun l hl i hi ↦ ?_, by simp⟩
    rw [hunmatched l hl] at hi
    cases hi

/-- Steps agree if the scans do that actions start, but for where a handler that fails leaves the
scan. -/
theorem steps_agree_of_catchingAll
    (hnested : ∀ d text, m.Decides s k d text → m.AgreeOn m' (m.calls (d.routine text k) k))
    (hleft : ∀ e k₁, m.HandlerFails s k e k₁ →
      Apart ⟨s.advance 1, (k₁.advanceColumn 1).clearSkip, true⟩ ⟨s, k₁.clearSkip, true⟩) :
    StepsAgree Apart m m' s k := by
  refine steps_agree (hrules ▸ rfl) (fun c _ _ ↦ hrules ▸ rfl) (fun d text hd ↦ ?_) ?_ hnested
  · refine ⟨d.caught, hd.caught hrules, by simp, by simp, fun e k₁ journal hperform ↦ ?_⟩
    cases d with
    | rule l => exact .inl rfl
    | handler a => exact .inr (hleft e k₁ ⟨a, text, journal, hd, hperform⟩)
  · intro hunmatched hunhandled
    rw [hrules, RuleSet.lexemes_catchingAll, RuleSet.handler?_catchingAll, hunhandled,
      Option.toList_none, List.map_nil, List.append_nil]
    exact ⟨hunmatched, rfl⟩

end Rules

/-- A handler fails after a run of a scan. The first scan is left past the handler's character, and
the second one before it. -/
inductive FailsApart (m : Machine) (s₀ : Spot) (k₀ : Cursor) : Scan → Scan → Prop
  | intro {s : Spot} {k k₁ : Cursor} {e : LexError} {σs : List Stride}
      (run : m.Run s₀ k₀ σs s k) (fails : m.HandlerFails s k e k₁) :
      FailsApart m s₀ k₀ ⟨s.advance 1, (k₁.advanceColumn 1).clearSkip, true⟩
        ⟨s, k₁.clearSkip, true⟩

end Machine

/-- A scan has come exactly one character further than another one, in the text as well as on the
line, and is the same otherwise. -/
structure Scan.OneFurther (scan scan' : Scan) : Prop where
  spot : ∃ c rest, scan'.spot.ahead = c :: rest ∧ scan.spot = ⟨c :: scan'.spot.behind, rest⟩ ∧
    scan.spot.offset = scan'.spot.offset + c.utf8Size
  cursor : scan.cursor = scan'.cursor.advanceColumn 1
  done : scan.done = scan'.done

private theorem Machine.FailsApart.oneFurther {m : Machine} {s₀ : Spot} {k₀ : Cursor}
    {scan scan' : Scan}
    (h : m.FailsApart s₀ k₀ scan scan') : scan.OneFurther scan' := by
  cases h with
  | @intro s k k₁ e σs run fails =>
    obtain ⟨a, text, journal, hdecides, _⟩ := fails
    obtain ⟨c, rest, hahead, _⟩ := hdecides.exists_ahead
    obtain ⟨behind, ahead⟩ := s
    cases hahead
    refine ⟨⟨c, rest, rfl, rfl, ?_⟩, rfl, rfl⟩
    change (Spot.advance 1 _).offset = _
    rw [Spot.offset_advance, List.take_succ_cons, List.take_zero, Text.utf8Length_cons,
      Text.utf8Length_nil, Nat.add_zero]

/-! ### Whole scans -/

namespace Situation

/-- A scan that stands in a situation. -/
def scan (sit : Situation) : Scan := ⟨sit.spot, sit.cursor, false⟩

variable (rules : RuleSet) (config : Config)

/-- No handler fails in a situation. -/
def Calm (sit : Situation) : Prop :=
  ∀ e k₁, ¬ (sit.machine rules config).HandlerFails sit.spot sit.cursor e k₁

/-- No handler fails in the scans that actions start in a situation. -/
def CalmInside (sit : Situation) : Prop := Inside rules config (Calm rules config) sit

/-- The situations that a scan comes to before any handler has failed. None fails in the scans that
the action of a step starts, nor in those that the same action has started before the one that is
entered. -/
inductive Untroubled (start : Situation) : Situation → Prop
  | start : Untroubled start start
  | step {sit : Situation} {σ : Stride} {s : Spot} {k : Cursor} (before : Untroubled start sit)
      (calm : CalmInside rules config sit)
      (takes : (sit.machine rules config).Takes sit.spot sit.cursor σ s k) :
      Untroubled start ⟨sit.depth, s, k⟩
  | within {depth : Nat} {s : Spot} {k k' : Cursor} {d : Decider} {text : List Char}
      {input : String} {earlier later : List Call} (before : Untroubled start ⟨depth + 1, s, k⟩)
      (decides : Decides rules config ⟨depth + 1, s, k⟩ d text)
      (calls : calls rules config ⟨depth + 1, s, k⟩ d text =
        earlier ++ ⟨k', .tokenize input⟩ :: later)
      (calm : ∀ k'' input', ⟨k'', .tokenize input'⟩ ∈ earlier →
        Throughout rules config (Calm rules config) ⟨depth, .start input'.toList, k''.clearSkip⟩) :
      Untroubled start ⟨depth, .start input.toList, k'.clearSkip⟩

variable {rules config} {sit start : Situation}

/-- Where no handler fails, steps agree if the scans do that actions start. -/
theorem Calm.steps_agree (h : Calm rules config sit)
    (hnested : NestedAgree rules rules.catchingAll config config sit) :
    (sit.machine rules config).StepsAgree Scan.NeverApart
      (sit.machine rules.catchingAll config) sit.spot sit.cursor :=
  Machine.steps_agree_of_catchingAll rfl hnested fun e k₁ hfails ↦ absurd hfails (h e k₁)

private theorem CalmInside.nestedAgree (h : CalmInside rules config sit) :
    NestedAgree rules rules.catchingAll config config sit :=
  Inside.nestedAgree (fun _ ↦ Calm.steps_agree) h

/-- Where no handler fails in scans that actions start, steps agree, but for where a handler that
fails leaves the scan. -/
theorem CalmInside.steps_agree {s : Spot} {k : Cursor} {σs : List Stride}
    (h : CalmInside rules config sit)
    (hrun : (sit.machine rules config).Run s k σs sit.spot sit.cursor) :
    (sit.machine rules config).StepsAgree ((sit.machine rules config).FailsApart s k)
      (sit.machine rules.catchingAll config) sit.spot sit.cursor :=
  Machine.steps_agree_of_catchingAll rfl h.nestedAgree fun _ _ hfails ↦ .intro hrun hfails

/-- What a scan comes to before any handler has failed, it comes to with lexemes for handlers. -/
theorem Untroubled.arises (h : Untroubled rules config start sit) :
    Arises rules.catchingAll config start sit := by
  induction h with
  | start => exact .start
  | step _ calm takes ih =>
    obtain ⟨σ', htakes, _⟩ := (calm.steps_agree (.nil _ _)).takes takes
    exact .step ih htakes
  | @within depth s k k' d text input earlier later _ decides hcalls calm ih =>
    have hagree : (Machine.ofDepth rules config (depth + 1)).AgreeOn
        (.ofDepth rules.catchingAll config (depth + 1)) earlier := by
      intro k'' input' hmem
      exact (calm k'' input' hmem).tokenize_agrees (fun _ ↦ Calm.steps_agree)
    obtain ⟨later', hcalls'⟩ : ∃ later',
        (Machine.ofDepth rules.catchingAll config (depth + 1)).calls (d.routine text k) k =
          earlier ++ ⟨k', .tokenize input⟩ :: later' := by
      refine Machine.calls_prefix ?_ hcalls hagree
      rfl
    refine .within ih (Machine.Decides.caught rfl decides) ?_
    have hroutine : d.caught.routine text k = d.routine text k := by
      rw [Decider.routine, Decider.name_caught, Decider.action_caught, Decider.routine]
    change _ ∈ (Machine.ofDepth rules.catchingAll config (depth + 1)).calls
      (d.caught.routine text k) k
    rw [hroutine, hcalls']
    exact List.mem_append_cons_self

private theorem next_scan (m : Machine) (sit : Situation) :
    m.next sit.scan = m.nextFrom sit.spot sit.cursor := by
  rw [Machine.next]
  exact if_neg Bool.false_ne_true

/-- All that a scan gives agrees before any handler has failed in a scan that an action started. -/
theorem Before.pulls_catchingAll {count : Nat}
    (h : Before rules config (CalmInside rules config) count sit) :
    Option.Rel
      (List.Forall₂ (Pull.Agrees ((sit.machine rules config).FailsApart sit.spot sit.cursor)))
      ((sit.machine rules config).pulls count sit.scan)
      ((sit.machine rules.catchingAll config).pulls count sit.scan) := by
  apply Machine.pulls_agree
  intro σs s k hrun hless
  exact (h σs s k hrun hless).steps_agree hrun

/-- When a handler fails, a scan gives the error with lexemes for handlers as well, but is left
before the handler's character. -/
theorem Before.next_of_handlerFails {σs : List Stride} {s : Spot} {k k₁ : Cursor} {e : LexError}
    (h : Before rules config (CalmInside rules config) 1 sit)
    (hrun : (sit.machine rules config).Run sit.spot sit.cursor σs s k)
    (hsilent : ∀ σ ∈ σs, σ.token? = none)
    (hfails : (sit.machine rules config).HandlerFails s k e k₁) :
    ∃ journal journal',
      (sit.machine rules config).next sit.scan = some ⟨some (.error e),
        ⟨s.advance 1, (k₁.advanceColumn 1).clearSkip, true⟩, journal⟩ ∧
      (sit.machine rules.catchingAll config).next sit.scan = some ⟨some (.error e),
        ⟨s, k₁.clearSkip, true⟩, journal'⟩ ∧
      journal.notes = Journal.notes journal' := by
  have hcalm {τs : List Stride} {s' : Spot} {k' : Cursor}
      (hτs : (sit.machine rules config).Run sit.spot sit.cursor τs s' k')
      (hquiet : ∀ τ ∈ τs, τ.token? = none) : CalmInside rules config ⟨sit.depth, s', k'⟩ := by
    apply h τs s' k' hτs
    rw [List.filterMap_eq_nil_iff.2 hquiet]
    exact Nat.one_pos
  have hsteps (τs : List Stride) (s' : Spot) (k' : Cursor)
      (hτs : (sit.machine rules config).Run sit.spot sit.cursor τs s' k')
      (hquiet : ∀ τ ∈ τs, τ.token? = none) :
      (sit.machine rules config).StepsAgree
        ((sit.machine rules config).FailsApart sit.spot sit.cursor)
        (sit.machine rules.catchingAll config) s' k' := (hcalm hτs hquiet).steps_agree hτs
  obtain ⟨a, text, journal, hdecides, hperform⟩ := hfails
  obtain ⟨journal', hperform'⟩ : ∃ journal', (sit.machine rules.catchingAll config).perform
      ((Decider.handler a).routine text k) k = some ⟨.error e, k₁, journal'⟩ :=
    Machine.exists_perform_eq (by rfl) ((hcalm hrun hsilent).nestedAgree _ _ hdecides) hperform
  obtain ⟨σs', hrun', hsilent'⟩ := hrun.agrees hsilent hsteps
  obtain ⟨before, hreach⟩ := Machine.nextFrom_of_run hrun hsilent
  obtain ⟨before', hreach'⟩ := Machine.nextFrom_of_run hrun' hsilent'
  obtain ⟨last, hlast⟩ := Machine.nextFrom_of_fails (.handler hdecides hperform)
  obtain ⟨last', hlast'⟩ := Machine.nextFrom_of_fails
    (.rule (Machine.Decides.caught rfl hdecides) hperform')
  have hnext : (sit.machine rules config).next sit.scan = some ⟨some (.error e),
      ⟨s.advance 1, (k₁.advanceColumn 1).clearSkip, true⟩, before ++ last⟩ := by
    rw [next_scan, hreach, hlast]
    rfl
  have hnext' : (sit.machine rules.catchingAll config).next sit.scan = some ⟨some (.error e),
      ⟨s, k₁.clearSkip, true⟩, before' ++ last'⟩ := by
    rw [next_scan, hreach', hlast']
    rfl
  refine ⟨_, _, hnext, hnext', ?_⟩
  have hagrees : Option.Rel (Pull.Agrees _) ((sit.machine rules config).next sit.scan)
      ((sit.machine rules.catchingAll config).next sit.scan) := Machine.next_agrees hsteps
  rw [hnext, hnext'] at hagrees
  cases hagrees with
  | some hsame => exact hsame.notes

end Situation

namespace Lexer

/-- The lexer with a lexeme for all characters in the place of each handler of errors. -/
def catchingAll (l : Lexer) : Lexer := { l with rules := l.rules.catchingAll }

/-- Words, a sign that has another text scanned, and a handler that fails on one character only. -/
def signDeclarations : List Declaration :=
  [.tokens ["WORD", "SIGN"],
   .rule "WORD" (.charClass .alpha) none,
   .rule "SIGN" (.literal "@") (some (Step.action [.tokenize "!"])),
   .error none (some (Step.action [.ifText "!" [.fail "no such sign"] [.emit]]))]

/-- The lexer for words and signs. -/
def signLexer : Lexer :=
  (define signDeclarations .quiet).toOption.get (by decide +kernel)

/-- The lexeme for signs. -/
def signLexeme : Lexeme := ⟨"SIGN", .literal "@", some (Step.action [.tokenize "!"])⟩

end Lexer

end ModalLexer
