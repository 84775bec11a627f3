import ModalLexer.Proofs.Sessions
import ModalLexer.Proofs.Situations
import ModalLexer.Proofs.Skips

/-!
# Skips that are left over

An engine notes how many characters are still to be skipped, and the note is for the current match
only. It can be left over in three ways: it was made outside any scan, or by an action or a handler
that failed afterwards. In each of them it goes unseen. Two lexers that differ in nothing else
answer alike, and are the same after a scan; and what a scan gives when an action fails is what it
would give had the action asked to skip less, or more.
-/

namespace ModalLexer

open Text (Spot)

/-! ### Cursors but for the note -/

namespace Cursor

variable (rules : RuleSet) (state : String) (k : Cursor)

private theorem begin_clearSkip :
    (k.clearSkip.begin rules state).map id clearSkip = (k.begin rules state).map id clearSkip := by
  unfold begin
  split <;> rfl

private theorem push_clearSkip :
    (k.clearSkip.push rules state).map id clearSkip = (k.push rules state).map id clearSkip := by
  unfold push
  split <;> rfl

private theorem pop_clearSkip : k.clearSkip.pop.map id clearSkip = k.pop.map id clearSkip := by
  obtain ⟨state, stack, line, passed, pending⟩ := k
  cases stack <;> rfl

end Cursor

/-- An outcome without the note of what is to be skipped. -/
def Outcome.clearSkip {α : Type} (o : Outcome α) : Outcome α :=
  { o with cursor := o.cursor.clearSkip }

private theorem Outcome.clearSkip_eq_iff {α : Type} {o o' : Outcome α} :
    o.clearSkip = o'.clearSkip ↔
      o.value = o'.value ∧ o.cursor.clearSkip = o'.cursor.clearSkip ∧ o.journal = o'.journal := by
  obtain ⟨value, cursor, journal⟩ := o
  obtain ⟨value', cursor', journal'⟩ := o'
  rw [clearSkip, clearSkip, Outcome.mk.injEq]

/-- Scans that actions start do not see what was to be skipped before. -/
def Nested.ForgetsSkip (nested : Nested) : Prop :=
  ∀ text k, nested text k.clearSkip = nested text k

/-- Two routines that do the same, but for what they ask to be skipped: either of them may make such
a request that the other one does not make. -/
inductive Routine.SameButSkips : Routine → Routine → Prop
  | finish (outcome : Except LexError Verdict) : SameButSkips (.finish outcome) (.finish outcome)
  | ask (r : Request) {next next' : r.Reply → Routine}
      (hnext : ∀ reply, SameButSkips (next reply) (next' reply)) :
      SameButSkips (.ask r next) (.ask r next')
  | left (count : Counter) {next : (Request.skip count).Reply → Routine} {routine' : Routine}
      (hnext : SameButSkips (next ()) routine') : SameButSkips (.ask (.skip count) next) routine'
  | right (count : Counter) {routine : Routine} {next' : (Request.skip count).Reply → Routine}
      (hnext : SameButSkips routine (next' ())) : SameButSkips routine (.ask (.skip count) next')

namespace Machine

variable {m : Machine} {s : Spot} {k k' : Cursor}

private theorem forgetsSkip_nestedOfDepth (rules : RuleSet) (config : Config) (depth : Nat) :
    (nestedOfDepth rules config depth).ForgetsSkip := by
  intro text k
  cases depth <;> rfl

private theorem clearSkip_ofCursor {result result' : Except LexError Unit × Cursor}
    (h : result.map id Cursor.clearSkip = result'.map id Cursor.clearSkip) :
    (Outcome.ofCursor result).clearSkip = (Outcome.ofCursor result').clearSkip := by
  obtain ⟨hvalue, hcursor⟩ := Prod.mk.inj h
  exact Outcome.clearSkip_eq_iff.2 ⟨hvalue, hcursor, rfl⟩

/-- No reply shows what is to be skipped. -/
theorem answer_clearSkip (hm : m.nested.ForgetsSkip) (k : Cursor) (r : Request) :
    (m.answer k.clearSkip r).map Outcome.clearSkip = (m.answer k r).map Outcome.clearSkip := by
  cases r with
  | begin state => exact congrArg some (clearSkip_ofCursor (Cursor.begin_clearSkip m.rules state k))
  | push state => exact congrArg some (clearSkip_ofCursor (Cursor.push_clearSkip m.rules state k))
  | pop => exact congrArg some (clearSkip_ofCursor (Cursor.pop_clearSkip k))
  | tokenize input => exact congrArg (Option.map Outcome.clearSkip) (hm input.toList k)
  | _ => rfl

private theorem perform_skip (m : Machine) (k : Cursor) (count : Counter)
    (next : (Request.skip count).Reply → Routine) :
    m.perform (.ask (.skip count) next) k = m.perform (next ()) (k.skip count) := by
  rw [perform, answer, Option.bind_some]
  exact congrFun Option.map_id _

/-- Routines that are the same but for skips have the same outcome, but for the note. -/
theorem perform_sameButSkips (hm : m.nested.ForgetsSkip) {routine routine' : Routine}
    (h : routine.SameButSkips routine') (hk : k.clearSkip = k'.clearSkip) :
    (m.perform routine k).map Outcome.clearSkip =
      (m.perform routine' k').map Outcome.clearSkip := by
  induction h generalizing k k' with
  | finish outcome =>
    exact congrArg (fun k ↦ some (Outcome.mk outcome k [])) hk
  | @ask r next next' _ ih =>
    have hanswer : (m.answer k r).map Outcome.clearSkip =
        (m.answer k' r).map Outcome.clearSkip := by
      rw [← answer_clearSkip hm, hk, answer_clearSkip hm]
    rw [perform, perform]
    cases hreply : m.answer k r with
    | none =>
      rw [hreply, Option.map_none, eq_comm, Option.map_eq_none_iff] at hanswer
      rw [hanswer]
      rfl
    | some reply =>
      rw [hreply, Option.map_some, eq_comm, Option.map_eq_some_iff] at hanswer
      obtain ⟨reply', hreply', hsame⟩ := hanswer
      obtain ⟨hvalue, hcursor, hjournal⟩ := Outcome.clearSkip_eq_iff.1 hsame
      rw [hreply', Option.bind_some, Option.bind_some, hvalue, hjournal]
      have hrest := congrArg (Option.map fun o : Outcome (Except LexError Verdict) ↦
        { o with journal := reply.journal ++ o.journal }) (ih reply.value hcursor.symm)
      rw [Option.map_map, Option.map_map] at hrest ⊢
      exact hrest
  | left count _ ih =>
    rw [perform_skip]
    exact ih hk
  | right count _ ih =>
    rw [perform_skip]
    exact ih hk

/-- What a scan gives at a spot if the decision there is made by some routine. -/
def givenAfter (m : Machine) (d : Decider) (text : List Char) (s : Spot) (k : Cursor)
    (routine : Routine) : Option Pull :=
  (m.perform routine k).bind fun outcome ↦ m.follow (m.conclude d text s k outcome)

/-- What a scan gives where a decision is made is what it gives after the routine of who decides. -/
theorem nextFrom_of_decides {d : Decider} {text : List Char} (h : m.Decides s k d text) :
    m.nextFrom s k = m.givenAfter d text s k (d.routine text k) := by
  obtain ⟨c, rest, hahead, _⟩ := h.exists_ahead
  rw [nextFrom_of_cons hahead, step_of_decides hahead h, givenAfter, Decider.routine,
    Option.bind_map]
  rfl

/-- What a scan gives when an action fails does not depend on what was to be skipped. -/
theorem follow_conclude_congr {d : Decider} {text : List Char} {e : LexError} {journal : Journal}
    (hk : k.clearSkip = k'.clearSkip) (s : Spot) (k₀ : Cursor) :
    m.follow (m.conclude d text s k₀ ⟨.error e, k, journal⟩) =
      m.follow (m.conclude d text s k₀ ⟨.error e, k', journal⟩) := by
  cases d with
  | rule l =>
    exact congrArg (fun k ↦ some (Pull.mk (some (.error e)) ⟨s, k, true⟩
      (m.tryEvents k₀ ++ journal))) hk
  | handler a =>
    exact congrArg (fun k ↦ some (Pull.mk (some (.error e))
      ⟨s.advance 1, k.advanceColumn 1, true⟩ (m.tryEvents k₀ ++ journal))) hk

/-- If an action fails, the scan gives what it would give if the action had asked to skip less, or
more. -/
theorem givenAfter_of_sameButSkips (hm : m.nested.ForgetsSkip) {d : Decider} {text : List Char}
    {routine : Routine} {e : LexError} {k₁ : Cursor} {journal : Journal}
    (hdecides : m.Decides s k d text)
    (hfails : m.perform (d.routine text k) k = some ⟨.error e, k₁, journal⟩)
    (hsame : (d.routine text k).SameButSkips routine) :
    m.givenAfter d text s k routine = m.nextFrom s k := by
  have houtcome := perform_sameButSkips hm hsame (k := k) rfl
  rw [hfails, Option.map_some, eq_comm, Option.map_eq_some_iff] at houtcome
  obtain ⟨⟨value, k₂, journal₂⟩, hperform, hclear⟩ := houtcome
  obtain ⟨hvalue, hk₂, hjournal⟩ := Outcome.clearSkip_eq_iff.1 hclear
  cases hvalue
  cases hjournal
  rw [nextFrom_of_decides hdecides, givenAfter, givenAfter, hfails, hperform]
  exact follow_conclude_congr hk₂ s k

end Machine

/-! ### Lexers but for the note -/

namespace Lexer

variable {l l' : Lexer} {depth : Nat}

/-- The lexer without the note of what is to be skipped. -/
def clearSkip (l : Lexer) : Lexer := l.withCursor l.cursor.clearSkip

/-- Two lexers differ at most in the note of what is to be skipped. -/
def SameButSkip (l l' : Lexer) : Prop := l.clearSkip = l'.clearSkip

/-- What was asked to be skipped outside any scan is the only thing that was changed. -/
theorem sameButSkip_skip (l : Lexer) (count : Counter) : (l.skip count).SameButSkip l := rfl

/-- A scan forgets the note as it starts, so it makes no difference from then on. -/
theorem scan_sameButSkip (h : l.SameButSkip l') (text : String) : l.scan text = l'.scan text := by
  have hcursor : l.cursor.clearSkip = l'.cursor.clearSkip := congrArg Lexer.cursor h
  rw [scan, scan, Machine.scan, Machine.scan, hcursor]

private theorem machine_sameButSkip (h : l.SameButSkip l') (depth : Nat) :
    l.machine depth = l'.machine depth := by
  have hmachine := congrArg (·.machine depth) h
  exact hmachine

private theorem withCursor_sameButSkip (h : l.SameButSkip l') : l.withCursor = l'.withCursor := by
  funext k
  exact congrArg (·.withCursor k) h

section Scans

variable (h : l.SameButSkip l') (depth : Nat) (text : String)
include h

private theorem pulls_sameButSkip (bound : Option Nat) :
    l.pulls depth text bound = l'.pulls depth text bound := by
  rw [pulls, pulls, scan_sameButSkip h, machine_sameButSkip h, withCursor_sameButSkip h]

private theorem announcedPulls_sameButSkip (bound : Option Nat) :
    l.announcedPulls depth text bound = l'.announcedPulls depth text bound := by
  rw [announcedPulls, announcedPulls, pulls_sameButSkip h, machine_sameButSkip h]

private theorem stream_sameButSkip {σ : Type} (gather : σ → Token → σ) (start : σ) :
    l.stream depth gather start text = l'.stream depth gather start text := by
  rw [stream, stream, scan_sameButSkip h, machine_sameButSkip h, withCursor_sameButSkip h]

private theorem tokenize_sameButSkip : l.tokenize depth text = l'.tokenize depth text := by
  have hscan : Machine.scan l.cursor text.toList = Machine.scan l'.cursor text.toList :=
    scan_sameButSkip h text
  rw [tokenize, tokenize, Machine.tokenize, Machine.tokenize, hscan, machine_sameButSkip h,
    withCursor_sameButSkip h]

end Scans

/-- What is seen of an answer: all of it, and the lexer that it leaves but for the note. -/
def seen (given : Answer × Lexer) : Answer × Lexer := (given.1, given.2.clearSkip)

private theorem seen_done (l : Lexer) {result result' : Except LexError Unit × Cursor}
    (h : result.map id Cursor.clearSkip = result'.map id Cursor.clearSkip) :
    seen ((result.map id l.clearSkip.withCursor).map .done id) =
      seen ((result'.map id l.withCursor).map .done id) := by
  obtain ⟨hvalue, hcursor⟩ := Prod.mk.inj h
  exact congrArg₂ (fun answer k ↦ (Answer.done answer, l.withCursor k)) hvalue hcursor

/-- No answer shows the note. -/
theorem answer_clearSkip (l : Lexer) (depth : Nat) (op : Operation) :
    (l.clearSkip.answer depth op).map seen = (l.answer depth op).map seen := by
  have hsame : l.clearSkip.SameButSkip l := rfl
  cases op with
  | begin state => exact congrArg some (seen_done l (l.cursor.begin_clearSkip l.rules state))
  | push state => exact congrArg some (seen_done l (l.cursor.push_clearSkip l.rules state))
  | pop => exact congrArg some (seen_done l l.cursor.pop_clearSkip)
  | pulls text bound => rw [answer, answer, pulls_sameButSkip hsame]
  | announcedPulls text bound => rw [answer, answer, announcedPulls_sameButSkip hsame]
  | stream text => rw [answer, answer, stream_sameButSkip hsame]
  | tokenize text => rw [answer, answer, tokenize_sameButSkip hsame]
  | _ => rfl

/-- No session shows the note. -/
theorem session_sameButSkip (h : l.SameButSkip l') (ops : List Operation) :
    (l.session depth ops).map (·.map seen) = (l'.session depth ops).map (·.map seen) := by
  induction ops generalizing l l' with
  | nil => rfl
  | cons op ops ih =>
    have hfirst : (l.answer depth op).map seen = (l'.answer depth op).map seen := by
      rw [← answer_clearSkip, h, answer_clearSkip]
    rw [session, session]
    cases hgiven : l.answer depth op with
    | none =>
      rw [hgiven, Option.map_none, eq_comm, Option.map_eq_none_iff] at hfirst
      rw [hfirst]
    | some given =>
      rw [hgiven, Option.map_some, eq_comm, Option.map_eq_some_iff] at hfirst
      obtain ⟨given', hgiven', hseen⟩ := hfirst
      have hleft : given.2.SameButSkip given'.2 := (Prod.mk.inj hseen).2.symm
      rw [hgiven', Option.bind_some, Option.bind_some, Option.map_map, Option.map_map]
      have hrest := congrArg (Option.map (seen given :: ·)) (ih hleft)
      rw [Option.map_map, Option.map_map] at hrest
      change _ = Option.map (fun later ↦ seen given' :: later.map seen) (given'.2.session depth ops)
      rw [hseen]
      exact hrest

/-- No skip outlives its match. Whatever a lexer has gone through and whatever its actions do, when
a scan has been asked for what comes next, nothing is left to be skipped. A lexer that was told
outside any scan to skip characters, or differs from another one in the note of what is to be
skipped only, answers every session like the other one, and every scan leaves the two the same. When
an action or a handler fails, the scan gives what it would give, and is left as it would be, if that
had asked to skip any other number of characters, or none. -/
theorem no_skip_left (l : Lexer) :
    (∀ (nested : Nested) (text : String) (scan : Scan) (pull : Pull),
      Machine.Asked ⟨l.rules, l.config, nested⟩ (l.scan text) scan →
      Machine.next ⟨l.rules, l.config, nested⟩ scan = some pull →
      pull.scan.cursor.pendingSkip = 0) ∧
    (∀ count, (l.skip count).SameButSkip l) ∧
    (∀ (l' : Lexer), l.SameButSkip l' → ∀ depth,
      (∀ ops, (l.session depth ops).map (·.map seen) = (l'.session depth ops).map (·.map seen)) ∧
      ∀ text,
        (∀ bound, l.pulls depth text bound = l'.pulls depth text bound) ∧
        (∀ bound, l.announcedPulls depth text bound = l'.announcedPulls depth text bound) ∧
        (∀ (σ : Type) (gather : σ → Token → σ) (start : σ),
          l.stream depth gather start text = l'.stream depth gather start text) ∧
        l.tokenize depth text = l'.tokenize depth text) ∧
    ∀ (depth : Nat) (s : Spot) (k k' : Cursor) (d : Decider) (text : List Char) (e : LexError)
      (journal : Journal) (routine : Routine),
      (l.machine depth).Decides s k d text →
      (l.machine depth).perform (d.routine text k) k = some ⟨.error e, k', journal⟩ →
      (d.routine text k).SameButSkips routine →
      (l.machine depth).givenAfter d text s k routine = (l.machine depth).nextFrom s k := by
  refine ⟨?_, sameButSkip_skip l, ?_, ?_⟩
  · intro nested text scan pull hasked hnext
    exact Machine.next_pendingSkip hnext (hasked.pendingSkip_eq rfl)
  · intro l' h depth
    refine ⟨session_sameButSkip h, fun text ↦ ⟨?_, ?_, ?_, ?_⟩⟩
    · exact pulls_sameButSkip h depth text
    · exact announcedPulls_sameButSkip h depth text
    · intro σ gather start
      exact stream_sameButSkip h depth text gather start
    · exact tokenize_sameButSkip h depth text
  · intro depth s k k' d text e journal routine hdecides hfails hsame
    exact Machine.givenAfter_of_sameButSkips
      (Machine.forgetsSkip_nestedOfDepth l.rules l.config depth) hdecides hfails hsame

/-- A letter asks for two characters to be skipped, and then fails; anything else is dropped. -/
def abandoningDeclarations : List Declaration :=
  [.tokens ["LETTER"],
   .rule "LETTER" (.charClass .alpha) (some (Step.action [.skip 2, .fail "no letters"])),
   .error none (some .drop)]

/-- The lexer for such letters. -/
def abandoningLexer : Lexer :=
  (define abandoningDeclarations .quiet).toOption.get (by decide +kernel)

/-- The lexeme for such letters. -/
def abandoningLexeme : Lexeme :=
  ⟨"LETTER", .charClass .alpha, some (Step.action [.skip 2, .fail "no letters"])⟩

/-- An action that fails after it asked for characters to be skipped. -/
theorem no_skip_left_abandoningLexer :
    ((abandoningLexer.skip 3).session 0 [.tokenize "!?a!?"]).map (·.map seen) =
        (abandoningLexer.session 0 [.tokenize "!?a!?"]).map (·.map seen) ∧
      (abandoningLexer.machine 0).perform
        ((Decider.rule abandoningLexeme).routine ['a'] ⟨"initial", [], 1, 2, 0⟩)
        ⟨"initial", [], 1, 2, 0⟩ =
        some ⟨.error (.action "no letters"), ⟨"initial", [], 1, 2, 2⟩, []⟩ ∧
      (abandoningLexer.machine 0).givenAfter (.rule abandoningLexeme) ['a']
        ⟨['?', '!'], ['a', '!', '?']⟩ ⟨"initial", [], 1, 2, 0⟩
        (.finish (.error (.action "no letters"))) =
        (abandoningLexer.machine 0).nextFrom ⟨['?', '!'], ['a', '!', '?']⟩
          ⟨"initial", [], 1, 2, 0⟩ ∧
      ∃ pull, (abandoningLexer.machine 0).next (abandoningLexer.scan "!?a!?") = some pull ∧
        pull.item = some (.error (.action "no letters")) ∧ pull.scan.cursor.pendingSkip = 0 := by
  obtain ⟨hnext, hskip, hsame, hfails⟩ := no_skip_left abandoningLexer
  have hwins : Wins (abandoningLexer.rules.lexemes "initial") ⟨['?', '!'], ['a', '!', '?']⟩
      abandoningLexeme 1 := .head (by decide) (by simp)
  have hdecides : (abandoningLexer.machine 0).Decides ⟨['?', '!'], ['a', '!', '?']⟩
      ⟨"initial", [], 1, 2, 0⟩ (.rule abandoningLexeme) (['a', '!', '?'].take 1) :=
    .rule rfl rfl hwins
  have hsome : ((abandoningLexer.machine 0).next (abandoningLexer.scan "!?a!?")).map
      (fun pull ↦ pull.item.map (·.map (·.name))) =
      some (some (.error (.action "no letters"))) := by decide +kernel
  obtain ⟨pull, hpull, hitem⟩ := Option.map_eq_some_iff.1 hsome
  refine ⟨?_, rfl, ?_, pull, hpull, ?_, ?_⟩
  · exact (hsame _ (hskip 3).symm 0).1 [.tokenize "!?a!?"] |>.symm
  · exact hfails 0 _ _ _ _ _ _ _ _ hdecides rfl (.left 2 (.finish _))
  · rcases hresult : pull.item with _ | ⟨e⟩ | _ <;> simp_all [Except.map]
  · exact hnext _ _ _ _ (.none _) hpull

end Lexer

end ModalLexer
