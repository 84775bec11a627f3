import ModalLexer.Proofs.Sessions
import ModalLexer.Proofs.Traces

/-!
# Logging

A lexer may log what it does. This changes nothing else: with other options it answers every session
in the same way, but for what is logged (`answer_withConfig`). A lexer that is not to log anything
logs nothing (`events_answer`), and what one logs that is to do so follows from the steps that its
scans take (`Machine.Follows`): a line for each lexeme that is tried, then what the action logs,
then a line for the token. Scans that actions start are covered as far as these are requests: those
that are followed to their end, at any depth, but not what is logged by one that an action drops
early or follows as a stream.
-/

namespace ModalLexer

open Text (Spot)

/-! ### All but what is logged -/

/-- What actions write down, without what is logged. -/
def Journal.unlogged (j : Journal) : Journal := j.notes.map .note

private theorem Journal.unlogged_congr {j j' : Journal} (h : j.notes = j'.notes) :
    j.unlogged = j'.unlogged := by
  rw [unlogged, unlogged, h]

/-- A pull without what is logged. -/
def Pull.unlogged (p : Pull) : Pull := ⟨p.item, p.scan, p.journal.unlogged⟩

/-- An answer without what is logged. -/
def Answer.unlogged : Answer → Answer
  | .done result => .done result
  | .pulls announced ps => .pulls announced.unlogged (ps.map Pull.unlogged)
  | .stream given result journal => .stream given result journal.unlogged
  | .tokens result journal => .tokens result journal.unlogged

/-- All that comes out of an operation besides its result. -/
def Answer.journal : Answer → Journal
  | .done _ => []
  | .pulls announced ps => announced ++ ps.flatMap (·.journal)
  | .stream _ _ journal => journal
  | .tokens _ journal => journal

namespace Machine

variable {m m' : Machine} {scan left : Scan} {tokens : List Token} {failure : Option LexError}
  {journal : Journal}

/-- Whatever the options are, steps agree: rules decide about characters, and options do not. -/
theorem stepsAgree_ofDepth (rules : RuleSet) (config config' : Config) (depth : Nat) (s : Spot)
    (k : Cursor) :
    StepsAgree Scan.NeverApart (ofDepth rules config depth) (ofDepth rules config' depth) s k := by
  have hlocal (sit : Situation) (_ : True)
      (hnested : Situation.NestedAgree rules rules config config' sit) :
      (sit.machine rules config).StepsAgree Scan.NeverApart (sit.machine rules config') sit.spot
        sit.cursor :=
    steps_agree_of_longestMatch_eq rfl (fun _ _ _ ↦ rfl) rfl rfl hnested
  have hinside : Situation.Inside rules config (fun _ ↦ True) ⟨depth, s, k⟩ :=
    fun _ _ _ _ ↦ trivial
  exact hlocal ⟨depth, s, k⟩ trivial (hinside.nestedAgree hlocal)

section Agreeing

variable (hsteps : ∀ s k, StepsAgree Scan.NeverApart m m' s k)
include hsteps

private theorem next_eq_of_agree {item : Option (Except LexError Token)}
    (h : m.next scan = some ⟨item, left, journal⟩) :
    ∃ journal', m'.next scan = some ⟨item, left, journal'⟩ ∧ journal.notes = journal'.notes := by
  have hnext : Option.Rel (Pull.Agrees Scan.NeverApart) (m.next scan) (m'.next scan) :=
    next_agrees fun _ s k _ _ ↦ hsteps s k
  rw [h] at hnext
  generalize m'.next scan = y at hnext
  cases hnext with
  | @some _ pull' hsame =>
    obtain ⟨item', left', journal'⟩ := pull'
    cases hsame.item
    cases hsame.scan_eq
    exact ⟨journal', rfl, hsame.notes⟩

/-- Where all steps agree, a scan goes on in the same way to its end. -/
theorem Unfolds.agrees (h : m.Unfolds scan tokens failure left journal) :
    ∃ journal', m'.Unfolds scan tokens failure left journal' ∧ journal.notes = journal'.notes := by
  induction h with
  | ended hnext =>
    obtain ⟨journal', hnext', hnotes⟩ := next_eq_of_agree hsteps hnext
    exact ⟨journal', .ended hnext', hnotes⟩
  | failed hnext =>
    obtain ⟨journal', hnext', hnotes⟩ := next_eq_of_agree hsteps hnext
    exact ⟨journal', .failed hnext', hnotes⟩
  | token hnext _ ih =>
    obtain ⟨journal', hnext', hnotes⟩ := next_eq_of_agree hsteps hnext
    obtain ⟨more', hrest, hmore⟩ := ih
    refine ⟨journal' ++ more', .token hnext' hrest, ?_⟩
    rw [Journal.notes_append, Journal.notes_append, hnotes, hmore]

/-- Or what comes next is not found at the same time. -/
theorem Stalls.agrees (h : m.Stalls scan) : m'.Stalls scan := by
  induction h with
  | @here scan hnext =>
    have hagrees : Option.Rel (Pull.Agrees Scan.NeverApart) (m.next scan) (m'.next scan) :=
      next_agrees fun _ s k _ _ ↦ hsteps s k
    rw [hnext] at hagrees
    generalize hnext' : m'.next scan = y at hagrees
    cases hagrees
    exact .here hnext'
  | later hnext _ ih =>
    obtain ⟨journal', hnext', _⟩ := next_eq_of_agree hsteps hnext
    exact .later hnext' ih

end Agreeing

end Machine

namespace Lexer

/-- The lexer with other options. -/
def withConfig (l : Lexer) (config : Config) : Lexer := { l with config := config }

/-- How the tokens of a text are handed to a function. -/
theorem stream_eq_map {σ : Type} (l : Lexer) (depth : Nat) (text : String)
    (gather : σ → Token → σ) (start : σ) : l.stream depth gather start text =
      ((l.machine depth).stream gather start (l.scan text)).map
        fun (gathered, result, scan, journal) ↦
          (gathered, result, l.withCursor scan.cursor, (l.machine depth).tableEvents ++ journal) :=
  rfl

/-- How they are listed. -/
theorem tokenize_eq_map (l : Lexer) (depth : Nat) (text : String) : l.tokenize depth text =
      ((l.machine depth).collect (l.scan text)).map fun (result, scan, journal) ↦
        (result, l.withCursor scan.cursor, (l.machine depth).tableEvents ++ journal) := by
  rw [tokenize, Machine.tokenize, Option.map_map]
  rfl

section WithConfig

variable (l : Lexer) (config : Config) (depth : Nat) (text : String)

/-- What a scan gives does not depend on the options. -/
theorem pulls_withConfig (bound : Option Nat) :
    ((l.withConfig config).pulls depth text bound).map
        (fun (ps, l') ↦ (ps.map Pull.unlogged, l')) =
      (l.pulls depth text bound).map
        fun (ps, l') ↦ (ps.map Pull.unlogged, l'.withConfig config) := by
  have hshown : (l.pulls depth text bound).map shown =
      ((l.withConfig config).pulls depth text bound).map shown :=
    map_shown_pulls rfl (Machine.pulls_agree fun _ s k _ _ ↦
      Machine.stepsAgree_ofDepth l.rules l.config config depth s k)
  -- What is shown of a pull has all of it but what is logged.
  let rebuild (given : List (Option (Except LexError Token) × Scan × List Note) × Cursor) :
      List Pull × Lexer :=
    (given.1.map fun p ↦ ⟨p.1, p.2.1, p.2.2.map .note⟩, (l.withConfig config).withCursor given.2)
  have hrebuilt := congrArg (Option.map rebuild) hshown
  rw [pulls, pulls] at hrebuilt ⊢
  simp only [Option.map_map, Function.comp_def, shown, rebuild, List.map_map] at hrebuilt ⊢
  exact hrebuilt.symm

/-- So it is with a scan that is followed to its end. -/
theorem unfolds_or_stalls_withConfig :
    (∃ tokens failure left journal journal',
      (l.machine depth).Unfolds (l.scan text) tokens failure left journal ∧
      ((l.withConfig config).machine depth).Unfolds (l.scan text) tokens failure left journal' ∧
      journal.notes = journal'.notes) ∨
    ((l.machine depth).Stalls (l.scan text) ∧
      ((l.withConfig config).machine depth).Stalls (l.scan text)) := by
  have hsteps (s : Spot) (k : Cursor) : Machine.StepsAgree Scan.NeverApart (l.machine depth)
      ((l.withConfig config).machine depth) s k :=
    Machine.stepsAgree_ofDepth l.rules l.config config depth s k
  rcases (l.machine depth).unfolds_or_stalls (l.scan text) with
    ⟨tokens, failure, left, journal, h⟩ | h
  · obtain ⟨journal', h', hnotes⟩ := h.agrees hsteps
    exact .inl ⟨tokens, failure, left, journal, journal', h, h', hnotes⟩
  · exact .inr ⟨h, h.agrees hsteps⟩

private theorem unlogged_announced {m m' : Machine} {journal journal' : Journal}
    (h : journal.notes = journal'.notes) :
    (m.tableEvents ++ journal).unlogged = (m'.tableEvents ++ journal').unlogged := by
  apply Journal.unlogged_congr
  rw [Journal.notes_append, Journal.notes_append, Machine.notes_tableEvents,
    Machine.notes_tableEvents, h]

/-- The tokens that are handed to a function do not depend on the options. -/
theorem stream_withConfig {σ : Type} (gather : σ → Token → σ) (start : σ) :
    ((l.withConfig config).stream depth gather start text).map
        (fun (gathered, result, l', journal) ↦ (gathered, result, l', journal.unlogged)) =
      (l.stream depth gather start text).map fun (gathered, result, l', journal) ↦
        (gathered, result, l'.withConfig config, journal.unlogged) := by
  have hscan := (l.withConfig config).stream_eq_map depth text gather start
  change _ = (Machine.stream _ gather start (l.scan text)).map _ at hscan
  rcases l.unfolds_or_stalls_withConfig config depth text with
    ⟨tokens, failure, left, journal, journal', h, h', hnotes⟩ | ⟨h, h'⟩
  · rw [hscan, stream_eq_map, h.stream_eq, h'.stream_eq]
    simp only [Option.map_some]
    rw [unlogged_announced hnotes]
    rfl
  · rw [hscan, stream_eq_map, h.stream_eq, h'.stream_eq]
    rfl

/-- The tokens that are listed do not depend on the options, nor does the error. -/
theorem tokenize_withConfig :
    ((l.withConfig config).tokenize depth text).map
        (fun (result, l', journal) ↦ (result, l', journal.unlogged)) =
      (l.tokenize depth text).map fun (result, l', journal) ↦
        (result, l'.withConfig config, journal.unlogged) := by
  have hscan := (l.withConfig config).tokenize_eq_map depth text
  change _ = (Machine.collect _ (l.scan text)).map _ at hscan
  rcases l.unfolds_or_stalls_withConfig config depth text with
    ⟨tokens, failure, left, journal, journal', h, h', hnotes⟩ | ⟨h, h'⟩
  · rw [hscan, tokenize_eq_map, h.collect_eq, h'.collect_eq]
    simp only [Option.map_some]
    rw [unlogged_announced hnotes]
    rfl
  · rw [hscan, tokenize_eq_map, h.collect_eq, h'.collect_eq]
    rfl

/-- An operation is answered in the same way whatever the options are, but for what is logged, and
leaves the same lexer. -/
theorem answer_withConfig (op : Operation) :
    ((l.withConfig config).answer depth op).map (fun (a, l') ↦ (a.unlogged, l')) =
      (l.answer depth op).map fun (a, l') ↦ (a.unlogged, l'.withConfig config) := by
  cases op with
  | begin | push | pop | skip | advanceLine | advanceColumn | rewind => rfl
  | pulls text bound =>
    have hpulls := congrArg (Option.map fun (ps, l') ↦ (Answer.pulls [] ps, l'))
      (l.pulls_withConfig config depth text bound)
    rw [answer, answer]
    simp only [Option.map_map, Function.comp_def] at hpulls ⊢
    exact hpulls
  | announcedPulls text bound =>
    have htables : ((l.withConfig config).machine depth).tableEvents.unlogged =
        (l.machine depth).tableEvents.unlogged :=
      Journal.unlogged_congr
        ((Machine.notes_tableEvents _).trans (Machine.notes_tableEvents _).symm)
    have hpulls := congrArg (Option.map fun (ps, l') ↦
        (Answer.pulls (l.machine depth).tableEvents.unlogged ps, l'))
      (l.pulls_withConfig config depth text bound)
    rw [answer, answer, announcedPulls, announcedPulls]
    simp only [Option.map_map, Function.comp_def, Answer.unlogged, htables] at hpulls ⊢
    exact hpulls
  | stream text =>
    have hstream := congrArg
      (Option.map fun given ↦ (Answer.stream given.1 given.2.1 given.2.2.2, given.2.2.1))
      (l.stream_withConfig config depth text (fun tokens token ↦ tokens ++ [token]) [])
    rw [answer, answer]
    simp only [Option.map_map, Function.comp_def] at hstream ⊢
    exact hstream
  | tokenize text =>
    have htokenize := congrArg (Option.map fun (result, l', journal) ↦
        (Answer.tokens result journal, l'))
      (l.tokenize_withConfig config depth text)
    rw [answer, answer]
    simp only [Option.map_map, Function.comp_def] at htokenize ⊢
    exact htokenize

/-- So is everything in a session. -/
theorem session_withConfig (ops : List Operation) :
    ((l.withConfig config).session depth ops).map (·.map fun (a, l') ↦ (a.unlogged, l')) =
      (l.session depth ops).map (·.map fun (a, l') ↦ (a.unlogged, l'.withConfig config)) := by
  induction ops generalizing l with
  | nil => rfl
  | cons op ops ih =>
    have hanswer := l.answer_withConfig config depth op
    rw [session, session, Option.map_bind, Option.map_bind]
    generalize (l.withConfig config).answer depth op = x, l.answer depth op = y at hanswer
    cases x with
    | none =>
      cases y with
      | none => rfl
      | some given => cases hanswer
    | some given' =>
      cases y with
      | none => cases hanswer
      | some given =>
        obtain ⟨a', l₁'⟩ := given'
        obtain ⟨a, l₁⟩ := given
        obtain ⟨ha, rfl⟩ := Prod.mk.inj (Option.some.inj hanswer)
        have hlater := congrArg (Option.map ((a.unlogged, l₁.withConfig config) :: ·)) (ih l₁)
        simp only [Option.bind_some, Function.comp_def, Option.map_map, List.map_cons, ha]
          at hlater ⊢
        exact hlater

end WithConfig

/-! ### What is logged -/

/-- What comes out of the scans of a lexer, whether anything is logged or not. What comes out of a
scan is what comes out of the steps that it takes, as far as it is asked. The tables may be logged
before it; they are logged first if the tokens are handed to a function or listed. A scan that an
action starts has all come out that comes out if tokens are listed. -/
structure Traces (l : Lexer) (depth : Nat) : Prop where
  pulls : ∀ {text bound given l'}, l.pulls depth text bound = some (given, l') →
    (l.machine depth).Follows (l.scan text) (given.filterMap (·.token?)) (l.scanAfter text given)
      (given.flatMap (·.journal))
  announcedPulls : ∀ {text bound announced given l'},
    l.announcedPulls depth text bound = some (announced, given, l') →
      announced = (l.machine depth).tableEvents ∧ l.pulls depth text bound = some (given, l')
  stream : ∀ {σ : Type} {gather : σ → Token → σ} {start gathered text result l' journal},
    l.stream depth gather start text = some (gathered, result, l', journal) →
      ∃ tokens left own, (l.machine depth).Follows (l.scan text) tokens left own ∧
        left.done = true ∧ gathered = tokens.foldl gather start ∧
        l' = l.withCursor left.cursor ∧ journal = (l.machine depth).tableEvents ++ own
  tokenize : ∀ {text result l' journal},
    l.tokenize depth text = some (result, l', journal) →
      ∃ tokens left own, (l.machine depth).Follows (l.scan text) tokens left own ∧
        left.done = true ∧ (∀ listed, result = .ok listed → listed = tokens) ∧
        l' = l.withCursor left.cursor ∧ journal = (l.machine depth).tableEvents ++ own
  nested : ∀ (k : Cursor) (input : String),
    (l.machine (depth + 1)).callJournal ⟨k, .tokenize input⟩ =
      ((l.withCursor k).tokenize depth input).elim [] (·.2.2)

private theorem traces (l : Lexer) (depth : Nat) : l.Traces depth where
  pulls h := by
    obtain ⟨given, hgiven, heq⟩ := Option.map_eq_some_iff.1 h
    cases heq
    exact Machine.pulls_follows rfl hgiven
  announcedPulls h := by
    obtain ⟨⟨given, l'⟩, hpulls, heq⟩ := Option.map_eq_some_iff.1 h
    cases heq
    exact ⟨rfl, hpulls⟩
  stream h := by
    rw [stream_eq_map] at h
    obtain ⟨⟨gathered, result, left, own⟩, hstream, heq⟩ := Option.map_eq_some_iff.1 h
    cases heq
    obtain ⟨tokens, hfollows, hdone, hgathered⟩ := Machine.stream_follows rfl hstream
    exact ⟨tokens, left, own, hfollows, hdone, hgathered, rfl, rfl⟩
  tokenize h := by
    rw [tokenize_eq_map] at h
    obtain ⟨⟨result, left, own⟩, hcollect, heq⟩ := Option.map_eq_some_iff.1 h
    cases heq
    obtain ⟨tokens, hfollows, hdone, hlisted⟩ := Machine.collect_follows rfl hcollect
    exact ⟨tokens, left, own, hfollows, hdone, hlisted, rfl, rfl⟩
  nested k input := by
    change ((l.machine depth).tokenize input.toList k).elim [] (·.journal) = _
    rw [Lexer.tokenize]
    change _ = (Option.map _ ((l.machine depth).tokenize input.toList k)).elim _ _
    rw [Option.elim_map]
    rfl

/-- A lexer that is not to log anything logs nothing. -/
theorem events_answer {l l' : Lexer} {depth : Nat} {op : Operation} {a : Answer}
    (hdebug : l.config.debug = false) (h : l.answer depth op = some (a, l')) :
    a.journal.events = [] := by
  have hnested := Machine.quiet_nestedOfDepth l.rules hdebug depth
  have hfollows {scan left : Scan} {tokens : List Token} {journal : Journal}
      (hscan : (l.machine depth).Follows scan tokens left journal) : journal.events = [] :=
    hscan.events_eq_nil hdebug hnested
  have htables : (l.machine depth).tableEvents = [] := by
    rw [Machine.tableEvents]
    exact if_neg (Bool.eq_false_iff.1 hdebug)
  have htraces := l.traces depth
  cases op with
  | begin | push | pop | skip | advanceLine | advanceColumn | rewind =>
    cases h
    rfl
  | pulls text bound =>
    obtain ⟨⟨given, l₁⟩, hpulls, heq⟩ := Option.map_eq_some_iff.1 h
    cases heq
    exact hfollows (htraces.pulls hpulls)
  | announcedPulls text bound =>
    obtain ⟨⟨announced, given, l₁⟩, hannounced, heq⟩ := Option.map_eq_some_iff.1 h
    cases heq
    obtain ⟨rfl, hpulls⟩ := htraces.announcedPulls hannounced
    rw [Answer.journal, htables, List.nil_append]
    exact hfollows (htraces.pulls hpulls)
  | stream text =>
    obtain ⟨⟨gathered, result, l₁, journal⟩, hstream, heq⟩ := Option.map_eq_some_iff.1 h
    cases heq
    obtain ⟨tokens, left, own, hown, _, _, _, rfl⟩ := htraces.stream hstream
    rw [Answer.journal, htables, List.nil_append]
    exact hfollows hown
  | tokenize text =>
    obtain ⟨⟨result, l₁, journal⟩, htokenize, heq⟩ := Option.map_eq_some_iff.1 h
    cases heq
    obtain ⟨tokens, left, own, hown, _, _, _, rfl⟩ := htraces.tokenize htokenize
    rw [Answer.journal, htables, List.nil_append]
    exact hfollows hown

/-- So it is in a session. -/
theorem events_session {l : Lexer} {depth : Nat} {ops : List Operation}
    {answers : List (Answer × Lexer)} (hdebug : l.config.debug = false)
    (h : l.session depth ops = some answers) : ∀ a ∈ answers, a.1.journal.events = [] := by
  induction ops generalizing l answers with
  | nil =>
    cases h
    simp
  | cons op ops ih =>
    obtain ⟨⟨a, l'⟩, hanswer, hrest⟩ := Option.bind_eq_some_iff.1 h
    obtain ⟨later, hlater, rfl⟩ := Option.map_eq_some_iff.1 hrest
    obtain ⟨k, heq, _⟩ := ((History.same l).answer hanswer).keeps
    obtain rfl : l' = l.withCursor k := heq
    have hrest : ∀ a ∈ later, a.1.journal.events = [] := ih (l := l.withCursor k) hdebug hlater
    exact List.forall_mem_cons.2 ⟨events_answer hdebug hanswer, hrest⟩

/-- Logging changes nothing else. Lexers that differ in their options only answer every session in
the same way, but for what is logged, and are left with the same cursor by every operation; scans in
which actions start others that they follow to their end belong to it. The one that is not to log
anything logs nothing. What the other one logs follows from the steps of its scans: nothing where a
character is ignored, and wherever else it comes a line for each lexeme of the current state, in
order and with the position where the match starts, then what the action logs, and then a line for
the token if one is emitted. -/
theorem logging_changes_nothing (l : Lexer) (config : Config) (depth : Nat) :
    (∀ ops, ((l.withConfig config).session depth ops).map (·.map fun (a, l') ↦ (a.unlogged, l')) =
      (l.session depth ops).map (·.map fun (a, l') ↦ (a.unlogged, l'.withConfig config))) ∧
    (l.config.debug = false → ∀ ops answers, l.session depth ops = some answers →
      ∀ a ∈ answers, a.1.journal.events = []) ∧
    l.Traces depth ∧
    (l.config.debug = true →
      (∀ k c, Passage.journal (l.machine depth) ⟨k, .ignored c⟩ = []) ∧
      (∀ (k : Cursor) (d : Decision), Passage.journal (l.machine depth) ⟨k, .decided d⟩ =
        ((l.rules.lexemes k.state).map fun x ↦ .event (.trying k.state x.name k.position)) ++
          (l.machine depth).routineJournal (d.decider.action d.candidate) k ++
          d.verdict.token?.toList.map (.event ∘ .emitted)) ∧
      ∀ es, (l.machine depth).lines es = es.map .event) := by
  refine ⟨l.session_withConfig config depth, fun hdebug ops answers ↦ events_session hdebug,
    l.traces depth, fun hdebug ↦ ?_⟩
  have hlines (es : List Event) : (l.machine depth).lines es = es.map .event := if_pos hdebug
  refine ⟨fun _ _ ↦ rfl, fun k d ↦ ?_, hlines⟩
  change (l.machine depth).lines _ ++ _ ++ (l.machine depth).lines _ = _
  rw [hlines, hlines, RuleSet.tries, List.map_map, List.map_map]
  rfl

/-- Two parentheses, of which the second one is closed in a scan of its own. -/
def tracedOperations : List Operation := [.pulls "(()" (some 2), .pop, .tokenize ")"]

/-- What is logged of two parentheses. -/
theorem logging_changes_nothing_bracketLexer :
    ((bracketLexer.withConfig .verbose).pulls 1 "(()" (some 2)).map
        (fun given ↦ (Journal.events (given.1.flatMap (·.journal))).map Event.message) =
      some ["state initial: trying OPEN at 1:1", "Token(OPEN,(,1,1)",
        "state inner: trying OPEN at 1:2", "state inner: trying CLOSE at 1:2",
        "tokens: [\"OPEN\", \"CLOSE\"]", "state initial (inclusive): [\"OPEN\"]",
        "state initial: ignore Some(Chars(\"\")), error entry false",
        "state inner (exclusive): [\"OPEN\", \"CLOSE\"]",
        "state inner: ignore None, error entry false", "state inner: trying OPEN at 1:2",
        "state inner: trying CLOSE at 1:2", "Token(CLOSE,),1,2)", "Token(OPEN,(,1,2)"] ∧
      ((bracketLexer.withConfig .verbose).session 1 tracedOperations).map
          (·.map fun (a, l') ↦ (a.unlogged, l')) =
        (bracketLexer.session 1 tracedOperations).map
          (·.map fun (a, l') ↦ (a.unlogged, l'.withConfig .verbose)) ∧
      (∀ answers, bracketLexer.session 1 tracedOperations = some answers →
        ∀ a ∈ answers, a.1.journal.events = []) ∧
      ∀ d : Decision,
        Passage.journal ((bracketLexer.withConfig .verbose).machine 1) ⟨.initial, .decided d⟩ =
          [.event (.trying "initial" "OPEN" ⟨1, 1⟩)] ++
            ((bracketLexer.withConfig .verbose).machine 1).routineJournal
              (d.decider.action d.candidate) .initial ++
            d.verdict.token?.toList.map (.event ∘ .emitted) := by
  obtain ⟨hsessions, hquiet, _, _⟩ := logging_changes_nothing bracketLexer .verbose 1
  obtain ⟨_, _, _, hverbose⟩ :=
    logging_changes_nothing (bracketLexer.withConfig .verbose) .quiet 1
  obtain ⟨_, hdecided, _⟩ := hverbose rfl
  exact ⟨by decide +kernel, hsessions tracedOperations, hquiet rfl tracedOperations,
    fun d ↦ hdecided .initial d⟩

end Lexer

end ModalLexer
