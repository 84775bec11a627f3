import ModalLexer.Config
import ModalLexer.Cursor
import ModalLexer.Event

/-!
# Scanning

A scan goes through a text step by step. A step skips a character that the current state ignores; or
it takes the longest match of the state's lexemes, the first registered winning a tie; or it hands
one character to the state's error handler; or it fails. Matches and handled characters go to an
action, which may change the engine before they are consumed.

An action may start a scan of another text on the same engine. `Machine.nested` is how such scans
are run, so that everything here is stated for any way to run them; `Machine.ofDepth` allows them to
a given depth. A scan that would go deeper has no outcome, which is what `none` means throughout.
-/

namespace ModalLexer

open Text (Spot)

/-- A value, where it leaves the cursor, and what came out on the way. -/
structure Outcome (α : Type) where
  value : α
  cursor : Cursor
  journal : Journal

/-- How scans that actions start are run. -/
abbrev Nested := List Char → Cursor → Option (Outcome (Except LexError (List Token)))

/-- What does not change while scanning: the rules, the options, and how scans that actions start
are run. -/
structure Machine where
  rules : RuleSet
  config : Config
  nested : Nested

/-- The outcome of an operation on the cursor that may fail. -/
def Outcome.ofCursor (result : Except LexError Unit × Cursor) : Outcome (Except LexError Unit) :=
  ⟨result.1, result.2, []⟩

namespace Machine

/-- The engine's reply to a request. -/
def answer (m : Machine) (k : Cursor) : (r : Request) → Option (Outcome r.Reply)
  | .begin state => some (.ofCursor (k.begin m.rules state))
  | .push state => some (.ofCursor (k.push m.rules state))
  | .pop => some (.ofCursor k.pop)
  | .skip count => some ⟨(), k.skip count, []⟩
  | .advanceLine count => some ⟨(), k.advanceLine count, []⟩
  | .advanceColumn count => some ⟨(), k.advanceColumn count, []⟩
  | .rewind => some ⟨(), .initial, []⟩
  | .look => some ⟨k.view, k, []⟩
  | .tokenize input => m.nested input.toList k
  | .note n => some ⟨(), k, [.note n]⟩

/-- Runs a routine to its end. -/
def perform (m : Machine) : Routine → Cursor → Option (Outcome (Except LexError Verdict))
  | .finish outcome, k => some ⟨outcome, k, []⟩
  | .ask r next, k =>
    (m.answer k r).bind fun reply ↦
      (m.perform (next reply.value) reply.cursor).map fun result ↦
        ⟨result.value, result.cursor, reply.journal ++ result.journal⟩

/-- The lexeme with the longest match at a spot and the number of characters it matches. An earlier
lexeme is replaced by a later one only if that matches more. -/
def longestMatch : List Lexeme → Spot → Option (Lexeme × Nat)
  | [], _ => none
  | l :: ls, s =>
    match l.matcher.span? s, longestMatch ls s with
    | none, later => later
    | some n, none => some (l, n)
    | some n, some (l', n') => if n < n' then some (l', n') else some (l, n)

/-- What is logged when the lexemes of the current state are tried. -/
def tryEvents (m : Machine) (k : Cursor) : Journal :=
  if m.config.debug then
    (m.rules.lexemes k.state).map fun l ↦ .event (.trying k.state l.name k.position)
  else []

/-- Where a step leaves a scan: at a spot, with a cursor, and with what came out on the way. -/
structure Place where
  spot : Spot
  cursor : Cursor
  journal : Journal

/-- What a step does: it goes on, with a token or without, or it fails. -/
inductive StepResult where
  | moved (token : Option Token) (place : Place)
  | failed (e : LexError) (place : Place)

/-- Consumes some characters of a line. -/
def consume (count : Nat) (s : Spot) (k : Cursor) : Spot × Cursor :=
  (s.advance count, k.advanceColumn (.ofNat (s.ahead.take count).length))

/-- Skips the characters that are still to be skipped, as far as there are any. -/
def applySkip (s : Spot) (k : Cursor) : Spot × Cursor :=
  consume k.pendingSkip.toNat s k.clearSkip

/-- The end of a step that took a verdict: what is still to be skipped is skipped, and an emitted
token is logged. -/
def settle (m : Machine) (verdict : Verdict) (s : Spot) (k : Cursor) (journal : Journal) :
    StepResult :=
  let (s, k) := applySkip s k
  match verdict with
  | .suppress => .moved none ⟨s, k, journal⟩
  | .emit token =>
    .moved (some token)
      ⟨s, k, journal ++ if m.config.debug then [.event (.emitted token)] else []⟩

/-- The step that takes a match. If the action fails, nothing is consumed. A match of a rule that
looks after the column itself does not move it. -/
def applyRule (m : Machine) (l : Lexeme) (count : Nat) (s : Spot) (k : Cursor) :
    Option StepResult :=
  let text := s.ahead.take count
  let token := Token.ofMatch l.name text k.position
  (m.perform (l.effectiveAction token) k).map fun result ↦
    let journal := m.tryEvents k ++ result.journal
    match result.value with
    | .error e => .failed e ⟨s, result.cursor, journal⟩
    | .ok verdict =>
      let k := if l.name = Token.newlineName then result.cursor
        else result.cursor.advanceColumn (.ofNat text.length)
      m.settle verdict (s.advance count) k journal

/-- The step that recovers from a character that no lexeme matches. It is consumed even if the
handler fails; without a handler it is not. -/
def recover (m : Machine) (c : Char) (s : Spot) (k : Cursor) : Option StepResult :=
  match m.rules.handler? k.state with
  | none => some (.failed (.illegalCharacter c k.line k.column) ⟨s, k, m.tryEvents k⟩)
  | some handler =>
    let token := Token.ofMatch Token.errorName [c] k.position
    (m.perform (handler token) k).map fun result ↦
      let journal := m.tryEvents k ++ result.journal
      let k := result.cursor.advanceColumn 1
      match result.value with
      | .error e => .failed e ⟨s.advance 1, k, journal⟩
      | .ok verdict => m.settle verdict (s.advance 1) k journal

/-- One step at a spot with a character ahead. -/
def step (m : Machine) (c : Char) (s : Spot) (k : Cursor) : Option StepResult :=
  if m.rules.ignores? k.state c then
    some (.moved none ⟨s.advance 1, k.advanceColumn 1, []⟩)
  else
    match longestMatch (m.rules.lexemes k.state) s with
    | some (l, count) => m.applyRule l count s k
    | none => m.recover c s k

end Machine

/-! ### Every step gets on -/

/-- The longest match is a match of one of the lexemes. -/
theorem Machine.span?_of_longestMatch {ls : List Lexeme} {s : Spot} {l : Lexeme} {n : Nat}
    (h : longestMatch ls s = some (l, n)) : l ∈ ls ∧ l.matcher.span? s = some n := by
  induction ls generalizing l n with
  | nil => cases h
  | cons k ks ih =>
    rw [longestMatch] at h
    split at h
    · exact ⟨List.mem_cons_of_mem k (ih h).1, (ih h).2⟩
    · next hk _ =>
      cases h
      exact ⟨List.mem_cons_self, hk⟩
    · next hk hks =>
      split at h
      · cases h
        exact ⟨List.mem_cons_of_mem k (ih hks).1, (ih hks).2⟩
      · cases h
        exact ⟨List.mem_cons_self, hk⟩

private theorem length_applySkip (s : Spot) (k : Cursor) :
    (Machine.applySkip s k).1.ahead.length ≤ s.ahead.length := by
  simp [Machine.applySkip, Machine.consume, Spot.ahead_advance]

private theorem ahead_settle (m : Machine) {verdict : Verdict} {s : Spot} {k : Cursor}
    {journal : Journal} {token : Option Token} {place : Machine.Place}
    (h : m.settle verdict s k journal = .moved token place) :
    place.spot.ahead.length ≤ s.ahead.length := by
  unfold Machine.settle at h
  cases verdict <;> cases h <;> exact length_applySkip s k

/-- A step that does not fail leaves less ahead. -/
theorem Machine.step_lt {m : Machine} {c : Char} {s : Spot} {k : Cursor} {token : Option Token}
    {place : Place} (hs : s.ahead ≠ []) (h : m.step c s k = some (.moved token place)) :
    place.spot.ahead.length < s.ahead.length := by
  have hpos : 0 < s.ahead.length := List.length_pos_iff.2 hs
  unfold step at h
  split at h
  · cases h
    simp [Spot.ahead_advance]
    omega
  · split at h
    · next l count hl =>
      have hcount := Matcher.span?_pos (span?_of_longestMatch hl).2
      simp only [applyRule, Option.map_eq_some_iff] at h
      obtain ⟨result, _, hresult⟩ := h
      split at hresult
      · cases hresult
      · have := ahead_settle m hresult
        rw [Spot.ahead_advance, List.length_drop] at this
        omega
    · unfold recover at h
      split at h
      · cases h
      · simp only [Option.map_eq_some_iff] at h
        obtain ⟨result, _, hresult⟩ := h
        split at hresult
        · cases hresult
        · have := ahead_settle m hresult
          rw [Spot.ahead_advance, List.length_drop] at this
          omega

/-! ### Whole scans -/

/-- A scan of a text: where it stands, and whether its end or an error was reported. -/
structure Scan where
  spot : Spot
  cursor : Cursor
  done : Bool

/-- What a scan gives next: a token or an error, or nothing at the end. With it come the scan after
it and what came out on the way. -/
structure Pull where
  item : Option (Except LexError Token)
  scan : Scan
  journal : Journal

namespace Machine

/-- Takes steps until a token is emitted, a step fails, or the text ends. -/
def nextFrom (m : Machine) (s : Spot) (k : Cursor) : Option Pull :=
  match _hs : s.ahead with
  | [] => some ⟨none, ⟨s, k, true⟩, []⟩
  | c :: _ =>
    match _h : m.step c s k with
    | none => none
    | some (.failed e place) =>
      some ⟨some (.error e), ⟨place.spot, place.cursor.clearSkip, true⟩, place.journal⟩
    | some (.moved (some token) place) =>
      some ⟨some (.ok token), ⟨place.spot, place.cursor, false⟩, place.journal⟩
    | some (.moved none place) =>
      (m.nextFrom place.spot place.cursor).map fun pull ↦
        ⟨pull.item, pull.scan, place.journal ++ pull.journal⟩
termination_by s.ahead.length
decreasing_by
  exact step_lt (by simp [_hs]) _h

/-- What a scan gives next; a scan that is over gives nothing more. -/
def next (m : Machine) (scan : Scan) : Option Pull :=
  if scan.done then some ⟨none, scan, []⟩ else m.nextFrom scan.spot scan.cursor

/-- The start of a scan. What an earlier scan left to be skipped does not apply to it. -/
def scan (k : Cursor) (text : List Char) : Scan :=
  ⟨.start text, k.clearSkip, false⟩

end Machine

private theorem ahead_nextFrom (m : Machine) {s : Spot} {k : Cursor} {pull : Pull} {token : Token}
    (h : m.nextFrom s k = some pull) (hitem : pull.item = some (.ok token)) :
    pull.scan.spot.ahead.length < s.ahead.length := by
  fun_induction Machine.nextFrom m s k generalizing pull with
  | case1 => cases h; cases hitem
  | case2 => cases h
  | case3 => cases h; cases hitem
  | case4 s k c rest hs token place hstep =>
    cases h
    exact Machine.step_lt (by simp [hs]) hstep
  | case5 s k c rest hs place hstep ih =>
    simp only [Option.map_eq_some_iff] at h
    obtain ⟨pull', hpull', rfl⟩ := h
    have h₁ : pull'.scan.spot.ahead.length < place.spot.ahead.length := ih hpull' hitem
    exact Nat.lt_trans h₁ (Machine.step_lt (by simp [hs]) hstep)

/-- A scan that gave a token has less ahead. -/
theorem Machine.next_lt {m : Machine} {scan : Scan} {pull : Pull} {token : Token}
    (h : m.next scan = some pull) (hitem : pull.item = some (.ok token)) :
    pull.scan.spot.ahead.length < scan.spot.ahead.length := by
  unfold next at h
  split at h
  · cases h; cases hitem
  · exact ahead_nextFrom m h hitem

namespace Machine

/-- Hands each token of a scan to a function that gathers them, up to the end or an error. -/
def stream {σ : Type} (m : Machine) (gather : σ → Token → σ) (gathered : σ) (scan : Scan) :
    Option (σ × Except LexError Unit × Scan × Journal) :=
  match _h : m.next scan with
  | none => none
  | some ⟨none, scan, journal⟩ => some (gathered, .ok (), scan, journal)
  | some ⟨some (.error e), scan, journal⟩ => some (gathered, .error e, scan, journal)
  | some ⟨some (.ok token), scan, journal⟩ =>
    (m.stream gather (gather gathered token) scan).map fun (gathered, result, scan, more) ↦
      (gathered, result, scan, journal ++ more)
termination_by scan.spot.ahead.length
decreasing_by exact next_lt _h rfl

/-- Asks a scan for what it gives next so many times, or until it reports its end. -/
def pulls (m : Machine) : Nat → Scan → Option (List Pull)
  | 0, _ => some []
  | count + 1, scan =>
    (m.next scan).bind fun pull ↦
      if pull.item.isNone then some [pull]
      else (m.pulls count pull.scan).map (pull :: ·)

/-- All tokens of a scan, up to the end or an error, and where the scan is left. -/
def collect (m : Machine) (scan : Scan) :
    Option (Except LexError (List Token) × Scan × Journal) :=
  match _h : m.next scan with
  | none => none
  | some ⟨none, scan, journal⟩ => some (.ok [], scan, journal)
  | some ⟨some (.error e), scan, journal⟩ => some (.error e, scan, journal)
  | some ⟨some (.ok token), scan, journal⟩ =>
    (m.collect scan).map fun (result, scan, more) ↦
      (result.map (token :: ·), scan, journal ++ more)
termination_by scan.spot.ahead.length
decreasing_by exact next_lt _h rfl

/-- What is logged before a text is scanned: the tokens, and each state with its lexemes and
settings. -/
def tableEvents (m : Machine) : Journal :=
  if m.config.debug then
    .event (.tokens m.rules.tokens) :: m.rules.states.flatMap fun (state, kind) ↦
      [.event (.table state kind ((m.rules.lexemes state).map (·.name))),
       .event (.settings state (m.rules.ignore? state) (m.rules.hasErrorEntry state))]
  else []

/-- All tokens of a text or the first error. -/
def tokenize (m : Machine) (text : List Char) (k : Cursor) :
    Option (Outcome (Except LexError (List Token))) :=
  (m.collect (scan k text)).map fun (result, scan, journal) ↦
    ⟨result, scan.cursor, m.tableEvents ++ journal⟩

/-- How scans that actions start are run when they may lie so deep in each other. -/
def nestedOfDepth (rules : RuleSet) (config : Config) : Nat → Nested
  | 0 => fun _ _ ↦ none
  | depth + 1 => fun text k ↦ tokenize ⟨rules, config, nestedOfDepth rules config depth⟩ text k

/-- The machine on which scans may lie so deep in each other. -/
def ofDepth (rules : RuleSet) (config : Config) (depth : Nat) : Machine :=
  ⟨rules, config, nestedOfDepth rules config depth⟩

end Machine

end ModalLexer
