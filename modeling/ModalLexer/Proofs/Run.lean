import ModalLexer.Proofs.LongestMatch

/-!
# Runs of a scan

A step of a scan is told by a `Stride`: the state ignored one character, or a lexeme or the handler
of errors decided about some characters and perhaps had more of them skipped. `Machine.Takes` says
what a step may be, in terms of the state that is current when it starts, and `Machine.Fails` how a
step may fail; together they are the steps that the machine takes (`takes_iff`, `fails_iff`). A
`Machine.Run` is a sequence of steps, and all that a scan gives comes from one (`nextFrom_run`,
`pulls_run`).
-/

namespace ModalLexer

open Text (Spot)

/-! ### What a step is -/

/-- The token that a verdict emits. -/
def Verdict.token? : Verdict → Option Token
  | .emit token => some token
  | .suppress => none

/-- The token that a scan gave. -/
def Pull.token? (pull : Pull) : Option Token :=
  match pull.item with
  | some (.ok token) => some token
  | _ => none

/-- The token of a pull is the one that it gives. -/
theorem Pull.token?_eq_some_iff {pull : Pull} {token : Token} :
    pull.token? = some token ↔ pull.item = some (.ok token) := by
  unfold token?
  split
  · next hitem => simp [hitem]
  · next hitem =>
    simp only [reduceCtorEq, false_iff]
    exact hitem token

/-- Who decides about the characters at a spot: a lexeme that matches them, or the handler of
errors. -/
inductive Decider where
  | rule (l : Lexeme)
  | handler (a : Action)

namespace Decider

/-- The name of the candidate. -/
def name : Decider → String
  | rule l => l.name
  | handler _ => Token.errorName

/-- What becomes of the candidate. -/
def action : Decider → Action
  | rule l => l.effectiveAction
  | handler a => a

/-- Where a cursor is after the characters that were decided about; a rule that looks after the
column itself leaves it. -/
def pass (d : Decider) (count : Nat) (k : Cursor) : Cursor :=
  if d.name = Token.newlineName then k else k.advanceColumn (.ofNat count)

end Decider

/-- A decision about some characters: who made it about which candidate, what the action asked of
the engine on the way, and the characters that were skipped afterwards. -/
structure Decision where
  decider : Decider
  text : List Char
  candidate : Token
  requests : List Request
  verdict : Verdict
  skipped : List Char

/-- A step of a scan that did not fail: the state ignored a character, or a decision was made. -/
inductive Stride where
  | ignored (c : Char)
  | decided (d : Decision)

namespace Stride

/-- All characters that a step consumed. -/
def text : Stride → List Char
  | ignored c => [c]
  | decided d => d.text ++ d.skipped

/-- The token that a step emitted. -/
def token? : Stride → Option Token
  | ignored _ => none
  | decided d => d.verdict.token?

end Stride

namespace Machine

/-- The requests that a routine makes of a machine, in order. -/
def requests (m : Machine) : Routine → Cursor → List Request
  | .finish _, _ => []
  | .ask r next, k =>
    r :: (m.answer k r).elim [] fun reply ↦ m.requests (next reply.value) reply.cursor

/-- Who decides at a spot about which characters: the lexeme that wins there, or else the handler of
the current state, about one character. -/
inductive Decides (m : Machine) (s : Spot) (k : Cursor) : Decider → List Char → Prop
  | rule {c : Char} {rest : List Char} {l : Lexeme} {n : Nat} (ahead : s.ahead = c :: rest)
      (kept : m.rules.ignores? k.state c = false) (wins : Wins (m.rules.lexemes k.state) s l n) :
      Decides m s k (.rule l) (s.ahead.take n)
  | handler {c : Char} {rest : List Char} {a : Action} (ahead : s.ahead = c :: rest)
      (kept : m.rules.ignores? k.state c = false)
      (unmatched : ∀ l ∈ m.rules.lexemes k.state, l.matcher.span? s = none)
      (handles : m.rules.handler? k.state = some a) :
      Decides m s k (.handler a) [c]

/-- What a step may be, and where it leads. After a decision as many characters are skipped as are
then still to be skipped. -/
inductive Takes (m : Machine) (s : Spot) (k : Cursor) : Stride → Spot → Cursor → Prop
  | ignored {c : Char} {rest : List Char} (ahead : s.ahead = c :: rest)
      (ignores : m.rules.ignores? k.state c = true) :
      Takes m s k (.ignored c) (s.advance 1) (k.advanceColumn 1)
  | decided {d : Decision} {k' : Cursor} {journal : Journal}
      (decides : m.Decides s k d.decider d.text)
      (candidate : d.candidate = Token.ofMatch d.decider.name d.text k.position)
      (requests : d.requests = m.requests (d.decider.action d.candidate) k)
      (performed : m.perform (d.decider.action d.candidate) k = some ⟨.ok d.verdict, k', journal⟩)
      (skipped : d.skipped = (s.ahead.drop d.text.length).take k'.pendingSkip.toNat) :
      Takes m s k (.decided d) (s.advance (d.text.length + d.skipped.length))
        ((d.decider.pass d.text.length k').clearSkip.advanceColumn (.ofNat d.skipped.length))

/-- How a step may fail, and where it leaves the scan. If no lexeme matches and nothing is to be
done about it, and if the action of a rule fails, nothing is consumed; if a handler fails, its
character is consumed. -/
inductive Fails (m : Machine) (s : Spot) (k : Cursor) : LexError → Spot → Cursor → Prop
  | unrecognized {c : Char} {rest : List Char} (ahead : s.ahead = c :: rest)
      (kept : m.rules.ignores? k.state c = false)
      (unmatched : ∀ l ∈ m.rules.lexemes k.state, l.matcher.span? s = none)
      (unhandled : m.rules.handler? k.state = none) :
      Fails m s k (.illegalCharacter c k.line k.column) s k
  | rule {l : Lexeme} {text : List Char} {e : LexError} {k' : Cursor} {journal : Journal}
      (decides : m.Decides s k (.rule l) text)
      (performed : m.perform (l.effectiveAction (Token.ofMatch l.name text k.position)) k =
        some ⟨.error e, k', journal⟩) :
      Fails m s k e s k'
  | handler {a : Action} {text : List Char} {e : LexError} {k' : Cursor} {journal : Journal}
      (decides : m.Decides s k (.handler a) text)
      (performed : m.perform (a (Token.ofMatch Token.errorName text k.position)) k =
        some ⟨.error e, k', journal⟩) :
      Fails m s k e (s.advance 1) (k'.advanceColumn 1)

/-- A sequence of steps. -/
inductive Run (m : Machine) : Spot → Cursor → List Stride → Spot → Cursor → Prop
  | nil (s : Spot) (k : Cursor) : Run m s k [] s k
  | cons {s s₁ s' : Spot} {k k₁ k' : Cursor} {σ : Stride} {σs : List Stride}
      (first : m.Takes s k σ s₁ k₁) (rest : Run m s₁ k₁ σs s' k') : Run m s k (σ :: σs) s' k'

end Machine

/-! ### The machine's steps -/

private theorem pendingSkip_pass (d : Decider) (count : Nat) (k : Cursor) :
    (d.pass count k).pendingSkip = k.pendingSkip := by
  unfold Decider.pass
  split <;> rfl

private theorem advance_length_take (n : Nat) (s : Spot) :
    s.advance (s.ahead.take n).length = s.advance n := by
  fun_induction Spot.advance n s with
  | case1 s => rw [List.take_zero, List.length_nil, Spot.advance]
  | case2 n behind => rw [List.take_nil, List.length_nil, Spot.advance]
  | case3 n behind c ahead ih => rw [List.take_succ_cons, List.length_cons, Spot.advance, ih]

private theorem settle_eq (m : Machine) (verdict : Verdict) (s : Spot) (k : Cursor)
    (journal : Journal) :
    ∃ journal', m.settle verdict s k journal = .moved verdict.token?
      ⟨s.advance k.pendingSkip.toNat,
        k.clearSkip.advanceColumn (.ofNat (s.ahead.take k.pendingSkip.toNat).length),
        journal'⟩ := by
  cases verdict <;> exact ⟨_, rfl⟩

namespace Machine

variable {m : Machine} {s s' : Spot} {k k' : Cursor}

private theorem settle_decided (d : Decision) (journal : Journal)
    (hskipped : d.skipped = (s.ahead.drop d.text.length).take k'.pendingSkip.toNat) :
    ∃ journal', m.settle d.verdict (s.advance d.text.length) (d.decider.pass d.text.length k')
      journal = .moved d.verdict.token? ⟨s.advance (d.text.length + d.skipped.length),
        (d.decider.pass d.text.length k').clearSkip.advanceColumn (.ofNat d.skipped.length),
        journal'⟩ := by
  obtain ⟨journal', h⟩ := settle_eq m d.verdict (s.advance d.text.length)
    (d.decider.pass d.text.length k') journal
  have hspot : (s.advance d.text.length).advance k'.pendingSkip.toNat =
      s.advance (d.text.length + d.skipped.length) := by
    rw [← advance_length_take k'.pendingSkip.toNat, Spot.ahead_advance, ← hskipped,
      Spot.advance_advance]
  rw [pendingSkip_pass, hspot, Spot.ahead_advance, ← hskipped] at h
  exact ⟨journal', h⟩

/-- Where a decision is made there is a character ahead, which is not ignored. -/
theorem Decides.exists_ahead {d : Decider} {text : List Char} (h : m.Decides s k d text) :
    ∃ c rest, s.ahead = c :: rest ∧ m.rules.ignores? k.state c = false := by
  cases h with
  | rule hahead hkept => exact ⟨_, _, hahead, hkept⟩
  | handler hahead hkept => exact ⟨_, _, hahead, hkept⟩

/-- How a step ends in which somebody decided about some characters. -/
def conclude (m : Machine) (d : Decider) (text : List Char) (s : Spot) (k : Cursor)
    (outcome : Outcome (Except LexError Verdict)) : StepResult :=
  let journal := m.tryEvents k ++ outcome.journal
  match outcome.value with
  | .ok verdict =>
    m.settle verdict (s.advance text.length) (d.pass text.length outcome.cursor) journal
  | .error e =>
    match d with
    | .rule _ => .failed e ⟨s, outcome.cursor, journal⟩
    | .handler _ => .failed e ⟨s.advance 1, outcome.cursor.advanceColumn 1, journal⟩

/-- A lexeme and a handler decide in one way: by what they do with the candidate. -/
theorem step_of_decides {d : Decider} {text : List Char} {c : Char} {rest : List Char}
    (hs : s.ahead = c :: rest) (h : m.Decides s k d text) :
    m.step c s k = (m.perform (d.action (Token.ofMatch d.name text k.position)) k).map
      (m.conclude d text s k) := by
  cases h with
  | @rule c' rest' l n hahead hkept hwins =>
    obtain ⟨rfl, rfl⟩ := List.cons.inj (hs.symm.trans hahead)
    have hlength : (s.ahead.take n).length = n := by
      rw [List.length_take, Nat.min_eq_left hwins.le_length]
    have hstep : m.step c s k = m.applyRule l n s k := by
      rw [step, hkept, longestMatch_eq_some_iff.2 hwins]
      rfl
    rw [hstep, applyRule]
    congr 1
    funext outcome
    rw [conclude, hlength]
    cases outcome.value <;> rfl
  | @handler c' rest' a hahead hkept hunmatched hhandles =>
    obtain ⟨rfl, rfl⟩ := List.cons.inj (hs.symm.trans hahead)
    have hstep : m.step c s k = m.recover c s k := by
      rw [step, hkept, longestMatch_eq_none_iff.2 hunmatched]
      rfl
    rw [hstep, recover, hhandles]
    change Option.map _ (m.perform (a (Token.ofMatch Token.errorName [c] k.position)) k) = _
    congr 1
    funext outcome
    rw [conclude]
    cases outcome.value <;> rfl

/-- Where nobody decides about a character that is not ignored, the step fails. -/
theorem step_of_unhandled {c : Char} (hkept : m.rules.ignores? k.state c = false)
    (hunmatched : ∀ l ∈ m.rules.lexemes k.state, l.matcher.span? s = none)
    (hunhandled : m.rules.handler? k.state = none) :
    m.step c s k = some (.failed (.illegalCharacter c k.line k.column) ⟨s, k, m.tryEvents k⟩) := by
  rw [step, hkept, longestMatch_eq_none_iff.2 hunmatched]
  simp only [Bool.false_eq_true, if_false]
  rw [recover, hunhandled]

/-- A character ahead is ignored, or somebody decides about it, or nobody does. -/
theorem ignored_or_decides {c : Char} {rest : List Char} (hs : s.ahead = c :: rest) :
    m.rules.ignores? k.state c = true ∨ (∃ d text, m.Decides s k d text) ∨
      (m.rules.ignores? k.state c = false ∧
        (∀ l ∈ m.rules.lexemes k.state, l.matcher.span? s = none) ∧
        m.rules.handler? k.state = none) := by
  cases hkept : m.rules.ignores? k.state c with
  | true => exact .inl rfl
  | false =>
    cases hmatch : longestMatch (m.rules.lexemes k.state) s with
    | some winner =>
      exact .inr (.inl ⟨_, _, .rule hs hkept (longestMatch_eq_some_iff.1 hmatch)⟩)
    | none =>
      rw [longestMatch_eq_none_iff] at hmatch
      cases hhandler : m.rules.handler? k.state with
      | some a => exact .inr (.inl ⟨_, _, .handler hs hkept hmatch hhandler⟩)
      | none => exact .inr (.inr ⟨rfl, hmatch, rfl⟩)

/-- The steps that may be taken are those that the machine takes. -/
theorem takes_iff {token : Option Token} :
    (∃ σ, m.Takes s k σ s' k' ∧ σ.token? = token) ↔
      ∃ c rest journal, s.ahead = c :: rest ∧
        m.step c s k = some (.moved token ⟨s', k', journal⟩) := by
  constructor
  · rintro ⟨σ, htakes, rfl⟩
    cases htakes with
    | @ignored c rest hahead hignores =>
      refine ⟨c, rest, [], hahead, ?_⟩
      rw [step, hignores]
      rfl
    | @decided d k₁ journal hdecides hcandidate hrequests hperformed hskipped =>
      obtain ⟨c, rest, hahead, _⟩ := hdecides.exists_ahead
      obtain ⟨journal', hsettle⟩ := settle_decided d (m.tryEvents k ++ journal) hskipped
      refine ⟨c, rest, journal', hahead, ?_⟩
      rw [step_of_decides hahead hdecides, ← hcandidate, hperformed]
      exact congrArg some hsettle
  · rintro ⟨c, rest, journal, hahead, hstep⟩
    rcases ignored_or_decides (m := m) (k := k) hahead with hig | ⟨d, text, hd⟩ | ⟨hk, hu, hh⟩
    · rw [step, hig] at hstep
      cases hstep
      exact ⟨_, .ignored hahead hig, rfl⟩
    · rw [step_of_decides hahead hd, Option.map_eq_some_iff] at hstep
      obtain ⟨⟨value, k₁, journal₁⟩, hperform, hconclude⟩ := hstep
      cases value with
      | error e => cases d <;> cases hconclude
      | ok verdict =>
        let decision : Decision := ⟨d, text, Token.ofMatch d.name text k.position,
          m.requests (d.action (Token.ofMatch d.name text k.position)) k, verdict,
          (s.ahead.drop text.length).take k₁.pendingSkip.toNat⟩
        obtain ⟨journal', hsettle⟩ := settle_decided decision (m.tryEvents k ++ journal₁) rfl
        cases hsettle.symm.trans hconclude
        exact ⟨.decided decision, .decided hd rfl rfl hperform rfl, rfl⟩
    · rw [step_of_unhandled hk hu hh] at hstep
      cases hstep

/-- The ways in which a step may fail are those in which the machine's step fails. -/
theorem fails_iff {e : LexError} :
    m.Fails s k e s' k' ↔
      ∃ c rest journal, s.ahead = c :: rest ∧
        m.step c s k = some (.failed e ⟨s', k', journal⟩) := by
  constructor
  · intro hfails
    cases hfails with
    | @unrecognized c rest hahead hkept hunmatched hunhandled =>
      exact ⟨c, rest, _, hahead, step_of_unhandled hkept hunmatched hunhandled⟩
    | rule hdecides hperformed =>
      obtain ⟨c, rest, hahead, _⟩ := hdecides.exists_ahead
      exact ⟨c, rest, _, hahead,
        (step_of_decides hahead hdecides).trans (congrArg (Option.map _) hperformed)⟩
    | handler hdecides hperformed =>
      obtain ⟨c, rest, hahead, _⟩ := hdecides.exists_ahead
      exact ⟨c, rest, _, hahead,
        (step_of_decides hahead hdecides).trans (congrArg (Option.map _) hperformed)⟩
  · rintro ⟨c, rest, journal, hahead, hstep⟩
    rcases ignored_or_decides (m := m) (k := k) hahead with hig | ⟨d, text, hd⟩ | ⟨hk, hu, hh⟩
    · rw [step, hig] at hstep
      cases hstep
    · rw [step_of_decides hahead hd, Option.map_eq_some_iff] at hstep
      obtain ⟨⟨value, k₁, journal₁⟩, hperform, hconclude⟩ := hstep
      cases value with
      | ok verdict => cases verdict <;> cases hconclude
      | error e' =>
        cases d with
        | rule l =>
          cases hconclude
          exact .rule hd hperform
        | handler a =>
          cases hconclude
          exact .handler hd hperform
    · rw [step_of_unhandled hk hu hh] at hstep
      cases hstep
      exact .unrecognized hahead hk hu hh

/-! ### What steps consume -/

/-- A step consumes the characters that lie next ahead. -/
theorem Takes.ahead_eq {σ : Stride} (h : m.Takes s k σ s' k') : s.ahead = σ.text ++ s'.ahead := by
  cases h with
  | @ignored c rest hahead hignores =>
    rw [Spot.ahead_advance, hahead]
    rfl
  | @decided d k₁ journal hdecides hcandidate hrequests hperformed hskipped =>
    have htext : d.text = s.ahead.take d.text.length := by
      generalize d.decider = by_, d.text = text at hdecides
      cases hdecides with
      | rule hahead hkept hwins => rw [List.length_take, Nat.min_eq_left hwins.le_length]
      | handler hahead hkept hunmatched hhandles => rw [hahead]; rfl
    have hskip : d.skipped = (s.ahead.drop d.text.length).take d.skipped.length := by
      rw [hskipped, List.length_take, ← List.take_eq_take_min]
    rw [Stride.text, Spot.ahead_advance, ← List.drop_drop]
    calc s.ahead = s.ahead.take d.text.length ++ s.ahead.drop d.text.length :=
          (List.take_append_drop _ _).symm
      _ = d.text ++ ((s.ahead.drop d.text.length).take d.skipped.length ++
            (s.ahead.drop d.text.length).drop d.skipped.length) := by
          rw [← htext, List.take_append_drop]
      _ = d.text ++ d.skipped ++ (s.ahead.drop d.text.length).drop d.skipped.length := by
          rw [← hskip, List.append_assoc]

/-- A step moves the spot past the characters that it consumes. -/
theorem Takes.spot_eq {σ : Stride} (h : m.Takes s k σ s' k') : s' = s.advance σ.text.length := by
  cases h with
  | ignored => rfl
  | decided => rw [Stride.text, List.length_append]

namespace Run

variable {σs : List Stride}

/-- Runs may be put together. -/
theorem trans {s₁ : Spot} {k₁ : Cursor} {τs : List Stride} (h : m.Run s k σs s₁ k₁)
    (h' : m.Run s₁ k₁ τs s' k') : m.Run s k (σs ++ τs) s' k' := by
  induction h with
  | nil => exact h'
  | cons first _ ih => exact .cons first (ih h')

/-- The steps of a run consume what lies ahead, in order and without a gap. -/
theorem ahead_eq (h : m.Run s k σs s' k') : s.ahead = σs.flatMap (·.text) ++ s'.ahead := by
  induction h with
  | nil => rfl
  | cons first _ ih => rw [first.ahead_eq, ih, List.flatMap_cons, List.append_assoc]

/-- What a run has consumed lies behind. -/
theorem behind_eq (h : m.Run s k σs s' k') :
    s'.behind = (σs.flatMap (·.text)).reverse ++ s.behind := by
  induction h with
  | nil => rfl
  | cons first rest ih =>
    have htake {xs ys : List Char} : (xs ++ ys).take xs.length = xs := List.take_left
    rw [ih, first.spot_eq, Spot.behind_advance, first.ahead_eq, htake, List.flatMap_cons,
      List.reverse_append, List.append_assoc]

end Run

/-! ### What a scan gives -/

/-- How a scan comes to give something: the text ends, a step emits a token, or a step fails. -/
inductive Gives (m : Machine) (s : Spot) (k : Cursor) : Pull → Prop
  | nothing {journal : Journal} (ahead : s.ahead = []) : Gives m s k ⟨none, ⟨s, k, true⟩, journal⟩
  | token {σ : Stride} {token : Token} {s' : Spot} {k' : Cursor} {journal : Journal}
      (takes : m.Takes s k σ s' k') (emits : σ.token? = some token) :
      Gives m s k ⟨some (.ok token), ⟨s', k', false⟩, journal⟩
  | error {e : LexError} {s' : Spot} {k' : Cursor} {journal : Journal}
      (fails : m.Fails s k e s' k') :
      Gives m s k ⟨some (.error e), ⟨s', k'.clearSkip, true⟩, journal⟩

/-- What comes next is given after a run of steps that emit nothing. -/
theorem nextFrom_run {pull : Pull} (h : m.nextFrom s k = some pull) :
    ∃ σs s₁ k₁, m.Run s k σs s₁ k₁ ∧ (∀ σ ∈ σs, σ.token? = none) ∧ m.Gives s₁ k₁ pull := by
  fun_induction nextFrom m s k generalizing pull with
  | case1 s k hs =>
    cases h
    exact ⟨[], s, k, .nil s k, by simp, .nothing hs⟩
  | case2 => cases h
  | case3 s k c rest hs e place hstep =>
    cases h
    exact ⟨[], s, k, .nil s k, by simp, .error (fails_iff.2 ⟨c, rest, place.journal, hs, hstep⟩)⟩
  | case4 s k c rest hs token place hstep =>
    cases h
    obtain ⟨σ, htakes, hσ⟩ := takes_iff.2 ⟨c, rest, place.journal, hs, hstep⟩
    exact ⟨[], s, k, .nil s k, by simp, .token htakes hσ⟩
  | case5 s k c rest hs place hstep ih =>
    obtain ⟨pull', hpull', rfl⟩ := Option.map_eq_some_iff.1 h
    obtain ⟨σ, htakes, hσ⟩ := takes_iff.2 ⟨c, rest, place.journal, hs, hstep⟩
    obtain ⟨σs, s₁, k₁, hrun, hsilent, hgives⟩ := ih hpull'
    refine ⟨σ :: σs, s₁, k₁, .cons htakes hrun, List.forall_mem_cons.2 ⟨hσ, hsilent⟩, ?_⟩
    cases hgives with
    | nothing ahead => exact .nothing ahead
    | token takes emits => exact .token takes emits
    | error fails => exact .error fails

/-- A scan that is over gives nothing, and any other what comes next where it stands. -/
theorem next_run {scan : Scan} {pull : Pull} (h : m.next scan = some pull) :
    scan.done = true ∧ pull = ⟨none, scan, []⟩ ∨
      scan.done = false ∧ ∃ σs s₁ k₁, m.Run scan.spot scan.cursor σs s₁ k₁ ∧
        (∀ σ ∈ σs, σ.token? = none) ∧ m.Gives s₁ k₁ pull := by
  unfold next at h
  split at h
  · next hdone =>
    cases h
    exact .inl ⟨hdone, rfl⟩
  · next hdone => exact .inr ⟨by simpa using hdone, nextFrom_run h⟩

/-- A token comes from a run that emits no other one. -/
theorem exists_run_of_next {scan : Scan} {pull : Pull} {token : Token} (h : m.next scan = some pull)
    (htoken : pull.token? = some token) :
    ∃ σs, m.Run scan.spot scan.cursor σs pull.scan.spot pull.scan.cursor ∧
      σs.filterMap (·.token?) = [token] := by
  rw [Pull.token?_eq_some_iff] at htoken
  rcases next_run h with ⟨_, rfl⟩ | ⟨_, σs, s₁, k₁, hrun, hsilent, hgives⟩
  · cases htoken
  · cases hgives with
    | nothing => cases htoken
    | error => cases htoken
    | @token σ token' s₂ k₂ journal htakes hemits =>
      cases htoken
      refine ⟨σs ++ [σ], hrun.trans (.cons htakes (.nil s₂ k₂)), ?_⟩
      rw [List.filterMap_append, List.filterMap_eq_nil_iff.2 hsilent, List.nil_append,
        List.filterMap_cons_some hemits, List.filterMap_nil]

/-- Where a scan stands after what it gave. -/
def standing (scan : Scan) (ps : List Pull) : Scan :=
  ps.getLast?.elim scan (·.scan)

/-- A scan stands where it does after its first pull. -/
theorem standing_cons (scan : Scan) (pull : Pull) (ps : List Pull) :
    standing scan (pull :: ps) = standing pull.scan ps := by
  unfold standing
  rw [List.getLast?_cons]
  cases ps.getLast? <;> rfl

/-- What a scan gives before an error comes from one run: the tokens are those that its steps
emitted, and at the end of the text nothing is ahead. -/
theorem pulls_run {count : Nat} {scan : Scan} {ps : List Pull} (hdone : scan.done = false)
    (h : m.pulls count scan = some ps) (hok : ∀ p ∈ ps, ∀ e, p.item ≠ some (.error e)) :
    ∃ σs, m.Run scan.spot scan.cursor σs (standing scan ps).spot (standing scan ps).cursor ∧
      ps.filterMap (·.token?) = σs.filterMap (·.token?) ∧
      ((∃ p ∈ ps, p.item = none) → (standing scan ps).spot.ahead = []) := by
  induction count generalizing scan ps with
  | zero =>
    cases h
    exact ⟨[], .nil _ _, rfl, by simp⟩
  | succ count ih =>
    rw [pulls, next, hdone] at h
    simp only [Bool.false_eq_true, if_false] at h
    obtain ⟨pull, hpull, hrest⟩ := Option.bind_eq_some_iff.1 h
    obtain ⟨σs, s₁, k₁, hrun, hsilent, hgives⟩ := nextFrom_run hpull
    have hnone : σs.filterMap (·.token?) = [] := List.filterMap_eq_nil_iff.2 hsilent
    cases hgives with
    | @nothing journal hahead =>
      cases hrest
      exact ⟨σs, hrun, hnone.symm, fun _ ↦ hahead⟩
    | @token σ token s₂ k₂ journal htakes hemits =>
      simp only [Option.isNone_some, Bool.false_eq_true, if_false] at hrest
      obtain ⟨ps', hps', rfl⟩ := Option.map_eq_some_iff.1 hrest
      obtain ⟨τs, hrun', htokens, hend⟩ :=
        ih rfl hps' fun p hp ↦ hok p (List.mem_cons_of_mem _ hp)
      refine ⟨σs ++ σ :: τs, ?_, ?_, ?_⟩
      · rw [standing_cons]
        exact hrun.trans (.cons htakes hrun')
      · rw [List.filterMap_append, hnone, List.nil_append, List.filterMap_cons_some hemits,
          ← htokens]
        rfl
      · rw [standing_cons]
        rintro ⟨p, hp, hitem⟩
        rcases List.mem_cons.mp hp with rfl | hp
        · cases hitem
        · exact hend ⟨p, hp, hitem⟩
    | @error e s₂ k₂ journal hfails =>
      simp only [Option.isNone_some, Bool.false_eq_true, if_false] at hrest
      obtain ⟨ps', _, rfl⟩ := Option.map_eq_some_iff.1 hrest
      exact absurd rfl (hok _ List.mem_cons_self e)

end Machine

end ModalLexer
