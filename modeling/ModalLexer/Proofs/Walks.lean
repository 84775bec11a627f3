import ModalLexer.Proofs.Agreement

/-!
# Scans step by step

A `Walk` is a run of which each step is told together with the cursor from which it is taken, so
that it can be said in which state somebody decided. `Machine.Ends` tells how a scan comes to its
end after a walk. Both say what comes out on the way: `Passage.journal` is all that comes out of a
step, and `Ends` has what comes out last. So all that a scan gives, and all that comes out of it,
follows from its walk (`next_walk`, `Walk.unfolds`), and there is a walk for each scan that is
followed to its end (`Unfolds.exists_walk`).
-/

namespace ModalLexer

open Text (Spot)

/-- A step of a scan and the cursor from which it is taken. -/
structure Passage where
  cursor : Cursor
  stride : Stride

/-- The token that a step emits. -/
def Passage.token? (p : Passage) : Option Token := p.stride.token?

/-- What is logged when the lexemes of the current state are tried: each of them, in order. -/
def RuleSet.tries (r : RuleSet) (k : Cursor) : List Event :=
  (r.lexemes k.state).map fun l ↦ .trying k.state l.name k.position

namespace Machine

/-! ### What comes out -/

/-- Lines that are written if anything is logged at all. -/
def lines (m : Machine) (es : List Event) : Journal :=
  if m.config.debug then es.map .event else []

/-- What comes out of a call: what an action writes down, or all that comes out of a scan that the
action starts. -/
def callJournal (m : Machine) (c : Call) : Journal :=
  match c.request with
  | .note n => [.note n]
  | .tokenize input => (m.nested input.toList c.cursor).elim [] (·.journal)
  | _ => []

/-- What comes out of a routine: what comes out of its calls, in order. -/
def routineJournal (m : Machine) (routine : Routine) (k : Cursor) : Journal :=
  (m.calls routine k).flatMap m.callJournal

end Machine

/-- What comes out of a step: nothing if the state ignored a character. Otherwise a line for each
lexeme that is tried comes first, then all that comes out of the action, and in the end a line for
the token if one is emitted. -/
def Passage.journal (m : Machine) (p : Passage) : Journal :=
  match p.stride with
  | .ignored _ => []
  | .decided d =>
    m.lines (m.rules.tries p.cursor) ++ m.routineJournal (d.decider.action d.candidate) p.cursor ++
      m.lines (d.verdict.token?.toList.map .emitted)

namespace Machine

/-- A sequence of steps, each with the cursor from which it is taken. -/
inductive Walk (m : Machine) : Spot → Cursor → List Passage → Spot → Cursor → Prop
  | nil (s : Spot) (k : Cursor) : Walk m s k [] s k
  | cons {s s₁ s' : Spot} {k k₁ k' : Cursor} {σ : Stride} {ps : List Passage}
      (first : m.Takes s k σ s₁ k₁) (rest : Walk m s₁ k₁ ps s' k') :
      Walk m s k (⟨k, σ⟩ :: ps) s' k'

/-- How a scan comes to its end at a spot: the error if there is one, where the scan is left, and
what comes out last. Nothing is ahead, or nothing is to be done about the next character, or an
action or a handler fails. -/
inductive Ends (m : Machine) (s : Spot) (k : Cursor) : Option LexError → Scan → Journal → Prop
  | reached (ahead : s.ahead = []) : Ends m s k none ⟨s, k, true⟩ []
  | unrecognized {c : Char} {rest : List Char} (ahead : s.ahead = c :: rest)
      (kept : m.rules.ignores? k.state c = false)
      (unmatched : ∀ l ∈ m.rules.lexemes k.state, l.matcher.span? s = none)
      (unhandled : m.rules.handler? k.state = none) :
      Ends m s k (some (.illegalCharacter c k.line k.column)) ⟨s, k.clearSkip, true⟩
        (m.lines (m.rules.tries k))
  | failed {d : Decider} {text : List Char} {e : LexError} {k₁ : Cursor} {own : Journal}
      (decides : m.Decides s k d text)
      (performed : m.perform (d.routine text k) k = some ⟨.error e, k₁, own⟩) :
      Ends m s k (some e) (d.over s k₁)
        (m.lines (m.rules.tries k) ++ m.routineJournal (d.routine text k) k)

variable {m : Machine} {s s' s₁ : Spot} {k k' k₁ : Cursor} {ps : List Passage}
  {failure : Option LexError} {left : Scan} {last : Journal}

/-- What comes out of a routine that ends is what comes out of its calls. -/
theorem perform_journal {routine : Routine} {outcome : Outcome (Except LexError Verdict)}
    (h : m.perform routine k = some outcome) : outcome.journal = m.routineJournal routine k := by
  induction routine generalizing k outcome with
  | finish result =>
    cases h
    rfl
  | ask r next ih =>
    rw [perform, Option.bind_eq_some_iff] at h
    obtain ⟨reply, hreply, hrest⟩ := h
    obtain ⟨result, hresult, rfl⟩ := Option.map_eq_some_iff.1 hrest
    have hcall : m.callJournal ⟨k, r⟩ = reply.journal := by
      cases r with
      | tokenize input =>
        change (m.nested input.toList k).elim [] (·.journal) = _
        rw [show m.nested input.toList k = some reply from hreply]
        rfl
      | _ => cases hreply; rfl
    rw [routineJournal, calls, hreply, List.flatMap_cons, hcall]
    exact congrArg (reply.journal ++ ·) (ih reply.value hresult)

private theorem tryEvents_eq (m : Machine) (k : Cursor) : m.tryEvents k = m.lines
    (m.rules.tries k) := by
  rw [tryEvents, lines, RuleSet.tries, List.map_map]
  rfl

private theorem settle_journal (m : Machine) (verdict : Verdict) (s : Spot) (k : Cursor)
    (journal : Journal) :
    ∃ s' k', m.settle verdict s k journal = .moved verdict.token?
      ⟨s', k', journal ++ m.lines (verdict.token?.toList.map .emitted)⟩ := by
  cases verdict with
  | emit token => exact ⟨_, _, rfl⟩
  | suppress =>
    have hnone : m.lines ((Verdict.token? .suppress).toList.map .emitted) = [] := by
      rw [lines]
      split <;> rfl
    rw [hnone, List.append_nil]
    exact ⟨_, _, rfl⟩

/-- The machine's step is the one that may be taken, and all that comes out of it is what comes out
of that. -/
theorem Takes.step_eq {σ : Stride} (h : m.Takes s k σ s' k') :
    ∃ c rest, s.ahead = c :: rest ∧
      m.step c s k = some (.moved σ.token? ⟨s', k', Passage.journal m ⟨k, σ⟩⟩) := by
  obtain ⟨c, rest, journal, hahead, hstep⟩ := takes_iff.1 ⟨σ, h, rfl⟩
  refine ⟨c, rest, hahead, ?_⟩
  suffices hjournal : journal = Passage.journal m ⟨k, σ⟩ by rw [hstep, hjournal]
  cases h with
  | @ignored c' rest' hahead' hignores =>
    obtain ⟨rfl, rfl⟩ := List.cons.inj (hahead.symm.trans hahead')
    rw [step, if_pos hignores] at hstep
    cases hstep
    rfl
  | @decided d k₂ own hdecides hcandidate hrequests hperformed hskipped =>
    have hown := perform_journal hperformed
    rw [step_of_decides hahead hdecides, ← hcandidate, hperformed] at hstep
    obtain ⟨s₂, k₂', hsettle⟩ := settle_journal m d.verdict (s.advance d.text.length)
      (d.decider.pass d.text.length k₂) (m.tryEvents k ++ own)
    have hmoved := hsettle.symm.trans (Option.some.inj hstep)
    cases hmoved
    change own = _ at hown
    rw [Passage.journal, tryEvents_eq, hown]

namespace Walk

/-- A walk is a run. -/
theorem run (h : m.Walk s k ps s' k') : m.Run s k (ps.map (·.stride)) s' k' := by
  induction h with
  | nil s k => exact .nil s k
  | cons first _ ih => exact .cons first ih

/-- Walks may be put together. -/
theorem trans {qs : List Passage} (h : m.Walk s k ps s₁ k₁) (h' : m.Walk s₁ k₁ qs s' k') :
    m.Walk s k (ps ++ qs) s' k' := by
  induction h with
  | nil => exact h'
  | cons first _ ih => exact .cons first (ih h')

/-- Steps that emit nothing only put off what is given after them. -/
theorem nextFrom_eq (h : m.Walk s k ps s' k') (hsilent : ∀ p ∈ ps, p.token? = none) :
    m.nextFrom s k = (m.nextFrom s' k').map fun pull ↦
      ⟨pull.item, pull.scan, ps.flatMap (Passage.journal m) ++ pull.journal⟩ := by
  induction h with
  | nil => exact (congrFun Option.map_id _).symm
  | @cons s s₁ s' k k₁ k' σ ps first _ ih =>
    obtain ⟨hσ, hrest⟩ := List.forall_mem_cons.1 hsilent
    change σ.token? = none at hσ
    obtain ⟨c, rest, hahead, hstep⟩ := first.step_eq
    rw [nextFrom_of_cons hahead, hstep, hσ, Option.bind_some, follow, ih hrest, Option.map_map]
    simp only [Function.comp_def, List.flatMap_cons, List.append_assoc]

end Walk

/-- A run is a walk from the cursors to which it comes. -/
theorem Run.exists_walk {σs : List Stride} (h : m.Run s k σs s' k') :
    ∃ ps, m.Walk s k ps s' k' ∧ ps.map (·.stride) = σs := by
  induction h with
  | nil s k => exact ⟨[], .nil s k, rfl⟩
  | @cons s s₁ s' k k₁ k' σ σs first _ ih =>
    obtain ⟨ps, hwalk, hstrides⟩ := ih
    exact ⟨⟨k, σ⟩ :: ps, .cons first hwalk, congrArg (σ :: ·) hstrides⟩

/-- A step that emits a token gives it at once. -/
theorem Takes.nextFrom_eq {σ : Stride} {token : Token} (h : m.Takes s k σ s' k')
    (hσ : σ.token? = some token) :
    m.nextFrom s k =
      some ⟨some (.ok token), ⟨s', k', false⟩, Passage.journal m ⟨k, σ⟩⟩ := by
  obtain ⟨c, rest, hahead, hstep⟩ := h.step_eq
  rw [nextFrom_of_cons hahead, hstep, hσ]
  rfl

/-- Where a scan comes to its end, its error is given if there is one. -/
theorem Ends.nextFrom_eq (h : m.Ends s k failure left last) :
    m.nextFrom s k = some ⟨failure.map .error, left, last⟩ := by
  cases h with
  | reached hahead => exact nextFrom_of_nil hahead
  | @unrecognized c rest hahead hkept hunmatched hunhandled =>
    rw [nextFrom_of_cons hahead, step_of_unhandled hkept hunmatched hunhandled, tryEvents_eq]
    rfl
  | @failed d text e k₁ own hdecides hperformed =>
    obtain ⟨c, rest, hahead, _⟩ := hdecides.exists_ahead
    have hown := perform_journal hperformed
    change m.perform (d.action (Token.ofMatch d.name text k.position)) k = _ at hperformed
    change own = _ at hown
    rw [nextFrom_of_cons hahead, step_of_decides hahead hdecides, hperformed, ← hown,
      ← tryEvents_eq]
    cases d <;> rfl

/-- A step that fails brings the scan to its end. -/
theorem Fails.ends {e : LexError} (h : m.Fails s k e s' k') :
    ∃ last, m.Ends s k (some e) ⟨s', k'.clearSkip, true⟩ last := by
  cases h with
  | unrecognized hahead hkept hunmatched hunhandled =>
    exact ⟨_, .unrecognized hahead hkept hunmatched hunhandled⟩
  | rule hdecides hperformed => exact ⟨_, .failed hdecides hperformed⟩
  | handler hdecides hperformed => exact ⟨_, .failed hdecides hperformed⟩

/-- What a scan gives next it gives after steps that emit nothing: it comes to its end, or another
step emits a token. All that comes out comes out of these. -/
theorem next_walk {scan : Scan} {pull : Pull} (hdone : scan.done = false)
    (h : m.next scan = some pull) :
    ∃ ps s k, m.Walk scan.spot scan.cursor ps s k ∧ (∀ p ∈ ps, p.token? = none) ∧
      ((∃ failure left last, m.Ends s k failure left last ∧
          pull = ⟨failure.map .error, left, ps.flatMap (Passage.journal m) ++ last⟩) ∨
        ∃ σ token s' k', m.Takes s k σ s' k' ∧ σ.token? = some token ∧
          pull = ⟨some (.ok token), ⟨s', k', false⟩,
            (ps ++ [Passage.mk k σ]).flatMap (Passage.journal m)⟩) := by
  rw [next, hdone, if_neg Bool.false_ne_true] at h
  -- The run says where the scan comes; what comes out of its steps is read off the walk.
  obtain ⟨σs, s, k, hrun, hsilent, hgives⟩ := nextFrom_run h
  obtain ⟨ps, hwalk, rfl⟩ := hrun.exists_walk
  have hquiet : ∀ p ∈ ps, p.token? = none := List.forall_mem_map.1 hsilent
  rw [hwalk.nextFrom_eq hquiet] at h
  refine ⟨ps, s, k, hwalk, hquiet, ?_⟩
  cases hgives with
  | nothing hahead =>
    rw [(Ends.reached hahead).nextFrom_eq] at h
    exact .inl ⟨none, _, _, .reached hahead, (Option.some.inj h).symm⟩
  | @token σ token s' k' journal htakes hemits =>
    rw [htakes.nextFrom_eq hemits] at h
    refine .inr ⟨σ, token, s', k', htakes, hemits, ?_⟩
    rw [List.flatMap_append, List.flatMap_singleton]
    exact (Option.some.inj h).symm
  | error hfails =>
    obtain ⟨last, hends⟩ := hfails.ends
    rw [hends.nextFrom_eq] at h
    exact .inl ⟨_, _, _, hends, (Option.some.inj h).symm⟩

/-! ### Scans that are followed to their end -/

/-- A scan unfolds like one to which it only comes later, but for what comes out on the way. -/
private theorem Unfolds.of_next_eq {scan scan₁ : Scan} {tokens : List Token} {journal : Journal}
    (h : m.Unfolds scan₁ tokens failure left journal) {before : Journal}
    (hnext : m.next scan = (m.next scan₁).map fun pull ↦
      ⟨pull.item, pull.scan, before ++ pull.journal⟩) :
    m.Unfolds scan tokens failure left (before ++ journal) := by
  cases h with
  | ended next =>
    rw [next] at hnext
    exact .ended hnext
  | failed next =>
    rw [next] at hnext
    exact .failed hnext
  | token next rest =>
    rw [next] at hnext
    rw [← List.append_assoc]
    exact .token hnext rest

/-- A walk to the end of a scan tells how the scan unfolds. -/
theorem Walk.unfolds (h : m.Walk s k ps s' k') (hends : m.Ends s' k' failure left last) :
    m.Unfolds ⟨s, k, false⟩ (ps.filterMap (·.token?)) failure left
      (ps.flatMap (Passage.journal m) ++ last) := by
  induction h with
  | nil s k =>
    have hnext : m.next ⟨s, k, false⟩ = some ⟨failure.map .error, left, last⟩ := hends.nextFrom_eq
    cases failure with
    | none => exact .ended hnext
    | some e => exact .failed hnext
  | @cons s s₁ s' k k₁ k' σ ps first _ ih =>
    rw [List.flatMap_cons, List.append_assoc]
    cases hσ : σ.token? with
    | some token =>
      rw [List.filterMap_cons_some (show (Passage.mk k σ).token? = some token from hσ)]
      exact .token (first.nextFrom_eq hσ) (ih hends)
    | none =>
      rw [List.filterMap_cons_none (show (Passage.mk k σ).token? = none from hσ)]
      refine (ih hends).of_next_eq ?_
      have hone := (Walk.cons first (.nil s₁ k₁)).nextFrom_eq (List.forall_mem_singleton.2 hσ)
      rw [List.flatMap_singleton] at hone
      exact hone

/-- A scan that gives no token any more walks to its end, and emits nothing on the way. -/
private theorem exists_walk_of_next {scan : Scan} {journal : Journal} (hdone : scan.done = false)
    (h : m.next scan = some ⟨failure.map .error, left, journal⟩) :
    ∃ ps s k last, m.Walk scan.spot scan.cursor ps s k ∧ m.Ends s k failure left last ∧
      [] = ps.filterMap (·.token?) ∧ journal = ps.flatMap (Passage.journal m) ++ last := by
  obtain ⟨ps, s, k, hwalk, hsilent, hgives⟩ := next_walk hdone h
  rcases hgives with ⟨failure', left', last, hends, heq⟩ | ⟨_, _, _, _, _, _, heq⟩
  · obtain ⟨hitem, rfl, rfl⟩ := Pull.mk.inj heq
    obtain rfl : failure = failure' :=
      Option.map_injective (fun _ _ ↦ Except.error.inj) hitem
    exact ⟨ps, s, k, last, hwalk, hends, (List.filterMap_eq_nil_iff.2 hsilent).symm, rfl⟩
  · cases failure <;> cases heq

/-- However a scan unfolds, a walk tells it. -/
theorem Unfolds.exists_walk {scan : Scan} {tokens : List Token} {journal : Journal}
    (h : m.Unfolds scan tokens failure left journal) (hdone : scan.done = false) :
    ∃ ps s k last, m.Walk scan.spot scan.cursor ps s k ∧ m.Ends s k failure left last ∧
      tokens = ps.filterMap (·.token?) ∧ journal = ps.flatMap (Passage.journal m) ++ last := by
  induction h with
  | ended hnext => exact exists_walk_of_next hdone hnext
  | failed hnext => exact exists_walk_of_next hdone hnext
  | token hnext _ ih =>
    obtain ⟨ps, s, k, hwalk, hsilent, ⟨failure, _, _, _, heq⟩ | ⟨σ, _, s', k', htakes, hσ, heq⟩⟩ :=
      next_walk hdone hnext
    · cases failure <;> cases heq
    · cases heq
      obtain ⟨qs, s₂, k₂, last, hlater, hends, rfl, rfl⟩ := ih rfl
      refine ⟨ps ++ ⟨k, σ⟩ :: qs, s₂, k₂, last, hwalk.trans (.cons htakes hlater), hends, ?_, ?_⟩
      · have hquiet : ps.filterMap (·.token?) = [] := List.filterMap_eq_nil_iff.2 hsilent
        have htoken : (Passage.mk k σ).token? = some _ := hσ
        rw [List.filterMap_append, hquiet, List.nil_append, List.filterMap_cons_some htoken]
      · rw [List.flatMap_append, List.flatMap_append, List.flatMap_singleton, List.flatMap_cons]
        simp only [List.append_assoc]

end Machine

end ModalLexer
