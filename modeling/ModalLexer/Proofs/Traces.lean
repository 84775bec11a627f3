import ModalLexer.Proofs.Walks

/-!
# What comes out of a scan

As far as a scan is followed it has taken a walk, and all that came out of it came out of the steps
of that walk, and of its end if it has come to it (`Machine.Follows`). This holds however the scan
is followed, also of scans that actions start, which come out in full among what their actions write
down. A machine that is not to log anything logs nothing in any of them (`Follows.events_eq_nil`).
-/

namespace ModalLexer

open Text (Spot)

namespace Machine

/-- A scan as far as it is followed, after some steps or to its end: the tokens that it gives, where
it is left, and all that comes out of it. -/
inductive Follows (m : Machine) (scan : Scan) : List Token → Scan → Journal → Prop
  | going {ps : List Passage} {s : Spot} {k : Cursor}
      (walk : m.Walk scan.spot scan.cursor ps s k) :
      Follows m scan (ps.filterMap (·.token?)) ⟨s, k, false⟩ (ps.flatMap (Passage.journal m))
  | ended {ps : List Passage} {s : Spot} {k : Cursor} {failure : Option LexError} {left : Scan}
      {last : Journal} (walk : m.Walk scan.spot scan.cursor ps s k)
      (ends : m.Ends s k failure left last) :
      Follows m scan (ps.filterMap (·.token?)) left (ps.flatMap (Passage.journal m) ++ last)

variable {m : Machine} {scan left : Scan} {tokens : List Token} {failure : Option LexError}
  {journal : Journal} {given : List Pull}

/-- What is followed after a walk is followed from its start. -/
theorem Walk.follows {s s' : Spot} {k k' : Cursor} {ps : List Passage} (h : m.Walk s k ps s' k')
    (hlater : m.Follows ⟨s', k', false⟩ tokens left journal) :
    m.Follows ⟨s, k, false⟩ (ps.filterMap (·.token?) ++ tokens) left
      (ps.flatMap (Passage.journal m) ++ journal) := by
  cases hlater with
  | going walk =>
    rw [← List.filterMap_append, ← List.flatMap_append]
    exact .going (h.trans walk)
  | ended walk ends =>
    rw [← List.filterMap_append, ← List.append_assoc, ← List.flatMap_append]
    exact .ended (h.trans walk) ends

/-- Nothing more comes out of a scan that is over. -/
theorem pulls_of_done {count : Nat} (hdone : scan.done = true)
    (h : m.pulls count scan = some given) :
    given.filterMap (·.token?) = [] ∧ standing scan given = scan ∧
      given.flatMap (·.journal) = [] := by
  cases count with
  | zero =>
    cases h
    exact ⟨rfl, rfl, rfl⟩
  | succ count =>
    rw [pulls, next, if_pos hdone] at h
    cases h
    exact ⟨rfl, rfl, rfl⟩

/-- So a scan is followed that is asked for what comes next some number of times. -/
theorem pulls_follows {count : Nat} (hdone : scan.done = false)
    (h : m.pulls count scan = some given) :
    m.Follows scan (given.filterMap (·.token?)) (standing scan given)
      (given.flatMap (·.journal)) := by
  induction count generalizing scan given with
  | zero =>
    cases h
    obtain ⟨s, k, done⟩ := scan
    obtain rfl : done = false := hdone
    have hwalk : m.Walk (Scan.mk s k false).spot (Scan.mk s k false).cursor [] s k := .nil s k
    exact .going hwalk
  | succ count ih =>
    rw [pulls, Option.bind_eq_some_iff] at h
    obtain ⟨pull, hnext, hrest⟩ := h
    obtain ⟨ps, s, k, hwalk, hsilent, hgives⟩ := next_walk hdone hnext
    have hquiet : ps.filterMap (·.token?) = [] := List.filterMap_eq_nil_iff.2 hsilent
    rcases hgives with ⟨failure, left, last, hends, rfl⟩ | ⟨σ, token, s', k', htakes, hσ, rfl⟩
    · have hover : m.Follows scan [] left (ps.flatMap (Passage.journal m) ++ last) :=
        hquiet ▸ .ended hwalk hends
      cases failure with
      | none =>
        cases hrest
        rw [List.flatMap_singleton]
        exact hover
      | some e =>
        -- An error does not end the requests, but the scan is over.
        obtain ⟨later, hlater, rfl⟩ := Option.map_eq_some_iff.1 hrest
        obtain ⟨htokens, hleft, hjournal⟩ := pulls_of_done (over_of_next hnext rfl).1 hlater
        rw [standing_cons, hleft, List.flatMap_cons, hjournal, List.append_nil,
          List.filterMap_cons_none rfl, htokens]
        exact hover
    · obtain ⟨later, hlater, rfl⟩ := Option.map_eq_some_iff.1 hrest
      have hstep : (Passage.mk k σ).token? = some token := hσ
      have htokens : (ps ++ [Passage.mk k σ]).filterMap (·.token?) = [token] := by
        rw [List.filterMap_append, hquiet, List.filterMap_cons_some hstep]
        rfl
      have hfollows := (hwalk.trans (.cons htakes (.nil s' k'))).follows (ih rfl hlater)
      rw [htokens] at hfollows
      obtain ⟨s₀, k₀, done⟩ := scan
      obtain rfl : done = false := hdone
      have hpull : Pull.token? ⟨some (.ok token), ⟨s', k', false⟩,
          (ps ++ [Passage.mk k σ]).flatMap (Passage.journal m)⟩ = some token := rfl
      rw [standing_cons, List.flatMap_cons, List.filterMap_cons_some hpull]
      exact hfollows

/-- So is one that is followed to its end. -/
theorem Unfolds.follows (h : m.Unfolds scan tokens failure left journal)
    (hdone : scan.done = false) : m.Follows scan tokens left journal := by
  obtain ⟨ps, s, k, last, hwalk, hends, rfl, rfl⟩ := h.exists_walk hdone
  exact .ended hwalk hends

/-- A scan of which the tokens are listed, or its error, is followed to its end. -/
theorem collect_follows {result : Except LexError (List Token)} (hdone : scan.done = false)
    (h : m.collect scan = some (result, left, journal)) :
    ∃ tokens, m.Follows scan tokens left journal ∧ left.done = true ∧
      ∀ listed, result = .ok listed → listed = tokens := by
  rcases m.unfolds_or_stalls scan with ⟨tokens, failure, left', journal', hunfolds⟩ | hstalls
  · rw [hunfolds.collect_eq] at h
    cases h
    refine ⟨tokens, hunfolds.follows hdone, hunfolds.done, fun listed hlisted ↦ ?_⟩
    cases failure with
    | none => exact (Except.ok.inj hlisted).symm
    | some e => cases hlisted
  · rw [hstalls.collect_eq] at h
    cases h

/-- A scan of which the tokens are handed to a function is followed to its end. -/
theorem stream_follows {σ : Type} {gather : σ → Token → σ} {start gathered : σ}
    {result : Except LexError Unit} (hdone : scan.done = false)
    (h : m.stream gather start scan = some (gathered, result, left, journal)) :
    ∃ tokens, m.Follows scan tokens left journal ∧ left.done = true ∧
      gathered = tokens.foldl gather start := by
  rcases m.unfolds_or_stalls scan with ⟨tokens, failure, left', journal', hunfolds⟩ | hstalls
  · rw [hunfolds.stream_eq] at h
    cases h
    exact ⟨tokens, hunfolds.follows hdone, hunfolds.done, rfl⟩
  · rw [hstalls.stream_eq] at h
    cases h

end Machine

/-! ### Machines that log nothing -/

/-- Nothing is logged by scans that actions start. -/
def Nested.Quiet (nested : Nested) : Prop :=
  ∀ text k outcome, nested text k = some outcome → outcome.journal.events = []

private theorem Journal.events_flatMap {α : Type} {f : α → Journal} {xs : List α}
    (h : ∀ x ∈ xs, (f x).events = []) : Journal.events (xs.flatMap f) = [] := by
  rw [events, List.filterMap_eq_nil_iff]
  intro entry hentry
  obtain ⟨x, hx, hmem⟩ := List.mem_flatMap.1 hentry
  exact List.filterMap_eq_nil_iff.1 (h x hx) entry hmem

namespace Machine

variable {m : Machine} {scan left : Scan} {tokens : List Token} {journal : Journal}

section Quiet

variable (hdebug : m.config.debug = false) (hnested : m.nested.Quiet)

include hdebug in
private theorem lines_of_quiet (es : List Event) : m.lines es = [] := by
  rw [lines, hdebug, if_neg Bool.false_ne_true]

include hnested in
/-- An action only writes down what it wants to. -/
theorem events_routineJournal (routine : Routine) (k : Cursor) :
    (m.routineJournal routine k).events = [] := by
  refine Journal.events_flatMap fun c _ ↦ ?_
  obtain ⟨k', r⟩ := c
  cases r with
  | tokenize input =>
    change Journal.events ((m.nested input.toList k').elim [] (·.journal)) = []
    cases houtcome : m.nested input.toList k' with
    | none => rfl
    | some outcome => exact hnested _ _ _ houtcome
  | _ => rfl

include hdebug hnested

private theorem events_journal (p : Passage) : (p.journal m).events = [] := by
  unfold Passage.journal
  split
  · rfl
  · rw [lines_of_quiet hdebug, lines_of_quiet hdebug, List.nil_append, List.append_nil,
      events_routineJournal hnested]

private theorem Ends.events_eq_nil {s : Spot} {k : Cursor} {failure : Option LexError}
    (h : m.Ends s k failure left journal) : journal.events = [] := by
  cases h with
  | reached => rfl
  | unrecognized => rw [lines_of_quiet hdebug]; rfl
  | failed => rw [lines_of_quiet hdebug, List.nil_append, events_routineJournal hnested]

/-- Nothing is logged on the way if nothing is to be logged. -/
theorem Follows.events_eq_nil (h : m.Follows scan tokens left journal) : journal.events = [] := by
  cases h with
  | going => exact Journal.events_flatMap fun p _ ↦ events_journal hdebug hnested p
  | ended walk ends =>
    rw [Journal.events_append, ends.events_eq_nil hdebug hnested, List.append_nil]
    exact Journal.events_flatMap fun p _ ↦ events_journal hdebug hnested p

private theorem events_tokenize {text : List Char} {k : Cursor}
    {outcome : Outcome (Except LexError (List Token))} (h : m.tokenize text k = some outcome) :
    outcome.journal.events = [] := by
  obtain ⟨⟨result, left, journal⟩, hcollect, rfl⟩ := Option.map_eq_some_iff.1 h
  obtain ⟨tokens, hfollows, _⟩ := collect_follows rfl hcollect
  have htables : m.tableEvents = [] := by rw [tableEvents, hdebug, if_neg Bool.false_ne_true]
  change (m.tableEvents ++ journal).events = []
  rw [htables, List.nil_append, hfollows.events_eq_nil hdebug hnested]

end Quiet

/-- So it is in all scans that actions start, however deep. -/
theorem quiet_nestedOfDepth (rules : RuleSet) {config : Config} (hdebug : config.debug = false)
    (depth : Nat) : (nestedOfDepth rules config depth).Quiet := by
  induction depth with
  | zero =>
    intro text k outcome h
    cases h
  | succ depth ih => exact fun text k outcome h ↦ events_tokenize hdebug ih h

end Machine

end ModalLexer
