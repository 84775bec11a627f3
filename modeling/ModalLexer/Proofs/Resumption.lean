import ModalLexer.Pattern.Custom
import ModalLexer.Proofs.Partition

/-!
# Going on with a scan later

All that a scan carries from one step to the next is its cursor and its spot. What lies behind the
spot can be seen by matchers written by hand only; if they do not look, a scan that is dropped after
some tokens and taken up as a new scan of the rest gives what it would have given.
-/

namespace ModalLexer

open Text (Spot)

/-! ### Text before a spot -/

namespace Text.Spot

/-- The same spot in a text that has more before it. -/
def after (passed : List Char) (s : Spot) : Spot := ⟨s.behind ++ passed.reverse, s.ahead⟩

@[simp] private theorem ahead_after (passed : List Char) (s : Spot) :
    (s.after passed).ahead = s.ahead := rfl

@[simp] private theorem advance_after (passed : List Char) (n : Nat) (s : Spot) :
    (s.after passed).advance n = (s.advance n).after passed := by
  fun_induction advance n s with
  | case1 s => rfl
  | case2 n behind => rfl
  | case3 n behind c ahead ih => exact ih

/-- Every spot is the start of what lies ahead, after what lies behind. -/
theorem start_after (s : Spot) : (start s.ahead).after s.behind.reverse = s := by
  rw [after, start, List.reverse_reverse, List.nil_append]

end Text.Spot

/-! ### Matchers that look ahead only -/

namespace Matcher

/-- Whether a matcher answers by what lies ahead only, wherever in a text that is. -/
def PositionIndependent : Matcher → Prop
  | literal _ | charClass _ | regex _ => True
  | repetition inner _ _ => inner.PositionIndependent
  | custom matcher => ∀ s, matcher s = matcher (.start s.ahead)

private theorem repeatSpan_congr {inner : Spot → Option Nat}
    (hinner : ∀ s t : Spot, s.ahead = t.ahead → inner s = inner t) (bound : Nat)
    (most : Option Nat) {s t : Spot} (h : s.ahead = t.ahead) :
    repeatSpan inner bound most s = repeatSpan inner bound most t := by
  induction bound generalizing most s t with
  | zero => rfl
  | succ bound ih =>
    rw [repeatSpan, repeatSpan, hinner s t h]
    cases inner t with
    | none => rfl
    | some n =>
      have hnext : (s.advance n).ahead = (t.advance n).ahead := by
        rw [Spot.ahead_advance, Spot.ahead_advance, h]
      simp only [ih (most.map (· - 1)) hnext]

private theorem rawSpan?_congr {m : Matcher} (hm : m.PositionIndependent) {s t : Spot}
    (h : s.ahead = t.ahead) : m.rawSpan? s = m.rawSpan? t := by
  induction m generalizing s t with
  | literal text => rw [rawSpan?, rawSpan?, h]
  | charClass set => rw [rawSpan?, rawSpan?, h]
  | repetition inner least most ih =>
    have hinner (s t : Spot) (h : s.ahead = t.ahead) :
        (inner.rawSpan? s).filter (0 < ·) = (inner.rawSpan? t).filter (0 < ·) :=
      congrArg (Option.filter (0 < ·)) (ih hm h)
    rw [rawSpan?, rawSpan?, h, repeatSpan_congr hinner _ _ h]
  | regex r => rw [rawSpan?, rawSpan?, h]
  | custom matcher =>
    have hsame : matcher s = matcher t := by rw [hm s, hm t, h]
    rw [rawSpan?, rawSpan?, hsame, h]

/-- A matcher that looks ahead only finds the same match wherever the same lies ahead. -/
theorem span?_congr {m : Matcher} (hm : m.PositionIndependent) {s t : Spot}
    (h : s.ahead = t.ahead) : m.span? s = m.span? t := by
  rw [span?, span?, rawSpan?_congr hm h]

end Matcher

/-- Whether no rule of any state looks at what lies behind. -/
def RuleSet.PositionIndependent (r : RuleSet) : Prop :=
  ∀ state, ∀ l ∈ r.lexemes state, l.matcher.PositionIndependent

/-! ### What a scan gives after some text -/

/-- Where a scan stands if more text lies before its own. -/
def Scan.after (passed : List Char) (scan : Scan) : Scan :=
  { scan with spot := scan.spot.after passed }

/-- What a scan gives if more text lies before its own: the same, further on by that text. -/
def Pull.after (passed : List Char) (pull : Pull) : Pull :=
  { pull with scan := pull.scan.after passed }

namespace Machine

/-- Where a step leads if more text lies before. -/
def StepResult.after (passed : List Char) : StepResult → StepResult
  | moved token place => moved token { place with spot := place.spot.after passed }
  | failed e place => failed e { place with spot := place.spot.after passed }

private theorem longestMatch_congr {ls : List Lexeme}
    (hls : ∀ l ∈ ls, l.matcher.PositionIndependent) {s t : Spot} (h : s.ahead = t.ahead) :
    longestMatch ls s = longestMatch ls t := by
  induction ls with
  | nil => rfl
  | cons l ls ih =>
    obtain ⟨hl, hrest⟩ := List.forall_mem_cons.1 hls
    rw [longestMatch, longestMatch, Matcher.span?_congr hl h, ih hrest]

variable {m : Machine} {s : Spot} {k : Cursor}

private theorem settle_after (m : Machine) (verdict : Verdict) (passed : List Char) (s : Spot)
    (k : Cursor) (journal : Journal) :
    m.settle verdict (s.after passed) k journal =
      (m.settle verdict s k journal).after passed := by
  simp only [settle, applySkip, consume, Text.Spot.advance_after, Text.Spot.ahead_after]
  cases verdict <;> rfl

private theorem applyRule_after (m : Machine) (l : Lexeme) (count : Nat) (passed : List Char)
    (s : Spot) (k : Cursor) :
    m.applyRule l count (s.after passed) k =
      (m.applyRule l count s k).map (·.after passed) := by
  rw [applyRule, applyRule, Option.map_map]
  congr 1
  funext result
  cases hvalue : result.value with
  | error e => simp [hvalue, StepResult.after]
  | ok verdict =>
    simp only [hvalue, Function.comp_apply, Text.Spot.advance_after, Text.Spot.ahead_after]
    exact settle_after m verdict passed _ _ _

private theorem recover_after (m : Machine) (c : Char) (passed : List Char) (s : Spot)
    (k : Cursor) :
    m.recover c (s.after passed) k = (m.recover c s k).map (·.after passed) := by
  rw [recover, recover]
  cases m.rules.handler? k.state with
  | none => rfl
  | some handler =>
    simp only [Option.map_map]
    congr 1
    funext result
    cases hvalue : result.value with
    | error e => simp [hvalue, StepResult.after]
    | ok verdict =>
      simp only [hvalue, Function.comp_apply, Text.Spot.advance_after]
      exact settle_after m verdict passed _ _ _

/-- A step does not depend on what lies behind. -/
theorem step_after (hm : m.rules.PositionIndependent) (passed : List Char) (c : Char) :
    m.step c (s.after passed) k = (m.step c s k).map (·.after passed) := by
  rw [step, step, longestMatch_congr (hm k.state) (Text.Spot.ahead_after passed s)]
  split
  · rw [Text.Spot.advance_after]
    rfl
  · cases longestMatch (m.rules.lexemes k.state) s with
    | none => exact recover_after m c passed s k
    | some winner => exact applyRule_after m winner.1 winner.2 passed s k

/-- What a scan gives once a step is taken. -/
def follow (m : Machine) : StepResult → Option Pull
  | .failed e place =>
    some ⟨some (.error e), ⟨place.spot, place.cursor.clearSkip, true⟩, place.journal⟩
  | .moved (some token) place =>
    some ⟨some (.ok token), ⟨place.spot, place.cursor, false⟩, place.journal⟩
  | .moved none place =>
    (m.nextFrom place.spot place.cursor).map fun pull ↦
      ⟨pull.item, pull.scan, place.journal ++ pull.journal⟩

/-- Nothing is given at the end of a text. -/
theorem nextFrom_of_nil (hs : s.ahead = []) :
    m.nextFrom s k = some ⟨none, ⟨s, k, true⟩, []⟩ := by
  rw [nextFrom]
  split
  · rfl
  · next hs' => rw [hs] at hs'; cases hs'

/-- What is given before the end of a text is given by the next step, or follows it. -/
theorem nextFrom_of_cons {c : Char} {rest : List Char} (hs : s.ahead = c :: rest) :
    m.nextFrom s k = (m.step c s k).bind m.follow := by
  rw [nextFrom]
  split
  · next hs' => rw [hs] at hs'; cases hs'
  · next c' rest' hs' =>
    obtain ⟨rfl, rfl⟩ := List.cons.inj (hs.symm.trans hs')
    split
    · next hstep => rw [hstep]; rfl
    · next hstep => rw [hstep]; rfl
    · next hstep => rw [hstep]; rfl
    · next hstep => rw [hstep]; rfl

/-- Steps that emit nothing only put off what is given after them. -/
theorem nextFrom_of_run {s' : Spot} {k' : Cursor} {σs : List Stride} (h : m.Run s k σs s' k')
    (hsilent : ∀ σ ∈ σs, σ.token? = none) :
    ∃ journal, m.nextFrom s k = (m.nextFrom s' k').map fun pull ↦
      ⟨pull.item, pull.scan, journal ++ pull.journal⟩ := by
  induction h with
  | nil => exact ⟨[], (congrFun Option.map_id _).symm⟩
  | cons first _ ih =>
    obtain ⟨hσ, hrest⟩ := List.forall_mem_cons.1 hsilent
    obtain ⟨c, rest, journal, hahead, hstep⟩ := takes_iff.1 ⟨_, first, hσ⟩
    obtain ⟨more, hlater⟩ := ih hrest
    refine ⟨journal ++ more, ?_⟩
    rw [nextFrom_of_cons hahead, hstep, Option.bind_some, follow, hlater, Option.map_map]
    simp only [Function.comp_def, List.append_assoc]

/-- What is given where a step fails is its error. -/
theorem nextFrom_of_fails {e : LexError} {s' : Spot} {k' : Cursor} (h : m.Fails s k e s' k') :
    ∃ journal, m.nextFrom s k =
      some ⟨some (.error e), ⟨s', k'.clearSkip, true⟩, journal⟩ := by
  obtain ⟨c, rest, journal, hahead, hstep⟩ := fails_iff.1 h
  exact ⟨journal, by rw [nextFrom_of_cons hahead, hstep]; rfl⟩

/-- What a scan gives does not depend on what lies behind. -/
theorem nextFrom_after (hm : m.rules.PositionIndependent) (passed : List Char) :
    m.nextFrom (s.after passed) k = (m.nextFrom s k).map (·.after passed) := by
  fun_induction nextFrom m s k with
  | case1 s k hs => exact nextFrom_of_nil hs
  | case2 s k c rest hs hstep =>
    rw [nextFrom_of_cons (s := s.after passed) hs, step_after hm, hstep]
    rfl
  | case3 s k c rest hs e place hstep =>
    rw [nextFrom_of_cons (s := s.after passed) hs, step_after hm, hstep]
    rfl
  | case4 s k c rest hs token place hstep =>
    rw [nextFrom_of_cons (s := s.after passed) hs, step_after hm, hstep]
    rfl
  | case5 s k c rest hs place hstep ih =>
    rw [nextFrom_of_cons (s := s.after passed) hs, step_after hm, hstep]
    change (m.nextFrom (place.spot.after passed) place.cursor).map _ = _
    rw [ih, Option.map_map, Option.map_map]
    rfl

private theorem next_after (hm : m.rules.PositionIndependent) (passed : List Char) (scan : Scan) :
    m.next (scan.after passed) = (m.next scan).map (·.after passed) := by
  rw [next, next]
  cases hdone : scan.done with
  | true => simp [Scan.after, Pull.after, hdone]
  | false =>
    simp only [Scan.after, hdone, Bool.false_eq_true, if_false]
    exact nextFrom_after hm passed

/-- All that a scan gives does not depend on what lies behind. -/
theorem pulls_after (hm : m.rules.PositionIndependent) (passed : List Char) (count : Nat)
    (scan : Scan) :
    m.pulls count (scan.after passed) = (m.pulls count scan).map (·.map (·.after passed)) := by
  induction count generalizing scan with
  | zero => rfl
  | succ count ih =>
    rw [pulls, pulls, next_after hm]
    cases m.next scan with
    | none => rfl
    | some pull =>
      simp only [Option.map_some, Option.bind_some]
      change (if pull.item.isNone then _ else _) = _
      split
      · rfl
      · have hrest := ih pull.scan
        change (m.pulls count (pull.scan.after passed)).map _ = _
        rw [hrest, Option.map_map, Option.map_map]
        rfl

/-! ### Scans that are dropped -/

/-- A scan that gave a token is not over. -/
theorem done_of_next {scan : Scan} {pull : Pull} {token : Token} (h : m.next scan = some pull)
    (hitem : pull.item = some (.ok token)) : pull.scan.done = false := by
  rcases next_run h with ⟨_, rfl⟩ | ⟨_, σs, s₁, k₁, _, _, hgives⟩
  · cases hitem
  · cases hgives with
    | nothing => cases hitem
    | token => rfl
    | error => cases hitem

/-- A scan that gave tokens only goes on from where it stands then. -/
theorem pulls_add {count : Nat} (more : Nat) {scan : Scan} {ps : List Pull}
    (h : m.pulls count scan = some ps) (htokens : ∀ p ∈ ps, ∃ token, p.item = some (.ok token)) :
    m.pulls (count + more) scan = (m.pulls more (standing scan ps)).map (ps ++ ·) := by
  induction count generalizing scan ps with
  | zero =>
    cases h
    rw [Nat.zero_add]
    exact (congrFun Option.map_id _).symm
  | succ count ih =>
    rw [pulls, Option.bind_eq_some_iff] at h
    obtain ⟨pull, hnext, hrest⟩ := h
    have hsome : pull.item.isNone = false := by
      cases hitem : pull.item with
      | some item => rfl
      | none =>
        rw [hitem] at hrest
        cases hrest
        obtain ⟨token, htoken⟩ := htokens pull List.mem_cons_self
        rw [hitem] at htoken
        cases htoken
    rw [hsome] at hrest
    obtain ⟨ps', hps', rfl⟩ := Option.map_eq_some_iff.1 hrest
    have hlater := ih hps' fun p hp ↦ htokens p (List.mem_cons_of_mem pull hp)
    rw [Nat.succ_add, pulls, hnext, Option.bind_some, hsome, standing_cons, hlater]
    rw [if_neg Bool.false_ne_true, Option.map_map]
    rfl

private theorem standing_append (scan : Scan) (ps qs : List Pull) :
    standing scan (ps ++ qs) = standing (standing scan ps) qs := by
  induction ps generalizing scan with
  | nil => rfl
  | cons p ps ih => rw [List.cons_append, standing_cons, standing_cons, ih]

private theorem standing_after (passed : List Char) (scan : Scan) (ps : List Pull) :
    standing (scan.after passed) (ps.map (·.after passed)) = (standing scan ps).after passed := by
  induction ps generalizing scan with
  | nil => rfl
  | cons p ps ih =>
    rw [List.map_cons, standing_cons, standing_cons]
    exact ih p.scan

/-- Between two tokens nothing is over and nothing is left to be skipped. -/
theorem standing_of_tokens {count : Nat} {scan : Scan} {ps : List Pull}
    (h : m.pulls count scan = some ps) (htokens : ∀ p ∈ ps, ∃ token, p.item = some (.ok token))
    (hdone : scan.done = false) (hskip : scan.cursor.pendingSkip = 0) :
    (standing scan ps).done = false ∧ (standing scan ps).cursor.pendingSkip = 0 := by
  induction count generalizing scan ps with
  | zero =>
    cases h
    exact ⟨hdone, hskip⟩
  | succ count ih =>
    rw [pulls, Option.bind_eq_some_iff] at h
    obtain ⟨pull, hnext, hrest⟩ := h
    split at hrest
    · next hnone =>
      cases hrest
      obtain ⟨token, htoken⟩ := htokens pull List.mem_cons_self
      rw [htoken] at hnone
      cases hnone
    · obtain ⟨ps', hps', rfl⟩ := Option.map_eq_some_iff.1 hrest
      obtain ⟨⟨token, htoken⟩, hlater⟩ := List.forall_mem_cons.1 htokens
      rw [standing_cons]
      exact ih hps' hlater (done_of_next hnext htoken) (next_pendingSkip hnext hskip)

/-- A scan that is not over and has nothing to skip is a new scan of the rest, after some text. -/
theorem scan_after {scan : Scan} (hdone : scan.done = false)
    (hskip : scan.cursor.pendingSkip = 0) :
    (Machine.scan scan.cursor scan.spot.ahead).after scan.spot.behind.reverse = scan := by
  obtain ⟨s, ⟨state, stack, line, passed, pendingSkip⟩, done⟩ := scan
  cases hdone
  cases hskip
  rw [Machine.scan, Scan.after, Spot.start_after]
  rfl

/-- After some tokens a scan of a text is a new scan of the rest, after what was passed. -/
theorem standing_eq_after {count : Nat} {text : List Char} {ps : List Pull}
    (h : m.pulls count (Machine.scan k text) = some ps)
    (htokens : ∀ p ∈ ps, ∃ token, p.item = some (.ok token)) :
    ∃ passed rest,
      Text.splitBytes? (standing (Machine.scan k text) ps).spot.offset text =
        some (passed, rest) ∧
      standing (Machine.scan k text) ps =
        (Machine.scan (standing (Machine.scan k text) ps).cursor rest).after passed := by
  have hok : ∀ p ∈ ps, ∀ e, p.item ≠ some (.error e) := by
    intro p hp e he
    obtain ⟨token, htoken⟩ := htokens p hp
    rw [htoken] at he
    cases he
  obtain ⟨σs, hrun, -, -⟩ := pulls_run rfl h hok
  obtain ⟨hdone, hskip⟩ := standing_of_tokens h htokens rfl rfl
  have hbehind := hrun.behind_eq
  refine ⟨σs.flatMap (·.text), _, hrun.splitBytes?_eq, ?_⟩
  rw [Machine.scan, Spot.start, List.append_nil] at hbehind
  have hpassed : (standing (Machine.scan k text) ps).spot.behind.reverse =
      σs.flatMap (·.text) := by
    rw [Machine.scan, Spot.start, hbehind, List.reverse_reverse]
  rw [← hpassed, scan_after hdone hskip]

/-- What a scan gives after some tokens is what a new scan of the rest gives, and where it leaves
the cursor is where the new scan leaves it. -/
theorem pulls_resumed_from (hm : m.rules.PositionIndependent) {count : Nat} {text : List Char}
    {ps : List Pull} (h : m.pulls count (Machine.scan k text) = some ps)
    (htokens : ∀ p ∈ ps, ∃ token, p.item = some (.ok token)) :
    ∃ passed rest,
      Text.splitBytes? (standing (Machine.scan k text) ps).spot.offset text =
        some (passed, rest) ∧
      (∀ more, m.pulls (count + more) (Machine.scan k text) =
        (m.pulls more (Machine.scan (standing (Machine.scan k text) ps).cursor rest)).map
          fun qs ↦ ps ++ qs.map (·.after passed)) ∧
      ∀ qs, (standing (Machine.scan k text) (ps ++ qs.map (·.after passed))).cursor =
        (standing (Machine.scan (standing (Machine.scan k text) ps).cursor rest) qs).cursor := by
  obtain ⟨passed, rest, hsplit, hleft⟩ := standing_eq_after h htokens
  refine ⟨passed, rest, hsplit, fun more ↦ ?_, fun qs ↦ ?_⟩
  · have hafter := pulls_after hm passed more
      (Machine.scan (standing (Machine.scan k text) ps).cursor rest)
    rw [← hleft] at hafter
    rw [pulls_add more h htokens, hafter, Option.map_map]
    rfl
  · have hafter := standing_after passed
      (Machine.scan (standing (Machine.scan k text) ps).cursor rest) qs
    rw [← hleft] at hafter
    rw [standing_append, hafter]
    rfl

end Machine

namespace Lexer

private theorem pulls_eq (l : Lexer) (depth count : Nat) (text : String) :
    l.pulls depth text (some count) =
      ((l.machine depth).pulls count (l.scan text)).map fun ps ↦
        (ps, l.withCursor (l.scanAfter text ps).cursor) := rfl

private theorem pulls_withCursor (l : Lexer) (k : Cursor) (depth count : Nat) (rest : List Char) :
    (l.withCursor k).pulls depth (String.ofList rest) (some count) =
      ((l.machine depth).pulls count (Machine.scan k rest)).map fun ps ↦
        (ps, l.withCursor (Machine.standing (Machine.scan k rest) ps).cursor) := by
  have hscan : (l.withCursor k).scan (String.ofList rest) = Machine.scan k rest := by
    rw [scan, String.toList_ofList]
    rfl
  simp only [pulls_eq, scanAfter, hscan]
  rfl

/-- A scan that gave some tokens may be dropped: a new scan of the rest of the text, by the lexer as
it was left, gives just what the first one would have given after them, further on by the text that
was passed, and leaves the lexer as the first one would have left it, however often either is asked
and whether it fails or not. No rule must look at what lies behind. -/
theorem pulls_resumed (l : Lexer) (depth count more : Nat) (text : String) {ps : List Pull}
    {l' : Lexer} (hrules : l.rules.PositionIndependent)
    (h : l.pulls depth text (some count) = some (ps, l'))
    (htokens : ∀ p ∈ ps, ∃ token, p.item = some (.ok token)) :
    ∃ passed rest,
      Text.splitBytes? (l.scanAfter text ps).spot.offset text.toList = some (passed, rest) ∧
      l.pulls depth text (some (count + more)) =
        (l'.pulls depth (String.ofList rest) (some more)).map fun (qs, l'') ↦
          (ps ++ qs.map (·.after passed), l'') := by
  rw [pulls_eq, Option.map_eq_some_iff] at h
  obtain ⟨ps', hps, heq⟩ := h
  obtain ⟨rfl, rfl⟩ := Prod.mk.inj heq
  obtain ⟨passed, rest, hsplit, hpulls, hcursor⟩ := Machine.pulls_resumed_from hrules hps htokens
  refine ⟨passed, rest, hsplit, ?_⟩
  rw [pulls_eq, pulls_withCursor, Option.map_map]
  change ((l.machine depth).pulls (count + more) (Machine.scan l.cursor text.toList)).map _ = _
  rw [hpulls more, Option.map_map]
  congr 1
  funext qs
  exact congrArg (fun k ↦ (ps' ++ qs.map (·.after passed), l.withCursor k)) (hcursor qs)

/-- Texts between quotation marks, found by hand, with blanks between them. -/
def quotedDeclarations : List Declaration :=
  [.tokens ["TEXT"],
   .rule "TEXT" (.repetition (.custom .quoted) 1 none) none,
   .ignore none (.chars " ")]

/-- The lexer for texts between quotation marks. -/
def quotedLexer : Lexer :=
  (define quotedDeclarations .quiet).toOption.get (by decide +kernel)

/-- A scan that is dropped after its first text and taken up again. -/
theorem pulls_resumed_quotedLexer :
    quotedLexer.rules.PositionIndependent ∧
      ∃ ps l', quotedLexer.pulls 0 "\"é\" \"b\" x" (some 1) = some (ps, l') ∧
        (∀ p ∈ ps, ∃ token, p.item = some (.ok token)) ∧
        quotedLexer.pulls 0 "\"é\" \"b\" x" (some 3) =
          (l'.pulls 0 " \"b\" x" (some 2)).map fun (qs, l'') ↦
            (ps ++ qs.map (·.after ['"', 'é', '"']), l'') := by
  have hrules : quotedLexer.rules.PositionIndependent := by
    intro state l hl
    have htables : quotedLexer.rules.tables = ⟨[("initial", ⟨"initial",
        [⟨"TEXT", .repetition (.custom .quoted) 1 none, none⟩]⟩)]⟩ := rfl
    rw [RuleSet.lexemes, htables, Table.get?, Table.find?] at hl
    split at hl
    · rw [Option.elim_some, List.mem_singleton] at hl
      subst hl
      intro s
      rfl
    · cases hl
  have hsome : (quotedLexer.pulls 0 "\"é\" \"b\" x" (some 1)).isSome = true := by decide +kernel
  obtain ⟨⟨ps, l'⟩, hps⟩ := Option.isSome_iff_exists.1 hsome
  have hfirst : ps.map (·.token?.isSome) = [true] ∧
      (quotedLexer.scanAfter "\"é\" \"b\" x" ps).spot.offset = 4 := by
    have : (quotedLexer.pulls 0 "\"é\" \"b\" x" (some 1)).map (fun r ↦
        (r.1.map (·.token?.isSome), (quotedLexer.scanAfter "\"é\" \"b\" x" r.1).spot.offset)) =
        some ([true], 4) := by decide +kernel
    rw [hps] at this
    exact Prod.mk.inj (Option.some.inj this)
  have htokens : ∀ p ∈ ps, ∃ token, p.item = some (.ok token) := by
    intro p hp
    have hmem := List.mem_map_of_mem (f := (·.token?.isSome)) hp
    rw [hfirst.1, List.mem_singleton] at hmem
    obtain ⟨token, htoken⟩ := Option.isSome_iff_exists.1 hmem
    exact ⟨token, Pull.token?_eq_some_iff.1 htoken⟩
  obtain ⟨passed, rest, hsplit, hpulls⟩ :=
    pulls_resumed quotedLexer 0 1 2 "\"é\" \"b\" x" hrules hps htokens
  rw [hfirst.2] at hsplit
  have hparts : Text.splitBytes? 4 "\"é\" \"b\" x".toList =
      some (['"', 'é', '"'], " \"b\" x".toList) := by decide
  rw [hparts] at hsplit
  obtain ⟨rfl, rfl⟩ := Prod.mk.inj (Option.some.inj hsplit)
  rw [String.ofList_toList] at hpulls
  exact ⟨hrules, ps, l', hps, htokens, hpulls⟩

end Lexer

end ModalLexer
