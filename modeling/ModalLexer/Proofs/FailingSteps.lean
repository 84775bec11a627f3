import ModalLexer.Proofs.Progress

/-!
# What a failing step leaves behind

A scan comes to an error by a step that fails, after steps that gave no token. Such a step ends in
one of three places: before anything happens, if nobody decides about a character; with the cursor
as an action left it, if a lexeme won; and one character further, if the handler failed
(`Machine.Abandons`). It gives no token, and neither does anything after it.
-/

namespace ModalLexer

open Text (Spot)

namespace Machine

/-- How a step that starts where a character is ahead comes to fail, and what it leaves behind. If
no lexeme matches and nothing is to be done about it, the character is reported where it stands, and
nothing changes. If a lexeme wins, it is its action that fails: nothing is consumed, and but for
what was to be skipped the cursor is as the action left it. If no lexeme matches and there is a
handler, it is the handler that fails: the character is consumed, and but for what was to be skipped
the cursor is one column further than the handler left it. -/
structure Abandons (m : Machine) (s : Spot) (k : Cursor) (c : Char) (e : LexError) (left : Scan) :
    Prop where
  unrecognized : (∀ l ∈ m.rules.lexemes k.state, l.matcher.span? s = none) →
    m.rules.handler? k.state = none →
    e = .illegalCharacter c k.line k.column ∧ left.spot = s ∧ left.cursor = k
  rule : ∀ l n, Wins (m.rules.lexemes k.state) s l n → ∃ k' journal,
    m.perform (l.effectiveAction (.ofMatch l.name (s.ahead.take n) k.position)) k =
      some ⟨.error e, k', journal⟩ ∧
    left.spot = s ∧ left.cursor = k'.clearSkip
  handler : ∀ a, (∀ l ∈ m.rules.lexemes k.state, l.matcher.span? s = none) →
    m.rules.handler? k.state = some a → ∃ k' journal,
    m.perform (a (.ofMatch Token.errorName [c] k.position)) k = some ⟨.error e, k', journal⟩ ∧
    left.spot = s.advance 1 ∧ left.spot.offset = s.offset + c.utf8Size ∧
    left.cursor = (k'.advanceColumn 1).clearSkip

variable {m : Machine} {s s' : Spot} {k k' : Cursor} {scan : Scan} {pull : Pull} {e : LexError}

/-- A lexeme that wins matches. -/
theorem not_unmatched_of_wins {ls : List Lexeme} {l : Lexeme} {n : Nat} (hwins : Wins ls s l n) :
    ¬ ∀ l ∈ ls, l.matcher.span? s = none := by
  intro hunmatched
  have hspan := hwins.span?_eq
  rw [hunmatched l hwins.mem] at hspan
  cases hspan

/-- Whatever fails leaves behind what it should, if nothing was to be skipped before. -/
theorem Fails.abandons (h : m.Fails s k e s' k') (hk : k.pendingSkip = 0) :
    ∃ c rest, s.ahead = c :: rest ∧ m.rules.ignores? k.state c = false ∧
      m.Abandons s k c e ⟨s', k'.clearSkip, true⟩ := by
  cases h with
  | @unrecognized c rest hahead hkept hunmatched hunhandled =>
    refine ⟨c, rest, hahead, hkept, fun _ _ ↦ ⟨rfl, rfl, ?_⟩, ?_, ?_⟩
    · rw [Cursor.clearSkip, ← hk]
    · intro l n hwins
      exact absurd hunmatched (not_unmatched_of_wins hwins)
    · intro a _ hhandles
      rw [hunhandled] at hhandles
      cases hhandles
  | @rule l text e k' journal hdecides hperformed =>
    cases hdecides with
    | @rule c rest l n hahead hkept hwins =>
      refine ⟨c, rest, hahead, hkept, ?_, ?_, ?_⟩
      · intro hunmatched
        exact absurd hunmatched (not_unmatched_of_wins hwins)
      · intro l' n' hwins'
        obtain ⟨rfl, rfl⟩ := hwins'.unique hwins
        exact ⟨k', journal, hperformed, rfl, rfl⟩
      · intro a hunmatched
        exact absurd hunmatched (not_unmatched_of_wins hwins)
  | @handler a text e k' journal hdecides hperformed =>
    cases hdecides with
    | @handler c rest a hahead hkept hunmatched hhandles =>
      refine ⟨c, rest, hahead, hkept, ?_, ?_, ?_⟩
      · intro _ hunhandled
        rw [hhandles] at hunhandled
        cases hunhandled
      · intro l n hwins
        exact absurd hunmatched (not_unmatched_of_wins hwins)
      · intro a' _ hhandles'
        rw [hhandles] at hhandles'
        cases hhandles'
        refine ⟨k', journal, hperformed, rfl, ?_, rfl⟩
        rw [Spot.offset_advance, hahead]
        simp

/-- A scan that gives an error gives nothing more. -/
theorem pulls_of_error (hnext : m.next scan = some pull) (hitem : pull.item = some (.error e))
    (hdone : pull.scan.done = true) (count : Nat) :
    m.pulls (count + 2) scan = some [pull, ⟨none, pull.scan, []⟩] := by
  have hover : m.next pull.scan = some ⟨none, pull.scan, []⟩ := by rw [next, if_pos hdone]
  rw [pulls, hnext, Option.bind_some, hitem, if_neg (by simp), pulls, hover]
  rfl

end Machine

namespace Lexer

/-- When a scan gives an error, it has come to the place where a step fails by steps that give no
token: characters are ignored there and matches suppressed. What is left behind depends on who was
to decide about the character there; nothing is left to be skipped, the scan is over, and all that
it gives is the error. -/
theorem scan_abandons (l : Lexer) (nested : Nested) (text : String) {scan : Scan} {pull : Pull}
    {e : LexError} (hasked : Machine.Asked ⟨l.rules, l.config, nested⟩ (l.scan text) scan)
    (hnext : Machine.next ⟨l.rules, l.config, nested⟩ scan = some pull)
    (hitem : pull.item = some (.error e)) :
    (∃ σs s k c rest,
      Machine.Run ⟨l.rules, l.config, nested⟩ scan.spot scan.cursor σs s k ∧
      (∀ σ ∈ σs, σ.token? = none) ∧ s.text = text.toList ∧ s.ahead = c :: rest ∧
      l.rules.ignores? k.state c = false ∧
      Machine.Abandons ⟨l.rules, l.config, nested⟩ s k c e pull.scan) ∧
    pull.scan.cursor.pendingSkip = 0 ∧ pull.scan.done = true ∧
    ∀ count, Machine.pulls ⟨l.rules, l.config, nested⟩ (count + 2) scan =
      some [pull, ⟨none, pull.scan, []⟩] := by
  have hskip : scan.cursor.pendingSkip = 0 := hasked.pendingSkip_eq rfl
  have htext : scan.spot.text = text.toList := hasked.text_eq
  rcases Machine.next_run hnext with ⟨_, rfl⟩ | ⟨_, σs, s, k, hrun, hsilent, hgives⟩
  · cases hitem
  · cases hgives with
    | nothing => cases hitem
    | token => cases hitem
    | @error e' s' k' journal hfails =>
      cases hitem
      obtain ⟨c, rest, hahead, hkept, habandons⟩ := hfails.abandons (hrun.pendingSkip_eq hskip)
      exact ⟨⟨σs, s, k, c, rest, hrun, hsilent, hrun.text_eq.trans htext, hahead, hkept, habandons⟩,
        rfl, rfl, Machine.pulls_of_error hnext rfl rfl⟩

/-- Words on lines; what is no word moves the column and fails. -/
def strayDeclarations : List Declaration :=
  [.tokens ["WORD"], .rule "WORD" (.repetition (.charClass .alpha) 1 none) none,
   .rule "newline" (.repetition (.literal "\n") 1 none)
     (some (Step.action [.lineLength, .suppress])),
   .ignore none (.chars " "), .error none (some (Step.action [.skip 2, .column 3, .fail "stray"]))]

/-- The lexer for words on lines. -/
def strayLexer : Lexer :=
  (define strayDeclarations .quiet).toOption.get (by decide +kernel)

/-- A handler fails on the second line, after some tokens. -/
theorem scan_abandons_strayLexer :
    ∃ scan pull, (strayLexer.machine 0).Asked (strayLexer.scan "ab \n ?xy") scan ∧
      (strayLexer.machine 0).next scan = some pull ∧
      pull.scan.cursor = ⟨"initial", [], 2, 5, 0⟩ ∧ pull.scan.spot.offset = 6 ∧
      (∃ s k c rest, s.text = "ab \n ?xy".toList ∧ s.ahead = c :: rest ∧
        (strayLexer.machine 0).Abandons s k c (.action "stray") pull.scan) ∧
      (strayLexer.machine 0).pulls 9 scan = some [pull, ⟨none, pull.scan, []⟩] := by
  have hsome : (((strayLexer.machine 0).next (strayLexer.scan "ab \n ?xy")).bind fun first ↦
      (strayLexer.machine 0).next first.scan).map (fun pull ↦
        (pull.item.map (·.map (·.name)), pull.scan.cursor, pull.scan.spot.offset)) =
      some (some (.error (.action "stray")), ⟨"initial", [], 2, 5, 0⟩, 6) := by decide +kernel
  obtain ⟨pull, hpulls, hseen⟩ := Option.map_eq_some_iff.1 hsome
  obtain ⟨first, hfirst, hpull⟩ := Option.bind_eq_some_iff.1 hpulls
  obtain ⟨hresult, hcursor, hoffset⟩ := by simpa only [Prod.mk.injEq] using hseen
  have hitem : pull.item = some (.error (.action "stray")) := by
    rcases hcase : pull.item with _ | ⟨e⟩ | _ <;> simp_all [Except.map]
  have hasked : (strayLexer.machine 0).Asked (strayLexer.scan "ab \n ?xy") first.scan :=
    .more hfirst (.none _)
  obtain ⟨⟨_, s, k, c, rest, _, _, htext, hahead, _, habandons⟩, _, _, hover⟩ :=
    scan_abandons strayLexer _ _ hasked hpull hitem
  exact ⟨first.scan, pull, hasked, hpull, hcursor, hoffset,
    ⟨s, k, c, rest, htext, hahead, habandons⟩, hover 7⟩

end Lexer

end ModalLexer
