import ModalLexer.Proofs.Partition

/-!
# Positions are the true ones

The true position after a text counts its line ends and the characters after the last one. A scan
keeps to it as long as line ends are taken by the rules that look after the column themselves, and
nothing else than these rules moves the position. Bytes play no part: the column counts characters.
Counters wrap around, but no text is so long that they would here.
-/

namespace ModalLexer

open Text (Spot)

/-- The position of what follows a text. -/
def Position.after (passed : List Char) : Position :=
  ⟨.ofNat (1 + passed.count '\n'), .ofNat (1 + (passed.reverse.takeWhile (· != '\n')).length)⟩

namespace Position

/-- Characters that end no line move right. -/
theorem after_append_of_notMem {passed text : List Char} (h : '\n' ∉ text) :
    after (passed ++ text) = ⟨(after passed).line, (after passed).column + .ofNat text.length⟩ := by
  have hkept : ∀ c ∈ text.reverse, (c != '\n') = true := by
    intro c hc
    rw [bne_iff_ne]
    rintro rfl
    exact h (List.mem_reverse.mp hc)
  have hcolumn : UInt64.ofNat (1 + (text.reverse ++ passed.reverse.takeWhile (· != '\n')).length) =
      .ofNat (1 + (passed.reverse.takeWhile (· != '\n')).length) + .ofNat text.length := by
    rw [← UInt64.ofNat_add, List.length_append, List.length_reverse]
    congr 1
    omega
  rw [after, List.count_append, List.count_eq_zero_of_not_mem h, Nat.add_zero,
    List.reverse_append, List.takeWhile_append_of_pos hkept, hcolumn]
  rfl

/-- Line ends move down, to the first column. -/
theorem after_append_newlines {passed text : List Char} (hne : text ≠ [])
    (h : ∀ c ∈ text, c = '\n') :
    after (passed ++ text) = ⟨(after passed).line + .ofNat text.length, 1⟩ := by
  have hcount : text.count '\n' = text.length :=
    List.count_eq_length.2 fun c hc ↦ (h c hc).symm
  have hnone : (text.reverse ++ passed.reverse).takeWhile (· != '\n') = [] := by
    cases hrev : text.reverse with
    | nil => exact absurd (List.reverse_eq_nil_iff.1 hrev) hne
    | cons c rest =>
      have hc : c = '\n' := h c (List.mem_reverse.mp (hrev ▸ List.mem_cons_self))
      rw [List.cons_append, hc]
      rfl
  rw [after, List.count_append, hcount, List.reverse_append, hnone, ← Nat.add_assoc,
    UInt64.ofNat_add]
  rfl

/-- No counter wraps around as long as the text is not longer than the counters reach. -/
theorem toNat_after {passed : List Char} (h : passed.length + 1 < UInt64.size) :
    (after passed).line.toNat = 1 + passed.count '\n' ∧
      (after passed).column.toNat = 1 + (passed.reverse.takeWhile (· != '\n')).length := by
  have hcount : passed.count '\n' ≤ passed.length := List.count_le_length
  have htail : (passed.reverse.takeWhile (· != '\n')).length ≤ passed.length := by
    have hle := (List.takeWhile_sublist (· != '\n') (l := passed.reverse)).length_le
    rwa [List.length_reverse] at hle
  exact ⟨UInt64.toNat_ofNat_of_lt' (by omega), UInt64.toNat_ofNat_of_lt' (by omega)⟩

end Position

/-- A step that counts lines as it should. Line ends are taken by the rules that look after the
column themselves and by nothing else; such a rule takes nothing but line ends, and its action moves
down once, by their number; no other action moves the position or starts a scan. -/
def Stride.CountsLines : Stride → Prop
  | .ignored c => c ≠ '\n'
  | .decided d => '\n' ∉ d.skipped ∧
      if d.decider.name = Token.newlineName then
        (∀ c ∈ d.text, c = '\n') ∧
          d.requests.filter (·.moves) = [.advanceLine (.ofNat d.text.length)]
      else '\n' ∉ d.text ∧ d.requests.filter (·.moves) = []

/-- Moving right adds to the column. -/
theorem Cursor.position_advanceColumn (count : Counter) (k : Cursor) :
    (k.advanceColumn count).position = ⟨k.position.line, k.position.column + count⟩ := by
  simp only [position, column, advanceColumn]
  congr 1
  ac_rfl

private theorem scans_of_filter_moves {rs ms : List Request} (h : rs.filter (·.moves) = ms)
    (hms : ∀ input, .tokenize input ∉ ms) : ∀ r ∈ rs, ∀ input, r ≠ .tokenize input := by
  rintro r hr input rfl
  apply hms input
  rw [← h, List.mem_filter]
  exact ⟨hr, rfl⟩

namespace Machine

variable {m : Machine} {s s' : Spot} {k k' : Cursor} {σs : List Stride}

/-- A decision is about one character at least. -/
theorem Decides.ne_nil {d : Decider} {text : List Char} (h : m.Decides s k d text) :
    text ≠ [] := by
  cases h with
  | rule hahead hkept hwins =>
    have hpos := hwins.pos
    intro hnil
    rw [List.take_eq_nil_iff] at hnil
    rcases hnil with hzero | hempty
    · omega
    · rw [hahead] at hempty
      cases hempty
  | handler => exact List.cons_ne_nil _ _

/-- What is decided about lies next ahead. -/
theorem Decides.ahead_eq {d : Decider} {text : List Char} (h : m.Decides s k d text) :
    ∃ rest, s.ahead = text ++ rest := by
  cases h with
  | rule => exact ⟨_, (List.take_append_drop _ _).symm⟩
  | handler hahead => exact ⟨_, hahead⟩

/-- A step that counts lines as it should keeps to the true position. -/
theorem Takes.position_eq {σ : Stride} {passed : List Char} (h : m.Takes s k σ s' k')
    (hσ : σ.CountsLines) (hk : k.position = .after passed) :
    k'.position = .after (passed ++ σ.text) := by
  cases h with
  | @ignored c rest hahead hignores =>
    have hc : '\n' ∉ [c] := fun hmem ↦ hσ (List.mem_singleton.mp hmem).symm
    rw [Cursor.position_advanceColumn, hk, Stride.text, Position.after_append_of_notMem hc]
    rfl
  | @decided d k₁ journal hdecides hcandidate hrequests hperformed hskipped =>
    obtain ⟨hskip, hd⟩ := hσ
    rw [Cursor.position_advanceColumn, Stride.text, ← List.append_assoc,
      Position.after_append_of_notMem hskip]
    -- What is skipped ends no line, so the rest is about the characters decided about.
    suffices hpass : (d.decider.pass d.text.length k₁).position = .after (passed ++ d.text) by
      rw [← hpass]
      rfl
    split at hd
    · next hname =>
      obtain ⟨hnewlines, hmoves⟩ := hd
      have hscans := scans_of_filter_moves hmoves (by simp)
      have hposition := perform_position (hrequests ▸ hscans) hperformed
      rw [← hrequests, hmoves, hk] at hposition
      rw [Decider.pass, if_pos hname, hposition,
        Position.after_append_newlines hdecides.ne_nil hnewlines]
      rfl
    · next hname =>
      obtain ⟨hnone, hmoves⟩ := hd
      have hscans := scans_of_filter_moves hmoves (by simp)
      have hposition := perform_position (hrequests ▸ hscans) hperformed
      rw [← hrequests, hmoves, hk] at hposition
      rw [Decider.pass, if_neg hname, Cursor.position_advanceColumn, hposition,
        Position.after_append_of_notMem hnone]
      rfl

/-- A run whose steps count lines as they should keeps to the true position. -/
theorem Run.position_eq {passed : List Char} (h : m.Run s k σs s' k')
    (hσs : ∀ σ ∈ σs, σ.CountsLines) (hk : k.position = .after passed) :
    k'.position = .after (passed ++ σs.flatMap (·.text)) := by
  induction h generalizing passed with
  | nil => rw [List.flatMap_nil, List.append_nil, hk]
  | cons first rest ih =>
    obtain ⟨hσ, hrest⟩ := List.forall_mem_cons.1 hσs
    rw [List.flatMap_cons, ← List.append_assoc]
    exact ih hrest (first.position_eq hσ hk)

/-- An error about a character that nobody decides about is the engine's own. -/
theorem Fails.eq_of_undecided {e : LexError} (h : m.Fails s k e s' k')
    (hundecided : ∀ d text, ¬ m.Decides s k d text) :
    ∃ c rest, s.ahead = c :: rest ∧ e = .illegalCharacter c k.line k.column := by
  cases h with
  | @unrecognized c rest hahead => exact ⟨c, rest, hahead, rfl⟩
  | rule hdecides => exact absurd hdecides (hundecided _ _)
  | handler hdecides => exact absurd hdecides (hundecided _ _)

end Machine

namespace Lexer

/-- The engine's line and column are true before every step of a scan that starts at the first
position, if all steps before it count lines as they should: as counts that wrap around, and as
numbers unless the text is longer than the counters reach. So are those of the candidate that an
action is given, of the token that it emits if it does not move it, and of the error about a
character that nobody decides about. -/
theorem scan_position (l : Lexer) (depth : Nat) (text : String) {σs : List Stride} {s : Spot}
    {k : Cursor} (hstart : l.cursor.position = .origin)
    (hrun : (l.machine depth).Run (l.scan text).spot (l.scan text).cursor σs s k)
    (hσs : ∀ σ ∈ σs, σ.CountsLines) :
    ∃ passed, Text.splitBytes? s.offset text.toList = some (passed, s.ahead) ∧
      k.line = .ofNat (1 + passed.count '\n') ∧
      k.column = .ofNat (1 + (passed.reverse.takeWhile (· != '\n')).length) ∧
      (text.toList.length + 1 < UInt64.size → k.line.toNat = 1 + passed.count '\n' ∧
        k.column.toNat = 1 + (passed.reverse.takeWhile (· != '\n')).length) ∧
      (∀ d next, (l.machine depth).Decides s k d next →
        (∃ rest, s.ahead = next ++ rest) ∧
        ∀ c rest, s.ahead = c :: rest → (l.machine depth).step c s k =
          ((l.machine depth).perform (d.action (Token.ofMatch d.name next (.after passed))) k).map
            ((l.machine depth).conclude d next s k)) ∧
      (∀ d s' k' token, (l.machine depth).Takes s k (.decided d) s' k' →
        d.verdict = .emit token → token.position = d.candidate.position →
        token.position = .after passed) ∧
      (∀ e s' k', (l.machine depth).Fails s k e s' k' →
        (∀ d next, ¬ (l.machine depth).Decides s k d next) →
        ∃ c rest, s.ahead = c :: rest ∧
          e = .illegalCharacter c (Position.after passed).line (Position.after passed).column) := by
  have hfirst : (l.scan text).cursor.position = .after [] := hstart
  have hposition : k.position = .after (σs.flatMap (·.text)) := hrun.position_eq hσs hfirst
  have hline : k.position.line = (Position.after (σs.flatMap (·.text))).line := by
    rw [hposition]
  have hcolumn : k.position.column = (Position.after (σs.flatMap (·.text))).column := by
    rw [hposition]
  refine ⟨σs.flatMap Stride.text, hrun.splitBytes?_eq, hline, hcolumn, ?_, ?_, ?_, ?_⟩
  · intro hfits
    have hlength : (σs.flatMap Stride.text).length ≤ text.toList.length := by
      rw [show text.toList = _ from hrun.ahead_eq, List.length_append]
      exact Nat.le_add_right _ _
    rw [show k.line = _ from hline, show k.column = _ from hcolumn]
    exact Position.toNat_after (Nat.lt_of_le_of_lt (Nat.succ_le_succ hlength) hfits)
  · intro d next hd
    refine ⟨hd.ahead_eq, fun c rest hahead ↦ ?_⟩
    rw [← hposition]
    exact Machine.step_of_decides hahead hd
  · intro d s' k' token htakes _ hkept
    cases htakes with
    | decided hdecides hcandidate => rw [hkept, hcandidate, ← hposition]; rfl
  · intro e s' k' hfails hundecided
    rw [← hposition]
    exact hfails.eq_of_undecided hundecided

/-- The rule for line ends moves down; every other character is handed on. -/
def lineDeclarations : List Declaration :=
  [.tokens ["LINE"],
   .rule "newline" (.literal "\n") (some (Step.action [.line 1, .suppress])),
   .error none (some .keep)]

/-- The lexer that counts lines. -/
def lineLexer : Lexer :=
  (define lineDeclarations .quiet).toOption.get (by decide +kernel)

/-- The lexeme for line ends. -/
def lineEnd : Lexeme :=
  ⟨"newline", .literal "\n", some (Step.action [.line 1, .suppress])⟩

/-- The first two steps of a scan of two lines. -/
def lineStrides : List Stride :=
  [.decided ⟨.handler .keep, ['é'], .ofMatch "error" ['é'] ⟨1, 1⟩, [],
     .emit (.ofMatch "error" ['é'] ⟨1, 1⟩), []⟩,
   .decided ⟨.rule lineEnd, ['\n'], .ofMatch "newline" ['\n'] ⟨1, 2⟩, [.advanceLine 1],
     .suppress, []⟩]

private theorem lineStrides_run :
    (lineLexer.machine 0).Run (lineLexer.scan "é\nx").spot (lineLexer.scan "é\nx").cursor
      lineStrides
      ⟨['\n', 'é'], ['x']⟩ ⟨"initial", [], 2, 0, 0⟩ := by
  have hunmatched : ∀ l ∈ lineLexer.rules.lexemes "initial",
      l.matcher.span? ⟨[], ['é', '\n', 'x']⟩ = none := by
    change ∀ l ∈ [lineEnd], _
    simp only [List.mem_singleton, forall_eq]
    decide
  have hwins : Wins (lineLexer.rules.lexemes "initial") ⟨['é'], ['\n', 'x']⟩ lineEnd 1 :=
    .head (by decide) (by simp)
  have hdecides : (lineLexer.machine 0).Decides ⟨['é'], ['\n', 'x']⟩ ⟨"initial", [], 1, 1, 0⟩
      (.rule lineEnd) (['\n', 'x'].take 1) := .rule rfl rfl hwins
  refine .cons (.decided (.handler rfl rfl hunmatched rfl) rfl rfl rfl rfl) ?_
  exact .cons (.decided hdecides rfl rfl rfl rfl) (.nil _ _)

/-- A character of two bytes and a line end. -/
theorem scan_position_lineLexer :
    (∀ σ ∈ lineStrides, σ.CountsLines) ∧
      ∃ passed, Text.splitBytes? 3 "é\nx".toList = some (passed, ['x']) ∧
        2 = 1 + passed.count '\n' ∧ 1 = 1 + (passed.reverse.takeWhile (· != '\n')).length := by
  have hcounts : ∀ σ ∈ lineStrides, σ.CountsLines := by
    simp [lineStrides, Stride.CountsLines, Decider.name, lineEnd, Token.errorName,
      Token.newlineName, Request.moves]
  obtain ⟨passed, hsplit, _, _, hposition, _⟩ :=
    scan_position lineLexer 0 "é\nx" rfl lineStrides_run hcounts
  obtain ⟨hline, hcolumn⟩ := hposition (by decide)
  exact ⟨hcounts, passed, hsplit, hline, hcolumn⟩

end Lexer

end ModalLexer
