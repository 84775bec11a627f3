import ModalLexer.Proofs.Situations

/-!
# Counters that do not wrap around

An action may move a lexer by any count, so the counts of lines and columns may wrap around.
Whatever else is done, a lexer stays on a line as long as that of lines does not
(`relates_keepsLine`). `Situation.NoWrap` says that no counter wraps around in the situations that a
scan comes to. So it is if the text is not longer than the counters reach and whoever decides moves
moderately: down at most by what the decision is about, and not right
(`Situation.noWrap_of_allModerate`).
-/

namespace ModalLexer

open Text (Spot)

namespace Call

/-- A call that does not make the count of lines wrap around. -/
def LineFits (c : Call) : Prop :=
  ∀ count, c.request = .advanceLine count → Counter.Fits c.cursor.line count

/-- A call that does not make the column wrap around. -/
def ColumnFits (c : Call) : Prop :=
  ∀ count, c.request = .advanceColumn count → Counter.Fits c.cursor.column count

end Call

/-! ### Lines -/

/-- If one cursor is on a line, then so is another. Lines count from one. -/
def Cursor.KeepsLine (k k' : Cursor) : Prop := 1 ≤ k.line → 1 ≤ k'.line

/-- Keeping to the lines can be followed from cursor to cursor. -/
theorem Cursor.course_keepsLine : Course KeepsLine where
  refl := fun _ h ↦ h
  trans := fun h h' hk ↦ h' (h hk)
  clearSkip := fun _ h ↦ h

/-- A call keeps to the lines unless their count wraps around. -/
theorem Machine.relates_keepsLine {m : Machine} {c : Call} (hfits : c.LineFits)
    (hscan : ∀ input, c.request ≠ .tokenize input) : m.Relates Cursor.KeepsLine c := by
  obtain ⟨k, r⟩ := c
  intro reply hreply hk
  have hline : reply.cursor.line = (r.moved k.position).line :=
    congrArg Position.line (answer_position hscan hreply)
  rw [hline]
  cases r with
  | advanceLine count => exact Counter.le_add_of_fits (hfits count rfl) hk
  | rewind => exact UInt64.le_refl 1
  | _ => exact hk

/-! ### Room for the counters -/

/-- How far the counters reach beyond a position, and beyond the first column. -/
structure Position.HasRoom (p : Position) (count : Nat) : Prop where
  start : 1 + count < UInt64.size
  line : p.line.toNat + count < UInt64.size
  column : p.column.toNat + count < UInt64.size

/-- There is room for moving right, and so much less is left. -/
theorem Cursor.room_advanceColumn {k : Cursor} {n count : Nat}
    (h : k.column.toNat + (n + count) < UInt64.size) :
    (k.advanceColumn (.ofNat n)).column.toNat + count < UInt64.size := by
  have hcolumn : (k.advanceColumn (.ofNat n)).column = k.column + .ofNat n :=
    congrArg Position.column (position_advanceColumn _ k)
  rw [hcolumn, Counter.toNat_add_ofNat (by omega)]
  omega

/-! ### Moving moderately -/

namespace Machine

/-- A routine that decides about some characters moves moderately: it starts no scan, and at most
one of its requests moves the position, down by no more than the characters have bytes. -/
structure Moderate (m : Machine) (text : List Char) (routine : Routine) (k : Cursor) : Prop where
  scans : ∀ r ∈ m.requests routine k, ∀ input, r ≠ .tokenize input
  moves : (m.requests routine k).filter (·.moves) = [] ∨
    ∃ count, (m.requests routine k).filter (·.moves) = [.advanceLine count] ∧
      count.toNat ≤ Text.utf8Length text

variable {m : Machine} {s s' : Spot} {k k' : Cursor} {d : Decider} {text rest : List Char}
  {routine : Routine}

/-- The only request that moves the position is made where the routine starts. -/
theorem position_of_mem_calls {r : Request} (hscans : ∀ r ∈ m.requests routine k, ∀ input,
      r ≠ .tokenize input) (hone : (m.requests routine k).filter (·.moves) = [r]) {c : Call}
    (hc : c ∈ m.calls routine k) (hmoves : c.request.moves = true) :
    c.cursor.position = k.position ∧ c.request = r := by
  induction routine generalizing k with
  | finish => cases hc
  | ask r₀ next ih =>
    rw [requests] at hscans hone
    obtain ⟨hfirst, hlater⟩ := List.forall_mem_cons.1 hscans
    rcases List.mem_cons.1 hc with rfl | hc
    · rw [List.filter_cons_of_pos hmoves] at hone
      exact ⟨rfl, (List.cons.inj hone).1⟩
    · cases hreply : m.answer k r₀ with
      | none =>
        rw [hreply] at hc
        cases hc
      | some reply =>
        rw [hreply, Option.elim_some] at hc hlater hone
        have hmem : c.request ∈ (m.requests (next reply.value) reply.cursor).filter (·.moves) := by
          rw [← map_request_calls]
          exact List.mem_filter.2 ⟨List.mem_map_of_mem hc, hmoves⟩
        cases hr₀ : r₀.moves with
        | true =>
          rw [List.filter_cons_of_pos hr₀] at hone
          rw [(List.cons.inj hone).2] at hmem
          cases hmem
        | false =>
          rw [List.filter_cons_of_neg (by simp [hr₀])] at hone
          obtain ⟨hposition, hrequest⟩ := ih reply.value hlater hone hc
          rw [answer_position hfirst hreply, Request.moved_of_not_moves hr₀] at hposition
          exact ⟨hposition, hrequest⟩

/-- Calls that move moderately make no counter wrap around. -/
theorem Moderate.fits (h : m.Moderate text routine k) {count : Nat}
    (hroom : k.position.HasRoom (Text.utf8Length text + count)) :
    ∀ c ∈ m.calls routine k, c.LineFits ∧ c.ColumnFits := by
  rintro ⟨k', r⟩ hc
  have hmem : r ∈ m.requests routine k := by
    rw [← map_request_calls]
    exact List.mem_map_of_mem hc
  have hmoved (hr : r.moves = true) : r ∈ (m.requests routine k).filter (·.moves) :=
    List.mem_filter.2 ⟨hmem, hr⟩
  constructor
  · rintro n rfl
    rcases h.moves with hnone | ⟨n', hone, hle⟩
    · rw [hnone] at hmoved
      cases hmoved rfl
    · obtain ⟨hposition, hrequest⟩ := position_of_mem_calls h.scans hone hc rfl
      cases hrequest
      have hline : k'.line = k.line := congrArg Position.line hposition
      have hfits : k.line.toNat + _ < _ := hroom.line
      change k'.line.toNat + n.toNat < _
      rw [hline]
      omega
  · rintro n rfl
    rcases h.moves with hnone | ⟨n', hone, _⟩
    · rw [hnone] at hmoved
      cases hmoved rfl
    · rw [hone] at hmoved
      cases List.mem_singleton.1 (hmoved rfl)

/-- After a routine that moves moderately there is room for what is left, and for the characters
decided about where the routine did not move down. -/
theorem Moderate.room_of_perform (h : m.Moderate text routine k)
    {outcome : Outcome (Except LexError Verdict)} (hperformed : m.perform routine k = some outcome)
    {count : Nat} (hroom : k.position.HasRoom (Text.utf8Length text + count)) :
    outcome.cursor.line.toNat + count < UInt64.size ∧
      outcome.cursor.column.toNat + (Text.utf8Length text + count) < UInt64.size := by
  obtain ⟨hstart, hline, hcolumn⟩ := hroom
  have hposition := perform_position h.scans hperformed
  rcases h.moves with hnone | ⟨n, hone, hle⟩
  · rw [hnone] at hposition
    have hline' : outcome.cursor.line = k.line := congrArg Position.line hposition
    have hcolumn' : outcome.cursor.column = k.column := congrArg Position.column hposition
    rw [hline', hcolumn']
    exact ⟨Nat.lt_of_le_of_lt (by change _ ≤ k.line.toNat + _; omega) hline, hcolumn⟩
  · rw [hone] at hposition
    have hline' : outcome.cursor.line = k.line + n := congrArg Position.line hposition
    have hcolumn' : outcome.cursor.column = 1 := congrArg Position.column hposition
    have hfits : Counter.Fits k.line n :=
      Nat.lt_of_le_of_lt (Nat.add_le_add_left (by omega) _) hline
    rw [hline', hcolumn', Counter.toNat_add_of_fits hfits]
    exact ⟨Nat.lt_of_le_of_lt (by change _ ≤ k.line.toNat + _; omega) hline, hstart⟩

/-- So there is once the characters are passed. -/
theorem Moderate.room_pass (h : m.Moderate text (d.routine text k) k)
    {outcome : Outcome (Except LexError Verdict)}
    (hperformed : m.perform (d.routine text k) k = some outcome) {count : Nat}
    (hroom : k.position.HasRoom (Text.utf8Length text + count)) :
    (d.pass text.length outcome.cursor).line.toNat + count < UInt64.size ∧
      (d.pass text.length outcome.cursor).column.toNat + count < UInt64.size := by
  obtain ⟨hline, hcolumn⟩ := h.room_of_perform hperformed hroom
  have hlength := Text.length_le_utf8Length text
  unfold Decider.pass
  split
  · exact ⟨hline, by omega⟩
  · exact ⟨hline, Cursor.room_advanceColumn (by omega)⟩

/-- Whoever decides at a spot moves moderately. -/
def ModerateAt (m : Machine) (s : Spot) (k : Cursor) : Prop :=
  ∀ d text, m.Decides s k d text → m.Moderate text (d.routine text k) k

/-- Where whoever decides moves moderately, there is room in the end to pass the characters. -/
private theorem ModerateAt.column_of_perform (h : m.ModerateAt s k)
    (hdecides : m.Decides s k d text) {outcome : Outcome (Except LexError Verdict)}
    (hperformed : m.perform (d.routine text k) k = some outcome)
    (hroom : k.position.HasRoom (Text.utf8Length s.ahead)) :
    outcome.cursor.column.toNat + Text.utf8Length text < UInt64.size := by
  obtain ⟨rest, hahead⟩ := hdecides.ahead_eq
  rw [hahead, Text.utf8Length_append] at hroom
  have hcolumn := ((h d text hdecides).room_of_perform hperformed hroom).2
  exact Nat.lt_of_le_of_lt (Nat.add_le_add_left (Nat.le_add_right _ _) _) hcolumn

/-- A step leaves room for what is left of the text. -/
theorem Takes.hasRoom {σ : Stride} (h : m.Takes s k σ s' k') (hmoderate : m.ModerateAt s k)
    (hroom : k.position.HasRoom (Text.utf8Length s.ahead)) :
    k'.position.HasRoom (Text.utf8Length s'.ahead) := by
  have hahead := h.ahead_eq
  cases h with
  | @ignored c rest =>
    have hpos : 0 < Text.utf8Length [c] := by simp [Char.utf8Size_pos]
    rw [hahead, Stride.text, Text.utf8Length_append] at hroom
    obtain ⟨hstart, hline, hcolumn⟩ := hroom
    refine ⟨by omega, Nat.lt_of_le_of_lt (Nat.add_le_add_left (by omega) _) hline, ?_⟩
    exact Cursor.room_advanceColumn (n := 1)
      (Nat.lt_of_le_of_lt (Nat.add_le_add_left (by omega) _) hcolumn)
  | @decided d k₁ journal hdecides hcandidate hrequests hperformed hskipped =>
    rw [hcandidate] at hperformed
    have hlength := Text.length_le_utf8Length d.skipped
    rw [hahead, Stride.text, List.append_assoc, Text.utf8Length_append] at hroom
    obtain ⟨hline, hcolumn⟩ := (hmoderate _ _ hdecides).room_pass hperformed hroom
    rw [Text.utf8Length_append] at hline hcolumn
    have hstart := hroom.start
    rw [Text.utf8Length_append] at hstart
    refine ⟨by omega, Nat.lt_of_le_of_lt (Nat.add_le_add_left (by omega) _) hline, ?_⟩
    exact Cursor.room_advanceColumn (k := (d.decider.pass d.text.length k₁).clearSkip)
      (Nat.lt_of_le_of_lt (Nat.add_le_add_left (by omega) _) hcolumn)

/-- Where there is room for the text, the engine's own moves make no counter wrap around. -/
theorem Moves.fits {count : Nat} (h : m.Moves s k k' count) (hmoderate : m.ModerateAt s k)
    (hroom : k.position.HasRoom (Text.utf8Length s.ahead)) :
    k'.column.toNat + count < UInt64.size := by
  cases h with
  | @ignored c rest hahead =>
    have hpos := Char.utf8Size_pos c
    rw [hahead, Text.utf8Length_cons] at hroom
    exact Nat.lt_of_le_of_lt (Nat.add_le_add_left (by omega) _) hroom.column
  | @decided d text verdict k₁ journal hdecides hperformed =>
    have hcolumn := hmoderate.column_of_perform hdecides hperformed hroom
    have hlength := Text.length_le_utf8Length text
    exact Nat.lt_of_le_of_lt (Nat.add_le_add_left hlength _) hcolumn
  | @failed a text e k₁ journal hdecides hperformed =>
    have hcolumn := hmoderate.column_of_perform hdecides hperformed hroom
    have hpos : Text.utf8Length text ≠ 0 :=
      fun hzero ↦ hdecides.ne_nil (Text.utf8Length_eq_zero_iff.1 hzero)
    exact Nat.lt_of_le_of_lt (Nat.add_le_add_left (Nat.pos_of_ne_zero hpos) _) hcolumn
  | @skipped d text verdict k₁ journal hdecides hperformed =>
    obtain ⟨rest, hahead⟩ := hdecides.ahead_eq
    rw [hahead, Text.utf8Length_append] at hroom
    have hcolumn := ((hmoderate _ _ hdecides).room_pass hperformed hroom).2
    have hlength : ((s.ahead.drop text.length).take k₁.pendingSkip.toNat).length ≤
        Text.utf8Length rest := by
      rw [hahead, List.drop_left, List.length_take]
      exact Nat.le_trans (Nat.min_le_right _ _) (Text.length_le_utf8Length rest)
    exact Nat.lt_of_le_of_lt (Nat.add_le_add_left hlength _) hcolumn

end Machine

namespace Situation

variable {rules : RuleSet} {config : Config} {start sit : Situation}

/-- No counter of lines or columns wraps around in the situations that a scan comes to: neither by a
call nor as the engine moves on. -/
structure NoWrap (rules : RuleSet) (config : Config) (start : Situation) : Prop where
  lines : start.AllCalls rules config Call.LineFits
  columns : start.AllCalls rules config Call.ColumnFits
  moves : ∀ sit, Arises rules config start sit → ∀ k count,
    (sit.machine rules config).Moves sit.spot sit.cursor k count →
      k.column.toNat + count < UInt64.size

/-- No counter wraps around in the situations that come after one. -/
theorem NoWrap.of_arises (h : NoWrap rules config start) (hsit : Arises rules config start sit) :
    NoWrap rules config sit where
  lines := fun sit' hsit' ↦ h.lines sit' (hsit.trans hsit')
  columns := fun sit' hsit' ↦ h.columns sit' (hsit.trans hsit')
  moves := fun sit' hsit' ↦ h.moves sit' (hsit.trans hsit')

/-- Whoever decides in the situations that a scan comes to moves moderately. -/
def AllModerate (rules : RuleSet) (config : Config) (start : Situation) : Prop :=
  ∀ sit, Arises rules config start sit →
    (sit.machine rules config).ModerateAt sit.spot sit.cursor

/-- There is room for what is left of the text all along. -/
theorem AllModerate.hasRoom (h : AllModerate rules config start)
    (hroom : start.cursor.position.HasRoom (Text.utf8Length start.spot.ahead))
    (hsit : Arises rules config start sit) :
    sit.cursor.position.HasRoom (Text.utf8Length sit.spot.ahead) := by
  induction hsit with
  | start => exact hroom
  | step before takes ih => exact takes.hasRoom (h _ before) ih
  | @within depth s k k' d text input before decides calls =>
    have hmem : Request.tokenize input ∈ (Machine.ofDepth rules config (depth + 1)).requests
        (d.routine text k) k := by
      rw [← Machine.map_request_calls]
      exact List.mem_map_of_mem calls
    exact absurd rfl ((h _ before d text decides).scans _ hmem input)

/-- No counter wraps around if there is room for the text and whoever decides moves moderately. -/
theorem noWrap_of_allModerate (h : AllModerate rules config start)
    (hroom : start.cursor.position.HasRoom (Text.utf8Length start.spot.ahead)) :
    NoWrap rules config start := by
  have hcalls : start.AllCalls rules config fun c ↦ c.LineFits ∧ c.ColumnFits := by
    intro sit hsit d text hdecides
    obtain ⟨rest, hahead⟩ := Machine.Decides.ahead_eq hdecides
    have hroom' := h.hasRoom hroom hsit
    rw [hahead, Text.utf8Length_append] at hroom'
    exact (h sit hsit d text hdecides).fits hroom'
  exact ⟨fun sit hsit d text hdecides c hc ↦ (hcalls sit hsit d text hdecides c hc).1,
    fun sit hsit d text hdecides c hc ↦ (hcalls sit hsit d text hdecides c hc).2,
    fun sit hsit k count hmoves ↦ hmoves.fits (h sit hsit) (h.hasRoom hroom hsit)⟩

end Situation

end ModalLexer
