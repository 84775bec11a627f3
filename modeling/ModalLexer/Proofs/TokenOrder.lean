import Mathlib.Data.Prod.Lex
import ModalLexer.Proofs.WellNested

/-!
# The order of tokens

Positions are ordered by line, and by column on one line. If no action goes back and no counter
wraps around, then no step goes back, and a step gets past what it consumes: either the engine moves
right, or, after a match that looks after the column itself, its action has moved on. A token that
keeps the position of its candidate is where its step started. So the positions of tokens increase,
whatever happens between them. An action that moves down by the greatest count goes back.
-/

namespace ModalLexer

open Text (Spot)

/-! ### The order of positions -/

namespace Position

/-- What positions are ordered by. -/
def key (p : Position) : Nat ×ₗ Nat := toLex (p.line.toNat, p.column.toNat)

private theorem key_injective : Function.Injective key := by
  rintro ⟨line, column⟩ ⟨line', column'⟩ h
  obtain ⟨hline, hcolumn⟩ := Prod.mk.inj (toLex.injective h)
  obtain rfl := UInt64.toNat_inj.1 hline
  obtain rfl := UInt64.toNat_inj.1 hcolumn
  rfl

instance : PartialOrder Position := PartialOrder.lift key key_injective

variable {p q : Position}

/-- Positions are compared by line, and by column on one line. -/
theorem lt_iff : p < q ↔ p.line < q.line ∨ p.line = q.line ∧ p.column < q.column := by
  rw [UInt64.lt_iff_toNat_lt, UInt64.lt_iff_toNat_lt, ← UInt64.toNat_inj]
  exact Prod.Lex.toLex_lt_toLex

/-- Positions are compared by line, and by column on one line. -/
theorem le_iff : p ≤ q ↔ p.line < q.line ∨ p.line = q.line ∧ p.column ≤ q.column := by
  rw [UInt64.lt_iff_toNat_lt, UInt64.le_iff_toNat_le, ← UInt64.toNat_inj]
  exact Prod.Lex.toLex_le_toLex

end Position

/-- Tokens stand in the order of their positions, no two at one position. -/
def Token.InOrder (tokens : List Token) : Prop :=
  tokens.Pairwise fun t u ↦ t.position < u.position

/-! ### Requests that go on -/

namespace Request

/-- A request that does not go back. Moving down by no line does: the column is lost. -/
def Ascends : Request → Prop
  | .rewind => False
  | .advanceLine count => 1 ≤ count
  | _ => True

/-- A request that moves down or right. -/
def Advances : Request → Prop
  | .advanceLine count | .advanceColumn count => 1 ≤ count
  | _ => False

end Request

namespace Call

variable {c : Call} (hline : c.LineFits) (hcolumn : c.ColumnFits)
include hline hcolumn

/-- A call that does not go back leads to no earlier position, unless a counter wraps around. -/
theorem le_moved (h : c.request.Ascends) :
    c.cursor.position ≤ c.request.moved c.cursor.position := by
  obtain ⟨k, r⟩ := c
  cases r with
  | rewind => exact h.elim
  | advanceLine count =>
    exact Position.le_iff.2 (.inl (Counter.lt_add_of_fits (hline count rfl) h))
  | advanceColumn count =>
    exact Position.le_iff.2
      (.inr ⟨rfl, Counter.le_add_of_fits (hcolumn count rfl) (UInt64.le_refl _)⟩)
  | _ => exact le_refl k.position

/-- A call that goes on leads to a later position, unless a counter wraps around. -/
theorem lt_moved (h : c.request.Advances) :
    c.cursor.position < c.request.moved c.cursor.position := by
  obtain ⟨k, r⟩ := c
  cases r with
  | advanceLine count =>
    exact Position.lt_iff.2 (.inl (Counter.lt_add_of_fits (hline count rfl) h))
  | advanceColumn count =>
    exact Position.lt_iff.2 (.inr ⟨rfl, Counter.lt_add_of_fits (hcolumn count rfl) h⟩)
  | _ => exact h.elim

end Call

namespace Cursor

variable {k : Cursor} {count : Nat}

/-- One cursor is not behind another. -/
def Onward (k k' : Cursor) : Prop := k.position ≤ k'.position

/-- Moving right leads to a later position, unless the column wraps around. -/
theorem position_lt_advanceColumn (hfits : k.column.toNat + count < UInt64.size) (h : count ≠ 0) :
    k.position < (k.advanceColumn (.ofNat count)).position := by
  rw [position_advanceColumn, Position.lt_iff, UInt64.lt_iff_toNat_lt, UInt64.lt_iff_toNat_lt]
  refine .inr ⟨rfl, ?_⟩
  change k.column.toNat < (k.column + .ofNat count).toNat
  rw [Counter.toNat_add_ofNat hfits]
  omega

/-- Moving right leads to no earlier position, unless the column wraps around. -/
theorem onward_advanceColumn (hfits : k.column.toNat + count < UInt64.size) :
    k.Onward (k.advanceColumn (.ofNat count)) := by
  by_cases hcount : count = 0
  · rw [hcount, show UInt64.ofNat 0 = 0 from rfl, advanceColumn_zero]
    exact le_refl k.position
  · exact le_of_lt (position_lt_advanceColumn hfits hcount)

/-- Not falling behind can be followed from cursor to cursor. -/
theorem course_onward : Course Onward where
  refl := fun k ↦ le_refl k.position
  trans := fun h h' ↦ le_trans h h'
  clearSkip := fun k ↦ le_refl k.position

end Cursor

/-! ### Scans that go on -/

/-- A routine goes on that decides about a candidate: no request goes back, a token that is emitted
is where the candidate was, and whoever looks after the column moves on. -/
structure Machine.Ascends (m : Machine) (candidate : Token) (routine : Routine) (k : Cursor) :
    Prop where
  requests : ∀ c ∈ m.calls routine k, c.request.Ascends
  emits : ∀ token k' journal, m.perform routine k = some ⟨.ok (.emit token), k', journal⟩ →
    token.position = candidate.position
  newline : candidate.name = Token.newlineName → ∃ c ∈ m.calls routine k, c.request.Advances

namespace Situation

/-- All that is done in the situations that a scan comes to goes on. -/
def AllAscend (rules : RuleSet) (config : Config) (start : Situation) : Prop :=
  ∀ sit, Arises rules config start sit → ∀ d text, Decides rules config sit d text →
    (sit.machine rules config).Ascends (.ofMatch d.name text sit.cursor.position)
      (d.routine text sit.cursor) sit.cursor

variable {rules : RuleSet} {config : Config} {start sit : Situation} {d : Decider}
  {text : List Char}

private theorem AllAscend.of_arises (h : AllAscend rules config start)
    (hsit : Arises rules config start sit) : AllAscend rules config sit :=
  fun sit' hsit' ↦ h sit' (hsit.trans hsit')

/-- All that is done leads to no earlier position. -/
theorem AllAscend.forward (h : AllAscend rules config start) (hwrap : NoWrap rules config start) :
    Forward rules config Cursor.Onward start where
  calls := by
    intro sit hsit d text hdecides c hc hscan reply hreply
    have hascends := (h sit hsit d text hdecides).requests c hc
    rw [Cursor.Onward, Machine.answer_position hscan hreply]
    exact Call.le_moved (hwrap.lines sit hsit d text hdecides c hc)
      (hwrap.columns sit hsit d text hdecides c hc) hascends
  moves := fun sit hsit k count hmoves ↦
    Cursor.onward_advanceColumn (hwrap.moves sit hsit k count hmoves)

/-- Whoever looks after the column has moved on in the end. -/
theorem AllAscend.lt_of_perform (h : AllAscend rules config sit) (hwrap : NoWrap rules config sit)
    (hdecides : sit.Decides rules config d text) (hname : d.name = Token.newlineName)
    {outcome : Outcome (Except LexError Verdict)}
    (hperformed : (sit.machine rules config).perform (d.routine text sit.cursor) sit.cursor =
      some outcome) : sit.cursor.position < outcome.cursor.position := by
  have hcalls := ((h.forward hwrap).relatesAt Cursor.course_onward).calls d text hdecides
  obtain ⟨c, hc, hadvances⟩ := (h sit .start d text hdecides).newline hname
  obtain ⟨_, hanswers⟩ := Machine.rel_of_perform Cursor.course_onward hcalls hperformed
  obtain ⟨reply, hreply, hend⟩ := hanswers c hc
  have hscan : ∀ input, c.request ≠ .tokenize input := by
    intro input hrequest
    rw [hrequest] at hadvances
    exact hadvances
  calc sit.cursor.position
      ≤ c.cursor.position := Machine.rel_of_mem_calls Cursor.course_onward hcalls c hc
    _ < c.request.moved c.cursor.position :=
        Call.lt_moved (hwrap.lines sit .start d text hdecides c hc)
          (hwrap.columns sit .start d text hdecides c hc) hadvances
    _ = reply.cursor.position := (Machine.answer_position hscan hreply).symm
    _ ≤ outcome.cursor.position := hend

/-- A decision has got past the characters in the end. -/
theorem AllAscend.lt_of_pass (h : AllAscend rules config sit) (hwrap : NoWrap rules config sit)
    (hdecides : sit.Decides rules config d text) {verdict : Verdict} {k : Cursor}
    {journal : Journal}
    (hperformed : (sit.machine rules config).perform (d.routine text sit.cursor) sit.cursor =
      some ⟨.ok verdict, k, journal⟩) :
    sit.cursor.position < (d.pass text.length k).position := by
  unfold Decider.pass
  split
  · next hname => exact h.lt_of_perform hwrap hdecides hname hperformed
  · next hname =>
    have hcalls := ((h.forward hwrap).relatesAt Cursor.course_onward).calls d text hdecides
    have hlength : text.length ≠ 0 := fun hzero ↦ hdecides.ne_nil (List.length_eq_zero_iff.1 hzero)
    exact lt_of_le_of_lt (Machine.rel_of_perform Cursor.course_onward hcalls hperformed).1
      (Cursor.position_lt_advanceColumn
        (hwrap.moves sit .start _ _ (.decided hdecides hperformed hname)) hlength)

/-- Every step gets on. -/
theorem AllAscend.lt_of_takes {σ : Stride} {s : Spot} {k : Cursor} (h : AllAscend rules config sit)
    (hwrap : NoWrap rules config sit)
    (htakes : (sit.machine rules config).Takes sit.spot sit.cursor σ s k) :
    sit.cursor.position < k.position := by
  cases htakes with
  | ignored hahead hignores =>
    exact Cursor.position_lt_advanceColumn
      (hwrap.moves sit .start _ _ (.ignored hahead hignores)) Nat.one_ne_zero
  | @decided d k₁ journal hdecides hcandidate hrequests hperformed hskipped =>
    rw [hcandidate] at hperformed
    have hskip := hwrap.moves sit .start _ _ (.skipped hdecides hperformed)
    rw [← hskipped] at hskip
    exact lt_of_lt_of_le (h.lt_of_pass hwrap hdecides hperformed)
      (Cursor.onward_advanceColumn hskip)

/-- A token is where the step started that emitted it. -/
theorem AllAscend.position_of_takes {σ : Stride} {s : Spot} {k : Cursor} {token : Token}
    (h : AllAscend rules config sit)
    (htakes : (sit.machine rules config).Takes sit.spot sit.cursor σ s k)
    (htoken : σ.token? = some token) : token.position = sit.cursor.position := by
  cases htakes with
  | ignored => cases htoken
  | @decided d k₁ journal hdecides hcandidate hrequests hperformed hskipped =>
    rw [hcandidate] at hperformed
    cases hverdict : d.verdict with
    | suppress =>
      rw [Stride.token?, hverdict] at htoken
      cases htoken
    | emit emitted =>
      rw [Stride.token?, hverdict] at htoken
      cases htoken
      rw [hverdict] at hperformed
      exact (h sit .start _ _ hdecides).emits token k₁ journal hperformed

/-- The tokens of a run are not before its start, and they are in order. -/
theorem AllAscend.tokens_of_run {depth : Nat} {s s' : Spot} {k k' : Cursor} {σs : List Stride}
    (h : AllAscend rules config ⟨depth, s, k⟩) (hwrap : NoWrap rules config ⟨depth, s, k⟩)
    (hrun : (Machine.ofDepth rules config depth).Run s k σs s' k') :
    (∀ token ∈ σs.filterMap (·.token?), k.position ≤ token.position) ∧
      Token.InOrder (σs.filterMap (·.token?)) := by
  induction hrun with
  | nil => exact ⟨by simp, .nil⟩
  | @cons s s₁ s' k k₁ k' σ σs first rest ih =>
    have hnext : Arises rules config ⟨depth, s, k⟩ ⟨depth, s₁, k₁⟩ := .step .start first
    obtain ⟨hlater, hincreases⟩ := ih (h.of_arises hnext) (hwrap.of_arises hnext)
    have hstep : k.position < k₁.position := h.lt_of_takes hwrap first
    have hafter : ∀ token ∈ σs.filterMap (·.token?), k.position < token.position :=
      fun token htoken ↦ lt_of_lt_of_le hstep (hlater token htoken)
    cases htoken : σ.token? with
    | none =>
      rw [List.filterMap_cons_none htoken]
      exact ⟨fun token hmem ↦ le_of_lt (hafter token hmem), hincreases⟩
    | some token =>
      have hposition : token.position = k.position := h.position_of_takes first htoken
      rw [List.filterMap_cons_some htoken]
      refine ⟨List.forall_mem_cons.2 ⟨le_of_eq hposition.symm, ?_⟩,
        List.pairwise_cons.2 ⟨?_, hincreases⟩⟩
      · exact fun token hmem ↦ le_of_lt (hafter token hmem)
      · rw [hposition]
        exact hafter

end Situation

/-! ### Tokens come from runs -/

namespace Machine

variable {m : Machine}

/-- What is pulled comes from one run, also if an error is at its end. -/
theorem exists_run_of_pulls {count : Nat} {scan : Scan} {ps : List Pull}
    (h : m.pulls count scan = some ps) :
    ∃ σs s k, m.Run scan.spot scan.cursor σs s k ∧
      ps.filterMap (·.token?) = σs.filterMap (·.token?) := by
  induction count generalizing scan ps with
  | zero =>
    cases h
    exact ⟨[], _, _, .nil _ _, rfl⟩
  | succ count ih =>
    rw [pulls, Option.bind_eq_some_iff] at h
    obtain ⟨pull, hnext, hrest⟩ := h
    cases hitem : pull.item with
    | none =>
      rw [hitem] at hrest
      cases hrest
      exact ⟨[], _, _, .nil _ _, by simp [Pull.token?, hitem]⟩
    | some result =>
      rw [hitem] at hrest
      obtain ⟨ps', hps', rfl⟩ := Option.map_eq_some_iff.1 hrest
      cases result with
      | error e =>
        have hover := item_of_done (over_of_next hnext hitem).1 hps'
        have hnone : ps'.filterMap (·.token?) = [] :=
          List.filterMap_eq_nil_iff.2 fun p hp ↦ by simp [Pull.token?, hover p hp]
        have htoken : pull.token? = none := by simp [Pull.token?, hitem]
        refine ⟨[], _, _, .nil _ _, ?_⟩
        rw [List.filterMap_cons_none htoken, hnone, List.filterMap_nil]
      | ok token =>
        have htoken : pull.token? = some token := Pull.token?_eq_some_iff.2 hitem
        obtain ⟨σs, hrun, hemits⟩ := exists_run_of_next hnext htoken
        obtain ⟨τs, s, k, hlater, htokens⟩ := ih hps'
        refine ⟨σs ++ τs, s, k, hrun.trans hlater, ?_⟩
        rw [List.filterMap_cons_some htoken, htokens, List.filterMap_append, hemits,
          List.singleton_append]

end Machine

namespace Lexer

/-- The tokens of every scan are in order, at whatever place and in whatever state the lexer is, if
all that is done in the scan goes on and no counter wraps around: those of every run, those that are
pulled as far as one likes, also before an error, and those that are listed. -/
theorem inOrder_of_allAscend (l : Lexer) (depth : Nat) (text : String)
    (h : (l.situation depth text).AllAscend l.rules l.config)
    (hwrap : (l.situation depth text).NoWrap l.rules l.config) :
    (∀ σs s k, (l.machine depth).Run (l.scan text).spot (l.scan text).cursor σs s k →
      Token.InOrder (σs.filterMap (·.token?))) ∧
    (∀ bound ps l', l.pulls depth text bound = some (ps, l') →
      Token.InOrder (ps.filterMap (·.token?))) ∧
    ∀ tokens l' journal, l.tokenize depth text = some (.ok tokens, l', journal) →
      Token.InOrder tokens := by
  have hruns {σs : List Stride} {s : Spot} {k : Cursor}
      (hrun : (l.machine depth).Run (l.scan text).spot (l.scan text).cursor σs s k) :
      Token.InOrder (σs.filterMap (·.token?)) :=
    (Situation.AllAscend.tokens_of_run h hwrap hrun).2
  refine ⟨fun σs s k hrun ↦ hruns hrun, fun bound ps l' hpulls ↦ ?_,
    fun tokens l' journal htokenize ↦ ?_⟩
  · obtain ⟨ps', hps, heq⟩ := Option.map_eq_some_iff.1 hpulls
    cases heq
    obtain ⟨σs, s, k, hrun, htokens⟩ := Machine.exists_run_of_pulls hps
    rw [htokens]
    exact hruns hrun
  · obtain ⟨scan, journal', hcollect, _⟩ := tokenize_eq_some_iff.1 htokenize
    obtain ⟨σs, s, k, hrun, htokens, _⟩ := Machine.collect_run hcollect
    rw [htokens tokens rfl]
    exact hruns hrun

section Routines

variable {m : Machine} {name : String} {text : List Char} {p : Position} {k : Cursor}

private theorem ascends_keep (hname : name ≠ Token.newlineName) :
    m.Ascends (.ofMatch name text p) (Action.keep (.ofMatch name text p)) k where
  requests := by simp [Action.keep, Machine.calls]
  emits := by
    intro token k' journal h
    cases h
    rfl
  newline := fun hnewline ↦ absurd hnewline hname

private theorem ascends_drop (hname : name ≠ Token.newlineName) :
    m.Ascends (.ofMatch name text p) (Action.drop (.ofMatch name text p)) k where
  requests := by simp [Action.drop, Machine.calls]
  emits := by
    intro token k' journal h
    cases h
  newline := fun hnewline ↦ absurd hnewline hname

/-- One request is made, and no token is emitted whatever the reply is. -/
private theorem ascends_ask {r : Request} {next : r.Reply → Routine} (hr : r.Ascends)
    (hnewline : name = Token.newlineName → r.Advances)
    (hnext : ∀ reply, ∃ result, next reply = .finish result ∧
      ∀ token, result ≠ .ok (.emit token)) :
    m.Ascends (.ofMatch name text p) (.ask r next) k where
  requests := by
    rw [Machine.calls]
    refine List.forall_mem_cons.2 ⟨hr, ?_⟩
    cases m.answer k r with
    | none => simp
    | some reply =>
      obtain ⟨result, hfinish, _⟩ := hnext reply.value
      simp [hfinish, Machine.calls]
  emits := by
    intro token k' journal h
    rw [Machine.perform, Option.bind_eq_some_iff] at h
    obtain ⟨reply, _, hrest⟩ := h
    obtain ⟨result, hfinish, hsilent⟩ := hnext reply.value
    rw [hfinish] at hrest
    cases hrest
    exact absurd rfl (hsilent token)
  newline := fun hname ↦ ⟨⟨k, r⟩, List.mem_cons_self, hnewline hname⟩

/-- A routine that makes no request moves moderately. -/
private theorem moderate_finish {outcome : Except LexError Verdict} :
    m.Moderate text (.finish outcome) k where
  scans := by simp [Machine.requests]
  moves := .inl rfl

/-- A routine that makes one request moves moderately if that does. -/
private theorem moderate_ask {r : Request} {next : r.Reply → Routine}
    (hscan : ∀ input, r ≠ .tokenize input)
    (hmoves : r.moves = false ∨
      ∃ count, r = .advanceLine count ∧ count.toNat ≤ Text.utf8Length text)
    (hnext : ∀ reply, ∃ result, next reply = .finish result) : m.Moderate text (.ask r next) k := by
  have hrequests : m.requests (.ask r next) k = [r] := by
    rw [Machine.requests]
    cases m.answer k r with
    | none => rfl
    | some reply =>
      obtain ⟨result, hfinish⟩ := hnext reply.value
      rw [Option.elim_some, hfinish]
      rfl
  constructor
  · rw [hrequests]
    exact List.forall_mem_singleton.2 hscan
  · rw [hrequests]
    rcases hmoves with hstays | ⟨count, rfl, hle⟩
    · exact .inl (List.filter_eq_nil_iff.2 (by simp [hstays]))
    · exact .inr ⟨count, rfl, hle⟩

end Routines

/-- Whoever decides by the rules for words and comments moves moderately. -/
theorem allModerate_commentRules (config : Config) (start : Situation) :
    start.AllModerate commentRules config := by
  intro sit _ d text hdecides
  rcases hdecides.rule_or_handler with ⟨l, hl, rfl⟩ | ⟨a, ha, rfl⟩
  · rw [Decider.routine, Decider.action]
    rcases lexemes_commentRules hl with ⟨_, hl⟩ | ⟨_, hl⟩ | ⟨_, hl⟩ | ⟨_, _, hl⟩
    · rw [hl]
      exact moderate_finish
    · rw [hl]
      refine moderate_ask (by rintro _ ⟨⟩) (.inl rfl) fun reply ↦ ?_
      rcases (reply : Except LexError Unit) with e | _ <;> exact ⟨_, rfl⟩
    · rw [hl]
      refine moderate_ask (by rintro _ ⟨⟩) (.inr ⟨_, rfl, ?_⟩) fun reply ↦ ⟨_, rfl⟩
      change (UInt64.ofNat (Text.utf8Length (String.ofList text).toList)).toNat ≤ _
      rw [String.toList_ofList, UInt64.toNat_ofNat']
      exact Nat.mod_le _ _
    · rw [hl]
      refine moderate_ask (by rintro _ ⟨⟩) (.inl rfl) fun reply ↦ ?_
      rcases (reply : Except LexError Unit) with e | _ <;> exact ⟨_, rfl⟩
  · rcases handler_commentRules ha with rfl | rfl <;> exact moderate_finish

/-- All that the rules for words and comments do goes on where there is room for the text. -/
theorem allAscend_commentRules (config : Config) {start : Situation}
    (hroom : start.cursor.position.HasRoom (Text.utf8Length start.spot.ahead)) :
    start.AllAscend commentRules config := by
  intro sit hsit d text hdecides
  have hlength : 1 ≤ UInt64.ofNat (Text.utf8Length text) := by
    have hpos : Text.utf8Length text ≠ 0 :=
      fun hzero ↦ hdecides.ne_nil (Text.utf8Length_eq_zero_iff.1 hzero)
    obtain ⟨rest, hahead⟩ := Machine.Decides.ahead_eq hdecides
    have hstart := ((allModerate_commentRules config start).hasRoom hroom hsit).start
    rw [hahead, Text.utf8Length_append] at hstart
    rw [UInt64.le_iff_toNat_le, UInt64.toNat_ofNat_of_lt' (by omega)]
    exact Nat.pos_of_ne_zero hpos
  rcases hdecides.rule_or_handler with ⟨l, hl, rfl⟩ | ⟨a, ha, rfl⟩
  · rw [Decider.routine, Decider.action, Decider.name]
    rcases lexemes_commentRules hl with ⟨hname, hl⟩ | ⟨hname, hl⟩ | ⟨hname, hl⟩ | ⟨_, hname, hl⟩
    · rw [hl, hname]
      exact ascends_keep (by decide)
    · rw [hl, hname]
      refine ascends_ask trivial (fun h ↦ absurd h (by decide)) fun reply ↦ ?_
      rcases (reply : Except LexError Unit) with e | _ <;> exact ⟨_, rfl, by simp⟩
    · rw [hl, hname]
      rw [← String.toList_ofList (l := text)] at hlength
      exact ascends_ask hlength (fun _ ↦ hlength) fun reply ↦ ⟨_, rfl, by simp⟩
    · rw [hl, hname]
      refine ascends_ask trivial (fun h ↦ absurd h (by decide)) fun reply ↦ ?_
      rcases (reply : Except LexError Unit) with e | _ <;> exact ⟨_, rfl, by simp⟩
  · rcases handler_commentRules ha with rfl | rfl
    · exact ascends_keep (show Token.errorName ≠ Token.newlineName by decide)
    · exact ascends_drop (show Token.errorName ≠ Token.newlineName by decide)

/-- The lexer for words and comments inside a comment, somewhere in a text. -/
def lexerInComment : Lexer := commentLexer.withCursor ⟨"comment", ["initial"], 3, 4, 2⟩

/-- A text that starts inside a comment and has a further one. -/
theorem inOrder_of_allAscend_lexerInComment :
    (lexerInComment.situation 0 "é\n--> a <!-- b\n--> c\n\n?d").AllAscend
        lexerInComment.rules lexerInComment.config ∧
      (lexerInComment.situation 0 "é\n--> a <!-- b\n--> c\n\n?d").NoWrap
        lexerInComment.rules lexerInComment.config ∧
      ∃ ps l', lexerInComment.pulls 0 "é\n--> a <!-- b\n--> c\n\n?d" none = some (ps, l') ∧
        (ps.filterMap (·.token?)).length = 4 ∧ Token.InOrder (ps.filterMap (·.token?)) := by
  have hroom : (Position.mk 3 5).HasRoom
      (Text.utf8Length "é\n--> a <!-- b\n--> c\n\n?d".toList) :=
    ⟨by decide, by decide, by decide⟩
  have hascends : (lexerInComment.situation 0 "é\n--> a <!-- b\n--> c\n\n?d").AllAscend
      lexerInComment.rules lexerInComment.config := allAscend_commentRules _ hroom
  have hwrap : (lexerInComment.situation 0 "é\n--> a <!-- b\n--> c\n\n?d").NoWrap
      lexerInComment.rules lexerInComment.config :=
    Situation.noWrap_of_allModerate (allModerate_commentRules _ _) hroom
  have hlength : (lexerInComment.pulls 0 "é\n--> a <!-- b\n--> c\n\n?d" none).map
      (fun r ↦ (r.1.filterMap (·.token?)).length) = some 4 := by decide +kernel
  obtain ⟨⟨ps, l'⟩, hps, hfour⟩ := Option.map_eq_some_iff.1 hlength
  obtain ⟨_, hpulls, _⟩ := inOrder_of_allAscend lexerInComment 0 _ hascends hwrap
  exact ⟨hascends, hwrap, ps, l', hps, hfour, hpulls none ps l' hps⟩

/-- The rule for line ends moves down by the greatest count. -/
def wrappingDeclarations : List Declaration :=
  [.tokens ["A"], .rule "A" (.literal "a") none,
   .rule "newline" (.literal "\n") (some (Step.action [.line .last, .suppress]))]

/-- The rules with such line ends. -/
def wrappingRules : RuleSet :=
  (RuleSet.ofDeclarations wrappingDeclarations).toOption.get (by decide +kernel)

/-- The lexer with such line ends. -/
def wrappingLexer : Lexer :=
  (new wrappingRules .quiet).toOption.get (by decide +kernel)

private theorem allAscend_wrappingRules (config : Config) (start : Situation) :
    start.AllAscend wrappingRules config := by
  intro sit _ d text hdecides
  rcases hdecides.rule_or_handler with ⟨l, hl, rfl⟩ | ⟨a, ha, rfl⟩
  · have hentries : l ∈ (Table.find? sit.cursor.state [(initialState, (⟨initialState,
        [⟨"A", .literal "a", none⟩, ⟨"newline", .literal "\n",
          some (Step.action [.line .last, .suppress])⟩]⟩ : State))]).elim [] (·.lexemes) := hl
    rw [Table.find?] at hentries
    split at hentries
    · simp only [Option.elim_some, List.mem_cons, List.not_mem_nil, or_false] at hentries
      rcases hentries with rfl | rfl
      · exact ascends_keep (show "A" ≠ Token.newlineName by decide)
      · have hcount : 1 ≤ Counter.last := by decide +kernel
        exact ascends_ask hcount (fun _ ↦ hcount) fun reply ↦ ⟨_, rfl, by simp⟩
    · cases hentries
  · cases ha

/-- Tokens need not be in order though all that is done in a scan goes on: the count of lines may
wrap around. -/
theorem not_forall_inOrder :
    ¬ ∀ (l : Lexer) (depth : Nat) (text : String),
      (l.situation depth text).AllAscend l.rules l.config →
      ∀ bound ps l', l.pulls depth text bound = some (ps, l') →
        Token.InOrder (ps.filterMap (·.token?)) := by
  intro h
  have hpositions : (wrappingLexer.pulls 0 "a\na" none).map
      (fun r ↦ (r.1.filterMap (·.token?)).map (·.position)) = some [⟨1, 1⟩, ⟨0, 1⟩] := by
    decide +kernel
  obtain ⟨⟨ps, l'⟩, hps, heq⟩ := Option.map_eq_some_iff.1 hpositions
  have horder : ([⟨1, 1⟩, ⟨0, 1⟩] : List Position).Pairwise (· < ·) := by
    rw [← heq, List.pairwise_map]
    exact h wrappingLexer 0 "a\na" (allAscend_wrappingRules _ _) none ps l' hps
  have hlt : (⟨1, 1⟩ : Position) < ⟨0, 1⟩ := (List.pairwise_cons.1 horder).1 _ (by simp)
  rw [Position.lt_iff] at hlt
  exact absurd hlt (by decide)

end Lexer

end ModalLexer
