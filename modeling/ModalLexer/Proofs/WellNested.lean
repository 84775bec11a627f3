import Mathlib.Logic.Relation
import ModalLexer.Proofs.Histories
import ModalLexer.Proofs.Situations

/-!
# Lexers that never fail

Some states may be inner ones: a lexer leaves them by returning to a saved state only, and returns
from them only. If it enters declared states only, and no inner one without saving the state before,
then the state at the bottom, to which it comes back in the end, is never an inner one
(`Cursor.Grounded`); so there is a saved state whenever it is to return. If every declared state
also has a handler of errors, and actions do not fail on their own, then nothing fails.
-/

namespace ModalLexer

open Text (Spot)

/-! ### What a scan lists -/

namespace Machine

variable {m : Machine} {scan scan' : Scan} {journal : Journal}

/-- An error comes from a run to a step that fails. -/
theorem exists_fails_of_next {pull : Pull} {e : LexError} (h : m.next scan = some pull)
    (hitem : pull.item = some (.error e)) :
    ∃ σs s k s' k', m.Run scan.spot scan.cursor σs s k ∧ m.Fails s k e s' k' := by
  rcases next_run h with ⟨_, rfl⟩ | ⟨_, σs, s, k, hrun, _, hgives⟩
  · cases hitem
  · cases hgives with
    | nothing => cases hitem
    | token => cases hitem
    | error fails =>
      cases hitem
      exact ⟨σs, s, k, _, _, hrun, fails⟩

/-- What is listed comes from one run: either the tokens are those that it emits, or it leads to a
step that fails. -/
theorem collect_run {result : Except LexError (List Token)}
    (h : m.collect scan = some (result, scan', journal)) :
    ∃ σs s k, m.Run scan.spot scan.cursor σs s k ∧
      (∀ tokens, result = .ok tokens → tokens = σs.filterMap (·.token?)) ∧
      ∀ e, result = .error e → ∃ s' k', m.Fails s k e s' k' := by
  fun_induction collect m scan generalizing result scan' journal with
  | case1 => cases h
  | case2 scan scan₁ journal₁ hnext =>
    cases h
    refine ⟨[], _, _, .nil _ _, ?_, by simp⟩
    rintro tokens ⟨⟩
    rfl
  | case3 scan e scan₁ journal₁ hnext =>
    cases h
    obtain ⟨σs, s, k, s', k', hrun, hfails⟩ := exists_fails_of_next hnext rfl
    refine ⟨σs, s, k, hrun, by simp, ?_⟩
    rintro _ ⟨⟩
    exact ⟨s', k', hfails⟩
  | case4 scan token scan₁ journal₁ hnext ih =>
    obtain ⟨⟨result₂, scan₂, journal₂⟩, hrest, heq⟩ := Option.map_eq_some_iff.1 h
    cases heq
    obtain ⟨σs, hrun, htoken⟩ := exists_run_of_next hnext rfl
    obtain ⟨τs, s, k, hlater, hok, hfails⟩ := ih hrest
    refine ⟨σs ++ τs, s, k, hrun.trans hlater, ?_, ?_⟩
    · cases result₂ with
      | ok tokens₂ =>
        rintro _ ⟨⟩
        rw [List.filterMap_append, htoken, ← hok tokens₂ rfl, List.singleton_append]
      | error e => simp [Except.map]
    · cases result₂ with
      | ok tokens₂ => simp [Except.map]
      | error e =>
        rintro _ ⟨⟩
        exact hfails e rfl

/-- What was asked some number of times may be asked once more. -/
theorem Asked.snoc {pull : Pull} (h : m.Asked scan scan') (hnext : m.next scan' = some pull) :
    m.Asked scan pull.scan := by
  induction h with
  | none => exact .more hnext (.none _)
  | more first _ ih => exact .more first (ih hnext)

/-- The tokens of a scan are listed, or there is an error, if all actions end. -/
theorem isSome_collect (hend : m.ActionsEnd scan) : (m.collect scan).isSome = true := by
  have hcollect (scan' : Scan) (h : m.Asked scan scan') : (m.collect scan').isSome = true := by
    fun_induction collect m scan' with
    | case1 scan' hnext =>
      have hsome := h.isSome_next hend
      rw [hnext] at hsome
      cases hsome
    | case2 => rfl
    | case3 => rfl
    | case4 scan' token scan₁ journal₁ hnext ih =>
      rw [Option.isSome_map]
      exact ih (h.snoc hnext)
  exact hcollect scan (.none scan)

/-- The engine refuses a call, or a scan that is started fails. -/
inductive Refuses (m : Machine) : Call → LexError → Prop
  | begin {k : Cursor} {state : String} {e : LexError}
      (refused : (k.begin m.rules state).1 = .error e) : Refuses m ⟨k, .begin state⟩ e
  | push {k : Cursor} {state : String} {e : LexError}
      (refused : (k.push m.rules state).1 = .error e) : Refuses m ⟨k, .push state⟩ e
  | pop {k : Cursor} {e : LexError} (refused : k.pop.1 = .error e) : Refuses m ⟨k, .pop⟩ e
  | tokenize {k k' : Cursor} {input : String} {e : LexError} {journal : Journal}
      (failed : m.nested input.toList k = some ⟨.error e, k', journal⟩) :
      Refuses m ⟨k, .tokenize input⟩ e

end Machine

/-! ### Inner states -/

/-- Rules under which a lexer starts outside of inner states, and recovers in every state from
characters that it does not recognize, since every declared state has a handler. -/
structure RuleSet.Recovers (rules : RuleSet) (inner : String → Prop) : Prop where
  declared : rules.hasState initialState = true
  initial : ¬ inner initialState
  handles : ∀ state, rules.hasState state = true → (rules.handler? state).isSome = true

/-- A call that keeps inner states apart: one of them is entered only by saving the state before,
and the lexer returns from them only. Only declared states are entered. -/
def Call.WellNested (rules : RuleSet) (inner : String → Prop) (c : Call) : Prop :=
  match c.request with
  | .begin state => rules.hasState state = true ∧ ¬ inner state
  | .push state => rules.hasState state = true
  | .pop => inner c.cursor.state
  | _ => True

namespace Cursor

/-- The state to which a lexer comes back when it returns as often as it can. -/
def bottom (k : Cursor) : String := k.stack.getLastD k.state

/-- An engine can go on, and what it comes back to in the end is no inner state. -/
structure Grounded (rules : RuleSet) (inner : String → Prop) (k : Cursor) : Prop where
  usable : k.Usable rules
  bottom : ¬ inner k.bottom

variable {rules : RuleSet} {inner : String → Prop} {k k' : Cursor}

/-- From one cursor to another no inner state gets to the bottom. -/
def StaysGrounded (rules : RuleSet) (inner : String → Prop) (k k' : Cursor) : Prop :=
  k.Grounded rules inner → k'.Grounded rules inner

private theorem grounded_initial (hdeclared : rules.hasState initialState = true)
    (hinitial : ¬ inner initialState) : Grounded rules inner .initial :=
  ⟨(stable_usable hdeclared).initial, hinitial⟩

/-- In an inner state there is a saved one to return to. -/
theorem Grounded.stack_ne_nil (h : k.Grounded rules inner) (hinner : inner k.state) :
    k.stack ≠ [] := by
  intro hnil
  have hbottom : k.bottom = k.state := by rw [Cursor.bottom, hnil, List.getLastD_nil]
  exact h.bottom (hbottom ▸ hinner)

/-- What is saved stays above the bottom. -/
theorem bottom_push (state : String) : (k.push rules state).2.bottom = k.bottom := by
  unfold push
  split
  · rw [Cursor.bottom, Cursor.bottom, List.getLastD_cons]
  · rfl

/-- A return does not change what is at the bottom. -/
theorem bottom_pop : k.pop.2.bottom = k.bottom := by
  unfold pop
  split
  · rfl
  · next hstack => rw [Cursor.bottom, Cursor.bottom, hstack, List.getLastD_cons]

/-- A state that is entered is at the bottom if none is saved. -/
theorem not_inner_bottom_begin {state : String} (hk : ¬ inner k.bottom) (hstate : ¬ inner state) :
    ¬ inner (k.begin rules state).2.bottom := by
  unfold begin
  split
  · rw [Cursor.bottom] at hk ⊢
    cases hstack : k.stack with
    | nil => exact hstate
    | cons saved stack =>
      rw [hstack] at hk
      exact hk
  · exact hk

end Cursor

namespace Machine

variable {m : Machine} {inner : String → Prop} {c : Call}

/-- The engine refuses no call that keeps inner states apart, unless a scan fails. -/
theorem not_refuses_of_wellNested {e : LexError} (hk : c.cursor.Grounded m.rules inner)
    (hc : c.WellNested m.rules inner) (hscan : ∀ input, c.request ≠ .tokenize input) :
    ¬ m.Refuses c e := by
  intro hrefuses
  cases hrefuses with
  | begin refused =>
    have hundeclared := (Cursor.begin_eq_error_iff.1 (Prod.ext refused rfl)).1
    rw [hc.1] at hundeclared
    cases hundeclared
  | push refused =>
    have hundeclared := (Cursor.push_eq_error_iff.1 (Prod.ext refused rfl)).1
    rw [show m.rules.hasState _ = true from hc] at hundeclared
    cases hundeclared
  | pop refused =>
    exact hk.stack_ne_nil hc (Cursor.pop_eq_error_iff.1 (Prod.ext refused rfl)).1
  | tokenize => exact hscan _ rfl

/-- A call that keeps inner states apart leaves none of them at the bottom. -/
theorem relates_grounded (hdeclared : m.rules.hasState initialState = true)
    (hinitial : ¬ inner initialState) (hc : c.WellNested m.rules inner)
    (hscan : ∀ input, c.request ≠ .tokenize input) :
    m.Relates (Cursor.StaysGrounded m.rules inner) c := by
  intro reply hreply hk
  have hstable := Cursor.stable_usable hdeclared
  obtain ⟨k, r⟩ := c
  cases r with
  | begin state =>
    cases hreply
    exact ⟨hstable.begin_keeps hk.usable state, Cursor.not_inner_bottom_begin hk.bottom hc.2⟩
  | push state =>
    cases hreply
    exact ⟨hstable.push_keeps hk.usable state, (Cursor.bottom_push state).symm ▸ hk.bottom⟩
  | pop =>
    cases hreply
    exact ⟨hstable.pop_keeps hk.usable, Cursor.bottom_pop.symm ▸ hk.bottom⟩
  | skip count =>
    cases hreply
    exact ⟨hstable.skip count hk.usable, hk.bottom⟩
  | advanceLine count =>
    cases hreply
    exact ⟨hstable.advanceLine count hk.usable, hk.bottom⟩
  | advanceColumn count =>
    cases hreply
    exact ⟨hstable.advanceColumn count hk.usable, hk.bottom⟩
  | rewind =>
    cases hreply
    exact Cursor.grounded_initial hdeclared hinitial
  | tokenize input => exact absurd rfl (hscan input)
  | look | note =>
    cases hreply
    exact hk

/-- What a routine does is well nested: its calls keep inner states apart, and there is no error
unless the engine refuses something. -/
structure WellNested (m : Machine) (inner : String → Prop) (routine : Routine) (k : Cursor) :
    Prop where
  calls : ∀ c ∈ m.calls routine k, c.WellNested m.rules inner
  errors : ∀ e k' journal, m.perform routine k = some ⟨.error e, k', journal⟩ →
    ∃ c ∈ m.calls routine k, ∃ e', m.Refuses c e'

namespace WellNested

variable {k : Cursor}

/-- To be finished without an error is well nested. -/
theorem finish (verdict : Verdict) : m.WellNested inner (.finish (.ok verdict)) k where
  calls := by simp [Machine.calls]
  errors := by
    intro e k' journal h
    cases h

/-- A request and what follows are well nested if that is, or if the engine refuses the request and
nothing more is asked of it. -/
theorem ask {r : Request} {next : r.Reply → Routine} (hcall : Call.WellNested m.rules inner ⟨k, r⟩)
    (hnext : ∀ reply, m.answer k r = some reply →
      m.WellNested inner (next reply.value) reply.cursor ∨
        m.calls (next reply.value) reply.cursor = [] ∧ ∃ e, m.Refuses ⟨k, r⟩ e) :
    m.WellNested inner (.ask r next) k where
  calls := by
    rw [Machine.calls]
    refine List.forall_mem_cons.2 ⟨hcall, ?_⟩
    cases hreply : m.answer k r with
    | none => simp
    | some reply =>
      rcases hnext reply hreply with hwell | ⟨hnone, _⟩
      · exact hwell.calls
      · rw [Option.elim_some, hnone]
        simp
  errors := by
    intro e k' journal h
    rw [perform, Option.bind_eq_some_iff] at h
    obtain ⟨reply, hreply, hrest⟩ := h
    obtain ⟨⟨value, k₁, journal₁⟩, hresult, heq⟩ := Option.map_eq_some_iff.1 hrest
    cases heq
    rw [Machine.calls, hreply, Option.elim_some]
    rcases hnext reply hreply with hwell | ⟨_, e', hrefuses⟩
    · obtain ⟨c, hc, e', hrefuses⟩ := hwell.errors _ _ _ hresult
      exact ⟨c, List.mem_cons_of_mem _ hc, e', hrefuses⟩
    · exact ⟨_, List.mem_cons_self, e', hrefuses⟩

end WellNested

end Machine

/-- The bottom is no inner state all along. -/
theorem Cursor.course_staysGrounded {rules : RuleSet} {inner : String → Prop}
    (hdeclared : rules.hasState initialState = true) :
    Cursor.Course (Cursor.StaysGrounded rules inner) where
  refl := fun _ hk ↦ hk
  trans := fun h h' hk ↦ h' (h hk)
  clearSkip := fun _ hk ↦ ⟨(Cursor.stable_usable hdeclared).clearSkip hk.usable, hk.bottom⟩

/-! ### Scans that are well nested -/

namespace Situation

/-- All that is done in the situations that a scan comes to is well nested. -/
def AllWellNested (rules : RuleSet) (config : Config) (inner : String → Prop)
    (start : Situation) : Prop :=
  ∀ sit, Arises rules config start sit → ∀ d text, Decides rules config sit d text →
    (sit.machine rules config).WellNested inner (d.routine text sit.cursor) sit.cursor

/-- No call is refused in a situation. -/
def Granted (rules : RuleSet) (config : Config) (sit : Situation) : Prop :=
  ∀ d text, Decides rules config sit d text → ∀ c ∈ sit.calls rules config d text,
    ∀ e, ¬ (sit.machine rules config).Refuses c e

section Grounded

variable {rules : RuleSet} {config : Config} {inner : String → Prop} {start sit : Situation}
  (hrules : rules.Recovers inner)
include hrules

private theorem AllWellNested.forward (h : AllWellNested rules config inner start) :
    Forward rules config (Cursor.StaysGrounded rules inner) start where
  calls := fun sit hsit d text hdecides c hc ↦ Machine.relates_grounded hrules.declared
    hrules.initial ((h sit hsit d text hdecides).calls c hc)
  moves := fun _ _ _ _ _ hk ↦
    ⟨(Cursor.stable_usable hrules.declared).advanceColumn _ hk.usable, hk.bottom⟩

variable (hnested : AllWellNested rules config inner start)
  (hstart : start.cursor.Grounded rules inner)
include hnested hstart

private theorem AllWellNested.grounded (hsit : Arises rules config start sit) :
    sit.cursor.Grounded rules inner :=
  (hnested.forward hrules).rel_of_arises (Cursor.course_staysGrounded hrules.declared) hsit
    hstart

/-- Every call is made where the bottom is no inner state. -/
theorem AllWellNested.grounded_of_mem_calls {d : Decider} {text : List Char}
    (hsit : Arises rules config start sit) (hdecides : sit.Decides rules config d text) :
    ∀ c ∈ sit.calls rules config d text, c.cursor.Grounded rules inner := by
  intro c hc
  have hforward := (hnested.forward hrules).of_arises hsit
  have hcourse : Cursor.Course (Cursor.StaysGrounded rules inner) :=
    Cursor.course_staysGrounded hrules.declared
  have hcalls := (hforward.relatesAt hcourse).calls d text hdecides
  exact Machine.rel_of_mem_calls hcourse hcalls c hc (hnested.grounded hrules hstart hsit)

/-- No call is refused if scans that are started do not fail. -/
theorem AllWellNested.granted_of_scans (hsit : Arises rules config start sit)
    (hscans : ∀ d text, Decides rules config sit d text →
      ∀ k input, ⟨k, .tokenize input⟩ ∈ sit.calls rules config d text →
        ∀ e, ¬ (sit.machine rules config).Refuses ⟨k, .tokenize input⟩ e) :
    sit.Granted rules config := by
  intro d text hdecides c hc e hrefuses
  by_cases hscan : ∃ input, c.request = .tokenize input
  · obtain ⟨k, r⟩ := c
    obtain ⟨input, rfl⟩ := hscan
    exact hscans d text hdecides k input hc e hrefuses
  · have hk := hnested.grounded_of_mem_calls hrules hstart hsit hdecides c hc
    have hcall := (hnested sit hsit d text hdecides).calls c hc
    exact Machine.not_refuses_of_wellNested hk hcall (not_exists.1 hscan) hrefuses

/-- A step does not fail where no call is refused. -/
theorem AllWellNested.not_fails (hsit : Arises rules config start sit)
    (hgranted : sit.Granted rules config) (e : LexError) (s : Spot) (k : Cursor) :
    ¬ (sit.machine rules config).Fails sit.spot sit.cursor e s k := by
  have hperforms {d : Decider} {text : List Char} {k' : Cursor} {journal : Journal}
      (hdecides : Decides rules config sit d text) :
      (sit.machine rules config).perform (d.routine text sit.cursor) sit.cursor ≠
        some ⟨.error e, k', journal⟩ := by
    intro hperformed
    obtain ⟨c, hc, e', hrefuses⟩ :=
      (hnested sit hsit d text hdecides).errors e k' journal hperformed
    exact hgranted d text hdecides c hc e' hrefuses
  intro hfails
  cases hfails with
  | unrecognized _ _ _ hunhandled =>
    have hstate := (hnested.grounded hrules hstart hsit).usable.state
    have hhandled := hrules.handles _ hstate
    rw [show rules.handler? sit.cursor.state = none from hunhandled] at hhandled
    cases hhandled
  | rule hdecides hperformed => exact hperforms hdecides hperformed
  | handler hdecides hperformed => exact hperforms hdecides hperformed

/-- No call is refused at all. -/
theorem AllWellNested.granted (hsit : Arises rules config start sit) :
    sit.Granted rules config := by
  -- The induction is on the depth: a scan that is started has less of it left.
  obtain ⟨depth, s, k⟩ := sit
  induction depth generalizing s k with
  | zero =>
    refine hnested.granted_of_scans hrules hstart hsit ?_
    intro d text _ k' input _ e hrefuses
    cases hrefuses with
    | tokenize failed => cases failed
  | succ depth ih =>
    refine hnested.granted_of_scans hrules hstart hsit ?_
    intro d text hdecides k' input hc e hrefuses
    cases hrefuses with
    | tokenize failed =>
      obtain ⟨⟨result, scan, journal⟩, hcollect, heq⟩ := Option.map_eq_some_iff.1 failed
      cases heq
      obtain ⟨σs, s₁, k₁, hrun, _, hfailing⟩ := Machine.collect_run hcollect
      obtain ⟨s₂, k₂, hfails⟩ := hfailing e rfl
      have hinner : Arises rules config start ⟨depth, s₁, k₁⟩ :=
        (hsit.within hdecides hc).run hrun
      exact hnested.not_fails hrules hstart hinner (ih s₁ k₁ hinner) e s₂ k₂
        hfails

end Grounded

end Situation

namespace Lexer

variable {l l' : Lexer} {inner : String → Prop}

/-- Whatever text is scanned, and however deep scans may lie in each other, all that is done is well
nested. -/
def WellNested (inner : String → Prop) (l : Lexer) : Prop :=
  ∀ depth text, (l.situation depth text).AllWellNested l.rules l.config inner

/-- Scans move the cursor and change nothing else of a lexer. -/
theorem exists_withCursor_of_scans (h : Relation.ReflTransGen Scans l l') :
    ∃ k, l' = l.withCursor k := by
  induction h with
  | refl => exact ⟨l.cursor, rfl⟩
  | tail _ hlast ih =>
    obtain ⟨k, rfl⟩ := ih
    obtain ⟨_, _, hscan⟩ := hlast
    obtain ⟨scan, _, rfl⟩ := hscan.exists_asked
    exact ⟨scan.cursor, rfl⟩

/-- Scans leave no inner state at the bottom. -/
theorem grounded_of_scans (hrules : l.rules.Recovers inner)
    (hstart : l.cursor.Grounded l.rules inner)
    (hnested : ∀ l₁, Relation.ReflTransGen Scans l l₁ → l₁.WellNested inner)
    (h : Relation.ReflTransGen Scans l l') : l'.cursor.Grounded l.rules inner := by
  induction h with
  | refl => exact hstart
  | @tail l₁ l₂ hbefore hlast ih =>
    obtain ⟨k, rfl⟩ := exists_withCursor_of_scans hbefore
    obtain ⟨depth, text, hscan⟩ := hlast
    obtain ⟨scan, hasked, rfl⟩ := hscan.exists_asked
    have hforward := (hnested _ hbefore depth text).forward hrules
    have hcourse : Cursor.Course (Cursor.StaysGrounded l.rules inner) :=
      Cursor.course_staysGrounded hrules.declared
    exact hforward.rel_of_asked hcourse hasked (hcourse.clearSkip k ih)

/-- Tokens are listed, or there is an error, if that comes of the scan. -/
theorem tokenize_eq_some_iff {depth : Nat} {text : String} {result : Except LexError (List Token)}
    {journal : Journal} :
    l.tokenize depth text = some (result, l', journal) ↔
      ∃ scan journal', (l.machine depth).collect (l.scan text) = some (result, scan, journal') ∧
        l' = l.withCursor scan.cursor ∧ journal = (l.machine depth).tableEvents ++ journal' := by
  constructor
  · intro h
    obtain ⟨outcome, houtcome, heq⟩ := Option.map_eq_some_iff.1 h
    obtain ⟨⟨result', scan, journal'⟩, hcollect, rfl⟩ := Option.map_eq_some_iff.1 houtcome
    cases heq
    exact ⟨scan, journal', hcollect, rfl, rfl⟩
  · rintro ⟨scan, journal', hcollect, rfl, rfl⟩
    have htokenize : (l.machine depth).tokenize text.toList l.cursor =
        some ⟨result, scan.cursor, (l.machine depth).tableEvents ++ journal'⟩ :=
      Option.map_eq_some_iff.2 ⟨_, hcollect, rfl⟩
    rw [tokenize, htokenize]
    rfl

/-- A lexer with a handler in every declared state never fails if all that is done keeps inner
states apart and no action fails on its own, whatever texts it has scanned before. The tokens of
every text can be listed if all actions end, no step fails, and no call of an action is refused, in
the scans that actions start neither. -/
theorem tokenize_of_wellNested {ds : List Declaration}
    (hrules : RuleSet.ofDeclarations ds = .ok l.rules)
    (hhandlers : ∀ state, l.rules.hasState state = true →
      (l.rules.handler? state).isSome = true)
    (hinitial : ¬ inner initialState) (hstart : l.cursor = .initial)
    (hnested : ∀ l₁, Relation.ReflTransGen Scans l l₁ → l₁.WellNested inner)
    (h : Relation.ReflTransGen Scans l l') (depth : Nat) (text : String) :
    (∀ result l'' journal, l'.tokenize depth text = some (result, l'', journal) →
      ∃ tokens, result = .ok tokens) ∧
    ((l'.machine depth).ActionsEnd (l'.scan text) →
      ∃ tokens l'' journal, l'.tokenize depth text = some (.ok tokens, l'', journal)) ∧
    ∀ sit, Situation.Arises l'.rules l'.config (l'.situation depth text) sit →
      sit.Granted l'.rules l'.config ∧
      ∀ e s k, ¬ (sit.machine l'.rules l'.config).Fails sit.spot sit.cursor e s k := by
  have hrecovers : l.rules.Recovers inner :=
    ⟨RuleSet.hasState_initialState hrules, hinitial, hhandlers⟩
  have hground : l.cursor.Grounded l.rules inner :=
    hstart ▸ Cursor.grounded_initial hrecovers.declared hinitial
  have hk := grounded_of_scans hrecovers hground hnested h
  obtain ⟨k, rfl⟩ := exists_withCursor_of_scans h
  have hwell := hnested _ h depth text
  have hscan := (Cursor.course_staysGrounded hrecovers.declared).clearSkip k hk
  have hgranted {sit : Situation} (hsit) : sit.Granted l.rules l.config :=
    hwell.granted hrecovers hscan hsit
  have hgoesOn {sit : Situation} (hsit) (e : LexError) (s : Spot) (k' : Cursor) :
      ¬ (sit.machine l.rules l.config).Fails sit.spot sit.cursor e s k' :=
    hwell.not_fails hrecovers hscan hsit (hgranted hsit) e s k'
  have hok : ∀ result l'' journal, (l.withCursor k).tokenize depth text =
      some (result, l'', journal) → ∃ tokens, result = .ok tokens := by
    intro result l'' journal htokenize
    obtain ⟨scan, journal', hcollect, _⟩ := tokenize_eq_some_iff.1 htokenize
    cases result with
    | ok tokens => exact ⟨tokens, rfl⟩
    | error e =>
      obtain ⟨σs, s₁, k₁, hrun, _, hfailing⟩ := Machine.collect_run hcollect
      obtain ⟨s₂, k₂, hfails⟩ := hfailing e rfl
      exact absurd hfails (hgoesOn (Situation.Arises.start.run hrun) e s₂ k₂)
  refine ⟨hok, fun hend ↦ ?_, fun sit hsit ↦ ⟨hgranted hsit, hgoesOn hsit⟩⟩
  obtain ⟨⟨result, scan, journal⟩, hcollect⟩ :=
    Option.isSome_iff_exists.1 (Machine.isSome_collect hend)
  have htokenize := tokenize_eq_some_iff.2 ⟨scan, journal, hcollect, rfl, rfl⟩
  obtain ⟨tokens, rfl⟩ := hok _ _ _ htokenize
  exact ⟨tokens, _, _, htokenize⟩

/-- Words and comments, which are scanned in a state of their own. What is not recognized is an
error outside of comments and dropped in them. -/
def commentDeclarations : List Declaration :=
  [.tokens ["WORD"], .states [("comment", .exclusive)],
   .rule "WORD" (.repetition (.charClass .alpha) 1 none) none,
   .rule "comment" (.literal "<!--") (some (Step.action [.push "comment", .suppress])),
   .rule "comment_end" (.literal "-->") (some (Step.action [.pop, .suppress])),
   .rule "newline" (.repetition (.literal "\n") 1 none)
     (some (Step.action [.lineLength, .suppress])),
   .ignore none (.chars " \t"), .ignore (some "comment") (.chars ""),
   .error none (some .keep), .error (some "comment") (some .drop)]

/-- The rules for words and comments. -/
def commentRules : RuleSet :=
  (RuleSet.ofDeclarations commentDeclarations).toOption.get (by decide +kernel)

/-- The lexer for words and comments. -/
def commentLexer : Lexer :=
  (new commentRules .quiet).toOption.get (by decide +kernel)

/-- The lexemes of the rules for words and comments. -/
theorem lexemes_commentRules {state : String} {lexeme : Lexeme}
    (h : lexeme ∈ commentRules.lexemes state) :
    lexeme.name = "WORD" ∧ lexeme.effectiveAction = .keep ∨
      lexeme.name = "comment" ∧
        lexeme.effectiveAction = Step.action [.push "comment", .suppress] ∨
      lexeme.name = "newline" ∧ lexeme.effectiveAction = Step.action [.lineLength, .suppress] ∨
      state = "comment" ∧ lexeme.name = "end" ∧
        lexeme.effectiveAction = Step.action [.pop, .suppress] := by
  have hentries : lexeme ∈ (Table.find? state
      [("initial", (⟨"initial", [⟨"WORD", .repetition (.charClass .alpha) 1 none, none⟩,
          ⟨"comment", .literal "<!--", some (Step.action [.push "comment", .suppress])⟩,
          ⟨"newline", .repetition (.literal "\n") 1 none,
            some (Step.action [.lineLength, .suppress])⟩]⟩ : State)),
        ("comment", ⟨"comment",
          [⟨"end", .literal "-->", some (Step.action [.pop, .suppress])⟩]⟩)]).elim []
      (·.lexemes) := h
  rw [Table.find?] at hentries
  split at hentries
  · simp only [Option.elim_some, List.mem_cons, List.not_mem_nil, or_false] at hentries
    rcases hentries with rfl | rfl | rfl
    · exact .inl ⟨rfl, rfl⟩
    · exact .inr (.inl ⟨rfl, rfl⟩)
    · exact .inr (.inr (.inl ⟨rfl, rfl⟩))
  · rw [Table.find?] at hentries
    split at hentries
    · next hstate =>
      rw [List.mem_singleton.1 hentries]
      exact .inr (.inr (.inr ⟨hstate.symm, rfl, rfl⟩))
    · cases hentries

/-- The handlers of these rules keep or drop what they get. -/
theorem handler_commentRules {state : String} {a : Action}
    (h : commentRules.handler? state = some a) : a = .keep ∨ a = .drop := by
  have hentries : (Table.find? state
      [("initial", some Action.keep), ("comment", some Action.drop)]).join = some a := h
  rw [Table.find?] at hentries
  split at hentries
  · exact .inl (Option.some.inj hentries).symm
  · rw [Table.find?] at hentries
    split at hentries
    · exact .inr (Option.some.inj hentries).symm
    · cases hentries

private theorem isSome_handler_commentRules {state : String}
    (h : commentRules.hasState state = true) :
    (commentRules.handler? state).isSome = true := by
  have hentries : (Table.find? state
      [("initial", StateKind.inclusive), ("comment", .exclusive)]).isSome = true := h
  change (Table.find? state
      [("initial", some Action.keep), ("comment", some Action.drop)]).join.isSome = true
  rw [Table.find?] at hentries
  split at hentries
  · next hstate =>
    subst hstate
    rfl
  · rw [Table.find?] at hentries
    split at hentries
    · next hstate =>
      subst hstate
      rfl
    · cases hentries

private theorem wellNested_pushComment {m : Machine} (hrules : m.rules = commentRules)
    (token : Token) (k : Cursor) :
    m.WellNested (· = "comment") (Step.action [.push "comment", .suppress] token) k := by
  refine .ask (by rw [hrules]; rfl) fun reply hreply ↦ ?_
  cases hreply
  rcases hpush : k.push m.rules "comment" with ⟨e | _, k'⟩
  · exact .inr ⟨rfl, e, .push (congrArg Prod.fst hpush)⟩
  · exact .inl (.finish _)

private theorem wellNested_popComment {m : Machine} (token : Token) {k : Cursor}
    (hstate : k.state = "comment") :
    m.WellNested (· = "comment") (Step.action [.pop, .suppress] token) k := by
  refine .ask hstate fun reply hreply ↦ ?_
  cases hreply
  rcases hpop : k.pop with ⟨e | _, k'⟩
  · exact .inr ⟨rfl, e, .pop (congrArg Prod.fst hpop)⟩
  · exact .inl (.finish _)

/-- All that the rules for words and comments do is well nested: comments are inner. -/
theorem allWellNested_commentRules (config : Config) (start : Situation) :
    start.AllWellNested commentRules config (· = "comment") := by
  intro sit _ d text hdecides
  rcases hdecides.rule_or_handler with ⟨l, hl, rfl⟩ | ⟨a, ha, rfl⟩
  · rw [Decider.routine, Decider.action]
    rcases lexemes_commentRules hl with ⟨_, hl⟩ | ⟨_, hl⟩ | ⟨_, hl⟩ | ⟨hstate, _, hl⟩
    · rw [hl]
      exact .finish _
    · rw [hl]
      exact wellNested_pushComment rfl _ _
    · rw [hl]
      exact .ask trivial fun reply _ ↦ .inl (.finish _)
    · rw [hl]
      exact wellNested_popComment _ hstate
  · rcases handler_commentRules ha with rfl | rfl
    · exact .finish _
    · exact .finish _

/-- What the rules for words and comments decide with ends. -/
theorem actionsEnd_commentRules {m : Machine} (hrules : m.rules = commentRules) (scan : Scan) :
    m.ActionsEnd scan := by
  refine Machine.actionsEnd_of_rules (fun state l hl token k ↦ ?_) fun state a ha token k ↦ ?_
  · rw [hrules] at hl
    rcases lexemes_commentRules hl with ⟨_, hl⟩ | ⟨_, hl⟩ | ⟨_, hl⟩ | ⟨_, _, hl⟩
    · rw [hl]
      rfl
    · rw [hl]
      change (Option.map _ (m.perform (Step.request _ _ (k.push m.rules "comment").1) _)).isSome =
        true
      cases (k.push m.rules "comment").1 <;> rfl
    · rw [hl]
      rfl
    · rw [hl]
      change (Option.map _ (m.perform (Step.request _ _ k.pop.1) _)).isSome = true
      cases k.pop.1 <;> rfl
  · rw [hrules] at ha
    rcases handler_commentRules ha with rfl | rfl <;> rfl

/-- A text that closes a comment opened by an earlier one. -/
theorem tokenize_of_wellNested_commentLexer :
    (∀ l₁, Relation.ReflTransGen Scans commentLexer l₁ → l₁.WellNested (· = "comment")) ∧
      ∃ l', Relation.ReflTransGen Scans commentLexer l' ∧ l'.cursor.state = "comment" ∧
        l'.cursor.stack = ["initial"] ∧
        ∃ tokens l'' journal,
          l'.tokenize 0 "? --> !\nb" = some (.ok tokens, l'', journal) := by
  have hnested : ∀ l₁, Relation.ReflTransGen Scans commentLexer l₁ →
      l₁.WellNested (· = "comment") := by
    intro l₁ h depth text
    obtain ⟨k, rfl⟩ := exists_withCursor_of_scans h
    exact allWellNested_commentRules _ _
  have hsome : (commentLexer.pulls 0 "a <!-- <!--" none).isSome = true := by decide +kernel
  obtain ⟨⟨ps, l'⟩, hps⟩ := Option.isSome_iff_exists.1 hsome
  have hcursor : l'.cursor.state = "comment" ∧ l'.cursor.stack = ["initial"] := by
    have : (commentLexer.pulls 0 "a <!-- <!--" none).map (fun r ↦
        (r.2.cursor.state, r.2.cursor.stack)) = some ("comment", ["initial"]) := by decide +kernel
    rw [hps] at this
    exact Prod.mk.inj (Option.some.inj this)
  have hscans : Relation.ReflTransGen Scans commentLexer l' := .single ⟨0, _, .pulls hps⟩
  have hrules : RuleSet.ofDeclarations commentDeclarations = .ok commentLexer.rules := rfl
  have hend : (l'.machine 0).ActionsEnd (l'.scan "? --> !\nb") := by
    obtain ⟨k, rfl⟩ := exists_withCursor_of_scans hscans
    exact actionsEnd_commentRules rfl _
  obtain ⟨_, htokens, _⟩ := tokenize_of_wellNested hrules
    (fun state ↦ isSome_handler_commentRules) (by decide) rfl hnested hscans 0 "? --> !\nb"
  exact ⟨hnested, l', hscans, hcursor.1, hcursor.2, htokens hend⟩

end Lexer

end ModalLexer
