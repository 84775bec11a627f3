import ModalLexer.Proofs.Progress

/-!
# What a scan comes to

An action calls the engine, at one cursor after another, and such a call may start a scan of another
text, whose actions call the engine in turn. `Situation.Arises` says which situations a scan comes
to, those in the scans that its actions start included. If every call that is made there leads
forward, in whatever sense, then so does all that the scan does (`Situation.Forward.rel_of_arises`):
a call that starts a scan need not be looked at, since it leads forward if the calls made in that
scan do.
-/

namespace ModalLexer

open Text (Spot)

/-! ### Calls -/

/-- A request and the cursor at which it is made. -/
structure Call where
  cursor : Cursor
  request : Request

/-- What an action does with the candidate that it is to decide about. -/
def Decider.routine (d : Decider) (text : List Char) (k : Cursor) : Routine :=
  d.action (Token.ofMatch d.name text k.position)

namespace Machine

/-- Those who decide are the lexemes of the current state and its handler. -/
theorem Decides.rule_or_handler {m : Machine} {s : Spot} {k : Cursor} {d : Decider}
    {text : List Char} (h : m.Decides s k d text) :
    (∃ l ∈ m.rules.lexemes k.state, d = .rule l) ∨
      ∃ a, m.rules.handler? k.state = some a ∧ d = .handler a := by
  cases h with
  | rule hahead hkept hwins => exact .inl ⟨_, Wins.mem hwins, rfl⟩
  | handler hahead hkept hunmatched hhandles => exact .inr ⟨_, hhandles, rfl⟩

/-- The calls that a routine makes of a machine, in order. -/
def calls (m : Machine) : Routine → Cursor → List Call
  | .finish _, _ => []
  | .ask r next, k =>
    ⟨k, r⟩ :: (m.answer k r).elim [] fun reply ↦ m.calls (next reply.value) reply.cursor

/-- The requests of a routine are those of its calls. -/
theorem map_request_calls (m : Machine) (routine : Routine) (k : Cursor) :
    (m.calls routine k).map (·.request) = m.requests routine k := by
  induction routine generalizing k with
  | finish => rfl
  | ask r next ih =>
    rw [calls, requests, List.map_cons]
    cases m.answer k r with
    | none => rfl
    | some reply => exact congrArg (r :: ·) (ih reply.value reply.cursor)

/-- The engine's answer to a call leads from its cursor to a related one. -/
def Relates (m : Machine) (R : Cursor → Cursor → Prop) (c : Call) : Prop :=
  ∀ reply, m.answer c.cursor c.request = some reply → R c.cursor reply.cursor

end Machine

/-- A relation in which a scan may lead forward: it can be followed from cursor to cursor, and it
does not look at what is still to be skipped. -/
structure Cursor.Course (R : Cursor → Cursor → Prop) : Prop where
  refl : ∀ k, R k k
  trans : ∀ {k k' k''}, R k k' → R k' k'' → R k k''
  clearSkip : ∀ k, R k k.clearSkip

namespace Machine

/-- A condition on every call that is made in the course of a scan. -/
def AllCalls (m : Machine) (P : Call → Prop) (scan : Scan) : Prop :=
  ∀ σs s k, m.Run scan.spot scan.cursor σs s k → ∀ d text, m.Decides s k d text →
    ∀ c ∈ m.calls (d.routine text k) k, P c

variable {m : Machine} {R : Cursor → Cursor → Prop} {s s' : Spot} {k k' : Cursor}
  {routine : Routine}

section Calls

variable (hR : Cursor.Course R)
include hR

/-- Every call of a routine is made further on. -/
theorem rel_of_mem_calls (hcalls : ∀ c ∈ m.calls routine k, m.Relates R c) :
    ∀ c ∈ m.calls routine k, R k c.cursor := by
  induction routine generalizing k with
  | finish => simp [calls]
  | ask r next ih =>
    rw [calls] at hcalls ⊢
    obtain ⟨hfirst, hrest⟩ := List.forall_mem_cons.1 hcalls
    refine List.forall_mem_cons.2 ⟨hR.refl k, ?_⟩
    cases hreply : m.answer k r with
    | none => simp
    | some reply =>
      rw [hreply] at hrest
      intro c hc
      exact hR.trans (hfirst reply hreply) (ih reply.value hrest c hc)

/-- A routine that ends has had an answer to each of its calls, and it ends further on. -/
theorem rel_of_perform (hcalls : ∀ c ∈ m.calls routine k, m.Relates R c)
    {outcome : Outcome (Except LexError Verdict)} (h : m.perform routine k = some outcome) :
    R k outcome.cursor ∧ ∀ c ∈ m.calls routine k, ∃ reply,
      m.answer c.cursor c.request = some reply ∧ R reply.cursor outcome.cursor := by
  induction routine generalizing k outcome with
  | finish result =>
    cases h
    exact ⟨hR.refl k, by simp [calls]⟩
  | ask r next ih =>
    rw [perform, Option.bind_eq_some_iff] at h
    obtain ⟨reply, hreply, hrest⟩ := h
    obtain ⟨result, hresult, rfl⟩ := Option.map_eq_some_iff.1 hrest
    rw [calls, hreply] at hcalls ⊢
    obtain ⟨hfirst, hlater⟩ := List.forall_mem_cons.1 hcalls
    obtain ⟨hend, hanswers⟩ := ih reply.value hlater hresult
    refine ⟨hR.trans (hfirst reply hreply) hend, List.forall_mem_cons.2 ⟨?_, hanswers⟩⟩
    exact ⟨reply, hreply, hend⟩

end Calls

/-- How the engine moves right on its own in a step: at which cursor, and by how many characters. It
does so over a character that the state ignores, over what was decided about unless the rule looks
after the column itself, over the character of a handler that failed, and over what is skipped. -/
inductive Moves (m : Machine) (s : Spot) (k : Cursor) : Cursor → Nat → Prop
  | ignored {c : Char} {rest : List Char} (ahead : s.ahead = c :: rest)
      (ignores : m.rules.ignores? k.state c = true) : Moves m s k k 1
  | decided {d : Decider} {text : List Char} {verdict : Verdict} {k' : Cursor} {journal : Journal}
      (decides : m.Decides s k d text)
      (performed : m.perform (d.routine text k) k = some ⟨.ok verdict, k', journal⟩)
      (counted : d.name ≠ Token.newlineName) : Moves m s k k' text.length
  | failed {a : Action} {text : List Char} {e : LexError} {k' : Cursor} {journal : Journal}
      (decides : m.Decides s k (.handler a) text)
      (performed : m.perform ((Decider.handler a).routine text k) k =
        some ⟨.error e, k', journal⟩) : Moves m s k k' 1
  | skipped {d : Decider} {text : List Char} {verdict : Verdict} {k' : Cursor} {journal : Journal}
      (decides : m.Decides s k d text)
      (performed : m.perform (d.routine text k) k = some ⟨.ok verdict, k', journal⟩) :
      Moves m s k (d.pass text.length k').clearSkip
        ((s.ahead.drop text.length).take k'.pendingSkip.toNat).length

/-- Whatever is done at a spot, the calls that are made for a decision lead to related cursors, and
so does the engine when it moves right on its own. -/
structure RelatesAt (m : Machine) (R : Cursor → Cursor → Prop) (s : Spot) (k : Cursor) : Prop where
  calls : ∀ d text, m.Decides s k d text → ∀ c ∈ m.calls (d.routine text k) k, m.Relates R c
  moves : ∀ k' count, m.Moves s k k' count → R k' (k'.advanceColumn (.ofNat count))

section Steps

variable (hR : Cursor.Course R)
include hR

private theorem Takes.rel {σ : Stride} (h : m.Takes s k σ s' k') (hrel : m.RelatesAt R s k) :
    R k k' := by
  cases h with
  | ignored hahead hignores => exact hrel.moves k 1 (.ignored hahead hignores)
  | @decided d k₁ journal hdecides hcandidate hrequests hperformed hskipped =>
    rw [hcandidate] at hperformed
    have hend : R k k₁ := (rel_of_perform hR (hrel.calls _ _ hdecides) hperformed).1
    have hpass : R k₁ (d.decider.pass d.text.length k₁) := by
      unfold Decider.pass
      split
      · exact hR.refl k₁
      · next hname => exact hrel.moves k₁ _ (.decided hdecides hperformed hname)
    have hskip := hrel.moves _ _ (.skipped hdecides hperformed)
    rw [← hskipped] at hskip
    exact hR.trans (hR.trans hend hpass) (hR.trans (hR.clearSkip _) hskip)

private theorem Fails.rel {e : LexError} (h : m.Fails s k e s' k') (hrel : m.RelatesAt R s k) :
    R k k' := by
  cases h with
  | unrecognized => exact hR.refl k
  | rule hdecides hperformed => exact (rel_of_perform hR (hrel.calls _ _ hdecides) hperformed).1
  | handler hdecides hperformed =>
    have hend := (rel_of_perform hR (hrel.calls _ _ hdecides) hperformed).1
    exact hR.trans hend (hrel.moves _ 1 (.failed hdecides hperformed))

/-- A run leads forward if all that is done on the way does. -/
theorem Run.rel {σs : List Stride} (h : m.Run s k σs s' k')
    (hrel : ∀ {τs s₁ k₁}, m.Run s k τs s₁ k₁ → m.RelatesAt R s₁ k₁) : R k k' := by
  induction h with
  | nil => exact hR.refl _
  | cons first _ ih =>
    have hfirst := first.rel hR (hrel (.nil _ _))
    exact hR.trans hfirst (ih fun hrun ↦ hrel (.cons first hrun))

/-- What comes next is further on if all that is done before it leads forward. -/
theorem rel_of_next {scan : Scan} {pull : Pull} (h : m.next scan = some pull)
    (hrel : ∀ {τs s₁ k₁}, m.Run scan.spot scan.cursor τs s₁ k₁ → m.RelatesAt R s₁ k₁) :
    R scan.cursor pull.scan.cursor := by
  rcases next_run h with ⟨_, rfl⟩ | ⟨_, σs, s₁, k₁, hrun, _, hgives⟩
  · exact hR.refl _
  · have hk₁ := hrun.rel hR hrel
    cases hgives with
    | nothing => exact hk₁
    | token takes => exact hR.trans hk₁ (takes.rel hR (hrel hrun))
    | error fails => exact hR.trans (hR.trans hk₁ (fails.rel hR (hrel hrun))) (hR.clearSkip _)

/-- However far a scan is followed, it leads forward if all that is done on the way does. -/
theorem Asked.rel {scan scan' : Scan} (h : m.Asked scan scan')
    (hrel : ∀ {τs s₁ k₁}, m.Run scan.spot scan.cursor τs s₁ k₁ → m.RelatesAt R s₁ k₁) :
    R scan.cursor scan'.cursor := by
  induction h with
  | none => exact hR.refl _
  | @more scan scan' pull hnext hrest ih =>
    have hfirst := rel_of_next hR hnext hrel
    cases hdone : pull.scan.done with
    | true =>
      rw [hrest.eq_of_done hdone]
      exact hfirst
    | false =>
      obtain ⟨σs, hrun⟩ := (Asked.more hnext (.none _)).exists_run hdone
      exact hR.trans hfirst (ih fun hlater ↦ hrel (hrun.trans hlater))

/-- So does a scan of a whole text. -/
theorem rel_of_tokenize {text : List Char} {outcome : Outcome (Except LexError (List Token))}
    (h : m.tokenize text k = some outcome)
    (hrel : ∀ {τs s₁ k₁}, m.Run (.start text) k.clearSkip τs s₁ k₁ → m.RelatesAt R s₁ k₁) :
    R k outcome.cursor := by
  obtain ⟨⟨result, scan, journal⟩, hcollect, rfl⟩ := Option.map_eq_some_iff.1 h
  exact hR.trans (hR.clearSkip k) ((collect_asked hcollect).rel hR hrel)

end Steps

end Machine

/-! ### Situations -/

/-- Where a scan stands, and how deep scans that actions start may lie in each other. -/
structure Situation where
  depth : Nat
  spot : Spot
  cursor : Cursor

namespace Situation

variable (rules : RuleSet) (config : Config)

/-- The machine that scans in a situation. -/
def machine (sit : Situation) : Machine := .ofDepth rules config sit.depth

/-- What is decided about in a situation, and by whom. -/
def Decides (sit : Situation) : Decider → List Char → Prop :=
  (sit.machine rules config).Decides sit.spot sit.cursor

/-- The calls that are made for a decision in a situation. -/
def calls (sit : Situation) (d : Decider) (text : List Char) : List Call :=
  (sit.machine rules config).calls (d.routine text sit.cursor) sit.cursor

/-- The situations that a scan comes to: after some steps of its own, and in scans that are started
by its actions. -/
inductive Arises (start : Situation) : Situation → Prop
  | start : Arises start start
  | step {sit : Situation} {σ : Stride} {s : Spot} {k : Cursor} (before : Arises start sit)
      (takes : (sit.machine rules config).Takes sit.spot sit.cursor σ s k) :
      Arises start ⟨sit.depth, s, k⟩
  | within {depth : Nat} {s : Spot} {k k' : Cursor} {d : Decider} {text : List Char}
      {input : String} (before : Arises start ⟨depth + 1, s, k⟩)
      (decides : Decides rules config ⟨depth + 1, s, k⟩ d text)
      (calls : ⟨k', .tokenize input⟩ ∈ calls rules config ⟨depth + 1, s, k⟩ d text) :
      Arises start ⟨depth, .start input.toList, k'.clearSkip⟩

/-- A condition on every call that is made in the situations that a scan comes to. -/
def AllCalls (P : Call → Prop) (start : Situation) : Prop :=
  ∀ sit, Arises rules config start sit → ∀ d text, Decides rules config sit d text →
    ∀ c ∈ calls rules config sit d text, P c

variable {rules config} {start sit : Situation} {R : Cursor → Cursor → Prop}

/-- What a situation comes to, a scan that comes to it comes to. -/
theorem Arises.trans {sit' : Situation} (h : Arises rules config start sit)
    (h' : Arises rules config sit sit') : Arises rules config start sit' := by
  induction h' with
  | start => exact h
  | step _ takes ih => exact .step ih takes
  | within _ decides calls ih => exact .within ih decides calls

/-- A scan comes to wherever a run leads from what it comes to. -/
theorem Arises.run {depth : Nat} {s s' : Spot} {k k' : Cursor} {σs : List Stride}
    (h : Arises rules config start ⟨depth, s, k⟩)
    (hrun : (Machine.ofDepth rules config depth).Run s k σs s' k') :
    Arises rules config start ⟨depth, s', k'⟩ := by
  induction hrun with
  | nil => exact h
  | cons first _ ih => exact ih (.step h first)

/-- All that is done in the situations that a scan comes to leads to related cursors. Calls that
start a scan are left out: what they come to is looked at itself. -/
structure Forward (rules : RuleSet) (config : Config) (R : Cursor → Cursor → Prop)
    (start : Situation) : Prop where
  calls : ∀ sit, Arises rules config start sit → ∀ d text, Decides rules config sit d text →
    ∀ c ∈ Situation.calls rules config sit d text, (∀ input, c.request ≠ .tokenize input) →
      (sit.machine rules config).Relates R c
  moves : ∀ sit, Arises rules config start sit → ∀ k count,
    (sit.machine rules config).Moves sit.spot sit.cursor k count →
      R k (k.advanceColumn (.ofNat count))

/-- What goes forward from a situation does so from those that come after it. -/
theorem Forward.of_arises (h : Forward rules config R start)
    (hsit : Arises rules config start sit) : Forward rules config R sit :=
  ⟨fun sit' hsit' ↦ h.calls sit' (hsit.trans hsit'),
    fun sit' hsit' ↦ h.moves sit' (hsit.trans hsit')⟩

section Course

variable (hR : Cursor.Course R)
include hR

/-- Calls that start a scan lead forward as well. -/
theorem Forward.relatesAt (h : Forward rules config R sit) :
    (sit.machine rules config).RelatesAt R sit.spot sit.cursor := by
  -- The induction is on the depth: a scan that is started has less of it left.
  obtain ⟨depth, s, k⟩ := sit
  refine ⟨?_, h.moves _ .start⟩
  induction depth generalizing s k with
  | zero =>
    intro d text hdecides c hc
    obtain ⟨k', r⟩ := c
    cases r with
    | tokenize input =>
      intro reply hreply
      cases hreply
    | _ => exact h.calls _ .start d text hdecides _ hc (by simp)
  | succ depth ih =>
    intro d text hdecides c hc
    obtain ⟨k', r⟩ := c
    cases r with
    | tokenize input =>
      intro reply hreply
      have hstart : Arises rules config ⟨depth + 1, s, k⟩
          ⟨depth, .start input.toList, k'.clearSkip⟩ := .within .start hdecides hc
      refine Machine.rel_of_tokenize hR (m := .ofDepth rules config depth) hreply ?_
      intro τs s₁ k₁ hrun
      have hlater := h.of_arises (hstart.run hrun)
      exact ⟨ih s₁ k₁ hlater, hlater.moves _ .start⟩
    | _ => exact h.calls _ .start d text hdecides _ hc (by simp)

/-- Whatever a scan comes to is further on. -/
theorem Forward.rel_of_arises (h : Forward rules config R start)
    (hsit : Arises rules config start sit) : R start.cursor sit.cursor := by
  induction hsit with
  | start => exact hR.refl _
  | step before takes ih =>
    exact hR.trans ih (takes.rel hR ((h.of_arises before).relatesAt hR))
  | within before decides calls ih =>
    have hcalls := ((h.of_arises before).relatesAt hR).calls _ _ decides
    exact hR.trans ih (hR.trans (Machine.rel_of_mem_calls hR hcalls _ calls) (hR.clearSkip _))

/-- Wherever a scan may be left, that is further on. -/
theorem Forward.rel_of_asked {depth : Nat} {scan scan' : Scan}
    (h : Forward rules config R ⟨depth, scan.spot, scan.cursor⟩)
    (hasked : (Machine.ofDepth rules config depth).Asked scan scan') :
    R scan.cursor scan'.cursor := by
  apply hasked.rel hR
  intro τs s₁ k₁ hrun
  exact (h.of_arises (Arises.start.run hrun)).relatesAt hR

end Course

end Situation

namespace Lexer

/-- The situation in which a scan of a text starts. -/
def situation (l : Lexer) (depth : Nat) (text : String) : Situation :=
  ⟨depth, (l.scan text).spot, (l.scan text).cursor⟩

end Lexer

end ModalLexer
