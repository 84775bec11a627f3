import Mathlib.Data.List.Forall2
import ModalLexer.Proofs.Resumption
import ModalLexer.Proofs.Situations
import ModalLexer.Proofs.Views

/-!
# Scans that agree

Two machines may have different rules and options and scan alike nevertheless. What they do agrees
if it differs at most in what is logged. If the second machine takes an agreeing step wherever a
scan comes on the first one, then all that the scan gives agrees (`pulls_agree`, `tokenize_agrees`).
A step agrees if the same characters are decided about in the same way (`steps_agree`), provided
that the scans agree which the action starts; and these do if all steps in them agree
(`Situation.Inside.nestedAgree`). When a step fails, the machines may also be left apart in some
way.
-/

namespace ModalLexer

open Text (Spot)

/-! ### Options -/

section Rel

variable {α β γ δ : Type} {R : α → β → Prop} {S : γ → δ → Prop} {x : Option α} {y : Option β}

/-- Related values that lead to related options do so if there are any. -/
private theorem rel_bind {f : α → Option γ} {g : β → Option δ} (h : Option.Rel R x y)
    (hfg : ∀ a b, x = some a → R a b → Option.Rel S (f a) (g b)) :
    Option.Rel S (x.bind f) (y.bind g) := by
  cases h with
  | none => exact .none
  | some hab => exact hfg _ _ rfl hab

private theorem rel_map {f : α → γ} {g : β → δ} (h : Option.Rel R x y)
    (hfg : ∀ a b, R a b → S (f a) (g b)) : Option.Rel S (x.map f) (y.map g) := by
  cases h with
  | none => exact .none
  | some hab => exact .some (hfg _ _ hab)

end Rel

/-! ### What agrees -/

/-- Two outcomes differ at most in what is logged: actions write down the same. -/
structure Outcome.Agrees {α : Type} (o o' : Outcome α) : Prop where
  value : o.value = o'.value
  cursor : o.cursor = o'.cursor
  notes : o.journal.notes = o'.journal.notes

/-- Two pulls differ at most in what is logged, unless the scans are over and are left apart in some
way. -/
structure Pull.Agrees (Apart : Scan → Scan → Prop) (p p' : Pull) : Prop where
  item : p.item = p'.item
  notes : p.journal.notes = p'.journal.notes
  scan : p.scan = p'.scan ∨ (p.scan.done = true ∧ p'.scan.done = true ∧ Apart p.scan p'.scan)

/-- Scans are never left apart. -/
def Scan.NeverApart : Scan → Scan → Prop := fun _ _ ↦ False

/-- Scans that are never left apart are left at the same place. -/
theorem Pull.Agrees.scan_eq {p p' : Pull} (h : p.Agrees Scan.NeverApart p') : p.scan = p'.scan :=
  h.scan.resolve_right fun hapart ↦ hapart.2.2

/-- Where a scan is left if the action fails with which a decision is to be made. -/
def Decider.over (d : Decider) (s : Spot) (k : Cursor) : Scan :=
  match d with
  | rule _ => ⟨s, k.clearSkip, true⟩
  | handler _ => ⟨s.advance 1, k.clearSkip.advanceColumn 1, true⟩

namespace Machine

/-- Where a scan is left if a step fails at a place. -/
def Place.over (p : Place) : Scan := ⟨p.spot, p.cursor.clearSkip, true⟩

/-- Two results of a step differ at most in what is logged, unless the steps fail and leave the
scans apart in some way. -/
inductive StepResult.Agrees (Apart : Scan → Scan → Prop) : StepResult → StepResult → Prop
  | moved {token : Option Token} {place place' : Place} (spot : place.spot = place'.spot)
      (cursor : place.cursor = place'.cursor) (notes : place.journal.notes = place'.journal.notes) :
      Agrees Apart (.moved token place) (.moved token place')
  | failed {e : LexError} {place place' : Place}
      (notes : place.journal.notes = place'.journal.notes)
      (left : place.over = place'.over ∨ Apart place.over place'.over) :
      Agrees Apart (.failed e place) (.failed e place')

/-- Two machines take agreeing steps at a spot. -/
def StepsAgree (Apart : Scan → Scan → Prop) (m m' : Machine) (s : Spot) (k : Cursor) : Prop :=
  ∀ c rest, s.ahead = c :: rest →
    Option.Rel (StepResult.Agrees Apart) (m.step c s k) (m'.step c s k)

/-- The scans that some calls start agree. -/
def AgreeOn (m m' : Machine) (cs : List Call) : Prop :=
  ∀ k input, ⟨k, .tokenize input⟩ ∈ cs →
    Option.Rel Outcome.Agrees (m.nested input.toList k) (m'.nested input.toList k)

/-! ### Routines -/

variable {Apart : Scan → Scan → Prop} {m m' : Machine} {s : Spot} {k : Cursor}

section Routines

variable (hstates : m.rules.hasState = m'.rules.hasState)
include hstates

private theorem answer_agrees {r : Request}
    (h : ∀ input, r = .tokenize input →
      Option.Rel Outcome.Agrees (m.nested input.toList k) (m'.nested input.toList k)) :
    Option.Rel Outcome.Agrees (m.answer k r) (m'.answer k r) := by
  cases r with
  | begin state =>
    have hbegin : k.begin m.rules state = k.begin m'.rules state := by
      rw [Cursor.begin, Cursor.begin, hstates]
    rw [answer, answer, hbegin]
    exact .some ⟨rfl, rfl, rfl⟩
  | push state =>
    have hpush : k.push m.rules state = k.push m'.rules state := by
      rw [Cursor.push, Cursor.push, hstates]
    rw [answer, answer, hpush]
    exact .some ⟨rfl, rfl, rfl⟩
  | tokenize input => exact h input rfl
  | _ => exact .some ⟨rfl, rfl, rfl⟩

/-- A routine has agreeing outcomes if the scans that it starts agree. -/
theorem perform_agrees {routine : Routine} (h : AgreeOn m m' (m.calls routine k)) :
    Option.Rel Outcome.Agrees (m.perform routine k) (m'.perform routine k) := by
  induction routine generalizing k with
  | finish outcome => exact .some ⟨rfl, rfl, rfl⟩
  | ask r next ih =>
    rw [calls] at h
    rw [perform, perform]
    refine rel_bind (answer_agrees hstates ?_) fun reply reply' hreply hsame ↦ ?_
    · rintro input rfl
      exact h k input List.mem_cons_self
    rw [hreply] at h
    have hrest : AgreeOn m m' (m.calls (next reply.value) reply.cursor) :=
      fun k' input hmem ↦ h k' input (List.mem_cons_of_mem _ hmem)
    rw [← hsame.value, ← hsame.cursor]
    refine rel_map (ih reply.value hrest) fun result result' hresult ↦
      ⟨hresult.value, hresult.cursor, ?_⟩
    rw [Journal.notes_append, Journal.notes_append, hsame.notes, hresult.notes]

/-- A routine that ends on one machine ends in the same way on the other. -/
theorem exists_perform_eq {routine : Routine} (h : AgreeOn m m' (m.calls routine k))
    {value : Except LexError Verdict} {k₁ : Cursor} {journal : Journal}
    (hperform : m.perform routine k = some ⟨value, k₁, journal⟩) :
    ∃ journal', m'.perform routine k = some ⟨value, k₁, journal'⟩ := by
  have houtcome := perform_agrees hstates h
  rw [hperform] at houtcome
  generalize m'.perform routine k = y at houtcome
  cases houtcome with
  | @some _ outcome' hsame =>
    obtain ⟨value', k₁', journal'⟩ := outcome'
    cases hsame.value
    cases hsame.cursor
    exact ⟨journal', rfl⟩

/-- A routine makes the same call of both machines if the scans that it started before agree. -/
theorem calls_prefix {routine : Routine} {earlier later : List Call} {c : Call}
    (hcalls : m.calls routine k = earlier ++ c :: later) (h : AgreeOn m m' earlier) :
    ∃ later', m'.calls routine k = earlier ++ c :: later' := by
  induction routine generalizing k earlier with
  | finish outcome => simp [calls] at hcalls
  | ask r next ih =>
    rw [calls] at hcalls ⊢
    cases earlier with
    | nil =>
      obtain ⟨rfl, -⟩ := List.cons.inj hcalls
      exact ⟨_, rfl⟩
    | cons first earlier =>
      obtain ⟨rfl, hrest⟩ := List.cons.inj hcalls
      have hanswer : Option.Rel Outcome.Agrees (m.answer k r) (m'.answer k r) := by
        apply answer_agrees hstates
        rintro input rfl
        exact h k input List.mem_cons_self
      generalize m.answer k r = x, m'.answer k r = y at hanswer hrest
      cases hanswer with
      | none => simp at hrest
      | @some reply reply' hreply =>
        obtain ⟨later', hlater'⟩ := ih reply.value hrest
          fun k' input hmem ↦ h k' input (List.mem_cons_of_mem _ hmem)
        refine ⟨later', ?_⟩
        rw [Option.elim_some, ← hreply.value, ← hreply.cursor, hlater']
        rfl

end Routines

/-! ### Steps -/

/-- Logging writes down nothing that an action would. -/
theorem notes_tryEvents (m : Machine) (k : Cursor) : (m.tryEvents k).notes = [] := by
  rw [tryEvents]
  split
  · simp [Journal.notes]
  · rfl

/-- The tables are logged only. -/
theorem notes_tableEvents (m : Machine) : m.tableEvents.notes = [] := by
  rw [tableEvents]
  split
  · rw [Journal.notes, List.filterMap_eq_nil_iff]
    intro entry hentry
    rcases List.mem_cons.1 hentry with rfl | hentry
    · rfl
    · simp only [List.mem_flatMap, List.mem_cons, List.not_mem_nil, or_false] at hentry
      rcases hentry with ⟨_, _, rfl | rfl⟩ <;> rfl
  · rfl

private theorem settle_agrees (m m' : Machine) (verdict : Verdict) (s : Spot) (k : Cursor)
    {journal journal' : Journal} (h : journal.notes = journal'.notes) :
    StepResult.Agrees Apart (m.settle verdict s k journal) (m'.settle verdict s k journal') := by
  have hemitted (config : Config) (token : Token) :
      Journal.notes (if config.debug then [.event (.emitted token)] else []) = [] := by
    split <;> rfl
  cases verdict with
  | suppress => exact .moved rfl rfl h
  | emit token =>
    refine .moved rfl rfl ?_
    rw [Journal.notes_append, Journal.notes_append, hemitted, hemitted, h]

/-- Where a step is left if the action fails with which a decision is to be made. -/
private theorem conclude_error (m : Machine) (d : Decider) (text : List Char) (s : Spot)
    (k k₁ : Cursor) (e : LexError) (journal : Journal) :
    ∃ place, m.conclude d text s k ⟨.error e, k₁, journal⟩ = .failed e place ∧
      place.over = d.over s k₁ ∧ place.journal.notes = Journal.notes journal := by
  cases d <;> refine ⟨_, rfl, rfl, ?_⟩ <;>
    rw [Journal.notes_append, notes_tryEvents, List.nil_append]

/-- Steps agree if the same characters are decided about in the same way, if the scans agree that
the action starts, and if the scans are left the same or apart should it fail. -/
private theorem step_agrees_of_decides (hstates : m.rules.hasState = m'.rules.hasState)
    {d d' : Decider} {text : List Char} (h : m.Decides s k d text) (h' : m'.Decides s k d' text)
    (hname : d.name = d'.name) (haction : d.action = d'.action)
    (hnested : AgreeOn m m' (m.calls (d.routine text k) k))
    (hleft : ∀ e k₁ journal, m.perform (d.routine text k) k = some ⟨.error e, k₁, journal⟩ →
      d.over s k₁ = d'.over s k₁ ∨ Apart (d.over s k₁) (d'.over s k₁)) :
    StepsAgree Apart m m' s k := by
  intro c rest hahead
  have houtcome := perform_agrees hstates hnested
  rw [step_of_decides hahead h, step_of_decides hahead h', ← hname, ← haction]
  change Option.Rel _ ((m.perform (d.routine text k) k).map _)
    ((m'.perform (d.routine text k) k).map _)
  generalize m.perform (d.routine text k) k = x, m'.perform (d.routine text k) k = y
    at houtcome hleft
  cases houtcome with
  | none => exact .none
  | @some outcome outcome' hsame =>
    obtain ⟨value, k₁, journal⟩ := outcome
    obtain ⟨value', k₁', journal'⟩ := outcome'
    obtain ⟨hvalue, hcursor, hnotes⟩ := hsame
    cases hvalue
    cases hcursor
    refine .some ?_
    cases value with
    | ok verdict =>
      have hpass : d.pass text.length k₁ = d'.pass text.length k₁ := by
        rw [Decider.pass, Decider.pass, hname]
      change StepResult.Agrees Apart (m.settle verdict _ (d.pass text.length k₁) _)
        (m'.settle verdict _ (d'.pass text.length k₁) _)
      rw [hpass]
      refine settle_agrees m m' verdict _ _ ?_
      rw [Journal.notes_append, Journal.notes_append, notes_tryEvents, notes_tryEvents]
      exact congrArg _ hnotes
    | error e =>
      obtain ⟨place, hplace, hover, hjournal⟩ := conclude_error m d text s k k₁ e journal
      obtain ⟨place', hplace', hover', hjournal'⟩ := conclude_error m' d' text s k k₁ e journal'
      rw [hplace, hplace']
      refine .failed (hjournal.trans (hnotes.trans hjournal'.symm)) ?_
      rw [hover, hover']
      exact hleft e k₁ journal rfl

/-- Where steps agree, the second machine takes a step wherever the first one does. -/
theorem StepsAgree.takes (h : StepsAgree Apart m m' s k) {σ : Stride} {s' : Spot} {k' : Cursor}
    (htakes : m.Takes s k σ s' k') : ∃ σ', m'.Takes s k σ' s' k' ∧ σ'.token? = σ.token? := by
  obtain ⟨c, rest, journal, hahead, hstep⟩ := takes_iff.1 ⟨σ, htakes, rfl⟩
  have hagrees := h c rest hahead
  rw [hstep] at hagrees
  generalize hstep' : m'.step c s k = y at hagrees
  cases hagrees with
  | some hresult =>
    cases hresult with
    | @moved _ _ place' hspot hcursor hnotes =>
      obtain ⟨s₁, k₁, journal'⟩ := place'
      cases hspot
      cases hcursor
      exact takes_iff.2 ⟨c, rest, journal', hahead, hstep'⟩

/-- A run of steps that emit nothing can be taken on the second machine as well. -/
theorem Run.agrees {s' : Spot} {k' : Cursor} {σs : List Stride} (h : m.Run s k σs s' k')
    (hsilent : ∀ σ ∈ σs, σ.token? = none)
    (hsteps : ∀ τs s₁ k₁, m.Run s k τs s₁ k₁ → (∀ σ ∈ τs, σ.token? = none) →
      StepsAgree Apart m m' s₁ k₁) :
    ∃ σs', m'.Run s k σs' s' k' ∧ ∀ σ ∈ σs', σ.token? = none := by
  induction h with
  | nil s k => exact ⟨[], .nil s k, by simp⟩
  | @cons s s₁ s' k k₁ k' σ σs first _ ih =>
    obtain ⟨hσ, hrest⟩ := List.forall_mem_cons.1 hsilent
    obtain ⟨σ', first', htoken⟩ := (hsteps [] s k (.nil s k) (by simp)).takes first
    obtain ⟨σs', rest', hlater⟩ := ih hrest fun τs s₂ k₂ hrun hτs ↦
      hsteps (σ :: τs) s₂ k₂ (.cons first hrun) (List.forall_mem_cons.2 ⟨hσ, hτs⟩)
    exact ⟨σ' :: σs', .cons first' rest', List.forall_mem_cons.2 ⟨htoken.trans hσ, hlater⟩⟩

/-- Steps agree if the next character is ignored by both or by none, if the same characters are
decided about in the same way, if otherwise nobody decides on the second machine either, and if the
scans agree that actions start. If the action fails, the scans may be left apart. -/
theorem steps_agree (hstates : m.rules.hasState = m'.rules.hasState)
    (hignores : ∀ c rest, s.ahead = c :: rest →
      m.rules.ignores? k.state c = m'.rules.ignores? k.state c)
    (hdecides : ∀ d text, m.Decides s k d text → ∃ d', m'.Decides s k d' text ∧
      d.name = d'.name ∧ d.action = d'.action ∧
      ∀ e k₁ journal, m.perform (d.routine text k) k = some ⟨.error e, k₁, journal⟩ →
        d.over s k₁ = d'.over s k₁ ∨ Apart (d.over s k₁) (d'.over s k₁))
    (hnobody : (∀ l ∈ m.rules.lexemes k.state, l.matcher.span? s = none) →
      m.rules.handler? k.state = none →
      (∀ l ∈ m'.rules.lexemes k.state, l.matcher.span? s = none) ∧
        m'.rules.handler? k.state = none)
    (hnested : ∀ d text, m.Decides s k d text → m.AgreeOn m' (m.calls (d.routine text k) k)) :
    StepsAgree Apart m m' s k := by
  intro c rest hahead
  rcases ignored_or_decides (m := m) (k := k) hahead with hig | ⟨d, text, hd⟩ | ⟨hk, hu, hh⟩
  · rw [step, step, ← hignores c rest hahead, hig]
    exact .some (.moved rfl rfl rfl)
  · obtain ⟨d', hd', hname, haction, hleft⟩ := hdecides d text hd
    have hcalls := hnested d text hd
    exact step_agrees_of_decides hstates hd hd' hname haction hcalls hleft c rest hahead
  · obtain ⟨hu', hh'⟩ := hnobody hu hh
    rw [step_of_unhandled hk hu hh, step_of_unhandled (hignores c rest hahead ▸ hk) hu' hh']
    refine .some (.failed ?_ (.inl rfl))
    rw [notes_tryEvents, notes_tryEvents]

/-- Steps agree if the next character is ignored by both or by none, if the longest match and the
handlers are the same, and if the scans agree that actions start. -/
theorem steps_agree_of_longestMatch_eq (hstates : m.rules.hasState = m'.rules.hasState)
    (hignores : ∀ c rest, s.ahead = c :: rest →
      m.rules.ignores? k.state c = m'.rules.ignores? k.state c)
    (hlongest : longestMatch (m.rules.lexemes k.state) s =
      longestMatch (m'.rules.lexemes k.state) s)
    (hhandler : m.rules.handler? k.state = m'.rules.handler? k.state)
    (hnested : ∀ d text, m.Decides s k d text → m.AgreeOn m' (m.calls (d.routine text k) k)) :
    StepsAgree Scan.NeverApart m m' s k := by
  have hunmatched (h : ∀ l ∈ m.rules.lexemes k.state, l.matcher.span? s = none) :
      ∀ l ∈ m'.rules.lexemes k.state, l.matcher.span? s = none := by
    rwa [← longestMatch_eq_none_iff, ← hlongest, longestMatch_eq_none_iff]
  refine steps_agree hstates hignores (fun d text hd ↦ ⟨d, ?_, rfl, rfl, fun _ _ _ _ ↦ .inl rfl⟩)
    (fun hu hh ↦ ⟨hunmatched hu, hhandler ▸ hh⟩) hnested
  cases hd with
  | rule hahead hkept hwins =>
    rw [← longestMatch_eq_some_iff, hlongest, longestMatch_eq_some_iff] at hwins
    exact .rule hahead (hignores _ _ hahead ▸ hkept) hwins
  | handler hahead hkept hu hh =>
    exact .handler hahead (hignores _ _ hahead ▸ hkept) (hunmatched hu) (hhandler ▸ hh)

/-! ### Scans -/

/-- What a scan gives once a step is taken agrees if the steps agree and what comes next does. -/
private theorem follow_agrees {result result' : StepResult} (h : result.Agrees Apart result')
    (hlater : ∀ place, result = .moved none place → Option.Rel (Pull.Agrees Apart)
      (m.nextFrom place.spot place.cursor) (m'.nextFrom place.spot place.cursor)) :
    Option.Rel (Pull.Agrees Apart) (m.follow result) (m'.follow result') := by
  cases h with
  | @moved token place place' hspot hcursor hnotes =>
    cases token with
    | some token =>
      refine .some ⟨rfl, hnotes, .inl ?_⟩
      rw [hspot, hcursor]
    | none =>
      rw [follow, follow, ← hspot, ← hcursor]
      refine rel_map (hlater place rfl) fun pull pull' hpull ↦ ⟨hpull.item, ?_, hpull.scan⟩
      rw [Journal.notes_append, Journal.notes_append, hnotes, hpull.notes]
  | failed hnotes hleft => exact .some ⟨rfl, hnotes, hleft.imp_right fun h ↦ ⟨rfl, rfl, h⟩⟩

/-- What comes next agrees if the steps do that are taken before it. -/
theorem nextFrom_agrees
    (hsteps : ∀ σs s' k', m.Run s k σs s' k' → (∀ σ ∈ σs, σ.token? = none) →
      StepsAgree Apart m m' s' k') :
    Option.Rel (Pull.Agrees Apart) (m.nextFrom s k) (m'.nextFrom s k) := by
  -- The induction is on what lies ahead: a step that emits nothing leaves less of it.
  induction hlength : s.ahead.length using Nat.strong_induction_on generalizing s k with
  | h length ih =>
    cases hahead : s.ahead with
    | nil =>
      rw [nextFrom_of_nil hahead, nextFrom_of_nil hahead]
      exact .some ⟨rfl, rfl, .inl rfl⟩
    | cons c rest =>
      rw [nextFrom_of_cons hahead, nextFrom_of_cons hahead]
      have hfirst := hsteps [] s k (.nil s k) (by simp) c rest hahead
      refine rel_bind hfirst fun result result' hstep h ↦ follow_agrees h ?_
      rintro place rfl
      have hless : place.spot.ahead.length < length := by
        rw [← hlength]
        exact step_lt (by simp [hahead]) hstep
      obtain ⟨σ, htakes, hσ⟩ := takes_iff.2 ⟨c, rest, place.journal, hahead, hstep⟩
      exact ih _ hless (fun σs s' k' hrun hsilent ↦
        hsteps (σ :: σs) s' k' (.cons htakes hrun) (List.forall_mem_cons.2 ⟨hσ, hsilent⟩)) rfl

/-- What a scan gives next agrees if the steps do that are taken before it. -/
theorem next_agrees {scan : Scan}
    (hsteps : ∀ σs s' k', m.Run scan.spot scan.cursor σs s' k' → (∀ σ ∈ σs, σ.token? = none) →
      StepsAgree Apart m m' s' k') :
    Option.Rel (Pull.Agrees Apart) (m.next scan) (m'.next scan) := by
  rw [next, next]
  split
  · exact .some ⟨rfl, rfl, .inl rfl⟩
  · exact nextFrom_agrees hsteps

/-- Whatever is left apart, scans that are over give nothing more. -/
private theorem pulls_agree_of_done {scan scan' : Scan} (hdone : scan.done = true)
    (hdone' : scan'.done = true) (h : scan = scan' ∨ Apart scan scan') (count : Nat) :
    Option.Rel (List.Forall₂ (Pull.Agrees Apart)) (m.pulls count scan) (m'.pulls count scan') := by
  cases count with
  | zero => exact .some .nil
  | succ count =>
    rw [pulls, pulls, next, next, if_pos hdone, if_pos hdone']
    exact .some (.cons ⟨rfl, rfl, h.imp_right fun h ↦ ⟨hdone, hdone', h⟩⟩ .nil)

/-- All that a scan gives agrees if the steps do that are taken before the last of it. -/
theorem pulls_agree {count : Nat} {scan : Scan}
    (hsteps : ∀ σs s k, m.Run scan.spot scan.cursor σs s k →
      (σs.filterMap (·.token?)).length < count → StepsAgree Apart m m' s k) :
    Option.Rel (List.Forall₂ (Pull.Agrees Apart)) (m.pulls count scan) (m'.pulls count scan) := by
  induction count generalizing scan with
  | zero => exact .some .nil
  | succ count ih =>
    have hnext : Option.Rel (Pull.Agrees Apart) (m.next scan) (m'.next scan) := by
      apply next_agrees
      intro σs s' k' hrun hsilent
      refine hsteps σs s' k' hrun ?_
      rw [List.filterMap_eq_nil_iff.2 hsilent]
      exact Nat.succ_pos count
    rw [pulls, pulls]
    refine rel_bind hnext fun pull pull' hpull hsame ↦ ?_
    rw [← hsame.item]
    cases hitem : pull.item with
    | none => exact .some (.cons hsame .nil)
    | some item =>
      refine rel_map ?_ fun ps ps' hrest ↦ .cons hsame hrest
      rcases hsame.scan with heq | ⟨hdone, hdone', hapart⟩
      · rw [← heq]
        cases item with
        | error e =>
          have hdone := (over_of_next hpull hitem).1
          exact pulls_agree_of_done hdone hdone (.inl rfl) count
        | ok token =>
          obtain ⟨τs, hbefore, htoken⟩ := exists_run_of_next hpull (Pull.token?_eq_some_iff.2 hitem)
          apply ih
          intro σs s k hrun hless
          refine hsteps (τs ++ σs) s k (hbefore.trans hrun) ?_
          rw [List.filterMap_append, htoken, List.length_append, List.length_singleton]
          omega
      · exact pulls_agree_of_done hdone hdone' (.inr hapart) count

/-- All tokens of a scan, or its error, agree if all steps do. -/
theorem collect_agrees {scan : Scan}
    (hsteps : ∀ σs s k, m.Run scan.spot scan.cursor σs s k →
      StepsAgree Scan.NeverApart m m' s k) :
    Option.Rel (fun given given' ↦ given.1 = given'.1 ∧ given.2.1 = given'.2.1 ∧
      given.2.2.notes = given'.2.2.notes) (m.collect scan) (m'.collect scan) := by
  induction hlength : scan.spot.ahead.length using Nat.strong_induction_on generalizing scan with
  | h length ih =>
    rw [collect_eq_bind, collect_eq_bind]
    refine rel_bind (next_agrees fun σs s k hrun _ ↦ hsteps σs s k hrun)
      fun pull pull' hnext hsame ↦ ?_
    obtain ⟨item, scan₁, journal⟩ := pull
    obtain ⟨item', scan₁', journal'⟩ := pull'
    obtain rfl : item = item' := hsame.item
    obtain rfl : scan₁ = scan₁' := hsame.scan_eq
    have hnotes : journal.notes = journal'.notes := hsame.notes
    rcases item with _ | e | token
    · exact .some ⟨rfl, rfl, hnotes⟩
    · exact .some ⟨rfl, rfl, hnotes⟩
    · obtain ⟨τs, hbefore, _⟩ := exists_run_of_next hnext rfl
      have hless : scan₁.spot.ahead.length < length := by
        rw [← hlength]
        exact next_lt hnext rfl
      refine rel_map (ih _ hless (fun σs s k hrun ↦ hsteps _ s k (hbefore.trans hrun)) rfl) ?_
      rintro ⟨result, scan₂, more⟩ ⟨result', scan₂', more'⟩ ⟨hresult, hscan, hmore⟩
      refine ⟨congrArg (Except.map (token :: ·)) hresult, hscan, ?_⟩
      rw [Journal.notes_append, Journal.notes_append, hnotes]
      exact congrArg _ hmore

/-- A scan of a whole text agrees if all steps do. -/
theorem tokenize_agrees {text : List Char}
    (hsteps : ∀ σs s k', m.Run (.start text) k.clearSkip σs s k' →
      StepsAgree Scan.NeverApart m m' s k') :
    Option.Rel Outcome.Agrees (m.tokenize text k) (m'.tokenize text k) := by
  refine rel_map (collect_agrees hsteps) ?_
  rintro ⟨result, scan, journal⟩ ⟨result', scan', journal'⟩ ⟨hresult, hscan, hnotes⟩
  refine ⟨hresult, congrArg Scan.cursor hscan, ?_⟩
  rw [Journal.notes_append, Journal.notes_append, notes_tableEvents, notes_tableEvents]
  exact congrArg _ hnotes

end Machine

/-! ### Situations -/

namespace Situation

variable (rules rules' : RuleSet) (config config' : Config)

/-- In one situation a call of an action starts a scan, which starts in another one. -/
inductive Starts : Situation → Situation → Prop
  | call {depth : Nat} {s : Spot} {k k' : Cursor} {d : Decider} {text : List Char} {input : String}
      (decides : Decides rules config ⟨depth + 1, s, k⟩ d text)
      (calls : ⟨k', .tokenize input⟩ ∈ calls rules config ⟨depth + 1, s, k⟩ d text) :
      Starts ⟨depth + 1, s, k⟩ ⟨depth, .start input.toList, k'.clearSkip⟩

/-- Something holds wherever a scan comes. -/
def Throughout (P : Situation → Prop) (start : Situation) : Prop :=
  ∀ sit, Arises rules config start sit → P sit

/-- Something holds wherever the scans come that actions start in a situation. -/
def Inside (P : Situation → Prop) (sit : Situation) : Prop :=
  ∀ start, Starts rules config sit start → Throughout rules config P start

/-- Something holds wherever a scan comes itself before it has given so many tokens. -/
def Before (P : Situation → Prop) (count : Nat) (start : Situation) : Prop :=
  ∀ σs s k, (start.machine rules config).Run start.spot start.cursor σs s k →
    (σs.filterMap (·.token?)).length < count → P ⟨start.depth, s, k⟩

/-- The scans that actions start in a situation agree under two sets of rules. -/
def NestedAgree (sit : Situation) : Prop :=
  ∀ d text, Decides rules config sit d text →
    (sit.machine rules config).AgreeOn (sit.machine rules' config')
      (calls rules config sit d text)

variable {rules rules' config config'} {P : Situation → Prop} {sit start : Situation}

private theorem Arises.starts {sit' : Situation} (h : Arises rules config start sit)
    (hstarts : Starts rules config sit sit') : Arises rules config start sit' := by
  cases hstarts with
  | call decides calls => exact .within h decides calls

section Local

variable (hlocal : ∀ sit, P sit → NestedAgree rules rules' config config' sit →
  (sit.machine rules config).StepsAgree Scan.NeverApart (sit.machine rules' config') sit.spot
    sit.cursor)
include hlocal

/-- A scan of a whole text agrees if all steps in it do, which need be shown only where the scans
agree that actions start there in turn. -/
theorem Throughout.tokenize_agrees {depth : Nat} {text : List Char} {k : Cursor}
    (h : Throughout rules config P ⟨depth, .start text, k.clearSkip⟩) :
    Option.Rel Outcome.Agrees ((Machine.ofDepth rules config depth).tokenize text k)
      ((Machine.ofDepth rules' config' depth).tokenize text k) := by
  -- The induction is on the depth: a scan that is started has less of it left.
  induction depth generalizing text k with
  | zero =>
    apply Machine.tokenize_agrees
    intro σs s k' hrun
    exact hlocal ⟨0, s, k'⟩ (h _ (Arises.start.run hrun)) fun _ _ _ _ _ _ ↦ .none
  | succ depth ih =>
    apply Machine.tokenize_agrees
    intro σs s k' hrun
    have hsit : Arises rules config ⟨depth + 1, .start text, k.clearSkip⟩ ⟨depth + 1, s, k'⟩ :=
      Arises.start.run hrun
    refine hlocal ⟨depth + 1, s, k'⟩ (h _ hsit) fun d text' hdecides k'' input hcall ↦ ?_
    exact ih fun sit hlater ↦ h sit ((hsit.starts (.call hdecides hcall)).trans hlater)

/-- So do all scans that actions start in a situation. -/
theorem Inside.nestedAgree (h : Inside rules config P sit) :
    NestedAgree rules rules' config config' sit := by
  obtain ⟨depth, s, k⟩ := sit
  intro d text hdecides k' input hcall
  cases depth with
  | zero => exact .none
  | succ depth => exact (h _ (.call hdecides hcall)).tokenize_agrees hlocal

end Local

end Situation

/-! ### What is shown -/

/-- All of a pull but for what is logged. -/
def Pull.shown (p : Pull) : Option (Except LexError Token) × Scan × List Note :=
  (p.item, p.scan, p.journal.notes)

namespace Lexer

/-- All of what a scan gave and of where it left the lexer, but for what is logged. -/
def shown (given : List Pull × Lexer) :
    List (Option (Except LexError Token) × Scan × List Note) × Cursor :=
  (given.1.map Pull.shown, given.2.cursor)

/-- The same is shown by lexers that scan from the same place and of which the scans agree. -/
theorem map_shown_pulls {l l' : Lexer} {depth : Nat} {text : String} {bound : Option Nat}
    (hcursor : l.cursor = l'.cursor)
    (h : Option.Rel (List.Forall₂ (Pull.Agrees Scan.NeverApart))
      ((l.machine depth).pulls (bound.getD (text.toList.length + 2)) (l.scan text))
      ((l'.machine depth).pulls (bound.getD (text.toList.length + 2)) (l.scan text))) :
    (l.pulls depth text bound).map shown = (l'.pulls depth text bound).map shown := by
  have hscan : l.scan text = l'.scan text := by rw [scan, scan, hcursor]
  rw [pulls, pulls, ← hscan, Option.map_map, Option.map_map]
  generalize (l.machine depth).pulls _ _ = x, (l'.machine depth).pulls _ _ = y at h
  cases h with
  | none => rfl
  | @some ps ps' h =>
    have hshown : ps.map Pull.shown = ps'.map Pull.shown := by
      rw [← List.forall₂_eq_eq_eq, List.forall₂_map_left_iff, List.forall₂_map_right_iff]
      refine h.imp fun p p' hsame ↦ ?_
      rw [Pull.shown, Pull.shown, hsame.item, hsame.scan_eq, hsame.notes]
    have hleft (ps : List Pull) : ps.getLast?.elim (l.scan text) (·.scan) =
        (ps.map Pull.shown).getLast?.elim (l.scan text) (·.2.1) := by
      rw [List.getLast?_map, Option.elim_map]
      rfl
    refine congrArg some (Prod.ext hshown ?_)
    change (ps.getLast?.elim (l.scan text) (·.scan)).cursor =
      (ps'.getLast?.elim (l.scan text) (·.scan)).cursor
    rw [hleft, hshown, ← hleft]

end Lexer

end ModalLexer
