import ModalLexer.Proofs.Run

/-!
# What scanning keeps

All that happens to a cursor happens by a few operations: those that an action can ask for, and two
that the engine uses itself. Whatever each of them keeps is kept by every routine, every step and
every run, and so by a scan, however it ends and whether it is followed to its end or not.
-/

namespace ModalLexer

open Text (Spot)

/-- What holds of a rewound cursor and is kept by every operation on cursors that succeeds. Those
that fail leave the cursor. -/
structure Cursor.Stable (rules : RuleSet) (P : Cursor → Prop) : Prop where
  initial : P .initial
  begin : ∀ {k k' : Cursor} {state : String}, P k → k.begin rules state = (.ok (), k') → P k'
  push : ∀ {k k' : Cursor} {state : String}, P k → k.push rules state = (.ok (), k') → P k'
  pop : ∀ {k k' : Cursor}, P k → k.pop = (.ok (), k') → P k'
  skip : ∀ {k : Cursor} (count : Counter), P k → P (k.skip count)
  advanceLine : ∀ {k : Cursor} (count : Counter), P k → P (k.advanceLine count)
  advanceColumn : ∀ {k : Cursor} (count : Counter), P k → P (k.advanceColumn count)
  clearSkip : ∀ {k : Cursor}, P k → P k.clearSkip

/-- Whether scans that actions start keep something. -/
def Nested.Keeps (nested : Nested) (P : Cursor → Prop) : Prop :=
  ∀ {text k outcome}, P k → nested text k = some outcome → P outcome.cursor

namespace Cursor.Stable

variable {rules : RuleSet} {P : Cursor → Prop} {k : Cursor} (hP : Stable rules P) (hk : P k)

private theorem snd_keeps {result : Except LexError Unit × Cursor} (hk : P k)
    (hok : ∀ k', result = (.ok (), k') → P k')
    (herror : ∀ e k', result = (.error e, k') → k' = k) : P result.2 := by
  obtain ⟨_ | _, k'⟩ := result
  · exact herror _ _ rfl ▸ hk
  · exact hok k' rfl

include hP hk

/-- A switch keeps it, whether it fails or not. -/
theorem begin_keeps (state : String) : P (k.begin rules state).2 :=
  snd_keeps hk (fun _ ↦ hP.begin hk) fun _ _ h ↦ (begin_eq_error_iff.1 h).2.2

/-- A save keeps it, whether it fails or not. -/
theorem push_keeps (state : String) : P (k.push rules state).2 :=
  snd_keeps hk (fun _ ↦ hP.push hk) fun _ _ h ↦ (push_eq_error_iff.1 h).2.2

/-- A return keeps it, whether it fails or not. -/
theorem pop_keeps : P k.pop.2 :=
  snd_keeps hk (fun _ ↦ hP.pop hk) fun _ _ h ↦ (pop_eq_error_iff.1 h).2.2

end Cursor.Stable

namespace Machine

variable {m : Machine} {P : Cursor → Prop} {s s' : Spot} {k k' : Cursor}

section Steps

variable (hP : Cursor.Stable m.rules P) (hm : m.nested.Keeps P)
include hP hm

/-- What all operations keep is kept by a request, if the scans that are started keep it. -/
theorem answer_keeps {r : Request} {reply : Outcome r.Reply} (hk : P k)
    (h : m.answer k r = some reply) : P reply.cursor := by
  cases r with
  | begin state =>
    cases h
    exact hP.begin_keeps hk state
  | push state =>
    cases h
    exact hP.push_keeps hk state
  | pop =>
    cases h
    exact hP.pop_keeps hk
  | skip count =>
    cases h
    exact hP.skip count hk
  | advanceLine count =>
    cases h
    exact hP.advanceLine count hk
  | advanceColumn count =>
    cases h
    exact hP.advanceColumn count hk
  | rewind =>
    cases h
    exact hP.initial
  | tokenize input => exact hm hk h
  | look | note =>
    cases h
    exact hk

/-- What every operation keeps is kept by a routine, whether it fails or not. -/
theorem perform_keeps {routine : Routine} {outcome : Outcome (Except LexError Verdict)} (hk : P k)
    (h : m.perform routine k = some outcome) : P outcome.cursor := by
  induction routine generalizing k outcome with
  | finish result =>
    cases h
    exact hk
  | ask r next ih =>
    rw [perform, Option.bind_eq_some_iff] at h
    obtain ⟨reply, hreply, hrest⟩ := h
    obtain ⟨result, hresult, rfl⟩ := Option.map_eq_some_iff.1 hrest
    have hreplied : P reply.cursor := answer_keeps hP hm hk hreply
    have hend : P result.cursor := ih reply.value hreplied hresult
    exact hend

/-- It is kept by a step. -/
theorem Takes.keeps {σ : Stride} (h : m.Takes s k σ s' k') (hk : P k) : P k' := by
  cases h with
  | ignored => exact hP.advanceColumn 1 hk
  | @decided d k₁ journal hdecides hcandidate hrequests hperformed hskipped =>
    have hk₁ : P k₁ := perform_keeps hP hm hk hperformed
    have hpass : P (d.decider.pass d.text.length k₁) := by
      unfold Decider.pass
      split
      · exact hk₁
      · exact hP.advanceColumn _ hk₁
    exact hP.advanceColumn _ (hP.clearSkip hpass)

private theorem Fails.keeps {e : LexError} (h : m.Fails s k e s' k') (hk : P k) : P k' := by
  cases h with
  | unrecognized => exact hk
  | rule hdecides hperformed => exact perform_keeps hP hm hk hperformed
  | handler hdecides hperformed =>
    exact hP.advanceColumn 1 (perform_keeps hP hm hk hperformed)

/-- What every operation keeps is kept by a run. -/
theorem Run.keeps {σs : List Stride} (h : m.Run s k σs s' k') (hk : P k) : P k' := by
  induction h with
  | nil => exact hk
  | cons first _ ih => exact ih (first.keeps hP hm hk)

/-- It is kept when a scan is asked for what comes next. -/
theorem next_keeps {scan : Scan} {pull : Pull} (h : m.next scan = some pull)
    (hk : P scan.cursor) : P pull.scan.cursor := by
  rcases next_run h with ⟨_, rfl⟩ | ⟨_, σs, s₁, k₁, hrun, _, hgives⟩
  · exact hk
  · have hk₁ : P k₁ := hrun.keeps hP hm hk
    cases hgives with
    | nothing => exact hk₁
    | token takes => exact takes.keeps hP hm hk₁
    | error fails => exact hP.clearSkip (fails.keeps hP hm hk₁)

end Steps

/-! ### Scans that are followed as far as one likes -/

/-- Where a scan may stand once it was asked for what comes next some number of times. -/
inductive Asked (m : Machine) : Scan → Scan → Prop
  | none (scan : Scan) : Asked m scan scan
  | more {scan scan' : Scan} {pull : Pull} (next : m.next scan = some pull)
      (rest : Asked m pull.scan scan') : Asked m scan scan'

/-- A scan from which some pulls are taken stands where it may once it was asked. -/
theorem pulls_asked {count : Nat} {scan : Scan} {ps : List Pull}
    (h : m.pulls count scan = some ps) : m.Asked scan (standing scan ps) := by
  induction count generalizing scan ps with
  | zero =>
    cases h
    exact .none scan
  | succ count ih =>
    rw [pulls, Option.bind_eq_some_iff] at h
    obtain ⟨pull, hnext, hrest⟩ := h
    split at hrest
    · cases hrest
      exact .more hnext (.none pull.scan)
    · obtain ⟨ps', hps', rfl⟩ := Option.map_eq_some_iff.1 hrest
      rw [standing_cons]
      exact .more hnext (ih hps')

/-- So does a scan whose tokens are listed. -/
theorem collect_asked {scan scan' : Scan} {result : Except LexError (List Token)}
    {journal : Journal} (h : m.collect scan = some (result, scan', journal)) :
    m.Asked scan scan' := by
  fun_induction collect m scan generalizing result scan' journal with
  | case1 => cases h
  | case2 scan scan₁ journal₁ hnext =>
    cases h
    exact .more hnext (.none _)
  | case3 scan e scan₁ journal₁ hnext =>
    cases h
    exact .more hnext (.none _)
  | case4 scan token scan₁ journal₁ hnext ih =>
    obtain ⟨⟨result₂, scan₂, journal₂⟩, hrest, heq⟩ := Option.map_eq_some_iff.1 h
    cases heq
    exact .more hnext (ih hrest)

/-- So does a scan whose tokens are handed to a function. -/
theorem stream_asked {σ : Type} {gather : σ → Token → σ} {gathered gathered' : σ}
    {scan scan' : Scan} {result : Except LexError Unit} {journal : Journal}
    (h : m.stream gather gathered scan = some (gathered', result, scan', journal)) :
    m.Asked scan scan' := by
  fun_induction stream m gather gathered scan generalizing gathered' result scan' journal with
  | case1 => cases h
  | case2 gathered scan scan₁ journal₁ hnext =>
    cases h
    exact .more hnext (.none _)
  | case3 gathered scan e scan₁ journal₁ hnext =>
    cases h
    exact .more hnext (.none _)
  | case4 gathered scan token scan₁ journal₁ hnext ih =>
    obtain ⟨⟨gathered₂, result₂, scan₂, journal₂⟩, hrest, heq⟩ := Option.map_eq_some_iff.1 h
    cases heq
    exact .more hnext (ih hrest)

/-- What every operation keeps is kept by a scan, as far as it is followed. -/
theorem Asked.keeps {scan scan' : Scan} (h : m.Asked scan scan')
    (hP : Cursor.Stable m.rules P) (hm : m.nested.Keeps P) (hk : P scan.cursor) :
    P scan'.cursor := by
  induction h with
  | none => exact hk
  | more next _ ih => exact ih (next_keeps hP hm next hk)

/-- Scans that actions start keep what every operation keeps. -/
theorem keeps_nestedOfDepth {rules : RuleSet} (hP : Cursor.Stable rules P) (config : Config)
    (depth : Nat) : (nestedOfDepth rules config depth).Keeps P := by
  induction depth with
  | zero =>
    intro text k outcome hk h
    cases h
  | succ depth ih =>
    intro text k outcome hk h
    obtain ⟨⟨result, scan', journal⟩, hcollect, rfl⟩ := Option.map_eq_some_iff.1 h
    exact (collect_asked hcollect).keeps hP ih (hP.clearSkip hk)

end Machine

end ModalLexer
