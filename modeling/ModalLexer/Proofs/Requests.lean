import ModalLexer.Proofs.Run

/-!
# What requests do to a cursor

A routine changes the cursor through its requests only, so whatever can be followed through one
request can be followed through all that a routine makes (`perform_fold`). Two things are followed
here: how many characters are still to be skipped, and the position. A scan leaves nothing to be
skipped, so a scan that an action starts forgets what was asked for before it.
-/

namespace ModalLexer

open Text (Spot)

namespace Machine

variable {m : Machine} {s s' : Spot} {k k' : Cursor}

/-- What follows every request follows all that a routine makes. -/
theorem perform_fold {β : Type} (view : Cursor → β) {f : β → Request → β} {Q : Request → Prop}
    (hanswer : ∀ {r : Request} {k : Cursor} {reply : Outcome r.Reply}, Q r →
      m.answer k r = some reply → view reply.cursor = f (view k) r)
    {routine : Routine} {outcome : Outcome (Except LexError Verdict)}
    (hQ : ∀ r ∈ m.requests routine k, Q r) (h : m.perform routine k = some outcome) :
    view outcome.cursor = (m.requests routine k).foldl f (view k) := by
  induction routine generalizing k outcome with
  | finish result =>
    cases h
    rfl
  | ask r next ih =>
    rw [perform, Option.bind_eq_some_iff] at h
    obtain ⟨reply, hreply, hrest⟩ := h
    obtain ⟨result, hresult, rfl⟩ := Option.map_eq_some_iff.1 hrest
    have hrequests : m.requests (.ask r next) k =
        r :: m.requests (next reply.value) reply.cursor := by
      rw [requests, hreply]
      rfl
    rw [hrequests] at hQ ⊢
    obtain ⟨hr, hnext⟩ := List.forall_mem_cons.1 hQ
    have hlater : view result.cursor =
        (m.requests (next reply.value) reply.cursor).foldl f (view reply.cursor) :=
      ih reply.value hnext hresult
    rw [List.foldl_cons, ← hanswer hr hreply]
    exact hlater

end Machine

/-! ### What is still to be skipped -/

/-- How many characters are to be skipped after a request, if scans leave none. -/
def Request.pending (count : Counter) : Request → Counter
  | .skip n => count + n
  | .rewind | .tokenize _ => 0
  | _ => count

/-- Scans that actions start leave nothing to be skipped. -/
def Nested.LeavesNoSkip (nested : Nested) : Prop :=
  ∀ text k outcome, nested text k = some outcome → outcome.cursor.pendingSkip = 0

namespace Machine

variable {m : Machine} {s s' : Spot} {k k' : Cursor}

private theorem answer_pendingSkip (hm : m.nested.LeavesNoSkip) {r : Request}
    {reply : Outcome r.Reply}
    (h : m.answer k r = some reply) : reply.cursor.pendingSkip = r.pending k.pendingSkip := by
  cases r with
  | begin state =>
    cases h
    unfold Cursor.begin
    split <;> rfl
  | push state =>
    cases h
    unfold Cursor.push
    split <;> rfl
  | pop =>
    cases h
    unfold Cursor.pop
    split <;> rfl
  | tokenize input => exact hm _ _ _ h
  | _ => cases h; rfl

/-- What is to be skipped after a routine follows from its requests. -/
theorem perform_pendingSkip (hm : m.nested.LeavesNoSkip) {routine : Routine}
    {outcome : Outcome (Except LexError Verdict)} (h : m.perform routine k = some outcome) :
    outcome.cursor.pendingSkip =
      (m.requests routine k).foldl Request.pending k.pendingSkip :=
  perform_fold (Q := fun _ ↦ True) Cursor.pendingSkip (fun _ h ↦ answer_pendingSkip hm h)
    (fun _ _ ↦ trivial) h

/-- A step leaves nothing to be skipped. -/
theorem Takes.pendingSkip_eq {σ : Stride} (h : m.Takes s k σ s' k') (hk : k.pendingSkip = 0) :
    k'.pendingSkip = 0 := by
  cases h with
  | ignored => exact hk
  | decided => rfl

/-- A run leaves nothing to be skipped. -/
theorem Run.pendingSkip_eq {σs : List Stride} (h : m.Run s k σs s' k') (hk : k.pendingSkip = 0) :
    k'.pendingSkip = 0 := by
  induction h with
  | nil => exact hk
  | cons first _ ih => exact ih (first.pendingSkip_eq hk)

/-- Whatever a scan gives, nothing is left to be skipped. -/
theorem next_pendingSkip {scan : Scan} {pull : Pull} (h : m.next scan = some pull)
    (hscan : scan.cursor.pendingSkip = 0) : pull.scan.cursor.pendingSkip = 0 := by
  rcases next_run h with ⟨_, rfl⟩ | ⟨_, σs, s₁, k₁, hrun, _, hgives⟩
  · exact hscan
  · have hk₁ : k₁.pendingSkip = 0 := hrun.pendingSkip_eq hscan
    cases hgives with
    | nothing => exact hk₁
    | token takes => exact takes.pendingSkip_eq hk₁
    | error => rfl

private theorem collect_pendingSkip {scan scan' : Scan} {result : Except LexError (List Token)}
    {journal : Journal} (h : m.collect scan = some (result, scan', journal))
    (hscan : scan.cursor.pendingSkip = 0) : scan'.cursor.pendingSkip = 0 := by
  fun_induction collect m scan generalizing result scan' journal with
  | case1 => cases h
  | case2 scan scan₁ journal₁ hnext =>
    cases h
    exact next_pendingSkip hnext hscan
  | case3 scan e scan₁ journal₁ hnext =>
    cases h
    exact next_pendingSkip hnext hscan
  | case4 scan token scan₁ journal₁ hnext ih =>
    obtain ⟨⟨result₂, scan₂, journal₂⟩, hrest, heq⟩ := Option.map_eq_some_iff.1 h
    cases heq
    exact ih hrest (next_pendingSkip hnext hscan)

/-- A whole scan leaves nothing to be skipped, whether it fails or not. -/
theorem tokenize_pendingSkip {text : List Char}
    {outcome : Outcome (Except LexError (List Token))} (h : m.tokenize text k = some outcome) :
    outcome.cursor.pendingSkip = 0 := by
  obtain ⟨⟨result, scan', journal⟩, hcollect, rfl⟩ := Option.map_eq_some_iff.1 h
  exact collect_pendingSkip hcollect rfl

/-- No scan that an action starts leaves anything to be skipped. -/
theorem leavesNoSkip_nestedOfDepth (rules : RuleSet) (config : Config) (depth : Nat) :
    (nestedOfDepth rules config depth).LeavesNoSkip := by
  intro text k outcome h
  cases depth with
  | zero => cases h
  | succ depth => exact tokenize_pendingSkip h

end Machine

/-! ### The position -/

namespace Request

/-- Whether a request may change the position. -/
def moves : Request → Bool
  | .advanceLine _ | .advanceColumn _ | .rewind | .tokenize _ => true
  | _ => false

/-- The position after a request that starts no scan. -/
def moved (p : Position) : Request → Position
  | .advanceLine count => ⟨p.line + count, 1⟩
  | .advanceColumn count => ⟨p.line, p.column + count⟩
  | .rewind => .origin
  | _ => p

/-- A request that does not move the position leaves it. -/
theorem moved_of_not_moves {r : Request} (h : r.moves = false) (p : Position) : r.moved p = p := by
  cases r with
  | advanceLine | advanceColumn | rewind => cases h
  | _ => rfl

end Request

namespace Machine

variable {m : Machine} {k : Cursor}

/-- A request that starts no scan moves the position as it says. -/
theorem answer_position {r : Request} {reply : Outcome r.Reply}
    (hr : ∀ input, r ≠ .tokenize input) (h : m.answer k r = some reply) :
    reply.cursor.position = r.moved k.position := by
  cases r with
  | begin state =>
    cases h
    unfold Cursor.begin
    split <;> rfl
  | push state =>
    cases h
    unfold Cursor.push
    split <;> rfl
  | pop =>
    cases h
    unfold Cursor.pop
    split <;> rfl
  | advanceColumn count =>
    cases h
    simp only [Cursor.position, Cursor.column, Cursor.advanceColumn, Request.moved]
    congr 1
    ac_rfl
  | tokenize input => exact absurd rfl (hr input)
  | _ => cases h; rfl

/-- The position after a routine follows from those of its requests that may change it. -/
theorem perform_position {routine : Routine} {outcome : Outcome (Except LexError Verdict)}
    (hscans : ∀ r ∈ m.requests routine k, ∀ input, r ≠ .tokenize input)
    (h : m.perform routine k = some outcome) :
    outcome.cursor.position =
      ((m.requests routine k).filter (·.moves)).foldl Request.moved k.position := by
  have hmoves (p : Position) (r : Request) : (if r.moves then r.moved p else p) = r.moved p := by
    split
    · rfl
    · next hr => exact (Request.moved_of_not_moves (Bool.not_eq_true _ ▸ hr) p).symm
  rw [List.foldl_filter]
  simp only [hmoves]
  exact perform_fold Cursor.position answer_position hscans h

end Machine

end ModalLexer
