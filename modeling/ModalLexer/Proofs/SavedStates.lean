import ModalLexer.Proofs.Sessions
import ModalLexer.Proofs.WellNested

/-!
# States that are saved and returned to

When a lexer saves its state and enters another, the state and those saved before it lie at the
bottom of its stack from then on, and whatever is done above them leaves them there
(`Lexer.SavedAbove`). So once all that was saved since is returned from, the next return leads back
to where the lexer was (`Lexer.pop_restores`). An operation that fails changes nothing at all.
-/

namespace ModalLexer

/-- How many of the states saved since some moment are still saved after an operation, given how
many were before it. There is no answer if it returns to a state that was saved earlier, and none
for operations that rewind the lexer or scan. -/
def Operation.saved? (rules : RuleSet) (count : Nat) : Operation → Option Nat
  | .push state => some (if rules.hasState state then count + 1 else count)
  | .pop => if count = 0 then none else some (count - 1)
  | .begin _ | .skip _ | .advanceLine _ | .advanceColumn _ => some count
  | .rewind | .pulls _ _ | .announcedPulls _ _ | .stream _ | .tokenize _ => none

/-- How many of the states saved since some moment are still saved after some operations. -/
def savedAfter? (rules : RuleSet) (count : Nat) : List Operation → Option Nat
  | [] => some count
  | op :: ops => (op.saved? rules count).bind fun count' ↦ savedAfter? rules count' ops

/-- A call that the engine refuses leaves the cursor as it is. -/
theorem Machine.Refuses.cursor_eq {m : Machine} {c : Call} {e : LexError} (h : m.Refuses c e)
    (hscan : ∀ input, c.request ≠ .tokenize input) {reply : Outcome c.request.Reply}
    (hreply : m.answer c.cursor c.request = some reply) : reply.cursor = c.cursor := by
  cases h with
  | begin refused =>
    cases hreply
    exact (Cursor.begin_eq_error_iff.1 (Prod.ext refused rfl)).2.2
  | push refused =>
    cases hreply
    exact (Cursor.push_eq_error_iff.1 (Prod.ext refused rfl)).2.2
  | pop refused =>
    cases hreply
    exact (Cursor.pop_eq_error_iff.1 (Prod.ext refused rfl)).2.2
  | tokenize => exact absurd rfl (hscan _)

namespace Lexer

variable {l l' : Lexer} {frame : List String} {count count' depth : Nat}

/-- Some number of states are saved above those of a frame. -/
def SavedAbove (frame : List String) (count : Nat) (l : Lexer) : Prop :=
  ∃ upper, upper.length = count ∧ l.cursor.stack = upper ++ frame

/-! ### One operation -/

private theorem withCursor_of_error {result : Except LexError Unit × Cursor} {e : LexError}
    (hfails : ∀ k, result = (.error e, k) → k = l.cursor)
    (h : (result.map id l.withCursor).map .done id = (Answer.done (.error e), l')) : l' = l := by
  obtain ⟨value, k⟩ := result
  cases h
  rw [hfails k rfl]
  rfl

/-- An operation that fails changes nothing. -/
theorem eq_of_answer_error {op : Operation} {e : LexError}
    (h : l.answer depth op = some (.done (.error e), l')) : l' = l := by
  cases op with
  | begin state =>
    exact withCursor_of_error (fun _ hfail ↦ (Cursor.begin_eq_error_iff.1 hfail).2.2)
      (Option.some.inj h)
  | push state =>
    exact withCursor_of_error (fun _ hfail ↦ (Cursor.push_eq_error_iff.1 hfail).2.2)
      (Option.some.inj h)
  | pop =>
    exact withCursor_of_error (fun _ hfail ↦ (Cursor.pop_eq_error_iff.1 hfail).2.2)
      (Option.some.inj h)
  | skip | advanceLine | advanceColumn | rewind => cases h
  | pulls | announcedPulls | stream | tokenize =>
    obtain ⟨_, _, heq⟩ := Option.map_eq_some_iff.1 h
    cases heq

/-- The lexer fails to return just if no state is saved; it reports where it stands, and stays. -/
theorem pop_eq_error_iff {e : LexError} : l.pop = (.error e, l') ↔
    l.cursor.stack = [] ∧ e = .underflow l.cursor.line l.cursor.column ∧ l' = l := by
  constructor
  · intro h
    rcases hpop : l.cursor.pop with ⟨result, k⟩
    rw [pop, hpop] at h
    cases h
    obtain ⟨hstack, he, rfl⟩ := Cursor.pop_eq_error_iff.1 hpop
    exact ⟨hstack, he, rfl⟩
  · rintro ⟨hstack, he, rfl⟩
    rw [pop, Cursor.pop_eq_error_iff.2 ⟨hstack, he, rfl⟩]
    rfl

/-- A return undoes the last saving. -/
theorem pop_of_stack_eq {state : String} {stack : List String}
    (h : l.cursor.stack = state :: stack) :
    l.pop = (.ok (), l.withCursor { l.cursor with state := state, stack := stack }) := by
  rw [pop, Cursor.pop_eq_ok_iff.2 ⟨state, stack, h, rfl⟩]
  rfl

/-- A state that is saved is the first of a frame above which none is saved yet. -/
theorem savedAbove_of_push {state : String} (h : l.push state = (.ok (), l')) :
    l'.rules = l.rules ∧ l'.SavedAbove (l.cursor.state :: l.cursor.stack) 0 := by
  rcases hcursor : l.cursor.push l.rules state with ⟨result, k⟩
  rw [push, hcursor] at h
  cases h
  obtain ⟨-, rfl⟩ := Cursor.push_eq_ok_iff.1 hcursor
  exact ⟨rfl, [], rfl, rfl⟩

/-- If none is saved above a frame, the lexer returns to the first state of it. -/
theorem pop_of_savedAbove {state : String} (h : l.SavedAbove (state :: frame) 0) :
    l.pop = (.ok (), l.withCursor { l.cursor with state := state, stack := frame }) := by
  obtain ⟨upper, hlength, hstack⟩ := h
  rw [List.length_eq_zero_iff.1 hlength] at hstack
  exact pop_of_stack_eq hstack

/-- Entering a state keeps what is saved, whether it fails or not. -/
theorem SavedAbove.begin (h : l.SavedAbove frame count) (state : String) :
    (l.begin state).2.SavedAbove frame count := by
  rw [Lexer.begin, Cursor.begin]
  split
  · exact h
  · exact h

/-- A state that is entered and was declared has one more saved above the frame. -/
theorem SavedAbove.push (h : l.SavedAbove frame count) (state : String) :
    (l.push state).2.SavedAbove frame (if l.rules.hasState state then count + 1 else count) := by
  obtain ⟨upper, hlength, hstack⟩ := h
  rw [Lexer.push, Cursor.push]
  split
  · refine ⟨l.cursor.state :: upper, ?_, ?_⟩
    · rw [List.length_cons, hlength]
    · exact congrArg (l.cursor.state :: ·) hstack
  · exact ⟨upper, hlength, hstack⟩

/-- If a state is saved above the frame, the lexer returns to it. -/
theorem SavedAbove.pop (h : l.SavedAbove frame (count + 1)) :
    l.pop.2.SavedAbove frame count := by
  obtain ⟨upper, hlength, hstack⟩ := h
  obtain ⟨state, upper, rfl⟩ := List.exists_cons_of_length_eq_add_one hlength
  rw [pop_of_stack_eq hstack]
  exact ⟨upper, Nat.succ.inj hlength, rfl⟩

/-- An operation that saves no state in the frame and returns to none keeps the frame. -/
theorem answer_savedAbove (depth : Nat) (h : l.SavedAbove frame count) {op : Operation}
    (hop : op.saved? l.rules count = some count') :
    ∃ answer l', l.answer depth op = some (answer, l') ∧ l'.rules = l.rules ∧
      l'.SavedAbove frame count' := by
  cases op with
  | begin state =>
    cases hop
    exact ⟨_, _, rfl, rfl, h.begin state⟩
  | push state =>
    cases hop
    exact ⟨_, _, rfl, rfl, h.push state⟩
  | pop =>
    rw [Operation.saved?] at hop
    split at hop
    · cases hop
    · next hne =>
      cases hop
      obtain ⟨count, rfl⟩ := Nat.exists_eq_succ_of_ne_zero hne
      exact ⟨_, _, rfl, rfl, h.pop⟩
  | skip | advanceLine | advanceColumn =>
    cases hop
    exact ⟨_, _, rfl, rfl, h⟩
  | rewind | pulls | announcedPulls | stream | tokenize => cases hop

/-! ### Many operations -/

/-- Operations that return to no state of the frame keep the frame, and the session goes on from
there. -/
theorem session_savedAbove (h : l.SavedAbove frame count) {ops : List Operation}
    (hops : savedAfter? l.rules count ops = some count') :
    ∃ (answers : List (Answer × Lexer)) (l' : Lexer), l'.SavedAbove frame count' ∧
      ∀ later, l.session depth (ops ++ later) = (l'.session depth later).map (answers ++ ·) := by
  induction ops generalizing l count with
  | nil =>
    cases hops
    refine ⟨[], l, h, fun later ↦ ?_⟩
    cases hlater : l.session depth later <;> simp [hlater]
  | cons op ops ih =>
    obtain ⟨count₁, hop, hrest⟩ := Option.bind_eq_some_iff.1 hops
    obtain ⟨answer, l₁, hanswer, hrules, hfirst⟩ := answer_savedAbove depth h hop
    rw [← hrules] at hrest
    obtain ⟨answers, l', hlast, hsession⟩ := ih hfirst hrest
    refine ⟨(answer, l₁) :: answers, l', hlast, fun later ↦ ?_⟩
    rw [List.cons_append, session, hanswer, Option.bind_some, hsession, Option.map_map]
    rfl

/-- Balanced operations lead back. A lexer saves its state and enters another; then it enters states
and saves them, returns as often as it has saved since, and moves about, and some of this may fail.
One more return succeeds, and the state and all saved states are what they were at first. An
operation that fails changes nothing, and neither does a call of an action that is refused. A return
fails just if no state is saved, and the lexer's line and column are reported. -/
theorem pop_restores (l : Lexer) (depth : Nat) :
    (∀ state ops l₁, l.push state = (.ok (), l₁) → savedAfter? l.rules 0 ops = some 0 →
      ∃ answers l', l.session depth (.push state :: ops ++ [.pop]) =
          some ((.done (.ok ()), l₁) :: answers ++ [(.done (.ok ()), l')]) ∧
        l'.cursor.state = l.cursor.state ∧ l'.cursor.stack = l.cursor.stack) ∧
    (∀ op e l', l.answer depth op = some (.done (.error e), l') → l' = l) ∧
    (∀ nested c e reply, Machine.Refuses ⟨l.rules, l.config, nested⟩ c e →
      (∀ input, c.request ≠ .tokenize input) →
      Machine.answer ⟨l.rules, l.config, nested⟩ c.cursor c.request = some reply →
      reply.cursor = c.cursor) ∧
    ∀ e l', l.pop = (.error e, l') ↔
      l.cursor.stack = [] ∧ e = .underflow l.cursor.line l.cursor.column ∧ l' = l := by
  refine ⟨fun state ops l₁ hpush hops ↦ ?_, fun op e l' ↦ eq_of_answer_error,
    fun nested c e reply hrefuses hscan ↦ hrefuses.cursor_eq hscan, fun e l' ↦ pop_eq_error_iff⟩
  have hfirst : l.answer depth (.push state) = some (.done (.ok ()), l₁) := by
    rw [answer, hpush]
    rfl
  obtain ⟨hrules, hframe⟩ := savedAbove_of_push hpush
  rw [← hrules] at hops
  obtain ⟨answers, l₂, hkept, hsession⟩ := session_savedAbove hframe hops
  refine ⟨answers,
    l₂.withCursor { l₂.cursor with state := l.cursor.state, stack := l.cursor.stack },
    ?_, rfl, rfl⟩
  have hlast : l₂.session depth [.pop] = some [(.done (.ok ()), l₂.withCursor
      { l₂.cursor with state := l.cursor.state, stack := l.cursor.stack })] := by
    rw [session, answer, pop_of_savedAbove hkept]
    rfl
  rw [List.cons_append, session, hfirst, Option.bind_some, hsession, hlast]
  rfl

/-- A state that is saved and left again inside another, a return that takes back what was saved
since, and states that are not declared. -/
def balancedOperations : List Operation :=
  [.begin "nowhere", .push "inner", .begin "initial", .skip 2, .pop, .begin "inner",
   .push "nowhere", .advanceLine 1]

/-- A state is saved, other states are saved and returned to, and then it is returned to. -/
theorem pop_restores_bracketLexer :
    ∃ l : Lexer, l.rules = bracketRules ∧ l.cursor = ⟨"inner", ["initial"], 2, 3, 0⟩ ∧
      ∃ l₁ answers l', l.session 0 (.push "initial" :: balancedOperations ++ [.pop]) =
          some ((.done (.ok ()), l₁) :: answers ++ [(.done (.ok ()), l')]) ∧
        l'.cursor.state = "inner" ∧ l'.cursor.stack = ["initial"] := by
  let l : Lexer := bracketLexer.withCursor ⟨"inner", ["initial"], 2, 3, 0⟩
  obtain ⟨hrestores, _⟩ := pop_restores l 0
  have hpush : l.push "initial" =
      (.ok (), l.withCursor ⟨"initial", ["inner", "initial"], 2, 3, 0⟩) := rfl
  obtain ⟨answers, l', hsession, hstate, hstack⟩ :=
    hrestores "initial" balancedOperations _ hpush (by decide +kernel)
  exact ⟨l, rfl, rfl, _, answers, l', hsession, hstate, hstack⟩

end Lexer

end ModalLexer
