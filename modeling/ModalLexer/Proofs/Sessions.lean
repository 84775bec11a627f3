import ModalLexer.Proofs.Histories

/-!
# Sessions

A session is a list of operations on one lexer, each with its answer and the lexer that it leaves.
Scans belong to it: those that are followed to their end, those that are dropped and those that
fail. Whatever a lexer has gone through, its rules, its options and its report are those that it was
made with, and all else is forgotten when it is rewound. So a rewound lexer answers like a new one
from then on.
-/

namespace ModalLexer

/-- Something that can be done with a lexer, scans among it: what a text gives may be taken so many
times or up to the end, once what is known of the rules is logged or without that; or its tokens may
be handed over one by one, or listed. -/
inductive Operation where
  | begin (state : String)
  | push (state : String)
  | pop
  | skip (count : Counter)
  | advanceLine (count : Counter)
  | advanceColumn (count : Counter)
  | rewind
  | pulls (text : String) (bound : Option Nat)
  | announcedPulls (text : String) (bound : Option Nat)
  | stream (text : String)
  | tokenize (text : String)

/-- What an operation answers: that it is done, or why it is not; or what was logged before a scan
and what the scan gave; or the tokens that were handed over and how the scan ended; or the list of
tokens or the first error. With the last two comes what came out on the way. -/
inductive Answer where
  | done (result : Except LexError Unit)
  | pulls (announced : Journal) (ps : List Pull)
  | stream (tokens : List Token) (result : Except LexError Unit) (journal : Journal)
  | tokens (result : Except LexError (List Token)) (journal : Journal)

namespace Lexer

/-- The answer of an operation and the lexer that it leaves. -/
def answer (l : Lexer) (depth : Nat) : Operation → Option (Answer × Lexer)
  | .begin state => some ((l.begin state).map .done id)
  | .push state => some ((l.push state).map .done id)
  | .pop => some (l.pop.map .done id)
  | .skip count => some (.done (.ok ()), l.skip count)
  | .advanceLine count => some (.done (.ok ()), l.advanceLine count)
  | .advanceColumn count => some (.done (.ok ()), l.advanceColumn count)
  | .rewind => some (.done (.ok ()), l.rewind)
  | .pulls text bound => (l.pulls depth text bound).map fun (ps, l') ↦ (.pulls [] ps, l')
  | .announcedPulls text bound =>
    (l.announcedPulls depth text bound).map fun (journal, ps, l') ↦ (.pulls journal ps, l')
  | .stream text =>
    (l.stream depth (fun tokens token ↦ tokens ++ [token]) [] text).map
      fun (tokens, result, l', journal) ↦ (.stream tokens result journal, l')
  | .tokenize text =>
    (l.tokenize depth text).map fun (result, l', journal) ↦ (.tokens result journal, l')

/-- The answers of some operations, one after another, each with the lexer that it leaves. -/
def session (l : Lexer) (depth : Nat) : List Operation → Option (List (Answer × Lexer))
  | [] => some []
  | op :: ops =>
    (l.answer depth op).bind fun first ↦ (first.2.session depth ops).map (first :: ·)

variable {l₀ l l' : Lexer} {depth : Nat}

/-- An operation adds to what a lexer has gone through. -/
theorem History.answer {op : Operation} {given : Answer × Lexer} (h : l₀.History l)
    (hop : l.answer depth op = some given) : l₀.History given.2 := by
  cases op with
  | begin state =>
    cases hop
    exact .operates h (.begin l state) trivial
  | push state =>
    cases hop
    exact .operates h (.push l state) trivial
  | pop =>
    cases hop
    exact .operates h (.pop l) trivial
  | skip count =>
    cases hop
    exact .operates h (.skip l count) trivial
  | advanceLine count =>
    cases hop
    exact .operates h (.advanceLine l count) trivial
  | advanceColumn count =>
    cases hop
    exact .operates h (.advanceColumn l count) trivial
  | rewind =>
    cases hop
    exact .operates h (.rewind l) trivial
  | pulls text bound =>
    obtain ⟨⟨ps, l₁⟩, hscan, heq⟩ := Option.map_eq_some_iff.1 hop
    cases heq
    exact h.scans (.pulls hscan)
  | announcedPulls text bound =>
    obtain ⟨⟨journal, ps, l₁⟩, hscan, heq⟩ := Option.map_eq_some_iff.1 hop
    cases heq
    exact h.scans (.announcedPulls hscan)
  | stream text =>
    obtain ⟨⟨tokens, result, l₁, journal⟩, hscan, heq⟩ := Option.map_eq_some_iff.1 hop
    cases heq
    exact h.scans (.stream hscan)
  | tokenize text =>
    obtain ⟨⟨result, l₁, journal⟩, hscan, heq⟩ := Option.map_eq_some_iff.1 hop
    cases heq
    exact h.scans (.tokenize hscan)

/-- All that a session makes of a lexer is a history of it. -/
theorem History.session {ops : List Operation} {answers : List (Answer × Lexer)}
    (h : l₀.History l) (hops : l.session depth ops = some answers) :
    ∀ a ∈ answers, l₀.History a.2 := by
  induction ops generalizing l answers with
  | nil =>
    cases hops
    simp
  | cons op ops ih =>
    obtain ⟨first, hfirst, hrest⟩ := Option.bind_eq_some_iff.1 hops
    obtain ⟨later, hlater, rfl⟩ := Option.map_eq_some_iff.1 hrest
    have hnext : l₀.History first.2 := h.answer hfirst
    exact List.forall_mem_cons.2 ⟨hnext, ih hnext hlater⟩

/-- A new lexer is at the first position and state, and its report is that on its rules. -/
theorem new_eq_ok {rules : RuleSet} {config : Config} (h : new rules config = .ok l) :
    ∃ report, rules.lint = .ok report ∧ l = ⟨rules, config, .initial, report⟩ := by
  unfold new at h
  split at h
  · cases h
  · next report hlint =>
    cases h
    exact ⟨report, hlint, rfl⟩

/-- No history changes what a lexer was made of. -/
theorem History.rewind_eq (h : l.History l') : l'.rewind = l.rewind := by
  obtain ⟨k, rfl, _⟩ := h.keeps
  rfl

/-- Whatever a lexer has gone through, it has the rules and the options that it was made with, and
once it is rewound it is the new lexer that they make. It answers every session like that one, and
leaves the same lexer after each operation. -/
theorem rewind_of_history {rules : RuleSet} {config : Config} (hnew : new rules config = .ok l)
    (h : l.History l') :
    l'.rules = rules ∧ l'.config = config ∧
      ∃ fresh, new l'.rules l'.config = .ok fresh ∧ l'.rewind = fresh ∧
        ∀ depth ops, l'.rewind.session depth ops = fresh.session depth ops := by
  obtain ⟨report, _, rfl⟩ := new_eq_ok hnew
  have hrewound : l'.rewind = ⟨rules, config, .initial, report⟩ := h.rewind_eq
  have hrules : l'.rules = rules := congrArg Lexer.rules hrewound
  have hconfig : l'.config = config := congrArg Lexer.config hrewound
  refine ⟨hrules, hconfig, _, ?_, hrewound, ?_⟩
  · rw [hrules, hconfig]
    exact hnew
  · intro depth ops
    rw [hrewound]

/-- A scan that is dropped inside parentheses, characters to skip that no scan comes to skip, and a
scan that fails. -/
def troubledOperations : List Operation :=
  [.pulls "(()" (some 2), .skip 3, .tokenize "?", .push "inner", .advanceLine 2]

/-- A lexer inside two parentheses goes back to the start. -/
theorem rewind_of_history_bracketLexer :
    ∃ l', bracketLexer.History l' ∧ l'.cursor = ⟨"inner", ["inner", "initial"], 3, 0, 0⟩ ∧
      ∃ fresh, new l'.rules l'.config = .ok fresh ∧ l'.rewind = fresh ∧
        l'.rewind.session 1 [.tokenize "(())", .pop] =
          fresh.session 1 [.tokenize "(())", .pop] := by
  have hsome : ((bracketLexer.session 1 troubledOperations).bind (·.getLast?)).isSome = true := by
    decide +kernel
  obtain ⟨⟨a, l'⟩, hlast⟩ := Option.isSome_iff_exists.1 hsome
  have hcursor : l'.cursor = ⟨"inner", ["inner", "initial"], 3, 0, 0⟩ := by
    have : ((bracketLexer.session 1 troubledOperations).bind (·.getLast?)).map (·.2.cursor) =
        some ⟨"inner", ["inner", "initial"], 3, 0, 0⟩ := by decide +kernel
    rw [hlast] at this
    exact Option.some.inj this
  obtain ⟨answers, hanswers, hmem⟩ := Option.bind_eq_some_iff.1 hlast
  have hhistory : bracketLexer.History l' :=
    (History.same bracketLexer).session hanswers (a, l') (List.mem_of_getLast? hmem)
  have hnew : new bracketRules .quiet = .ok bracketLexer := rfl
  obtain ⟨_, _, fresh, hfresh, hrewound, hsession⟩ := rewind_of_history hnew hhistory
  exact ⟨l', hhistory, hcursor, fresh, hfresh, hrewound, hsession 1 _⟩

end Lexer

end ModalLexer
