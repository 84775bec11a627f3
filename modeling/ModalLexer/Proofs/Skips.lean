import Mathlib.Algebra.Ring.Nat
import Mathlib.Data.List.DropRight
import ModalLexer.Action.Step
import ModalLexer.Proofs.Resumption

/-!
# What is skipped

An action may ask for characters to be skipped once its match is consumed. The engine keeps one
count of them, which a scan that the action starts sets to nothing, just as rewinding does; so of
all that an action asked for, what it asked for after that is skipped, and what it asked for before
is not.
-/

namespace ModalLexer

open Text (Spot)

namespace Request

/-- How many characters a request asks to skip. -/
def skips : Request → Nat
  | .skip count => count.toNat
  | _ => 0

/-- Whether a request makes the engine forget what was to be skipped. -/
def forgets : Request → Bool
  | .rewind | .tokenize _ => true
  | _ => false

private theorem pending_ofNat (count : Nat) (r : Request) :
    r.pending (.ofNat count) = .ofNat (if r.forgets then 0 else count + r.skips) := by
  cases r with
  | skip n => simp [pending, forgets, skips, UInt64.ofNat_add]
  | _ => rfl

private theorem skips_of_forgets {r : Request} (h : r.forgets = true) : r.skips = 0 := by
  cases r with
  | skip => cases h
  | _ => rfl

end Request

/-- How many characters some requests ask to skip, all together. -/
def skipsIn (rs : List Request) : Nat := (rs.map Request.skips).sum

/-- How many characters some requests ask to skip after the last of them that makes the engine
forget. -/
def keptSkips (rs : List Request) : Nat := skipsIn (rs.rtakeWhile (!·.forgets))

@[simp] private theorem skipsIn_append (rs qs : List Request) :
    skipsIn (rs ++ qs) = skipsIn rs + skipsIn qs := by
  simp [skipsIn]

private theorem skipsIn_singleton (r : Request) : skipsIn [r] = r.skips := by
  simp [skipsIn]

private theorem keptSkips_concat (rs : List Request) (r : Request) :
    keptSkips (rs ++ [r]) = if r.forgets then 0 else keptSkips rs + r.skips := by
  rw [keptSkips, List.rtakeWhile_concat]
  cases r.forgets with
  | true => rfl
  | false =>
    simp only [Bool.not_false, if_true, Bool.false_eq_true, if_false]
    rw [skipsIn_append, skipsIn_singleton, keptSkips]

/-- What the engine has noted after some requests is what they ask for since it last forgot, as a
count that wraps around. -/
theorem foldl_pending (rs : List Request) : rs.foldl Request.pending 0 = .ofNat (keptSkips rs) := by
  induction rs using List.reverseRecOn with
  | nil => rfl
  | append_singleton rs r ih =>
    rw [List.foldl_append, List.foldl_cons, List.foldl_nil, ih, Request.pending_ofNat,
      keptSkips_concat]

private theorem keptSkips_le {r : Request} (hr : r.forgets = true) (before after : List Request) :
    keptSkips (before ++ r :: after) ≤ skipsIn after := by
  induction after using List.reverseRecOn with
  | nil =>
    rw [keptSkips_concat, if_pos hr]
    exact Nat.zero_le _
  | append_singleton after q ih =>
    rw [← List.cons_append, ← List.append_assoc, keptSkips_concat, skipsIn_append,
      skipsIn_singleton]
    split
    · exact Nat.zero_le _
    · omega

/-- All that is asked for is kept just if nothing is asked for before the engine forgets. -/
theorem keptSkips_eq_iff {rs : List Request} :
    keptSkips rs = skipsIn rs ↔
      ∀ before r after, rs = before ++ r :: after → r.forgets = true → skipsIn before = 0 := by
  constructor
  · intro h before r after hsplit hr
    have hle := keptSkips_le hr before after
    have hsum : skipsIn rs = skipsIn before + (r.skips + skipsIn after) := by
      rw [hsplit, skipsIn_append]
      rfl
    rw [← hsplit] at hle
    omega
  · intro h
    induction rs using List.reverseRecOn with
    | nil => rfl
    | append_singleton rs q ih =>
      rw [keptSkips_concat, skipsIn_append, skipsIn_singleton]
      cases hq : q.forgets with
      | true =>
        have hzero : skipsIn rs = 0 := h rs q [] rfl hq
        rw [if_pos rfl, hzero, Request.skips_of_forgets hq]
      | false =>
        have hrest : keptSkips rs = skipsIn rs := by
          apply ih
          intro before r after hsplit hr
          exact h before r (after ++ [q]) (by rw [hsplit]; simp) hr
        rw [if_neg Bool.false_ne_true, hrest]

namespace Machine

variable {m : Machine} {s s' : Spot} {k k' : Cursor}

/-- What a decision skips is what its action asked for and the engine kept, as far as there is any
text left. -/
theorem Takes.length_skipped {d : Decision} (hm : m.nested.LeavesNoSkip) (hk : k.pendingSkip = 0)
    (h : m.Takes s k (.decided d) s' k') :
    d.skipped.length =
      min (keptSkips d.requests % UInt64.size) (s.ahead.length - d.text.length) := by
  cases h with
  | @decided d k₁ journal hdecides hcandidate hrequests hperformed hskipped =>
    have hpending : k₁.pendingSkip = .ofNat (keptSkips d.requests) := by
      rw [perform_pendingSkip hm hperformed, hk, ← hrequests, foldl_pending]
    rw [hskipped, List.length_take, List.length_drop, hpending, UInt64.toNat_ofNat']

/-- What is skipped moves the column by its length, and nothing is left to be skipped. -/
theorem Takes.exists_performed {d : Decision} (h : m.Takes s k (.decided d) s' k') :
    ∃ k₁ journal,
      m.perform (d.decider.action d.candidate) k = some ⟨.ok d.verdict, k₁, journal⟩ ∧
      k' = { d.decider.pass d.text.length k₁ with
        passed := (d.decider.pass d.text.length k₁).passed + .ofNat d.skipped.length
        pendingSkip := 0 } := by
  cases h with
  | decided hdecides hcandidate hrequests hperformed hskipped =>
    exact ⟨_, _, hperformed, rfl⟩

/-- A scan of the empty text does nothing but forget what was to be skipped. -/
theorem tokenize_nil (m : Machine) (k : Cursor) :
    m.tokenize [] k = some ⟨.ok [], k.clearSkip, m.tableEvents⟩ := by
  have hnext : m.next (Machine.scan k []) = some ⟨none, ⟨.start [], k.clearSkip, true⟩, []⟩ :=
    nextFrom_of_nil rfl
  have hcollect : m.collect (Machine.scan k []) =
      some (.ok [], ⟨.start [], k.clearSkip, true⟩, []) := by
    rw [collect]
    split
    · next h => rw [hnext] at h; cases h
    · next h => rw [hnext] at h; cases h; rfl
    · next h => rw [hnext] at h; cases h
    · next h => rw [hnext] at h; cases h
  rw [tokenize, hcollect, Option.map_some]
  simp only [List.append_nil]

end Machine

namespace Lexer

/-- Once a match or an unrecognized character is consumed, a scan skips just so many characters as
the action asked for after it last rewound the engine or started a scan, or all that are left if
there are fewer; each moves the column by one, and nothing is left to be skipped. The engine counts
what it is asked for in a word, which wraps around. What it keeps is all that the action asked for
just if it was asked for nothing before it was rewound or a scan was started. -/
theorem skipped_of_requests (l : Lexer) (depth : Nat) (text : String) {σs : List Stride}
    {s s' : Spot} {k k' : Cursor} {d : Decision}
    (hrun : (l.machine depth).Run (l.scan text).spot (l.scan text).cursor σs s k)
    (htakes : (l.machine depth).Takes s k (.decided d) s' k') :
    s.ahead = d.text ++ d.skipped ++ s'.ahead ∧
      d.skipped.length =
        min (keptSkips d.requests % UInt64.size) (s.ahead.length - d.text.length) ∧
      (∃ k₁ journal,
        (l.machine depth).perform (d.decider.action d.candidate) k =
          some ⟨.ok d.verdict, k₁, journal⟩ ∧
        k' = { d.decider.pass d.text.length k₁ with
          passed := (d.decider.pass d.text.length k₁).passed + .ofNat d.skipped.length
          pendingSkip := 0 }) ∧
      (keptSkips d.requests = skipsIn d.requests ↔
        ∀ before r after, d.requests = before ++ r :: after → r.forgets = true →
          skipsIn before = 0) := by
  have hm : (l.machine depth).nested.LeavesNoSkip :=
    Machine.leavesNoSkip_nestedOfDepth l.rules l.config depth
  have hk : k.pendingSkip = 0 := hrun.pendingSkip_eq rfl
  exact ⟨htakes.ahead_eq, htakes.length_skipped hm hk, htakes.exists_performed, keptSkips_eq_iff⟩

/-- A letter asks for two characters to be skipped, starts a scan, and asks for one more. -/
def rescanningDeclarations : List Declaration :=
  [.tokens ["LETTER"],
   .rule "LETTER" (.charClass .alpha)
     (some (Step.action [.skip 2, .tokenize "", .skip 1]))]

/-- The lexer for such letters. -/
def rescanningLexer : Lexer :=
  (define rescanningDeclarations .quiet).toOption.get (by decide +kernel)

/-- The lexeme for such letters. -/
def rescanningLexeme : Lexeme :=
  ⟨"LETTER", .charClass .alpha, some (Step.action [.skip 2, .tokenize "", .skip 1])⟩

/-- What is decided about the letter before three other characters. -/
def rescanningDecision : Decision :=
  ⟨.rule rescanningLexeme, ['a'], .ofMatch "LETTER" ['a'] ⟨1, 1⟩,
    [.skip 2, .tokenize "", .note (.nested []), .skip 1],
    .emit (.ofMatch "LETTER" ['a'] ⟨1, 1⟩), ['!']⟩

private theorem rescanningDecision_takes :
    (rescanningLexer.machine 1).Takes (rescanningLexer.scan "a!!!").spot
      (rescanningLexer.scan "a!!!").cursor (.decided rescanningDecision)
      ⟨['!', 'a'], ['!', '!']⟩ ⟨"initial", [], 1, 2, 0⟩ := by
  have hnested (k : Cursor) : (rescanningLexer.machine 1).nested "".toList k =
      some ⟨.ok [], k.clearSkip, []⟩ := Machine.tokenize_nil _ k
  have hwins : Wins (rescanningLexer.rules.lexemes "initial") ⟨[], ['a', '!', '!', '!']⟩
      rescanningLexeme 1 := .head (by decide) (by simp)
  have hdecides : (rescanningLexer.machine 1).Decides ⟨[], ['a', '!', '!', '!']⟩ .initial
      (.rule rescanningLexeme) (['a', '!', '!', '!'].take 1) := .rule rfl rfl hwins
  refine @Machine.Takes.decided _ _ _ rescanningDecision ⟨"initial", [], 1, 0, 1⟩
    [.note (.nested [])] hdecides rfl ?_ ?_ rfl
  · change [Request.skip 2, .tokenize "", .note (.nested []), .skip 1] =
      .skip 2 :: .tokenize "" :: ((rescanningLexer.machine 1).nested "".toList
        ⟨"initial", [], 1, 0, 2⟩).elim [] _
    rw [hnested]
    rfl
  · change Option.map _ (((rescanningLexer.machine 1).nested "".toList
      ⟨"initial", [], 1, 0, 2⟩).bind _) = _
    rw [hnested]
    rfl

/-- A scan that the action starts takes back what it asked for before. -/
theorem skipped_of_requests_rescanningLexer :
    (rescanningLexer.machine 1).Takes (rescanningLexer.scan "a!!!").spot
        (rescanningLexer.scan "a!!!").cursor (.decided rescanningDecision)
        ⟨['!', 'a'], ['!', '!']⟩ ⟨"initial", [], 1, 2, 0⟩ ∧
      keptSkips rescanningDecision.requests = 1 ∧ skipsIn rescanningDecision.requests = 3 ∧
      rescanningDecision.skipped.length =
        min (keptSkips rescanningDecision.requests % UInt64.size) (4 - 1) := by
  obtain ⟨-, hlength, -, -⟩ :=
    skipped_of_requests rescanningLexer 1 "a!!!" (.nil _ _) rescanningDecision_takes
  exact ⟨rescanningDecision_takes, rfl, rfl, hlength⟩

/-- Not all that an action asks to skip is skipped, though it does not rewind the engine. -/
theorem not_forall_skipped :
    ¬ ∀ (l : Lexer) (depth : Nat) (text : String) (σs : List Stride) (s s' : Spot)
      (k k' : Cursor) (d : Decision),
      (l.machine depth).Run (l.scan text).spot (l.scan text).cursor σs s k →
      (l.machine depth).Takes s k (.decided d) s' k' →
      (∀ before after, d.requests = before ++ .rewind :: after → skipsIn before = 0) →
      d.skipped.length = min (skipsIn d.requests) (s.ahead.length - d.text.length) := by
  intro h
  have hrewind : ∀ before after,
      rescanningDecision.requests = before ++ .rewind :: after → skipsIn before = 0 := by
    intro before after hsplit
    have hmem : Request.rewind ∈ rescanningDecision.requests := by
      rw [hsplit]
      simp
    simp [rescanningDecision] at hmem
  have hlength : 1 = 3 :=
    h rescanningLexer 1 "a!!!" [] _ _ _ _ rescanningDecision (.nil _ _) rescanningDecision_takes
      hrewind
  cases hlength

end Lexer

end ModalLexer
