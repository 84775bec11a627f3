import ModalLexer.Proofs.Histories
import ModalLexer.Proofs.Progress

/-!
# The views of a scan

A scan can be followed one result at a time, its tokens can be handed to a function, or they can be
listed. `Machine.Unfolds` says how a scan goes on to its end, without saying who follows it, and
each view is determined by it. So the views have the same tokens, the same error and the same lexer
in the end; a scan that cannot be followed to its end in one view cannot be in any.
-/

namespace ModalLexer

open Text (Spot)

namespace Machine

/-- How a scan goes on to its end: the tokens it gives, the error that ends it if there is one,
where it is left, and what comes out on the way. -/
inductive Unfolds (m : Machine) : Scan → List Token → Option LexError → Scan → Journal → Prop
  | ended {scan scan' : Scan} {journal : Journal}
      (next : m.next scan = some ⟨none, scan', journal⟩) :
      Unfolds m scan [] none scan' journal
  | failed {scan scan' : Scan} {e : LexError} {journal : Journal}
      (next : m.next scan = some ⟨some (.error e), scan', journal⟩) :
      Unfolds m scan [] (some e) scan' journal
  | token {scan scan₁ scan' : Scan} {token : Token} {tokens : List Token}
      {failure : Option LexError} {journal more : Journal}
      (next : m.next scan = some ⟨some (.ok token), scan₁, journal⟩)
      (rest : Unfolds m scan₁ tokens failure scan' more) :
      Unfolds m scan (token :: tokens) failure scan' (journal ++ more)

/-- A scan gives some tokens, and then what comes next is never found. -/
inductive Stalls (m : Machine) : Scan → Prop
  | here {scan : Scan} (next : m.next scan = none) : Stalls m scan
  | later {scan scan' : Scan} {token : Token} {journal : Journal}
      (next : m.next scan = some ⟨some (.ok token), scan', journal⟩) (rest : Stalls m scan') :
      Stalls m scan

variable {m : Machine} {scan scan' : Scan} {tokens : List Token} {failure : Option LexError}
  {journal : Journal}

/-- A scan goes on to its end, or what comes next is not found at some time. -/
theorem unfolds_or_stalls (m : Machine) (scan : Scan) :
    (∃ tokens failure scan' journal, m.Unfolds scan tokens failure scan' journal) ∨
      m.Stalls scan := by
  fun_induction collect m scan with
  | case1 scan hnext => exact .inr (.here hnext)
  | case2 scan scan₁ journal hnext => exact .inl ⟨_, _, _, _, .ended hnext⟩
  | case3 scan e scan₁ journal hnext => exact .inl ⟨_, _, _, _, .failed hnext⟩
  | case4 scan token scan₁ journal hnext ih =>
    rcases ih with ⟨tokens, failure, scan', more, hrest⟩ | hrest
    · exact .inl ⟨_, _, _, _, .token hnext hrest⟩
    · exact .inr (.later hnext hrest)

/-- What is listed is what comes next and what is listed after it. -/
theorem collect_eq_bind (m : Machine) (scan : Scan) :
    m.collect scan = (m.next scan).bind fun
      | ⟨none, scan', journal⟩ => some (.ok [], scan', journal)
      | ⟨some (.error e), scan', journal⟩ => some (.error e, scan', journal)
      | ⟨some (.ok token), scan', journal⟩ =>
        (m.collect scan').map fun (result, scan', more) ↦
          (result.map (token :: ·), scan', journal ++ more) := by
  rw [collect]
  split
  all_goals
    next hnext =>
    rw [hnext]
    rfl

/-- What is gathered is what comes next and what is gathered after it. -/
theorem stream_eq_bind {σ : Type} (m : Machine) (gather : σ → Token → σ) (start : σ)
    (scan : Scan) :
    m.stream gather start scan = (m.next scan).bind fun
      | ⟨none, scan', journal⟩ => some (start, .ok (), scan', journal)
      | ⟨some (.error e), scan', journal⟩ => some (start, .error e, scan', journal)
      | ⟨some (.ok token), scan', journal⟩ =>
        (m.stream gather (gather start token) scan').map fun (gathered, result, scan', more) ↦
          (gathered, result, scan', journal ++ more) := by
  rw [stream]
  split
  all_goals
    next hnext =>
    rw [hnext]
    rfl

/-! ### A scan that goes on to its end -/

namespace Unfolds

/-- Once a scan was followed to its end it is over. -/
theorem done (h : m.Unfolds scan tokens failure scan' journal) : scan'.done = true := by
  induction h with
  | @ended scan scan' journal hnext =>
    rcases next_run hnext with ⟨hdone, heq⟩ | ⟨_, σs, s₁, k₁, _, _, hgives⟩
    · cases heq
      exact hdone
    · cases hgives
      rfl
  | failed hnext => exact (over_of_next hnext rfl).1
  | token _ _ ih => exact ih

/-- The scan is left where it comes by being asked. -/
theorem asked (h : m.Unfolds scan tokens failure scan' journal) : m.Asked scan scan' := by
  induction h with
  | ended hnext => exact .more hnext (.none _)
  | failed hnext => exact .more hnext (.none _)
  | token hnext _ ih => exact .more hnext ih

/-- The tokens and the error of a scan are no more than the characters ahead. -/
theorem length_le (h : m.Unfolds scan tokens failure scan' journal) :
    tokens.length + failure.toList.length ≤ scan.spot.ahead.length := by
  induction h with
  | ended => exact Nat.zero_le _
  | failed hnext => exact List.length_pos_iff.2 (over_of_next hnext rfl).2
  | token hnext _ ih =>
    have hlt := next_lt hnext rfl
    rw [List.length_cons]
    dsimp only at hlt
    omega

/-- A scan that is followed one result at a time gives the tokens, then the error if there is one,
and then nothing. -/
theorem pulls_eq (h : m.Unfolds scan tokens failure scan' journal) {count : Nat}
    (hcount : tokens.length + failure.toList.length < count) :
    ∃ ps, m.pulls count scan = some ps ∧
      ps.map (·.item) =
        tokens.map (some ∘ .ok) ++ failure.toList.map (some ∘ .error) ++ [none] ∧
      standing scan ps = scan' ∧ ps.flatMap (·.journal) = journal := by
  induction h generalizing count with
  | @ended scan scan' journal hnext =>
    obtain ⟨count, rfl⟩ := Nat.exists_eq_add_one_of_ne_zero (Nat.ne_zero_of_lt hcount)
    refine ⟨[⟨none, scan', journal⟩], ?_, rfl, rfl, List.append_nil journal⟩
    rw [pulls, hnext]
    rfl
  | @failed scan scan' e journal hnext =>
    -- The scan is over, so it reports its end the next time.
    obtain ⟨count, rfl⟩ := Nat.exists_eq_add_of_lt hcount
    have hdone := (over_of_next hnext rfl).1
    refine ⟨[⟨some (.error e), scan', journal⟩, ⟨none, scan', []⟩], ?_, rfl, rfl,
      List.append_nil journal⟩
    have hover : m.pulls (count + 1) scan' = some [⟨none, scan', []⟩] := by
      rw [pulls, next, if_pos hdone]
      rfl
    have hsucc : ([] : List Token).length + (some e).toList.length + count + 1 = count + 1 + 1 := by
      simp only [List.length_nil, Option.toList_some, List.length_singleton]
      omega
    rw [hsucc, pulls, hnext, Option.bind_some, hover]
    rfl
  | @token scan scan₁ scan' token tokens failure journal more hnext _ ih =>
    obtain ⟨count, rfl⟩ := Nat.exists_eq_add_one_of_ne_zero (Nat.ne_zero_of_lt hcount)
    rw [List.length_cons] at hcount
    obtain ⟨ps, hps, hitems, hstanding, hjournal⟩ := @ih count (by omega)
    refine ⟨⟨some (.ok token), scan₁, journal⟩ :: ps, ?_, ?_, ?_, ?_⟩
    · rw [pulls, hnext, Option.bind_some, hps]
      rfl
    · rw [List.map_cons, hitems]
      rfl
    · rw [standing_cons]
      exact hstanding
    · rw [List.flatMap_cons, hjournal]

/-- A scan of which the tokens are handed to a function hands over just its tokens, in order. -/
theorem stream_eq {σ : Type} (gather : σ → Token → σ) (start : σ)
    (h : m.Unfolds scan tokens failure scan' journal) :
    m.stream gather start scan =
      some (tokens.foldl gather start, failure.elim (.ok ()) .error, scan', journal) := by
  induction h generalizing start with
  | ended hnext => rw [stream_eq_bind, hnext]; rfl
  | failed hnext => rw [stream_eq_bind, hnext]; rfl
  | token hnext _ ih =>
    rw [stream_eq_bind, hnext, Option.bind_some]
    dsimp only
    rw [ih]
    rfl

/-- A scan of which the tokens are listed has just its tokens in the list, or its error instead. -/
theorem collect_eq (h : m.Unfolds scan tokens failure scan' journal) :
    m.collect scan = some (failure.elim (.ok tokens) .error, scan', journal) := by
  induction h with
  | ended hnext => rw [collect_eq_bind, hnext]; rfl
  | failed hnext => rw [collect_eq_bind, hnext]; rfl
  | @token scan scan₁ scan' token tokens failure journal more hnext _ ih =>
    rw [collect_eq_bind, hnext, Option.bind_some]
    dsimp only
    rw [ih]
    cases failure <;> rfl

end Unfolds

/-! ### A scan that is not found to go on -/

namespace Stalls

/-- What comes next is not found wherever the scan has come. -/
theorem exists_asked (h : m.Stalls scan) : ∃ scan', m.Asked scan scan' ∧ m.next scan' = none := by
  induction h with
  | here hnext => exact ⟨_, .none _, hnext⟩
  | later hnext _ ih =>
    obtain ⟨scan', hasked, hnone⟩ := ih
    exact ⟨scan', .more hnext hasked, hnone⟩

/-- Some action does not end. -/
theorem not_actionsEnd (h : m.Stalls scan) : ¬ m.ActionsEnd scan := by
  intro hend
  obtain ⟨scan', hasked, hnone⟩ := h.exists_asked
  have hsome := hasked.isSome_next hend
  rw [hnone] at hsome
  cases hsome

private theorem pulls_eq (h : m.Stalls scan) {count : Nat}
    (hcount : scan.spot.ahead.length < count) :
    m.pulls count scan = none := by
  induction h generalizing count with
  | here hnext =>
    obtain ⟨count, rfl⟩ := Nat.exists_eq_add_one_of_ne_zero (Nat.ne_zero_of_lt hcount)
    rw [pulls, hnext]
    rfl
  | @later scan scan' token journal hnext _ ih =>
    obtain ⟨count, rfl⟩ := Nat.exists_eq_add_one_of_ne_zero (Nat.ne_zero_of_lt hcount)
    have hlt : scan'.spot.ahead.length < scan.spot.ahead.length := next_lt hnext rfl
    rw [pulls, hnext, Option.bind_some, ih (by omega)]
    rfl

/-- Handing over the tokens of a scan that stalls has no outcome. -/
theorem stream_eq {σ : Type} (gather : σ → Token → σ) (start : σ) (h : m.Stalls scan) :
    m.stream gather start scan = none := by
  induction h generalizing start with
  | here hnext => rw [stream_eq_bind, hnext]; rfl
  | later hnext _ ih =>
    rw [stream_eq_bind, hnext, Option.bind_some]
    dsimp only
    rw [ih]
    rfl

/-- Neither has listing them. -/
theorem collect_eq (h : m.Stalls scan) : m.collect scan = none := by
  induction h with
  | here hnext => rw [collect_eq_bind, hnext]; rfl
  | later hnext _ ih =>
    rw [collect_eq_bind, hnext, Option.bind_some]
    dsimp only
    rw [ih]
    rfl

end Stalls

/-- However often a scan that is over is asked, it gives nothing and stays as it is. -/
theorem next_of_asked_done (hdone : scan.done = true) (h : m.Asked scan scan') :
    m.next scan' = some ⟨none, scan, []⟩ := by
  rw [h.eq_of_done hdone, next, if_pos hdone]

end Machine

namespace Lexer

/-- All views of a scan agree. Either some action does not end, and then no view has an outcome; or
there are tokens, perhaps with an error after them, that all views have in common. Followed one
result at a time, the scan gives the tokens in order, then the error if there is one, and then
nothing, for ever; so it does if what is known of the rules is logged first. A function that gathers
tokens is handed just these, and the error is returned. A list of tokens has just these, unless
there is the error. Whether there is an error or not, each view leaves the same lexer, with nothing
to skip, and the same comes out on the way. -/
theorem views_agree (l : Lexer) (depth : Nat) (text : String) :
    (¬ (l.machine depth).ActionsEnd (l.scan text) ∧
      l.pulls depth text none = none ∧ l.announcedPulls depth text none = none ∧
      (∀ (σ : Type) (gather : σ → Token → σ) (start : σ),
        l.stream depth gather start text = none) ∧
      l.tokenize depth text = none) ∨
    ∃ (tokens : List Token) (failure : Option LexError) (ps : List Pull) (l' : Lexer)
      (journal : Journal),
      l.pulls depth text none = some (ps, l') ∧
      ps.map (·.item) =
        tokens.map (some ∘ .ok) ++ failure.toList.map (some ∘ .error) ++ [none] ∧
      (∀ scan, (l.machine depth).Asked (l.scanAfter text ps) scan →
        (l.machine depth).next scan = some ⟨none, l.scanAfter text ps, []⟩) ∧
      l.announcedPulls depth text none = some ((l.machine depth).tableEvents, ps, l') ∧
      (∀ (σ : Type) (gather : σ → Token → σ) (start : σ),
        l.stream depth gather start text =
          some (tokens.foldl gather start, failure.elim (.ok ()) .error, l', journal)) ∧
      l.tokenize depth text = some (failure.elim (.ok tokens) .error, l', journal) ∧
      journal = (l.machine depth).tableEvents ++ ps.flatMap (·.journal) ∧
      l' = l.withCursor (l.scanAfter text ps).cursor ∧ l'.cursor.pendingSkip = 0 := by
  have htokenize : l.tokenize depth text = ((l.machine depth).collect (l.scan text)).map
      fun (result, scan, journal) ↦
        (result, l.withCursor scan.cursor, (l.machine depth).tableEvents ++ journal) := by
    rw [tokenize, Machine.tokenize, Option.map_map]
    rfl
  rcases (l.machine depth).unfolds_or_stalls (l.scan text) with
    ⟨tokens, failure, scan', journal, h⟩ | h
  · right
    have hlength : tokens.length + failure.toList.length ≤ text.toList.length := h.length_le
    obtain ⟨ps, hps, hitems, hstanding, rfl⟩ :=
      h.pulls_eq (show tokens.length + failure.toList.length < text.toList.length + 2 by omega)
    have hpulls : l.pulls depth text none = some (ps, l.withCursor scan'.cursor) := by
      rw [← hstanding]
      exact congrArg (Option.map _) hps
    have hskip : scan'.cursor.pendingSkip = 0 := h.asked.pendingSkip_eq rfl
    refine ⟨tokens, failure, ps, l.withCursor scan'.cursor, _, hpulls, hitems, ?_, ?_, ?_, ?_, rfl,
      ?_, hskip⟩
    · intro scan hasked
      rw [scanAfter, hstanding] at hasked ⊢
      exact Machine.next_of_asked_done h.done hasked
    · rw [announcedPulls, hpulls]
      rfl
    · intro σ gather start
      rw [stream, h.stream_eq gather start]
      rfl
    · rw [htokenize, h.collect_eq]
      rfl
    · rw [scanAfter, hstanding]
  · left
    have hpulls : l.pulls depth text none = none :=
      congrArg (Option.map _) (h.pulls_eq (Nat.lt_add_of_pos_right Nat.two_pos))
    refine ⟨h.not_actionsEnd, hpulls, ?_, ?_, ?_⟩
    · rw [announcedPulls, hpulls]
      rfl
    · intro σ gather start
      rw [stream, h.stream_eq gather start]
      rfl
    · rw [htokenize, h.collect_eq]
      rfl

/-- Three tokens and an error. -/
theorem views_agree_bracketLexer :
    ∃ (tokens : List Token) (ps : List Pull) (l' : Lexer) (journal : Journal),
      tokens.map (·.name) = ["OPEN", "OPEN", "CLOSE"] ∧
      bracketLexer.pulls 1 "(()x" none = some (ps, l') ∧
      ps.map (·.item) =
        tokens.map (some ∘ .ok) ++ [some (.error (.illegalCharacter 'x' 1 5)), none] ∧
      bracketLexer.stream 1 (fun tokens token ↦ tokens ++ [token]) [] "(()x" =
        some (tokens.foldl (fun tokens token ↦ tokens ++ [token]) [],
          .error (.illegalCharacter 'x' 1 5), l', journal) ∧
      bracketLexer.tokenize 1 "(()x" =
        some (.error (.illegalCharacter 'x' 1 5), l', journal) := by
  have hgiven : (bracketLexer.pulls 1 "(()x" none).map (fun r ↦
      r.1.map fun p ↦ p.item.map fun item ↦ item.map (·.name)) =
      some [some (.ok "OPEN"), some (.ok "OPEN"), some (.ok "CLOSE"),
        some (.error (.illegalCharacter 'x' 1 5)), none] := by decide +kernel
  rcases views_agree bracketLexer 1 "(()x" with
    ⟨_, hnone, _⟩ | ⟨tokens, failure, ps, l', journal, h⟩
  · rw [hnone] at hgiven
    cases hgiven
  · obtain ⟨hpulls, hitems, _, _, hstream, htokenize, _⟩ := h
    have hnames : (ps.map (·.item)).map (fun item ↦ item.map fun item ↦ item.map (·.name)) =
        [some (.ok "OPEN"), some (.ok "OPEN"), some (.ok "CLOSE"),
          some (.error (.illegalCharacter 'x' 1 5)), none] := by
      rw [hpulls] at hgiven
      rw [List.map_map]
      exact Option.some.inj hgiven
    rw [hitems] at hnames
    obtain ⟨hfailure, htokens⟩ : failure = some (.illegalCharacter 'x' 1 5) ∧
        tokens.map (·.name) = ["OPEN", "OPEN", "CLOSE"] := by
      rcases tokens with _ | ⟨t₁, _ | ⟨t₂, _ | ⟨t₃, _ | ⟨t₄, tokens⟩⟩⟩⟩ <;> cases failure <;>
        simp_all [Except.map]
    rw [hfailure, List.append_assoc] at hitems
    rw [hfailure] at htokenize hstream
    exact ⟨tokens, ps, l', journal, htokens, hpulls, hitems, hstream _ _ _, htokenize⟩

end Lexer

end ModalLexer
