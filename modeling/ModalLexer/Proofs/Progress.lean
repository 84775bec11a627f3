import ModalLexer.Action.Step
import ModalLexer.Pattern.Custom
import ModalLexer.Proofs.Invariants
import ModalLexer.Proofs.Positions
import ModalLexer.Proofs.Repetition

/-!
# A scan gets on

Offsets are counted in bytes, and a text may be cut between two characters only. Whatever a matcher
written by hand answers, a match is a piece of the text: it has a character, and the text may be cut
before and after it. So every round of a scan starts and ends where the text may be cut and gets
past at least one character unless it fails. Hence a scan has no more rounds than characters, and
what comes next is always found unless an action does not end.
-/

namespace ModalLexer

open Text (Spot)

/-! ### Pieces of a text -/

namespace Text

/-- Whether a text may be cut at a byte offset: not inside a character and not beyond the end. -/
def IsBoundary (text : List Char) (offset : Nat) : Prop :=
  (splitBytes? offset text).isSome = true

/-- So many bytes from an offset on are a piece of a text: there is a character in it, and the text
may be cut before and after it. -/
structure Piece (text : List Char) (offset length : Nat) : Prop where
  pos : 0 < length
  front : IsBoundary text offset
  back : IsBoundary text (offset + length)
  within : offset + length ≤ utf8Length text

namespace Spot

/-- A text may be cut at every spot of it. -/
theorem isBoundary (s : Spot) : IsBoundary s.text s.offset := by
  have hsplit : splitBytes? s.offset s.text = some (s.behind.reverse, s.ahead) :=
    splitBytes?_eq_some_iff.2 ⟨rfl, utf8Length_reverse s.behind⟩
  rw [IsBoundary, hsplit]
  rfl

/-- No spot lies beyond the end. -/
theorem offset_le (s : Spot) : s.offset ≤ utf8Length s.text := by
  rw [text, utf8Length_append, utf8Length_reverse]
  exact Nat.le_add_right _ _

/-- The offset grows by the bytes of the characters that are passed. -/
theorem offset_advance_length {s : Spot} {front back : List Char} (h : s.ahead = front ++ back) :
    (s.advance front.length).offset = s.offset + utf8Length front := by
  rw [offset_advance, h, List.take_left]

/-- The next characters are a piece of the text. -/
theorem piece {s : Spot} {front back : List Char} (h : s.ahead = front ++ back)
    (hne : front ≠ []) : Piece s.text s.offset (utf8Length front) := by
  have hend := offset_advance_length h
  have hback := (s.advance front.length).isBoundary
  have hwithin := (s.advance front.length).offset_le
  rw [text_advance, hend] at hback hwithin
  exact ⟨Nat.pos_of_ne_zero fun hzero ↦ hne (utf8Length_eq_zero_iff.1 hzero), s.isBoundary, hback,
    hwithin⟩

end Spot

end Text

/-! ### Matches -/

namespace Matcher

/-- The length of a match at a spot is that of the characters that match. -/
theorem lengthAt_offset (m : Matcher) (s : Spot) :
    m.lengthAt s.text s.offset = (m.span? s).map fun n ↦ Text.utf8Length (s.ahead.take n) := by
  rw [lengthAt, Spot.at?_eq_some_iff.2 ⟨rfl, rfl⟩]
  rfl

/-- At an offset of a text, the length of a match is that of the characters that match there. -/
theorem lengthAt_of_at? {text : List Char} {offset : Nat} {s : Spot}
    (h : Spot.at? text offset = some s) (m : Matcher) :
    m.lengthAt text offset = (m.span? s).map fun n ↦ Text.utf8Length (s.ahead.take n) := by
  rw [lengthAt, h, Option.bind_some]

/-- Whatever a matcher written by hand answers and whatever offset is asked about: a match is a
piece of the text. -/
theorem piece_of_lengthAt {m : Matcher} {text : List Char} {offset length : Nat}
    (h : m.lengthAt text offset = some length) : Text.Piece text offset length := by
  obtain ⟨s, hs, hmatch⟩ := Option.bind_eq_some_iff.1 h
  obtain ⟨n, hn, rfl⟩ := Option.map_eq_some_iff.1 hmatch
  obtain ⟨rfl, rfl⟩ := Spot.at?_eq_some_iff.1 hs
  have hpos := span?_pos hn
  have hle := span?_le hn
  refine Spot.piece (List.take_append_drop n s.ahead).symm fun hnil ↦ ?_
  rw [List.take_eq_nil_iff, ← List.length_eq_zero_iff] at hnil
  omega

end Matcher

/-! ### Rounds -/

namespace Machine

variable {m : Machine} {s s' : Spot} {k k' : Cursor} {σs : List Stride}

/-- A step consumes a character at least. -/
theorem Takes.text_ne_nil {σ : Stride} (h : m.Takes s k σ s' k') : σ.text ≠ [] := by
  cases h with
  | ignored => exact List.cons_ne_nil _ _
  | decided hdecides => exact List.append_ne_nil_of_left_ne_nil hdecides.ne_nil _

/-- A step that fails stays where it is or passes one character. -/
theorem Fails.spot_eq {e : LexError} (h : m.Fails s k e s' k') : s' = s ∨ s' = s.advance 1 := by
  cases h with
  | unrecognized => exact .inl rfl
  | rule => exact .inl rfl
  | handler => exact .inr rfl

/-- Steps fail only where there is a character ahead. -/
theorem Fails.ahead_ne_nil {e : LexError} (h : m.Fails s k e s' k') : s.ahead ≠ [] := by
  obtain ⟨c, rest, journal, hahead, _⟩ := fails_iff.1 h
  rw [hahead]
  exact List.cons_ne_nil c rest

/-- A run stays in its text. -/
theorem Run.text_eq (h : m.Run s k σs s' k') : s'.text = s.text := by
  induction h with
  | nil => rfl
  | cons first _ ih => rw [ih, first.spot_eq, Spot.text_advance]

/-- So does whatever comes next. -/
theorem Gives.text_eq {pull : Pull} (h : m.Gives s k pull) : pull.scan.spot.text = s.text := by
  cases h with
  | nothing => rfl
  | token htakes => rw [htakes.spot_eq, Spot.text_advance]
  | error hfails =>
    rcases hfails.spot_eq with rfl | rfl
    · rfl
    · exact s.text_advance 1

/-- The offset grows by the bytes that the steps of a run consume. -/
theorem Run.offset_eq (h : m.Run s k σs s' k') :
    s'.offset = s.offset + Text.utf8Length (σs.flatMap (·.text)) := by
  rw [Spot.offset, h.behind_eq, Text.utf8Length_append, Text.utf8Length_reverse, Nat.add_comm]
  rfl

/-- What a round of a scan can rely on: every cut of the text that it makes is a possible one. What
is decided about is a piece of the text, and a rule decides about what its matcher finds there. A
step gets past a piece of the text, and one that fails leaves the scan where the text may be cut. -/
structure Round (m : Machine) (text : List Char) (s : Spot) (k : Cursor) : Prop where
  start : Text.IsBoundary text s.offset
  decides : ∀ {d next}, m.Decides s k d next → Text.Piece text s.offset (Text.utf8Length next)
  matched : ∀ {l next}, m.Decides s k (.rule l) next →
    l.matcher.lengthAt text s.offset = some (Text.utf8Length next)
  takes : ∀ {σ s' k'}, m.Takes s k σ s' k' →
    Text.Piece text s.offset (Text.utf8Length σ.text) ∧
      s'.offset = s.offset + Text.utf8Length σ.text
  fails : ∀ {e s' k'}, m.Fails s k e s' k' → Text.IsBoundary text s'.offset

private theorem round (m : Machine) (s : Spot) (k : Cursor) : m.Round s.text s k where
  start := s.isBoundary
  decides := by
    intro d next hdecides
    obtain ⟨rest, hahead⟩ := hdecides.ahead_eq
    exact Spot.piece hahead hdecides.ne_nil
  matched := by
    intro l next hdecides
    cases hdecides with
    | rule hahead hkept hwins => rw [Matcher.lengthAt_offset, hwins.span?_eq, Option.map_some]
  takes := by
    intro σ s' k' htakes
    refine ⟨Spot.piece htakes.ahead_eq htakes.text_ne_nil, ?_⟩
    rw [htakes.spot_eq]
    exact Spot.offset_advance_length htakes.ahead_eq
  fails := by
    intro e s' k' hfails
    rcases hfails.spot_eq with rfl | rfl
    · exact s'.isBoundary
    · rw [← s.text_advance 1]
      exact (s.advance 1).isBoundary

/-! ### What comes next is found -/

/-- Whether every action ends that a scan comes to perform before it fails. -/
def ActionsEnd (m : Machine) (scan : Scan) : Prop :=
  ∀ {σs s k d text}, m.Run scan.spot scan.cursor σs s k → m.Decides s k d text →
    (m.perform (d.action (Token.ofMatch d.name text k.position)) k).isSome = true

/-- A routine that starts no scan ends. -/
theorem perform_isSome {routine : Routine}
    (h : ∀ r ∈ m.requests routine k, ∀ input, r ≠ .tokenize input) :
    (m.perform routine k).isSome = true := by
  induction routine generalizing k with
  | finish => rfl
  | ask r next ih =>
    obtain ⟨hr, hrest⟩ := List.forall_mem_cons.1 h
    obtain ⟨reply, hreply⟩ : ∃ reply, m.answer k r = some reply := by
      cases r with
      | tokenize input => exact absurd rfl (hr input)
      | _ => exact ⟨_, rfl⟩
    rw [hreply] at hrest
    rw [perform, hreply, Option.bind_some, Option.isSome_map]
    exact ih reply.value hrest

/-- Actions that always end do so in every scan. -/
theorem actionsEnd_of_rules {scan : Scan}
    (hrules : ∀ state, ∀ l ∈ m.rules.lexemes state, ∀ token k,
      (m.perform (l.effectiveAction token) k).isSome = true)
    (hhandlers : ∀ state a, m.rules.handler? state = some a → ∀ token k,
      (m.perform (a token) k).isSome = true) : m.ActionsEnd scan := by
  intro σs s k d text _ hdecides
  cases hdecides with
  | @rule c rest l n hahead hkept hwins =>
    obtain ⟨earlier, later, hlexemes, _⟩ := hwins
    have hmem : l ∈ m.rules.lexemes k.state := by
      rw [hlexemes]
      exact List.mem_append_cons_self
    exact hrules _ l hmem _ k
  | handler hahead hkept hunmatched hhandles => exact hhandlers _ _ hhandles _ k

/-- If nothing comes of asking for what comes next, an action does not end. -/
theorem exists_unended_of_nextFrom (h : m.nextFrom s k = none) :
    ∃ σs s₁ k₁ d text, m.Run s k σs s₁ k₁ ∧ m.Decides s₁ k₁ d text ∧
      m.perform (d.action (Token.ofMatch d.name text k₁.position)) k₁ = none := by
  fun_induction nextFrom m s k with
  | case1 => cases h
  | case2 s k c rest hs hstep =>
    rcases ignored_or_decides (m := m) (k := k) hs with hig | ⟨d, text, hd⟩ | ⟨hk, hu, hh⟩
    · rw [step, hig] at hstep
      cases hstep
    · rw [step_of_decides hs hd, Option.map_eq_none_iff] at hstep
      exact ⟨[], s, k, d, text, .nil s k, hd, hstep⟩
    · rw [step_of_unhandled hk hu hh] at hstep
      cases hstep
  | case3 => cases h
  | case4 => cases h
  | case5 s k c rest hs place hstep ih =>
    obtain ⟨σ, htakes, _⟩ := takes_iff.2 ⟨c, rest, place.journal, hs, hstep⟩
    obtain ⟨σs, s₁, k₁, d, text, hrun, hunended⟩ := ih (Option.map_eq_none_iff.1 h)
    exact ⟨σ :: σs, s₁, k₁, d, text, .cons htakes hrun, hunended⟩

variable {scan scan' : Scan}

/-- A scan that is over stays as it is. -/
theorem Asked.eq_of_done (h : m.Asked scan scan') (hdone : scan.done = true) : scan' = scan := by
  induction h with
  | none => rfl
  | more hnext _ ih =>
    rw [next, if_pos hdone] at hnext
    cases hnext
    exact ih hdone

/-- A scan that is not over has come where it stands by one run. -/
theorem Asked.exists_run (h : m.Asked scan scan') (hdone : scan'.done = false) :
    ∃ σs, m.Run scan.spot scan.cursor σs scan'.spot scan'.cursor := by
  induction h with
  | none scan => exact ⟨[], .nil _ _⟩
  | @more scan scan' pull hnext hrest ih =>
    obtain ⟨τs, hrun'⟩ := ih hdone
    have hover : pull.scan.done = false := by
      cases hpull : pull.scan.done with
      | false => rfl
      | true =>
        rw [hrest.eq_of_done hpull, hpull] at hdone
        cases hdone
    rcases next_run hnext with ⟨_, rfl⟩ | ⟨_, σs, s₁, k₁, hrun, _, hgives⟩
    · exact ⟨τs, hrun'⟩
    · cases hgives with
      | nothing => cases hover
      | token htakes => exact ⟨_, hrun.trans (.cons htakes hrun')⟩
      | error => cases hover

/-- What comes next is found if all actions end. -/
theorem Asked.isSome_next (h : m.Asked scan scan') (hend : m.ActionsEnd scan) :
    (m.next scan').isSome = true := by
  unfold next
  split
  · rfl
  · next hdone =>
    obtain ⟨σs, hrun⟩ := h.exists_run (by simpa using hdone)
    rw [Option.isSome_iff_ne_none]
    intro hnone
    obtain ⟨τs, s₁, k₁, d, text, hrun', hdecides, hunended⟩ := exists_unended_of_nextFrom hnone
    have hended := hend (hrun.trans hrun') hdecides
    rw [hunended] at hended
    cases hended

/-- However a scan is asked, it stays in its text. -/
theorem Asked.text_eq (h : m.Asked scan scan') : scan'.spot.text = scan.spot.text := by
  induction h with
  | none => rfl
  | more hnext _ ih =>
    rw [ih]
    rcases next_run hnext with ⟨_, rfl⟩ | ⟨_, σs, s₁, k₁, hrun, _, hgives⟩
    · rfl
    · rw [hgives.text_eq, hrun.text_eq]

/-- However a scan is asked, nothing is left to be skipped. -/
theorem Asked.pendingSkip_eq (h : m.Asked scan scan') (hscan : scan.cursor.pendingSkip = 0) :
    scan'.cursor.pendingSkip = 0 := by
  induction h with
  | none => exact hscan
  | more hnext _ ih => exact ih (next_pendingSkip hnext hscan)

/-! ### What is given is paid for with characters -/

/-- A scan that gave a token has got past a character at least. -/
theorem passed_of_next {pull : Pull} {token : Token} (h : m.next scan = some pull)
    (hitem : pull.item = some (.ok token)) :
    ∃ piece, piece ≠ [] ∧ scan.spot.ahead = piece ++ pull.scan.spot.ahead ∧
      pull.scan.spot.offset = scan.spot.offset + Text.utf8Length piece := by
  rcases next_run h with ⟨_, rfl⟩ | ⟨_, σs, s₁, k₁, hrun, _, hgives⟩
  · cases hitem
  · cases hgives with
    | nothing => cases hitem
    | error => cases hitem
    | @token σ token' s₂ k₂ journal htakes hemits =>
      have hwhole := hrun.trans (.cons htakes (.nil s₂ k₂))
      refine ⟨(σs ++ [σ]).flatMap (·.text), ?_, hwhole.ahead_eq, hwhole.offset_eq⟩
      rw [List.flatMap_append, List.flatMap_cons]
      exact List.append_ne_nil_of_right_ne_nil _
        (List.append_ne_nil_of_left_ne_nil htakes.text_ne_nil _)

/-- A scan that gave an error is over, and there was a character ahead. -/
theorem over_of_next {pull : Pull} {e : LexError} (h : m.next scan = some pull)
    (hitem : pull.item = some (.error e)) : pull.scan.done = true ∧ scan.spot.ahead ≠ [] := by
  rcases next_run h with ⟨_, rfl⟩ | ⟨_, σs, s₁, k₁, hrun, _, hgives⟩
  · cases hitem
  · cases hgives with
    | nothing => cases hitem
    | token => cases hitem
    | error hfails =>
      refine ⟨rfl, ?_⟩
      rw [hrun.ahead_eq]
      exact List.append_ne_nil_of_right_ne_nil _ hfails.ahead_ne_nil

/-- A scan that is over gives nothing more. -/
theorem item_of_done {count : Nat} {ps : List Pull} (hdone : scan.done = true)
    (h : m.pulls count scan = some ps) : ∀ p ∈ ps, p.item = none := by
  cases count with
  | zero =>
    cases h
    simp
  | succ count =>
    rw [pulls, next, if_pos hdone] at h
    cases h
    simp

/-- A scan gives no more tokens and errors than there are characters ahead. -/
theorem length_results_le {count : Nat} {ps : List Pull} (h : m.pulls count scan = some ps) :
    (ps.filter (·.item.isSome)).length ≤ scan.spot.ahead.length := by
  induction count generalizing scan ps with
  | zero =>
    cases h
    exact Nat.zero_le _
  | succ count ih =>
    rw [pulls, Option.bind_eq_some_iff] at h
    obtain ⟨pull, hnext, hrest⟩ := h
    cases hitem : pull.item with
    | none =>
      rw [hitem] at hrest
      cases hrest
      simp [hitem]
    | some result =>
      rw [hitem] at hrest
      obtain ⟨ps', hps', rfl⟩ := Option.map_eq_some_iff.1 hrest
      rw [List.filter_cons_of_pos (by rw [hitem]; rfl), List.length_cons]
      cases result with
      | ok token => exact Nat.lt_of_le_of_lt (ih hps') (next_lt hnext hitem)
      | error e =>
        obtain ⟨hdone, hne⟩ := over_of_next hnext hitem
        have hnone : ps'.filter (·.item.isSome) = [] :=
          List.filter_eq_nil_iff.2 fun p hp ↦ by simp [item_of_done hdone hps' p hp]
        rw [hnone]
        exact List.length_pos_iff.2 hne

end Machine

namespace Lexer

/-- Every scan is safe and gets on, whatever the rules, the text, and the answers of matchers
written by hand. A match is a piece of the text. The loop of a repetition ends, each of its rounds
takes a character, and it is what the repetition matches by. Every round of a scan cuts the text
where that is possible and gets past a piece of it unless it fails. Wherever the scan was left after
what it gave, the text may be cut; what comes next is found if the actions end; and a token takes
the scan past a character. So a scan gives no more tokens and errors than the text has
characters. -/
theorem scan_progress (l : Lexer) (depth : Nat) (text : String) :
    (∀ (m : Matcher) (offset length : Nat), m.lengthAt text.toList offset = some length →
      Text.Piece text.toList offset length) ∧
    (∀ (m : Matcher) (most : Option Nat) (s : Spot), ∃ ns s', m.Loop most s ns s' ∧
      (∀ n ∈ ns, 0 < n) ∧ s' = s.advance ns.sum ∧ ns.sum ≤ s.ahead.length ∧
      ∀ least, (Matcher.repetition m least most).rawSpan? s =
        if least ≤ ns.length then some ns.sum else none) ∧
    (∀ σs s k, (l.machine depth).Run (l.scan text).spot (l.scan text).cursor σs s k →
      (l.machine depth).Round text.toList s k) ∧
    (∀ scan, (l.machine depth).Asked (l.scan text) scan →
      Text.IsBoundary text.toList scan.spot.offset ∧ scan.spot.offset ≤ text.utf8ByteSize ∧
      ((l.machine depth).ActionsEnd (l.scan text) →
        ((l.machine depth).next scan).isSome = true) ∧
      ∀ pull token, (l.machine depth).next scan = some pull → pull.item = some (.ok token) →
        ∃ piece, piece ≠ [] ∧ scan.spot.ahead = piece ++ pull.scan.spot.ahead ∧
          pull.scan.spot.offset = scan.spot.offset + Text.utf8Length piece) ∧
    ∀ count ps, (l.machine depth).pulls count (l.scan text) = some ps →
      (ps.filter (·.item.isSome)).length ≤ text.toList.length := by
  refine ⟨fun m offset length ↦ Matcher.piece_of_lengthAt, ?_, ?_, ?_, ?_⟩
  · intro m most s
    obtain ⟨ns, s', hloop⟩ := Matcher.exists_loop m most s
    exact ⟨ns, s', hloop, hloop.pos, hloop.spot_eq, hloop.sum_le, hloop.rawSpan?_repetition⟩
  · intro σs s k hrun
    have htext : s.text = text.toList := hrun.text_eq
    rw [← htext]
    exact (l.machine depth).round s k
  · intro scan hasked
    have htext : scan.spot.text = text.toList := hasked.text_eq
    refine ⟨?_, ?_, hasked.isSome_next, fun pull token ↦ Machine.passed_of_next⟩
    · rw [← htext]
      exact scan.spot.isBoundary
    · rw [← Text.utf8Length_toList, ← htext]
      exact scan.spot.offset_le
  · intro count ps hps
    exact Machine.length_results_le hps

/-- Runs of groups of three bytes; a character where no group is found is dropped together with the
one after it. -/
def groupDeclarations : List Declaration :=
  [.tokens ["GROUP"],
   .rule "GROUP" (.repetition (.custom (.fixed 3)) 1 none) none,
   .error none (some (Step.action [.skip 1, .suppress]))]

/-- The lexer for groups of three bytes. -/
def groupLexer : Lexer :=
  (define groupDeclarations .quiet).toOption.get (by decide +kernel)

/-- What matches groups of three bytes. -/
def groupMatcher : Matcher := .repetition (.custom (.fixed 3)) 1 none

/-- What the rules for groups decide with ends. -/
private theorem groupLexer_actionsEnd (scan : Scan) :
    (groupLexer.machine 0).ActionsEnd scan := by
  refine Machine.actionsEnd_of_rules (fun state l hl token k ↦ ?_) fun state a ha token k ↦ ?_
  · have hentries : l ∈ (Table.find? state [(initialState,
        (⟨initialState, [⟨"GROUP", groupMatcher, none⟩]⟩ : State))]).elim [] (·.lexemes) := hl
    rw [Table.find?] at hentries
    split at hentries
    · rw [List.mem_singleton.mp hentries]
      rfl
    · cases hentries
  · have hentries : (Table.find? state [(initialState,
        some (Step.action [.skip 1, .suppress]))]).join = some a := ha
    rw [Table.find?] at hentries
    split at hentries
    · cases hentries
      refine Machine.perform_isSome fun r hr input ↦ ?_
      have hskip : r ∈ [Request.skip 1] := hr
      rw [List.mem_singleton.mp hskip]
      simp
    · cases hentries

/-- Groups of three bytes in a text of characters with one to three bytes. -/
theorem scan_progress_groupLexer :
    Text.Piece "€€é€x€".toList 0 6 ∧
      ∃ pull token, (groupLexer.machine 0).next (groupLexer.scan "€€é€x€") = some pull ∧
        pull.item = some (.ok token) ∧
        Text.IsBoundary "€€é€x€".toList pull.scan.spot.offset ∧
        (groupLexer.scan "€€é€x€").spot.offset < pull.scan.spot.offset ∧
        ((groupLexer.machine 0).next pull.scan).isSome = true := by
  obtain ⟨hmatches, _, _, hscans, _⟩ := scan_progress groupLexer 0 "€€é€x€"
  have hmatch : groupMatcher.lengthAt "€€é€x€".toList 0 = some 6 := by decide +kernel
  have hsome : (((groupLexer.machine 0).next (groupLexer.scan "€€é€x€")).bind
      (·.token?)).isSome = true := by decide +kernel
  obtain ⟨token, htoken⟩ := Option.isSome_iff_exists.1 hsome
  obtain ⟨pull, hpull, hitem⟩ := Option.bind_eq_some_iff.1 htoken
  rw [Pull.token?_eq_some_iff] at hitem
  obtain ⟨_, _, _, hpassed⟩ := hscans _ (.none _)
  obtain ⟨piece, hne, _, hoffset⟩ := hpassed pull token hpull hitem
  have hpos : Text.utf8Length piece ≠ 0 := fun hzero ↦ hne (Text.utf8Length_eq_zero_iff.1 hzero)
  obtain ⟨hboundary, _, hmore, _⟩ := hscans pull.scan (.more hpull (.none _))
  refine ⟨hmatches _ 0 6 hmatch, pull, token, hpull, hitem, hboundary, ?_,
    hmore (groupLexer_actionsEnd _)⟩
  omega

end Lexer

end ModalLexer
