import ModalLexer.Proofs.RegexReading
import ModalLexer.Regex

/-!
# An expression in a group

An expression may be read with a group open around it, which only changes the stack
(`State.within`). Where the expression by itself ends, the group around it ends too, unless a
comment has swallowed its end. So an expression that is anchored by a group and a start of the text
stands for the expression after a start of the text: `expression_anchoredText`.
-/

namespace ModalLexer.Regex

variable {cs cs' ds : List Char}

/-! ### Groups and repetitions -/

/-- If one computation after another succeeds, so does the first one. -/
theorem exists_of_bind_eq_ok {ε α β : Type} {x : Except ε α} {f : α → Except ε β} {y : β}
    (h : x >>= f = .ok y) : ∃ a, x = .ok a ∧ f a = .ok y := by
  cases x with
  | error e => cases h
  | ok a => exact ⟨a, rfl, h⟩

private theorem steady_readFlags (items : List (Flag × Bool)) (negated dangling : Bool) :
    Steady (readFlags items negated dangling) := by
  intro cs
  fun_induction readFlags items negated dangling cs with
  | case1 => exact .error
  | case2 => exact .error
  | case3 items negated dangling c cs hend hdangling =>
    rw [List.cons_append, readFlags, if_pos hend, if_neg hdangling]
    exact .ok_cons
  | case4 => exact .error
  | case5 items negated dangling c cs hend hminus hnegated ih =>
    rw [List.cons_append, readFlags, if_neg hend, if_pos hminus, if_neg hnegated]
    exact ih.mono (List.suffix_cons c cs)
  | case6 => exact .error
  | case7 => exact .error
  | case8 items negated dangling c cs hend hminus f hflag hnew ih =>
    rw [List.cons_append, readFlags, if_neg hend, if_neg hminus, hflag]
    simp only [hnew]
    exact ih.mono (List.suffix_cons c cs)

private theorem steady_groupName (taken : List (List Char)) : Steady (groupName taken) := by
  intro cs
  unfold groupName
  cases hdrop : cs.dropWhile (· != '>') with
  | nil => exact .error
  | cons mark rest =>
    obtain ⟨hdrop', htake'⟩ := dropWhile_append_of_eq_cons hdrop
    have hsuffix : mark :: rest <:+ cs := hdrop ▸ List.dropWhile_suffix _
    rw [hdrop', htake']
    cases cs.takeWhile (· != '>') with
    | nil => exact .error
    | cons c more =>
      simp only
      split
      · exact .error
      · split
        · exact .error
        · exact .ok ((List.suffix_cons mark rest).trans hsuffix) (.append rest)

/-- The same state with something more open around all that is open. -/
def State.within (s : State) (frame : Frame) : State :=
  { s with stack := s.stack ++ [frame] }

@[simp] private theorem State.extended_within (s : State) (frame : Frame) :
    (s.within frame).extended = s.extended := rfl

/-- What starts a group does so whatever is open around it. -/
theorem readsOn_groupStart (frame : Frame) (s : State) (cs : List Char) :
    ReadsOn (State.within · frame) cs (groupStart s cs)
      (groupStart (s.within frame) (cs ++ [')'])) := by
  unfold groupStart
  refine .mono ?_ (skip_suffix s.extended cs)
  have hskip := (Continues.append cs).skip s.extended
  rw [State.extended_within]
  generalize skip s.extended cs = ds at hskip
  generalize skip s.extended (cs ++ [')']) = ds' at hskip
  split
  case h_5 rest =>
    obtain rfl := hskip.eq_append (List.cons_ne_nil _ _)
    simp only [List.cons_append]
    refine .mono ?_ (List.suffix_append ['?', 'P', '<'] rest)
    refine (steady_groupName s.names rest).bind fun name rest rest' hrest hrest' ↦ ?_
    exact .ok hrest hrest'
  case h_6 rest hequals hbang =>
    obtain rfl := hskip.eq_append (List.cons_ne_nil _ _)
    have hrest := Continues.append rest
    have hequals' := hrest.not_cons (by decide) hequals
    have hbang' := hrest.not_cons (by decide) hbang
    simp only [List.cons_append]
    refine .mono ?_ (List.suffix_append ['?', '<'] rest)
    refine (steady_groupName s.names rest).bind fun name rest rest' hrest hrest' ↦ ?_
    exact .ok hrest hrest'
  case h_8 rest hequals hbang hbehind hbehind' hnamed hangle hne =>
    obtain rfl := hskip.eq_append (List.cons_ne_nil _ _)
    have hrest := Continues.append rest
    have hequals' := hrest.not_cons (by decide) hequals
    have hbang' := hrest.not_cons (by decide) hbang
    have hnamed' := hrest.not_cons_cons (by decide) (by decide) hnamed
    have hangle' := hrest.not_cons (by decide) hangle
    have hlook (tail : List Char) : rest ++ [')'] = '<' :: '=' :: tail → False := hangle' _
    have hlook' (tail : List Char) : rest ++ [')'] = '<' :: '!' :: tail → False := hangle' _
    have hne' : rest ++ [')'] = [] → False := by simp
    simp only [List.cons_append]
    refine .mono ?_ (List.suffix_cons '?' rest)
    refine (steady_readFlags [] false false rest).bind fun read rest rest' hrest hrest' ↦ ?_
    obtain ⟨items, mark⟩ := read
    simp only [id]
    split
    · next heq =>
      cases heq
      exact .ok hrest hrest'
    · exact .error
    · next hcolon hnil heq =>
      cases heq
      split
      · next heq =>
        cases heq
        exact (hcolon rfl).elim
      · next heq =>
        cases heq
        exact (hnil rfl).elim
      · next heq =>
        cases heq
        exact .ok hrest hrest'
  case h_9 hmark =>
    have hplain := hskip.not_cons (by decide) hmark
    split
    case h_9 => exact .ok (List.suffix_refl ds) hskip
    all_goals exact (hplain _ rfl).elim
  all_goals exact .error

private theorem dropWhile_append_close {p : Char → Bool} (hp : p ')' = false) (cs : List Char) :
    (cs ++ [')']).dropWhile p = cs.dropWhile p ++ [')'] := by
  rw [List.dropWhile_append]
  split
  · next h => simp [List.isEmpty_iff.1 h, hp]
  · rfl

private theorem Continues.dropWhile {p : Char → Bool} (h : Continues cs cs') (hp : p ')' = false) :
    Continues (cs.dropWhile p) (cs'.dropWhile p) := by
  rcases h with rfl | ⟨rfl, rfl⟩
  · rw [dropWhile_append_close hp]
    exact .append _
  · exact .nil

private theorem steady_decimal (extended : Bool) : Steady (decimal extended) := by
  intro cs
  unfold decimal
  rw [dropWhile_append_close (by decide)]
  refine .mono ?_ (List.dropWhile_suffix Unicode.isBlank)
  generalize cs.dropWhile Unicode.isBlank = ds
  have hsuffix := takeSkipping_suffix extended Char.isDigit false ds
  obtain ⟨hdigits, hrest⟩ := continues_takeSkipping extended (p := Char.isDigit) false ds (.inr rfl)
  generalize takeSkipping extended Char.isDigit false ds = taken at hsuffix hdigits hrest
  generalize takeSkipping extended Char.isDigit false (ds ++ [')']) = taken' at hdigits hrest
  obtain ⟨digits, rest⟩ := taken
  obtain ⟨digits', rest'⟩ := taken'
  subst hdigits
  have hskip := (hrest.dropWhile (p := Unicode.isBlank) (by decide)).skip extended
  have hafter := (skip_suffix extended _).trans (List.dropWhile_suffix Unicode.isBlank (l := rest))
  have hread := hafter.trans hsuffix
  simp only
  split
  · exact .ok hread hskip
  · split
    · exact .ok hread hskip
    · exact .error

/-- What comes after the comma in a counted repetition. -/
def upperBound (extended : Bool) (least : Option Nat) (cs : List Char) :
    Except SyntaxError ((Nat × Option Nat) × List Char) :=
  match skip extended cs with
  | [] => .error .repetitionUnclosed
  | rest =>
    match least, rest with
    | none, _ => .error .repetitionCountEmpty
    | some least, '}' :: rest => return ((least, none), rest)
    | some least, rest => do
      match ← decimal extended rest with
      | (none, _) => .error .repetitionCountEmpty
      | (some most, '}' :: rest) =>
        if least ≤ most then return ((least, some most), rest)
        else .error .repetitionCountInvalid
      | _ => .error .repetitionUnclosed

private theorem steady_upperBound (extended : Bool) (least : Option Nat) :
    Steady (upperBound extended least) := by
  intro cs
  unfold upperBound
  refine .mono ?_ (skip_suffix extended cs)
  have hskip := (Continues.append cs).skip extended
  generalize skip extended cs = ds at hskip
  generalize skip extended (cs ++ [')']) = ds' at hskip
  split
  · exact .error
  · next hne =>
    have hne' : ds' = [] → False := fun h ↦ hne (h ▸ hskip).eq_nil
    cases least with
    | none => exact .error
    | some least =>
      split
      · exact .error
      · next rest heq =>
        cases heq
        obtain rfl := hskip.eq_append (List.cons_ne_nil _ _)
        exact .ok_cons
      · next heq hbrace =>
        cases heq
        have hbrace' := hskip.not_cons (by decide) hbrace
        simp only
        refine ((steady_decimal extended).readsOn hskip).bind ?_
        intro most rest rest' hrest hrest'
        simp only [id]
        split
        · exact .error
        · next rest heq =>
          cases heq
          obtain rfl := hrest'.eq_append (List.cons_ne_nil _ _)
          simp only [List.cons_append]
          split
          · exact .ok ((List.suffix_cons _ rest).trans hrest) (.append rest)
          · exact .error
        · exact .error

private theorem steady_repetitionBounds (extended : Bool) : Steady (repetitionBounds extended) := by
  intro cs
  unfold repetitionBounds
  refine .mono ?_ (skip_suffix extended cs)
  have hskip := (Continues.append cs).skip extended
  generalize skip extended cs = ds at hskip
  generalize skip extended (cs ++ [')']) = ds' at hskip
  split
  · exact .error
  · next hne =>
    have hne' := hskip.not_nil hne
    simp only
    refine ((steady_decimal extended).readsOn hskip).bind fun least rest rest' hrest hrest' ↦ ?_
    simp only [id]
    split
    · exact .error
    · next rest heq =>
      cases heq
      obtain rfl := hrest'.eq_append (List.cons_ne_nil _ _)
      exact (steady_upperBound extended least rest).mono ((List.suffix_cons ',' rest).trans hrest)
    · exact .error
    · next n rest heq =>
      cases heq
      obtain rfl := hrest'.eq_append (List.cons_ne_nil _ _)
      exact .ok ((List.suffix_cons _ rest).trans hrest) (.append rest)
    · exact .error

/-! ### What is open -/

/-- Whether something open is a group. -/
def Frame.isGroup : Frame → Bool
  | group .. => true
  | alternation _ => false

variable {frame : Frame} {s t : State} {ast : Ast}

private theorem State.closeBranches_within (hframe : frame.isGroup) (s : State) :
    (s.within frame).closeBranches = (s.closeBranches.1, s.closeBranches.2 ++ [frame]) := by
  obtain ⟨stack, parts, extended, names, captures⟩ := s
  cases stack with
  | nil =>
    cases frame with
    | group => rfl
    | alternation => cases hframe
  | cons top stack => cases top <;> rfl

private theorem State.nextBranch_within (hframe : frame.isGroup) (s : State) :
    (s.within frame).nextBranch = s.nextBranch.within frame := by
  obtain ⟨stack, parts, extended, names, captures⟩ := s
  cases stack with
  | nil =>
    cases frame with
    | group => rfl
    | alternation => cases hframe
  | cons top stack => cases top <;> rfl

private theorem State.closeGroup_within (hframe : frame.isGroup) (h : s.closeGroup = .ok t) :
    (s.within frame).closeGroup = .ok (t.within frame) := by
  unfold State.closeGroup at h ⊢
  rw [State.closeBranches_within hframe]
  split at h
  · next sub parts index items extended stack hclose =>
    cases h
    rw [hclose]
    rfl
  · cases h

private theorem State.repeated_within {least : Nat} {most : Option Nat} {greedy : Bool}
    (h : s.repeated least most greedy = .ok t) :
    (s.within frame).repeated least most greedy = .ok (t.within frame) := by
  obtain ⟨stack, parts, extended, names, captures⟩ := s
  unfold State.repeated at h ⊢
  simp only [State.within] at h ⊢
  split at h
  · cases h
  · cases h
  · cases h
  · cases h
    rfl

private theorem greed_suffix (cs : List Char) : (greed cs).2 <:+ cs := by
  unfold greed
  split
  · exact List.suffix_cons _ _
  · exact List.suffix_refl _

private theorem Continues.greed (h : Continues cs cs') :
    (Regex.greed cs').1 = (Regex.greed cs).1 ∧
      Continues (Regex.greed cs).2 (Regex.greed cs').2 := by
  by_cases hmark : ∃ rest, cs = '?' :: rest
  · obtain ⟨rest, rfl⟩ := hmark
    obtain rfl := h.eq_append (List.cons_ne_nil _ rest)
    exact ⟨rfl, .append rest⟩
  · have hplain (rest : List Char) (heq : cs = '?' :: rest) : False := hmark ⟨rest, heq⟩
    have hplain' := h.not_cons (by decide) hplain
    simpa only [Regex.greed, true_and] using h

/-- What is repeated was read inside the group. -/
theorem readsOn_repetition (frame : Frame) (least : Nat) (most : Option Nat) (s : State)
    (hcs : Continues cs cs') :
    ReadsOn (State.within · frame) cs
      (do return (← s.repeated least most (greed cs).1, (greed cs).2))
      (do return (← (s.within frame).repeated least most (greed cs').1, (greed cs').2)) := by
  obtain ⟨hgreedy, hrest⟩ := hcs.greed
  rw [hgreedy]
  cases hrepeated : s.repeated least most (greed cs).1 with
  | error e => exact .error
  | ok t =>
    rw [State.repeated_within hrepeated]
    exact .ok (greed_suffix cs) hrest

/-- What comes next in an expression is read the same way inside a group. -/
theorem readsOn_step (hframe : frame.isGroup) (s : State) (hne : cs ≠ []) :
    ReadsOn (State.within · frame) cs.tail (s.step cs) ((s.within frame).step (cs ++ [')'])) := by
  unfold State.step
  split
  · exact absurd rfl hne
  all_goals simp only [List.cons_append, List.tail_cons, State.extended_within]
  case h_2 rest => exact readsOn_groupStart frame s rest
  case h_3 rest =>
    cases hclose : s.closeGroup with
    | error e => exact .error
    | ok t =>
      rw [State.closeGroup_within hframe hclose]
      exact .ok (List.suffix_refl rest) (.append rest)
  case h_4 rest =>
    rw [State.nextBranch_within hframe]
    exact .ok (List.suffix_refl rest) (.append rest)
  case h_5 rest =>
    refine (steady_parseBrackets s.extended rest).bind fun part rest rest' hrest hrest' ↦ ?_
    exact .ok hrest hrest'
  case h_6 rest | h_7 rest | h_8 rest => exact readsOn_repetition frame _ _ s (.append rest)
  case h_9 rest =>
    cases hany : s.repeated 0 none true with
    | error e => exact .error
    | ok t =>
      rw [State.repeated_within hany]
      refine (steady_repetitionBounds s.extended rest).bind fun bounds rest rest' hrest hrest' ↦ ?_
      have hmarks := readsOn_repetition frame bounds.1 bounds.2 s
        (hrest'.skip s.extended)
      exact hmarks.mono ((skip_suffix s.extended rest).trans hrest)
  case h_10 rest =>
    refine (steady_escape s.extended rest).bind fun part rest rest' hrest hrest' ↦ ?_
    exact .ok hrest hrest'
  all_goals exact .ok (List.suffix_refl _) (.append _)

/-! ### The group that anchors an expression -/

/-- A group with nothing but a start of the text before it. -/
def anchoringGroup : Frame := .group [.assertion .startLine] none [] false

private theorem isGroup_anchoringGroup : anchoringGroup.isGroup := rfl

/-- An expression in a group, after a start of the text. -/
def Ast.anchored (ast : Ast) : Ast := .concat [.assertion .startLine, .group none [] ast]

private theorem State.finish_eq_ok_iff : s.finish = .ok ast ↔ s.closeBranches = (ast, []) := by
  unfold State.finish
  split
  · next a hclose => simp [hclose]
  · next hopen =>
    constructor
    · intro h
      cases h
    · intro h
      exact (hopen _ h).elim

private theorem State.closeBranches_anchoring (h : s.finish = .ok ast) :
    (s.within anchoringGroup).closeBranches = (ast, [anchoringGroup]) := by
  rw [State.closeBranches_within isGroup_anchoringGroup, State.finish_eq_ok_iff.1 h,
    List.nil_append]

/-- The group around an expression is still open where the expression ends. -/
theorem State.finish_anchoring (h : s.finish = .ok ast) :
    (s.within anchoringGroup).finish = .error .groupUnclosed := by
  unfold State.finish
  rw [State.closeBranches_anchoring h]

/-- The closing parenthesis ends the group around the expression, and that is all there is. -/
theorem State.closeGroup_anchoring (h : s.finish = .ok ast) :
    ∃ t, (s.within anchoringGroup).closeGroup = .ok t ∧ t.finish = .ok ast.anchored := by
  unfold State.closeGroup
  rw [State.closeBranches_anchoring h]
  exact ⟨_, rfl, rfl⟩

private theorem readAll_nil (bound : Nat) (s : State) : readAll bound s [] = s.finish := by
  cases bound with
  | zero => rfl
  | succ bound =>
    have hskip : skip s.extended [] = [] := List.suffix_nil.1 (skip_suffix s.extended [])
    rw [readAll, hskip]

/-- Where the expression ends the group around it ends, or a comment has swallowed its end and it is
never closed. -/
theorem readAll_end {bound : Nat} {ast' : Ast} (hend : Continues [] (skip s.extended cs))
    (h : s.finish = .ok ast)
    (h' : readAll (bound + 1) (s.within anchoringGroup) cs = .ok ast') : ast' = ast.anchored := by
  rw [readAll, State.extended_within] at h'
  rcases hend with hclose | ⟨-, hnil⟩
  · rw [hclose] at h'
    obtain ⟨read, hstep, h'⟩ := exists_of_bind_eq_ok h'
    obtain ⟨t, hgroup, hfinish⟩ := State.closeGroup_anchoring h
    have hread : (s.within anchoringGroup).step [')'] = .ok (t, []) := by
      simp only [State.step, hgroup]
      rfl
    obtain rfl := Except.ok.inj (hread.symm.trans hstep)
    replace h' : readAll bound t [] = .ok ast' := h'
    rw [readAll_nil, hfinish] at h'
    exact (Except.ok.inj h').symm
  · rw [hnil] at h'
    rw [State.finish_anchoring h] at h'
    cases h'

/-- With a group around it an expression is read as it is by itself: a closing parenthesis that
ended the group too soon would have no partner there. -/
theorem readAll_within {bound bound' : Nat} {ast ast' : Ast} (hcs : Continues cs cs')
    (hbound : cs.length < bound) (hbound' : cs'.length < bound')
    (h : readAll bound s cs = .ok ast)
    (h' : readAll bound' (s.within anchoringGroup) cs' = .ok ast') : ast' = ast.anchored := by
  induction bound generalizing bound' s cs cs' with
  | zero => omega
  | succ bound ih =>
    obtain ⟨bound', rfl⟩ : ∃ n, bound' = n + 1 := ⟨bound' - 1, by omega⟩
    have hskip := hcs.skip s.extended
    have hlength := (skip_suffix s.extended cs).length_le
    have hlength' := (skip_suffix s.extended cs').length_le
    rw [readAll] at h
    cases hds : skip s.extended cs with
    | nil =>
      rw [hds] at h hskip
      exact readAll_end hskip h h'
    | cons c ds =>
      rw [hds] at h hskip hlength
      rw [readAll, State.extended_within] at h'
      rw [hskip.eq_append (List.cons_ne_nil c ds)] at h' hlength'
      obtain ⟨⟨t, rest⟩, hread, h⟩ := exists_of_bind_eq_ok h
      obtain ⟨hrest, rest', hread', hrest'⟩ :=
        readsOn_step isGroup_anchoringGroup s (List.cons_ne_nil c ds) t rest hread
      obtain ⟨read, hread'', h'⟩ := exists_of_bind_eq_ok h'
      obtain rfl := Except.ok.inj (hread'.symm.trans hread'')
      -- A step takes a character at least, so the bounds are great enough for what is left.
      have hrestLength : rest.length ≤ ds.length := hrest.length_le
      have hrestLength' := hrest'.length_le_succ
      simp only [List.length_cons, List.length_append, List.length_nil] at hlength hlength'
      exact ih hrest' (by omega) (by omega) h h'

/-- The group that anchors an expression is open once its start is read. -/
theorem readAll_anchoring (bound : Nat) (cs : List Char) :
    readAll (bound + 2) .initial ('^' :: '(' :: '?' :: ':' :: cs) =
      readAll bound (State.initial.within anchoringGroup) cs := rfl

/-- A text in a group, after a start of the text. -/
def anchoredText (source : List Char) : List Char :=
  '^' :: '(' :: '?' :: ':' :: (source ++ [')'])

private theorem readAll_of_parse {text : List Char} (h : parse text = .ok ast) :
    readAll (text.length + 1) .initial text = .ok ast := by
  unfold parse at h
  obtain ⟨read, hread, h⟩ := exists_of_bind_eq_ok h
  split at h
  · cases h
    exact hread
  · cases h

private theorem parse_anchoredText {source : List Char} {ast ast' : Ast}
    (h : parse source = .ok ast)
    (h' : parse (anchoredText source) = .ok ast') : ast' = ast.anchored := by
  have hread := readAll_of_parse h
  have hread' : readAll (source.length + 4) (State.initial.within anchoringGroup)
      (source ++ [')']) = .ok ast' := by
    have hstart := readAll_of_parse h'
    have hlength : (anchoredText source).length + 1 = source.length + 4 + 2 := by
      simp [anchoredText]
    rwa [hlength, anchoredText, readAll_anchoring] at hstart
  exact readAll_within (.append source) (by omega) (by simp) hread hread'

private theorem resolve_anchored {f g : Flags} {e : Expr} (h : ast.resolve f = .ok (e, g))
    (hline : f.multiLine = false) :
    ast.anchored.resolve f = .ok ((Expr.look .startText).append (e.append .empty), f) := by
  simp [Ast.anchored, Ast.resolve, Ast.resolveParts, Assertion.resolve, hline, h, Flags.setAll,
    bind, Except.bind, pure, Except.pure]

private theorem exists_of_expression {source : List Char} {e : Expr}
    (h : expression source = .ok e) :
    ∃ ast g, parse source = .ok ast ∧ ast.resolve .initial = .ok (e, g) := by
  unfold expression at h
  obtain ⟨ast, hparse, h⟩ := exists_of_bind_eq_ok h
  obtain ⟨⟨e', g⟩, hresolve, h⟩ := exists_of_bind_eq_ok h
  replace h : (if e'.fits then Except.ok e' else .error SyntaxError.tooLarge) = .ok e := h
  split at h
  · cases h
    exact ⟨ast, g, hparse, hresolve⟩
  · cases h

/-- The expression that a text stands for, anchored, is the one it stands for by itself after a
start of the text. -/
theorem expression_anchoredText {source : List Char} {e e' : Expr}
    (h : expression source = .ok e) (h' : expression (anchoredText source) = .ok e') :
    e' = (Expr.look .startText).append (e.append .empty) := by
  obtain ⟨ast, g, hparse, hresolve⟩ := exists_of_expression h
  obtain ⟨ast', g', hparse', hresolve'⟩ := exists_of_expression h'
  obtain rfl := parse_anchoredText hparse hparse'
  rw [resolve_anchored hresolve rfl] at hresolve'
  exact (congrArg Prod.fst (Except.ok.inj hresolve')).symm

end ModalLexer.Regex
