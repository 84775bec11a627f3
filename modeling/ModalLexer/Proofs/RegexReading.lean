import ModalLexer.Regex.Parser

/-!
# Reading with a closing parenthesis at the end

What is read first from a text does not depend on whether a closing parenthesis follows the text, as
long as something is read there at all: no reader takes the parenthesis along with something else,
except that a comment may swallow it. `ReadsOn` says so of two readings and `Steady` of a reader;
here are the readers of escapes and of classes in brackets.
-/

namespace ModalLexer.Regex

/-- The rest of a text and the rest of the same text with a closing parenthesis after it: the
parenthesis is still to come, unless a comment has swallowed it along with the rest. -/
def Continues (rest rest' : List Char) : Prop :=
  rest' = rest ++ [')'] ∨ (rest = [] ∧ rest' = [])

/-- If the first reading succeeds it leaves a last part of a text, and the second one reads the same
and leaves what continues that. -/
def ReadsOn {α β : Type} (φ : α → β) (cs : List Char) (r : Except SyntaxError (α × List Char))
    (r' : Except SyntaxError (β × List Char)) : Prop :=
  ∀ x rest, r = .ok (x, rest) → rest <:+ cs ∧ ∃ rest', r' = .ok (φ x, rest') ∧ Continues rest rest'

/-- A closing parenthesis at the end of the text makes no difference to what is read. -/
def Steady {α : Type} (read : List Char → Except SyntaxError (α × List Char)) : Prop :=
  ∀ cs, ReadsOn id cs (read cs) (read (cs ++ [')']))

variable {α β γ δ : Type} {cs cs' ds : List Char}

/-- A parenthesis may follow. -/
theorem Continues.append (cs : List Char) : Continues cs (cs ++ [')']) := .inl rfl

/-- Where nothing is left, nothing may follow. -/
theorem Continues.nil : Continues [] [] := .inr ⟨rfl, rfl⟩

/-- Where something is left, a parenthesis follows it. -/
theorem Continues.eq_append (h : Continues cs cs') (hne : cs ≠ []) : cs' = cs ++ [')'] :=
  h.resolve_right fun hnil ↦ hne hnil.1

/-- If nothing is left with what follows, nothing is without it. -/
theorem Continues.eq_nil (h : Continues cs []) : cs = [] := by
  rcases h with h | ⟨h, -⟩
  · simp at h
  · exact h

/-- No other character than the closing parenthesis comes up at the front. -/
theorem Continues.exists_cons {c : Char} (h : Continues cs (c :: cs')) (hc : c ≠ ')') :
    ∃ rest, cs = c :: rest ∧ cs' = rest ++ [')'] := by
  rcases h with h | ⟨-, h⟩
  · cases cs with
    | nil => exact absurd (List.cons.inj h).1 hc
    | cons d rest =>
      obtain ⟨rfl, rfl⟩ := List.cons.inj h
      exact ⟨rest, rfl, rfl⟩
  · cases h

private theorem Continues.exists_cons_cons {c d : Char} (h : Continues cs (c :: d :: cs'))
    (hc : c ≠ ')')
    (hd : d ≠ ')') : ∃ rest, cs = c :: d :: rest := by
  obtain ⟨rest, rfl, hrest⟩ := h.exists_cons hc
  have hcontinues := Continues.append rest
  rw [← hrest] at hcontinues
  obtain ⟨rest, rfl, -⟩ := hcontinues.exists_cons hd
  exact ⟨rest, rfl⟩

/-- If something is left, so it is with what follows. -/
theorem Continues.not_nil (h : Continues cs cs') (hne : cs = [] → False) : cs' = [] → False := by
  rintro rfl
  exact hne h.eq_nil

/-- What follows does not make a text start with another character than a parenthesis. -/
theorem Continues.not_cons {c : Char} (h : Continues cs cs') (hc : c ≠ ')')
    (hne : ∀ rest, cs = c :: rest → False) : ∀ rest, cs' = c :: rest → False := by
  rintro rest rfl
  obtain ⟨rest, rfl, -⟩ := h.exists_cons hc
  exact hne rest rfl

/-- Nor does it make a text start with two such characters. -/
theorem Continues.not_cons_cons {c d : Char} (h : Continues cs cs') (hc : c ≠ ')') (hd : d ≠ ')')
    (hne : ∀ rest, cs = c :: d :: rest → False) : ∀ rest, cs' = c :: d :: rest → False := by
  rintro rest rfl
  obtain ⟨rest, rfl⟩ := h.exists_cons_cons hc hd
  exact hne rest rfl

private theorem Continues.length_le (h : Continues cs cs') : cs.length ≤ cs'.length := by
  rcases h with rfl | ⟨rfl, rfl⟩ <;> simp

/-- At most one character follows. -/
theorem Continues.length_le_succ (h : Continues cs cs') : cs'.length ≤ cs.length + 1 := by
  rcases h with rfl | ⟨rfl, rfl⟩ <;> simp

namespace ReadsOn

variable {φ : α → β} {r : Except SyntaxError (α × List Char)}
  {r' : Except SyntaxError (β × List Char)}

/-- A reading that succeeds with a part of the text left reads on. -/
theorem ok {x : α} {rest rest' : List Char} (hrest : rest <:+ cs) (h : Continues rest rest') :
    ReadsOn φ cs (.ok (x, rest)) (.ok (φ x, rest')) := by
  intro y rest₁ heq
  cases heq
  exact ⟨hrest, rest', rfl, h⟩

/-- Nothing but the first character is read. -/
theorem ok_cons {c : Char} {x : α} {rest : List Char} :
    ReadsOn φ (c :: rest) (.ok (x, rest)) (.ok (φ x, rest ++ [')'])) :=
  .ok (List.suffix_cons c rest) (.append rest)

/-- Nothing is required of a reading that fails. -/
theorem error {e : SyntaxError} : ReadsOn φ cs (.error e) r' := by
  intro x rest heq
  cases heq

/-- What reads on from a part of a text reads on from the text. -/
theorem mono (h : ReadsOn φ cs r r') (hcs : cs <:+ ds) : ReadsOn φ ds r r' := by
  intro x rest heq
  obtain ⟨hrest, hread⟩ := h x rest heq
  exact ⟨hrest.trans hcs, hread⟩

/-- Two readings in a row read on if each does. -/
theorem bind {ψ : γ → δ} {f : α × List Char → Except SyntaxError (γ × List Char)}
    {f' : β × List Char → Except SyntaxError (δ × List Char)} (h : ReadsOn φ cs r r')
    (hf : ∀ x rest rest', rest <:+ cs → Continues rest rest' →
      ReadsOn ψ cs (f (x, rest)) (f' (φ x, rest'))) : ReadsOn ψ cs (r >>= f) (r' >>= f') := by
  intro y rest₁ heq
  cases r with
  | error e => cases heq
  | ok read =>
    obtain ⟨x, rest⟩ := read
    obtain ⟨hrest, rest', rfl, hcontinues⟩ := h x rest rfl
    exact hf x rest rest' hrest hcontinues y rest₁ heq

private theorem bind_value {v : Except SyntaxError γ} {f : γ → Except SyntaxError (α × List Char)}
    {f' : γ → Except SyntaxError (β × List Char)}
    (h : ∀ y, ReadsOn φ cs (f y) (f' y)) : ReadsOn φ cs (v >>= f) (v >>= f') := by
  cases v with
  | error e => exact .error
  | ok y => exact h y

end ReadsOn

/-- What reads steadily reads on. -/
theorem Steady.readsOn {read : List Char → Except SyntaxError (α × List Char)} (h : Steady read)
    (hcs : Continues cs cs') : ReadsOn id cs (read cs) (read cs') := by
  rcases hcs with rfl | ⟨rfl, rfl⟩
  · exact h cs
  · intro x rest heq
    obtain ⟨hrest, _⟩ := h [] x rest heq
    obtain rfl := List.suffix_nil.1 hrest
    exact ⟨hrest, [], heq, .nil⟩

/-! ### Blanks -/

private theorem dropBlanks_suffix (comment : Bool) (cs : List Char) :
    dropBlanks comment cs <:+ cs := by
  fun_induction dropBlanks comment cs with
  | case1 => exact List.suffix_refl _
  | case2 c cs ih => exact ih.trans (List.suffix_cons c cs)
  | case3 c cs hblank ih => exact ih.trans (List.suffix_cons c cs)
  | case4 c cs hblank hmark ih => exact ih.trans (List.suffix_cons c cs)
  | case5 => exact List.suffix_refl _

private theorem continues_dropBlanks (comment : Bool) (cs : List Char) :
    Continues (dropBlanks comment cs) (dropBlanks comment (cs ++ [')'])) := by
  fun_induction dropBlanks comment cs with
  | case1 comment =>
    cases comment with
    | true => exact .nil
    | false => exact .append []
  | case2 c cs ih => exact ih
  | case3 c cs hblank ih =>
    rw [List.cons_append, dropBlanks, if_pos hblank]
    exact ih
  | case4 c cs hblank hmark ih =>
    rw [List.cons_append, dropBlanks, if_neg hblank, if_pos hmark]
    exact ih
  | case5 c cs hblank hmark =>
    rw [List.cons_append, dropBlanks, if_neg hblank, if_neg hmark]
    exact .append (c :: cs)

/-- What is left after skipping is a part of the text. -/
theorem skip_suffix (extended : Bool) (cs : List Char) : skip extended cs <:+ cs := by
  unfold skip
  split
  · exact dropBlanks_suffix false cs
  · exact List.suffix_refl cs

/-- Skipping does not reach what follows. -/
theorem Continues.skip (h : Continues cs cs') (extended : Bool) :
    Continues (Regex.skip extended cs) (Regex.skip extended cs') := by
  rcases h with rfl | ⟨rfl, rfl⟩
  · unfold Regex.skip
    split
    · exact continues_dropBlanks false cs
    · exact .append cs
  · cases extended <;> exact .nil

/-- What is left after taking some characters is a part of the text. -/
theorem takeSkipping_suffix (extended : Bool) (p : Char → Bool) (comment : Bool) (cs : List Char) :
    (takeSkipping extended p comment cs).2 <:+ cs := by
  fun_induction takeSkipping extended p comment cs with
  | case1 => exact List.suffix_refl _
  | case2 c cs ih => exact ih.trans (List.suffix_cons c cs)
  | case3 c cs _ ih => exact ih.trans (List.suffix_cons c cs)
  | case4 c cs _ _ ih => exact ih.trans (List.suffix_cons c cs)
  | case5 c cs _ _ _ front back heq ih =>
    rw [heq] at ih
    exact ih.trans (List.suffix_cons c cs)
  | case6 => exact List.suffix_refl _

/-- What is taken ends before the end of the text, or there is nothing in a closing parenthesis to
be taken. -/
theorem continues_takeSkipping (extended : Bool) {p : Char → Bool} (comment : Bool) (cs : List Char)
    (h : (takeSkipping extended p comment cs).2 ≠ [] ∨ p ')' = false) :
    (takeSkipping extended p comment (cs ++ [')'])).1 = (takeSkipping extended p comment cs).1 ∧
      Continues (takeSkipping extended p comment cs).2
        (takeSkipping extended p comment (cs ++ [')'])).2 := by
  fun_induction takeSkipping extended p comment cs with
  | case1 comment =>
    have hp : p ')' = false := h.resolve_left (by simp)
    cases comment with
    | true => exact ⟨rfl, .nil⟩
    | false =>
      have hblank : Unicode.isBlank ')' = false := by decide
      simp [takeSkipping, hp, hblank, Continues]
  | case2 c cs ih => exact ih h
  | case3 c cs hblank ih =>
    rw [List.cons_append, takeSkipping, if_pos hblank]
    exact ih h
  | case4 c cs hblank hmark ih =>
    rw [List.cons_append, takeSkipping, if_neg hblank, if_pos hmark]
    exact ih h
  | case5 c cs hblank hmark hp front back heq ih =>
    rw [heq] at ih
    rw [List.cons_append, takeSkipping, if_neg hblank, if_neg hmark, if_pos hp]
    obtain ⟨hfront, hback⟩ := ih h
    exact ⟨congrArg (c :: ·) hfront, hback⟩
  | case6 c cs hblank hmark hp =>
    rw [List.cons_append, takeSkipping, if_neg hblank, if_neg hmark, if_neg hp]
    exact ⟨rfl, .append (c :: cs)⟩

/-! ### Escapes -/

private theorem steady_fixedDigits (extended : Bool) (n : Nat) : Steady
    (fixedDigits extended n) := by
  induction n with
  | zero =>
    intro cs
    exact .ok (List.suffix_refl cs) (.append cs)
  | succ n ih =>
    intro cs
    cases cs with
    | nil => exact .error
    | cons c cs =>
      rw [List.cons_append, fixedDigits, fixedDigits]
      split
      · exact .error
      · have hskip := ih.readsOn ((Continues.append cs).skip extended)
        refine (hskip.mono ((skip_suffix extended cs).trans (List.suffix_cons c cs))).bind ?_
        intro digits rest rest' hrest hcontinues
        exact .ok hrest hcontinues

/-- What is taken before a character that is there does not change. -/
theorem takeSkipping_append {extended : Bool} {p : Char → Bool} {comment : Bool}
    {front rest : List Char} {c : Char}
    (h : takeSkipping extended p comment cs = (front, c :: rest)) :
    takeSkipping extended p comment (cs ++ [')']) = (front, c :: (rest ++ [')'])) ∧
      rest <:+ cs := by
  have hsuffix := takeSkipping_suffix extended p comment cs
  have hcontinues := continues_takeSkipping extended (p := p) comment cs (.inl (by simp [h]))
  rw [h] at hsuffix hcontinues
  refine ⟨?_, (List.suffix_cons c rest).trans hsuffix⟩
  exact Prod.ext hcontinues.1 (hcontinues.2.eq_append (List.cons_ne_nil c rest))

private theorem steady_hexEscape (extended : Bool) (count : Nat) : Steady
    (hexEscape extended count) := by
  intro cs
  unfold hexEscape
  refine .mono ?_ (skip_suffix extended cs)
  have hskip := (Continues.append cs).skip extended
  generalize skip extended cs = ds at hskip
  generalize skip extended (cs ++ [')']) = ds' at hskip
  split
  · exact .error
  · next inner =>
    obtain rfl := hskip.eq_append (List.cons_ne_nil _ inner)
    simp only [List.cons_append]
    split
    · exact .error
    · exact .error
    · next digits d rest hdigits htake =>
      obtain ⟨htake', hsuffix⟩ := takeSkipping_append htake
      rw [htake']
      cases digits with
      | nil => exact absurd rfl hdigits
      | cons e digits =>
        refine .bind_value fun l ↦ ?_
        exact .ok (hsuffix.trans (List.suffix_cons _ _)) (.append rest)
  · next hne hbrace =>
    have hne' := hskip.not_nil hne
    have hbrace' := hskip.not_cons (by decide) hbrace
    simp only
    refine ((steady_fixedDigits extended count).readsOn hskip).bind ?_
    intro digits rest rest' hrest hrest'
    refine .bind_value fun l ↦ ?_
    exact .ok hrest hrest'

private theorem steady_propertyEscape (extended : Bool) : Steady (propertyEscape extended) := by
  intro cs
  unfold propertyEscape
  refine .mono ?_ (skip_suffix extended cs)
  have hskip := (Continues.append cs).skip extended
  generalize skip extended cs = ds at hskip
  generalize skip extended (cs ++ [')']) = ds' at hskip
  split
  · exact .error
  · next inner =>
    obtain rfl := hskip.eq_append (List.cons_ne_nil _ inner)
    simp only [List.cons_append]
    split
    · exact .error
    · next text d rest htake =>
      obtain ⟨htake', hsuffix⟩ := takeSkipping_append htake
      rw [htake']
      exact .ok (hsuffix.trans (List.suffix_cons _ _)) (.append rest)
  · exact .error
  · next c rest hbrace hslash =>
    obtain rfl := hskip.eq_append (List.cons_ne_nil c rest)
    simp only [List.cons_append]
    exact .ok_cons

private theorem steady_boundaryKind (extended : Bool) : Steady (boundaryKind extended) := by
  intro cs
  unfold boundaryKind
  split
  · next inner =>
    simp only [List.cons_append]
    have hskip := (Continues.append inner).skip extended
    generalize skip extended inner = ds at hskip
    generalize skip extended (inner ++ [')']) = ds' at hskip
    cases ds with
    | nil => exact .error
    | cons c ds =>
      obtain rfl := hskip.eq_append (List.cons_ne_nil c ds)
      simp only [List.cons_append]
      split
      · split
        · next name rest htake =>
          obtain ⟨htake', hsuffix⟩ := takeSkipping_append htake
          rw [htake']
          have hrest := hsuffix.trans (List.suffix_cons '{' inner)
          simp only
          split
          case h_5 => exact .error
          all_goals exact .ok hrest (.append rest)
        · exact .error
      · exact .ok (List.suffix_refl _) (.append _)
  · next hbrace =>
    have hcontinues := Continues.append cs
    generalize cs ++ [')'] = ds at hcontinues
    have hbrace' := hcontinues.not_cons (by decide) hbrace
    simp only
    exact .ok (List.suffix_refl cs) hcontinues

/-- Escapes are read steadily. -/
theorem steady_escape (extended : Bool) : Steady (escape extended) := by
  intro cs
  unfold escape
  split
  · exact .error
  all_goals simp only [List.cons_append]
  case h_2 | h_3 | h_4 =>
    refine .mono ?_ (List.suffix_cons _ _)
    refine (steady_hexEscape extended _ _).bind fun l rest rest' hrest hcontinues ↦ ?_
    exact .ok hrest hcontinues
  case h_5 | h_6 =>
    refine .mono ?_ (List.suffix_cons _ _)
    refine (steady_propertyEscape extended _).bind fun q rest rest' hrest hcontinues ↦ ?_
    exact .ok hrest hcontinues
  case h_24 =>
    refine .mono ?_ (List.suffix_cons _ _)
    refine (steady_boundaryKind extended _).bind fun a rest rest' hrest hcontinues ↦ ?_
    exact .ok hrest hcontinues
  case h_25 =>
    split
    · exact .error
    · split
      · exact .ok_cons
      · exact .error
  all_goals exact .ok_cons

/-! ### Classes in brackets -/

private theorem steady_classItem (extended : Bool) : Steady (classItem extended) := by
  intro cs
  unfold classItem
  split
  · next cs => exact (steady_escape extended cs).mono (List.suffix_cons _ cs)
  · next c cs hslash =>
    simp only [List.cons_append]
    exact .ok_cons
  · exact .error

/-- The start of a bracket, once it is known whether the class is negated. -/
def bracketItems (extended negated : Bool) (cs : List Char) :
    Except SyntaxError ((Bool × List ClassSet) × List Char) :=
  let (hyphens, rest) := takeSkipping extended (· == '-') false cs
  let items := hyphens.map fun c ↦ .literal ⟨c, false⟩
  match items, rest with
  | [], ']' :: rest => .ok ((negated, [.literal ⟨']', false⟩]), rest)
  | items, rest => .ok ((negated, items), rest)

private theorem openBracket_eq (extended : Bool) (cs : List Char) :
    openBracket extended cs =
      match skip extended cs with
      | '^' :: cs => bracketItems extended true (skip extended cs)
      | cs => bracketItems extended false cs := rfl

private theorem steady_bracketItems (extended negated : Bool) :
    Steady (bracketItems extended negated) := by
  intro cs
  have hsuffix := takeSkipping_suffix extended (· == '-') false cs
  have htake := continues_takeSkipping extended (p := (· == '-')) false cs (.inr (by decide))
  unfold bracketItems
  generalize takeSkipping extended (· == '-') false cs = taken at hsuffix htake
  generalize takeSkipping extended (· == '-') false (cs ++ [')']) = taken' at htake
  obtain ⟨hyphens, rest⟩ := taken
  obtain ⟨hyphens', rest'⟩ := taken'
  obtain ⟨rfl, hrest⟩ : hyphens' = hyphens ∧ Continues rest rest' := htake
  simp only
  split
  · next r hitems =>
    obtain rfl := hrest.eq_append (List.cons_ne_nil _ r)
    simp only [hitems, List.cons_append]
    exact .ok ((List.suffix_cons _ r).trans hsuffix) (.append r)
  · next hplain =>
    split
    · next r' hitems =>
      obtain ⟨r, rfl, rfl⟩ := hrest.exists_cons (by decide)
      exact (hplain r hitems rfl).elim
    · exact .ok hsuffix hrest

private theorem steady_openBracket (extended : Bool) : Steady (openBracket extended) := by
  intro cs
  rw [openBracket_eq, openBracket_eq]
  refine .mono ?_ (skip_suffix extended cs)
  have hskip := (Continues.append cs).skip extended
  generalize skip extended cs = ds at hskip
  generalize skip extended (cs ++ [')']) = ds' at hskip
  split
  · next inner =>
    obtain rfl := hskip.eq_append (List.cons_ne_nil _ inner)
    simp only [List.cons_append]
    refine .mono ?_ ((skip_suffix extended inner).trans (List.suffix_cons _ inner))
    exact (steady_bracketItems extended true).readsOn ((Continues.append inner).skip extended)
  · next hcaret =>
    have hcaret' := hskip.not_cons (by decide) hcaret
    simp only
    exact (steady_bracketItems extended false).readsOn hskip

/-- What comes before the first character that fails a test, and what comes from there on, if there
is such a character. -/
theorem dropWhile_append_of_eq_cons {p : Char → Bool} {c : Char} {rest : List Char}
    (h : cs.dropWhile p = c :: rest) :
    (cs ++ [')']).dropWhile p = c :: (rest ++ [')']) ∧
      (cs ++ [')']).takeWhile p = cs.takeWhile p := by
  induction cs with
  | nil => cases h
  | cons d cs ih =>
    rw [List.dropWhile_cons] at h
    rw [List.cons_append, List.dropWhile_cons, List.takeWhile_cons, List.takeWhile_cons]
    split at h
    · next hd =>
      obtain ⟨hdrop, htake⟩ := ih h
      simp only [hd, if_true]
      exact ⟨hdrop, congrArg (d :: ·) htake⟩
    · next hd =>
      obtain ⟨rfl, rfl⟩ := List.cons.inj h
      simp [hd]

/-- A named class, once it is known whether it is negated. -/
def namedSet? (negated : Bool) (cs : List Char) : Option (ClassSet × List Char) :=
  match cs.dropWhile (· != ':') with
  | ':' :: ']' :: rest =>
    (NamedClass.ofName? (cs.takeWhile (· != ':'))).map fun k ↦ (.namedClass negated k, rest)
  | _ => none

private theorem namedClass?_caret (cs : List Char) :
    namedClass? (':' :: '^' :: cs) = namedSet? true cs := rfl

private theorem namedClass?_colon (h : cs.head? ≠ some '^') :
    namedClass? (':' :: cs) = namedSet? false cs := by
  cases cs with
  | nil => rfl
  | cons c cs =>
    have hcaret (rest : List Char) : c :: cs = '^' :: rest → False := by
      rintro heq
      rw [heq] at h
      exact h rfl
    simp only [namedClass?]
    rfl

private theorem namedClass?_eq_none (h : cs.head? ≠ some ':') : namedClass? cs = none := by
  cases cs with
  | nil => rfl
  | cons c cs =>
    have hcolon (rest : List Char) : c :: cs = ':' :: rest → False := by
      rintro heq
      rw [heq] at h
      exact h rfl
    simp only [namedClass?]

/-- A closing parenthesis at the end makes no difference to a named class. -/
theorem namedSet?_append (negated : Bool) (cs : List Char) :
    namedSet? negated (cs ++ [')']) =
      (namedSet? negated cs).map fun read ↦ (read.1, read.2 ++ [')']) := by
  unfold namedSet?
  cases hdrop : cs.dropWhile (· != ':') with
  | nil => simp [List.dropWhile_append, hdrop]
  | cons c rest =>
    obtain ⟨hdrop', htake'⟩ := dropWhile_append_of_eq_cons hdrop
    rw [hdrop', htake']
    cases rest with
    | nil =>
      rw [List.nil_append]
      split
      · next heq => simp at heq
      · split
        · next heq => cases heq
        · rfl
    | cons d rest =>
      rw [List.cons_append]
      split
      · next heq =>
        cases heq
        simp [Function.comp_def]
      · next hne =>
        split
        · next heq =>
          cases heq
          exact (hne _ rfl).elim
        · rfl

private theorem head?_append_ne {c : Char} (hc : c ≠ ')') (h : cs.head? ≠ some c) :
    (cs ++ [')']).head? ≠ some c := by
  cases cs with
  | nil => simpa using hc.symm
  | cons d cs => exact h

private theorem namedClass?_append (cs : List Char) :
    namedClass? (cs ++ [')']) = (namedClass? cs).map fun read ↦ (read.1, read.2 ++ [')']) := by
  by_cases hcolon : cs.head? = some ':'
  · obtain ⟨cs, rfl⟩ := List.head?_eq_some_iff.1 hcolon
    by_cases hcaret : cs.head? = some '^'
    · obtain ⟨cs, rfl⟩ := List.head?_eq_some_iff.1 hcaret
      rw [List.cons_append, List.cons_append, namedClass?_caret, namedClass?_caret]
      exact namedSet?_append true cs
    · have hcaret' := head?_append_ne (by decide) hcaret
      rw [List.cons_append, namedClass?_colon hcaret, namedClass?_colon hcaret']
      exact namedSet?_append false cs
  · have hcolon' := head?_append_ne (by decide) hcolon
    rw [namedClass?_eq_none hcolon, namedClass?_eq_none hcolon', Option.map_none]

private theorem namedSet?_suffix {negated : Bool} {set : ClassSet} {rest : List Char}
    (h : namedSet? negated cs = some (set, rest)) : rest <:+ cs := by
  unfold namedSet? at h
  split at h
  · next r hdrop =>
    obtain ⟨k, -, heq⟩ := Option.map_eq_some_iff.1 h
    cases heq
    have hsuffix : ':' :: ']' :: rest <:+ cs := hdrop ▸ List.dropWhile_suffix _
    exact ((List.suffix_cons ']' rest).trans (List.suffix_cons ':' _)).trans hsuffix
  · cases h

private theorem namedClass?_suffix {set : ClassSet} {rest : List Char}
    (h : namedClass? cs = some (set, rest)) : rest <:+ cs := by
  by_cases hcolon : cs.head? = some ':'
  · obtain ⟨cs, rfl⟩ := List.head?_eq_some_iff.1 hcolon
    by_cases hcaret : cs.head? = some '^'
    · obtain ⟨cs, rfl⟩ := List.head?_eq_some_iff.1 hcaret
      rw [namedClass?_caret] at h
      exact ((namedSet?_suffix h).trans (List.suffix_cons '^' cs)).trans (List.suffix_cons _ _)
    · rw [namedClass?_colon hcaret] at h
      exact (namedSet?_suffix h).trans (List.suffix_cons ':' cs)
  · rw [namedClass?_eq_none hcolon] at h
    cases h

private theorem look_append (marked : Bool) (cs : List Char) {c : Char} (hc : c ≠ ')') :
    peekPastHyphen.look marked (cs ++ [')']) = some c ↔ peekPastHyphen.look marked cs = some c := by
  induction cs generalizing marked with
  | nil =>
    have hblank : Unicode.isBlank ')' = false := by decide
    simp [peekPastHyphen.look, hblank, hc.symm]
  | cons d cs ih =>
    rw [List.cons_append, peekPastHyphen.look, peekPastHyphen.look]
    split
    · exact ih marked
    · split
      · exact ih true
      · exact Iff.rfl

/-- Where nothing decides about a range, the text starts with a blank or the mark of a comment. -/
theorem look_eq_none {c : Char} (h : peekPastHyphen.look false (c :: cs) = none) :
    Unicode.isBlank c = true ∨ c = '#' := by
  rw [peekPastHyphen.look] at h
  split at h
  · exact .inl ‹_›
  · split at h
    · next hmark => exact .inr (by simpa using hmark)
    · cases h

/-- What decides about a range, if it is neither a blank nor the mark of a comment. -/
theorem peekPastHyphen_eq_some_iff {c : Char} (hblank : Unicode.isBlank c = false)
    (hmark : c ≠ '#') :
    peekPastHyphen true cs = some c ↔ peekPastHyphen.look false cs = some c := by
  show (peekPastHyphen.look false cs <|> cs.head?) = some c ↔ _
  cases hlook : peekPastHyphen.look false cs with
  | some d => exact Iff.rfl
  | none =>
    cases cs with
    | nil => exact Iff.rfl
    | cons d cs =>
      have hd : d ≠ c := by
        rintro rfl
        rcases look_eq_none hlook with h | h
        · exact Bool.noConfusion (hblank.symm.trans h)
        · exact hmark h
      simpa using hd

/-- A closing bracket or a hyphen decides about a range; a closing parenthesis after the text does
not. -/
theorem peekPastHyphen_append (extended : Bool) (cs : List Char) {c : Char}
    (hc : c = ']' ∨ c = '-') :
    (peekPastHyphen extended (cs ++ [')']) == some c) = (peekPastHyphen extended cs == some c) := by
  have hclose : c ≠ ')' := by rcases hc with rfl | rfl <;> decide
  have hmark : c ≠ '#' := by rcases hc with rfl | rfl <;> decide
  have hblank : Unicode.isBlank c = false := by rcases hc with rfl | rfl <;> decide
  rw [Bool.eq_iff_iff, beq_iff_eq, beq_iff_eq]
  cases extended with
  | true =>
    rw [peekPastHyphen_eq_some_iff hblank hmark, peekPastHyphen_eq_some_iff hblank hmark]
    exact look_append false cs hclose
  | false =>
    cases cs with
    | nil => simp [peekPastHyphen, hclose.symm]
    | cons d cs => exact Iff.rfl

private theorem steady_classRange (extended : Bool) : Steady (classRange extended) := by
  intro cs
  unfold classRange
  refine (steady_classItem extended cs).bind fun first rest rest' hrest hrest' ↦ ?_
  have hsuffix := (skip_suffix extended rest).trans hrest
  have hskip := hrest'.skip extended
  simp only
  generalize skip extended rest = ds at hsuffix hskip
  generalize skip extended rest' = ds' at hskip
  split
  · exact .error
  · next more =>
    obtain rfl := hskip.eq_append (List.cons_ne_nil _ more)
    have hmore := (List.suffix_cons _ more).trans hsuffix
    simp only [List.cons_append, peekPastHyphen_append extended more (.inl rfl),
      peekPastHyphen_append extended more (.inr rfl)]
    split
    · refine .bind_value fun set ↦ ?_
      exact .ok hsuffix (.append ('-' :: more))
    · have hcontinues := (Continues.append more).skip extended
      have hnext := (skip_suffix extended more).trans hmore
      generalize skip extended more = next at hcontinues hnext
      generalize skip extended (more ++ [')']) = next' at hcontinues
      split
      · exact .error
      · next hne =>
        have hne' := hcontinues.not_nil hne
        simp only
        refine (((steady_classItem extended).readsOn hcontinues).mono hnext).bind ?_
        intro last rest rest' hrest hrest'
        refine .bind_value fun first ↦ .bind_value fun last ↦ ?_
        simp only
        split
        · exact .ok hrest hrest'
        · exact .error
  · next hne hhyphen =>
    have hne' := hskip.not_nil hne
    have hhyphen' := hskip.not_cons (by decide) hhyphen
    simp only
    refine .bind_value fun set ↦ ?_
    exact .ok hsuffix hskip

private theorem steady_classStep (extended : Bool) (s : ClassState) : Steady (s.step extended) := by
  intro cs
  unfold ClassState.step
  split
  · exact .error
  · next rest =>
    simp only [List.cons_append, namedClass?_append]
    split
    · next set rest hnamed =>
      have hrest := (namedClass?_suffix hnamed).trans (List.suffix_cons '[' _)
      simp only [hnamed, Option.map_some]
      exact .ok hrest (.append rest)
    · next hnamed =>
      simp only [hnamed, Option.map_none]
      refine .mono ?_ (List.suffix_cons _ rest)
      refine (steady_openBracket extended rest).bind fun opened rest rest' hrest hrest' ↦ ?_
      exact .ok hrest hrest'
  · simp only [List.cons_append]
    exact .ok_cons
  · next rest =>
    simp only [List.cons_append]
    exact (ReadsOn.ok_cons (c := '&')).mono (List.suffix_cons _ _)
  · next rest =>
    simp only [List.cons_append]
    exact (ReadsOn.ok_cons (c := '-')).mono (List.suffix_cons _ _)
  · next rest =>
    simp only [List.cons_append]
    exact (ReadsOn.ok_cons (c := '~')).mono (List.suffix_cons _ _)
  · next hne hopen hclose hand hminus htilde =>
    have hcontinues := Continues.append cs
    generalize cs ++ [')'] = ds at hcontinues
    have hne' := hcontinues.not_nil hne
    have hopen' := hcontinues.not_cons (by decide) hopen
    have hclose' := hcontinues.not_cons (by decide) hclose
    have hand' := hcontinues.not_cons_cons (by decide) (by decide) hand
    have hminus' := hcontinues.not_cons_cons (by decide) (by decide) hminus
    have htilde' := hcontinues.not_cons_cons (by decide) (by decide) htilde
    simp only
    refine ((steady_classRange extended).readsOn hcontinues).bind ?_
    intro set rest rest' hrest hrest'
    exact .ok hrest hrest'

private theorem readsOn_readClass (extended : Bool) {bound bound' : Nat} (h : bound ≤ bound')
    (s : ClassState) (hcs : Continues cs cs') :
    ReadsOn id cs (readClass extended bound s cs) (readClass extended bound' s cs') := by
  induction bound generalizing bound' s cs cs' with
  | zero => exact .error
  | succ bound ih =>
    obtain ⟨bound', rfl⟩ : ∃ n, bound' = n + 1 := ⟨bound' - 1, by omega⟩
    have hstep := (steady_classStep extended s).readsOn (hcs.skip extended)
    refine (hstep.mono (skip_suffix extended cs)).bind fun next rest rest' hrest hrest' ↦ ?_
    cases next with
    | inr result => exact .ok hrest hrest'
    | inl s => exact (ih (by omega) s hrest').mono hrest

/-- Brackets are read steadily. -/
theorem steady_parseBrackets (extended : Bool) : Steady (parseBrackets extended) := by
  intro cs
  refine (steady_openBracket extended cs).bind fun opened rest rest' hrest hrest' ↦ ?_
  have hlength := Nat.succ_le_succ hrest'.length_le
  refine ((readsOn_readClass extended hlength _ hrest').mono hrest).bind ?_
  intro set rest rest' hrest hrest'
  exact .ok hrest hrest'

end ModalLexer.Regex
