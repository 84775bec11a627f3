import ModalLexer.Scan

/-!
# The longest match

`Wins` says which lexeme takes a spot without saying how it is found: it matches there, the lexemes
registered before it match less, and those registered after it match no more. `longestMatch` finds
just that lexeme, and finds none exactly if none matches.
-/

namespace ModalLexer

open Text (Spot)

/-- A lexeme takes a spot with a number of characters: lexemes registered before it match fewer
there, and lexemes registered after it match no more. -/
def Wins (ls : List Lexeme) (s : Spot) (l : Lexeme) (n : Nat) : Prop :=
  ∃ earlier later, ls = earlier ++ l :: later ∧ l.matcher.span? s = some n ∧
    (∀ k ∈ earlier, ∀ i, k.matcher.span? s = some i → i < n) ∧
    ∀ k ∈ later, ∀ i, k.matcher.span? s = some i → i ≤ n

namespace Wins

variable {ls : List Lexeme} {s : Spot} {k l : Lexeme} {i n : Nat}

/-- What wins is one of the lexemes. -/
theorem mem (h : Wins ls s l n) : l ∈ ls := by
  obtain ⟨_, _, rfl, _⟩ := h
  exact List.mem_append_cons_self

/-- What wins is a match. -/
theorem span?_eq (h : Wins ls s l n) : l.matcher.span? s = some n := by
  obtain ⟨_, _, _, hl, _, _⟩ := h
  exact hl

/-- No lexeme matches more than the one that wins. -/
theorem span?_le (h : Wins ls s l n) (hk : k ∈ ls) (hi : k.matcher.span? s = some i) : i ≤ n := by
  obtain ⟨earlier, later, rfl, hl, he, ha⟩ := h
  rcases List.mem_append.mp hk with hk | hk
  · exact Nat.le_of_lt (he k hk i hi)
  · rcases List.mem_cons.mp hk with rfl | hk
    · have : i = n := Option.some.inj (hi.symm.trans hl)
      omega
    · exact ha k hk i hi

/-- A match that wins takes at least one character. -/
theorem pos (h : Wins ls s l n) : 0 < n :=
  Matcher.span?_pos h.span?_eq

/-- A match that wins lies within what is ahead. -/
theorem le_length (h : Wins ls s l n) : n ≤ s.ahead.length :=
  Matcher.span?_le h.span?_eq

/-- A lexeme put in front does not win if it matches less. -/
theorem cons (h : Wins ls s l n) (hk : ∀ i, k.matcher.span? s = some i → i < n) :
    Wins (k :: ls) s l n := by
  obtain ⟨earlier, later, rfl, hl, he, ha⟩ := h
  refine ⟨k :: earlier, later, rfl, hl, ?_, ha⟩
  intro j hj
  rcases List.mem_cons.mp hj with rfl | hj
  · exact hk
  · exact he j hj

/-- The first lexeme wins if no other one matches more. -/
theorem head (hl : l.matcher.span? s = some n)
    (h : ∀ k ∈ ls, ∀ i, k.matcher.span? s = some i → i ≤ n) : Wins (l :: ls) s l n :=
  ⟨[], ls, rfl, hl, by simp, h⟩

/-- Another lexeme than the first wins among the rest, and matches more than the first. -/
theorem of_cons (h : Wins (k :: ls) s l n) :
    (k = l ∧ k.matcher.span? s = some n ∧ ∀ j ∈ ls, ∀ i, j.matcher.span? s = some i → i ≤ n) ∨
      ((∀ i, k.matcher.span? s = some i → i < n) ∧ Wins ls s l n) := by
  obtain ⟨earlier, later, hls, hl, he, ha⟩ := h
  cases earlier with
  | nil =>
    obtain ⟨rfl, rfl⟩ := List.cons.inj hls
    exact .inl ⟨rfl, hl, ha⟩
  | cons j earlier =>
    obtain ⟨rfl, rfl⟩ := List.cons.inj hls
    exact .inr ⟨he k List.mem_cons_self, earlier, later, rfl, hl,
      fun j hj ↦ he j (List.mem_cons_of_mem k hj), ha⟩

end Wins

namespace Machine

/-- No match is found exactly if no lexeme matches. -/
theorem longestMatch_eq_none_iff {ls : List Lexeme} {s : Spot} :
    longestMatch ls s = none ↔ ∀ l ∈ ls, l.matcher.span? s = none := by
  induction ls with
  | nil => simp [longestMatch]
  | cons k ks ih =>
    rw [List.forall_mem_cons, ← ih, longestMatch]
    cases hk : k.matcher.span? s with
    | none => simp
    | some n =>
      cases longestMatch ks s with
      | none => simp
      | some later =>
        simp only [reduceCtorEq, false_and, iff_false]
        split <;> simp

private theorem wins_of_longestMatch {ls : List Lexeme} {s : Spot} {l : Lexeme} {n : Nat}
    (h : longestMatch ls s = some (l, n)) : Wins ls s l n := by
  induction ls generalizing l n with
  | nil => cases h
  | cons k ks ih =>
    rw [longestMatch] at h
    split at h
    · next hk => exact (ih h).cons (by simp [hk])
    · next m hk hks =>
      cases h
      rw [longestMatch_eq_none_iff] at hks
      exact .head hk fun j hj i hi ↦ by simp [hks j hj] at hi
    · next m l' n' hk hks =>
      split at h
      · next hlt =>
        cases h
        exact (ih hks).cons fun i hi ↦ by
          have : m = i := Option.some.inj (hk.symm.trans hi)
          omega
      · next hle =>
        cases h
        refine .head hk fun j hj i hi ↦ ?_
        have := (ih hks).span?_le hj hi
        omega

/-- The longest match is the one that wins. -/
theorem longestMatch_eq_some_iff {ls : List Lexeme} {s : Spot} {l : Lexeme} {n : Nat} :
    longestMatch ls s = some (l, n) ↔ Wins ls s l n := by
  refine ⟨wins_of_longestMatch, fun h ↦ ?_⟩
  induction ls with
  | nil => obtain ⟨_, _, hls, _⟩ := h; simp at hls
  | cons k ks ih =>
    rcases h.of_cons with ⟨rfl, hk, hrest⟩ | ⟨hk, hwins⟩
    · rw [longestMatch, hk]
      cases hks : longestMatch ks s with
      | none => rfl
      | some later =>
        obtain ⟨hmem, hspan⟩ := span?_of_longestMatch hks
        have hle : ¬ n < later.2 := Nat.not_lt.2 (hrest later.1 hmem later.2 hspan)
        simp [hle]
    · rw [longestMatch, ih hwins]
      cases hm : k.matcher.span? s with
      | none => rfl
      | some m => simp [hk m hm]

end Machine

/-- At most one lexeme wins, with one number of characters. -/
theorem Wins.unique {ls : List Lexeme} {s : Spot} {k l : Lexeme} {i n : Nat}
    (h : Wins ls s l n) (h' : Wins ls s k i) : l = k ∧ n = i := by
  rw [← Machine.longestMatch_eq_some_iff] at h h'
  exact Prod.mk.inj (Option.some.inj (h.symm.trans h'))

end ModalLexer
