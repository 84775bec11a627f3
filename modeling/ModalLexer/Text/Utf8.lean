/-!
# Texts measured in bytes

A text is a list of characters; its length and the offsets into it are counted in the bytes of its
UTF-8 form. `splitBytes?` cuts a text after a number of bytes, and refuses a cut that would fall
inside a character or beyond the end: `splitBytes?_eq_some_iff` says that this is all it does.
-/

namespace ModalLexer.Text

/-- The number of bytes of a text in UTF-8. -/
def utf8Length (cs : List Char) : Nat :=
  cs.foldl (fun n c ↦ n + c.utf8Size) 0

/-- Cuts a text after a number of bytes; none if the cut is not between two characters of it. -/
def splitBytes? : Nat → List Char → Option (List Char × List Char)
  | 0, cs => some ([], cs)
  | _ + 1, [] => none
  | n + 1, c :: cs =>
    if c.utf8Size ≤ n + 1 then
      (splitBytes? (n + 1 - c.utf8Size) cs).map fun (front, back) ↦ (c :: front, back)
    else none

/-- No characters take no bytes. -/
@[simp] theorem utf8Length_nil : utf8Length [] = 0 := rfl

private theorem foldl_utf8Size (n : Nat) (cs : List Char) :
    cs.foldl (fun n c ↦ n + c.utf8Size) n = n + utf8Length cs := by
  induction cs generalizing n with
  | nil => rfl
  | cons c cs ih => rw [utf8Length, List.foldl_cons, List.foldl_cons, ih, ih]; omega

/-- One more character adds its bytes. -/
@[simp] theorem utf8Length_cons (c : Char) (cs : List Char) :
    utf8Length (c :: cs) = c.utf8Size + utf8Length cs := by
  rw [utf8Length, List.foldl_cons, foldl_utf8Size, Nat.zero_add]

/-- Two texts in a row take the bytes of both. -/
@[simp] theorem utf8Length_append (cs ds : List Char) :
    utf8Length (cs ++ ds) = utf8Length cs + utf8Length ds := by
  induction cs with
  | nil => simp
  | cons c cs ih => simp [ih, Nat.add_assoc]

/-- The order of characters does not matter for their bytes. -/
@[simp] theorem utf8Length_reverse (cs : List Char) : utf8Length cs.reverse = utf8Length cs := by
  induction cs with
  | nil => rfl
  | cons c cs ih => simp [ih, Nat.add_comm]

/-- The length is the one that the string of the same characters has. -/
theorem utf8Length_toList (s : String) : utf8Length s.toList = s.utf8ByteSize := by
  have ofList (cs : List Char) : utf8Length cs = (String.ofList cs).utf8ByteSize := by
    induction cs with
    | nil => rfl
    | cons c cs ih =>
      rw [utf8Length_cons, ih, ← List.singleton_append, String.ofList_append,
        String.utf8ByteSize_append, ← String.singleton_eq_ofList, String.utf8ByteSize_singleton]
  rw [ofList, String.ofList_toList]

/-- A text has at least as many bytes as characters. -/
theorem length_le_utf8Length (cs : List Char) : cs.length ≤ utf8Length cs := by
  induction cs with
  | nil => simp
  | cons c cs ih =>
    have := c.utf8Size_pos
    simp only [List.length_cons, utf8Length_cons]
    omega

/-- Only the empty text has no bytes. -/
@[simp] theorem utf8Length_eq_zero_iff {cs : List Char} : utf8Length cs = 0 ↔ cs = [] := by
  cases cs with
  | nil => simp
  | cons c cs =>
    have := c.utf8Size_pos
    simp only [utf8Length_cons, reduceCtorEq, iff_false]
    omega

/-- A cut gives two parts that make up the text, the first of the length asked for. -/
theorem splitBytes?_eq_some_iff {n : Nat} {cs front back : List Char} :
    splitBytes? n cs = some (front, back) ↔ cs = front ++ back ∧ utf8Length front = n := by
  induction cs generalizing n front with
  | nil =>
    cases n with
    | zero =>
      simp only [splitBytes?, Option.some.injEq, Prod.mk.injEq, List.nil_eq, List.append_eq_nil_iff,
        utf8Length_eq_zero_iff]
      exact ⟨fun ⟨h, k⟩ ↦ ⟨⟨h, k⟩, h⟩, fun ⟨⟨h, k⟩, _⟩ ↦ ⟨h, k⟩⟩
    | succ n =>
      simp only [splitBytes?, reduceCtorEq, List.nil_eq, List.append_eq_nil_iff, false_iff, not_and]
      rintro ⟨rfl, _⟩
      simp
  | cons c cs ih =>
    cases n with
    | zero =>
      simp only [splitBytes?, Option.some.injEq, Prod.mk.injEq, utf8Length_eq_zero_iff]
      exact ⟨fun ⟨h, k⟩ ↦ ⟨by simp [← h, k], h.symm⟩, fun ⟨h, k⟩ ↦ ⟨k.symm, by simpa [k] using h⟩⟩
    | succ n =>
      have hpos := c.utf8Size_pos
      rw [splitBytes?]
      split
      · next hle =>
        rw [Option.map_eq_some_iff]
        constructor
        · rintro ⟨⟨front', back'⟩, h, heq⟩
          obtain ⟨rfl, rfl⟩ := Prod.mk.inj heq
          obtain ⟨h₁, h₂⟩ := ih.1 h
          exact ⟨by simp [h₁], by rw [utf8Length_cons, h₂]; omega⟩
        · rintro ⟨h, hn⟩
          cases front with
          | nil => simp at hn
          | cons d front =>
            obtain ⟨rfl, rfl⟩ := List.cons.inj h
            exact ⟨(front, back), ih.2 ⟨rfl, by rw [utf8Length_cons] at hn; omega⟩, rfl⟩
      · next hlt =>
        simp only [reduceCtorEq, false_iff, not_and]
        intro h hn
        cases front with
        | nil => simp at hn
        | cons d front =>
          obtain ⟨rfl, rfl⟩ := List.cons.inj h
          rw [utf8Length_cons] at hn
          omega

end ModalLexer.Text
