/-!
# Tables by name

A table maps names to values and keeps them in the order in which the names came. Only the first
entry of a name counts; `insert` replaces it in place, so the operations never make a second one.
-/

namespace ModalLexer

/-- A map from names to values, in order. -/
structure Table (α : Type u) where
  entries : List (String × α)

namespace Table

variable {α : Type u}

/-- The table without names. -/
def empty : Table α := ⟨[]⟩

/-- The names of a table, in order. -/
def names (t : Table α) : List String := t.entries.map (·.1)

/-- The value of a name among entries. -/
def find? (name : String) : List (String × α) → Option α
  | [] => none
  | (k, v) :: entries => if k = name then some v else find? name entries

/-- The value of a name. -/
def get? (t : Table α) (name : String) : Option α := find? name t.entries

/-- Puts a value in the place of the one of its name, or at the end. -/
def insertIn (name : String) (value : α) : List (String × α) → List (String × α)
  | [] => [(name, value)]
  | (k, v) :: entries =>
    if k = name then (name, value) :: entries else (k, v) :: insertIn name value entries

/-- Gives a name a value, whatever value it had. -/
def insert (t : Table α) (name : String) (value : α) : Table α :=
  ⟨insertIn name value t.entries⟩

/-- Gives a name a value unless it has one. -/
def insertNew (t : Table α) (name : String) (value : α) : Table α :=
  if (t.get? name).isSome then t else t.insert name value

/-- Changes the value of a name; without a value it starts from a given one. -/
def modify (t : Table α) (name : String) (start : α) (f : α → α) : Table α :=
  t.insert name (f ((t.get? name).getD start))

/-- An insertion sets the value of its name and no other. -/
theorem find?_insertIn (name key : String) (value : α) (entries : List (String × α)) :
    find? key (insertIn name value entries) =
      if key = name then some value else find? key entries := by
  induction entries with
  | nil =>
    by_cases h : name = key
    · simp [insertIn, find?, h]
    · simp [insertIn, find?, h, Ne.symm h]
  | cons e entries ih =>
    obtain ⟨k, v⟩ := e
    rw [insertIn]
    split
    · next hk =>
      subst hk
      by_cases h : k = key
      · simp [find?, h]
      · simp [find?, h, Ne.symm h]
    · next hk =>
      rw [find?, find?]
      by_cases h : k = key
      · subst h
        simp [hk]
      · simp only [h, if_false]
        exact ih

/-- A name that was given a value has it, and no other name is touched. -/
theorem get?_insert (t : Table α) (name key : String) (value : α) :
    (t.insert name value).get? key = if key = name then some value else t.get? key :=
  find?_insertIn name key value t.entries

/-- A name has the value that is inserted for it. -/
theorem get?_insert_self (t : Table α) (name : String) (value : α) :
    (t.insert name value).get? name = some value := by
  simp [get?_insert]

/-- A name without a value gets one, and one with a value keeps it. -/
theorem get?_insertNew (t : Table α) (name key : String) (value : α) :
    (t.insertNew name value).get? key =
      if key = name then some ((t.get? name).getD value) else t.get? key := by
  unfold insertNew
  split
  · next h =>
    obtain ⟨v, hv⟩ := Option.isSome_iff_exists.1 h
    split
    · next hk => rw [hk, hv]; rfl
    · rfl
  · next h =>
    rw [get?_insert]
    split
    · rw [Option.not_isSome_iff_eq_none.1 h]; rfl
    · rfl

/-- Changing a value touches no other name. -/
theorem get?_modify (t : Table α) (name key : String) (start : α) (f : α → α) :
    (t.modify name start f).get? key =
      if key = name then some (f ((t.get? name).getD start)) else t.get? key :=
  get?_insert _ _ _ _

end Table

end ModalLexer
