import ModalLexer.Proofs.DeclaredRules

/-!
# What a state lists

A state's list of lexemes is changed in two ways: a lexeme is registered, or lexemes are added. What
a state lists after any such changes follows from the lexemes that were passed. Its names are those
passed, each where it came first (`State.names_changeAll`), and the lexeme of a name is the one
registered last, or the one passed first if none was registered (`State.get?_changeAll`). So no name
is listed twice, and none ever leaves its place (`State.names_stay_in_place`).
-/

namespace ModalLexer

private theorem getElem?_of_prefix {α : Type} {xs ys : List α} (h : xs <+: ys) {i : Nat} {x : α}
    (hx : xs[i]? = some x) : ys[i]? = some x := by
  obtain ⟨hi, rfl⟩ := List.getElem?_eq_some_iff.1 hx
  exact List.prefix_iff_getElem?.1 h i hi

namespace State

/-- A change of a state's list: a lexeme is registered, or those lexemes are added whose names are
not there yet. -/
inductive Change where
  | register (l : Lexeme)
  | update (ls : List Lexeme)

namespace Change

/-- The lexemes that a change passes. -/
def lexemes : Change → List Lexeme
  | register l => [l]
  | update ls => ls

/-- The lexeme that a change registers. -/
def registered? : Change → Option Lexeme
  | register l => some l
  | update _ => none

end Change

/-- The state after a change. -/
def change (s : State) : Change → State
  | .register l => s.register l
  | .update ls => s.update ls

/-- The state after some changes. -/
def changeAll (s : State) (cs : List Change) : State :=
  cs.foldl change s

/-- The names that changes pass, in order, each as often as it is passed. -/
def passedNames (cs : List Change) : List String :=
  cs.flatMap (·.lexemes.map (·.name))

/-- The lexeme that changes pass first under a name. -/
def firstPassed? (name : String) (cs : List Change) : Option Lexeme :=
  (cs.flatMap (·.lexemes)).find? (·.name == name)

/-- The lexeme that changes register last under a name. -/
def lastRegistered? (name : String) (cs : List Change) : Option Lexeme :=
  (cs.filterMap (·.registered?)).reverse.find? (·.name == name)

variable {s : State} {c : Change} {l : Lexeme} {ls : List Lexeme} {known : List String}

/-! ### One change -/

/-- Added lexemes give their names, each where it comes first. -/
theorem names_update (h : s.names = known.eraseDups) :
    (s.update ls).names = (known ++ ls.map (·.name)).eraseDups := by
  induction ls generalizing s known with
  | nil =>
    rw [List.map_nil, List.append_nil]
    exact h
  | cons l ls ih =>
    have hadd : (s.add l).names = (known ++ [l.name]).eraseDups := by
      rw [names_add, eraseDups_concat, h]
    rw [List.map_cons, List.append_cons]
    exact ih hadd

/-- A change gives the names that it passes, each where it comes first. -/
theorem names_change (h : s.names = known.eraseDups) :
    (s.change c).names = (known ++ c.lexemes.map (·.name)).eraseDups := by
  cases c with
  | register l =>
    rw [change, names_register, h, Change.lexemes, List.map_singleton, eraseDups_concat]
  | update ls => exact names_update h

/-- Added lexemes come after those that are there. -/
theorem lexemes_prefix_update (s : State) (ls : List Lexeme) :
    s.lexemes <+: (s.update ls).lexemes := by
  induction ls generalizing s with
  | nil => exact List.prefix_rfl
  | cons l ls ih =>
    have hadd : s.lexemes <+: (s.add l).lexemes := by
      rw [add]
      split
      · exact List.prefix_rfl
      · exact List.prefix_append _ _
    exact hadd.trans (ih (s.add l))

/-- Registering a lexeme neither moves nor changes one of another name, and adds none. -/
theorem getElem?_register {i : Nat} {k : Lexeme} (hk : k.name ≠ l.name) :
    (s.register l).lexemes[i]? = some k ↔ s.lexemes[i]? = some k := by
  have hne : l ≠ k := fun h ↦ hk (congrArg Lexeme.name h.symm)
  obtain ⟨_, ls⟩ := s
  unfold register
  induction ls generalizing i with
  | nil => cases i <;> simp [registerIn, hne]
  | cons k' ks ih =>
    rw [registerIn]
    split
    · next hname =>
      -- Neither the lexeme that is replaced nor the one in its place has the other name.
      have hne' : k' ≠ k := fun h ↦ hk (h ▸ hname)
      cases i <;> simp [hne, hne']
    · cases i with
      | zero => rfl
      | succ i => exact ih

/-- Added lexemes are found under names that had none, the first of each name. -/
theorem get?_update (s : State) (ls : List Lexeme) (name : String) :
    (s.update ls).get? name = (s.get? name).or (ls.find? (·.name == name)) := by
  induction ls generalizing s with
  | nil => exact Option.or_none.symm
  | cons l ls ih =>
    rw [update, List.foldl_cons, ← update, ih, get?_add, Option.or_assoc, List.find?_cons]
    by_cases hname : l.name = name
    · simp [hname]
    · have hother : (l.name == name) = false := beq_false_of_ne hname
      simp [hother, Ne.symm hname]

/-- Adding the same lexemes again changes nothing. -/
theorem update_update (s : State) (ls : List Lexeme) : (s.update ls).update ls = s.update ls := by
  refine update_of_mem fun l hl ↦ Decidable.byContradiction fun hout ↦ ?_
  rw [← get?_eq_none_iff, get?_update, Option.or_eq_none_iff, List.find?_eq_none] at hout
  exact hout.2 l hl (beq_self_eq_true _)

/-! ### All changes -/

private theorem changeAll_cons (s : State) (c : Change) (cs : List Change) :
    s.changeAll (c :: cs) = (s.change c).changeAll cs :=
  rfl

/-- Changes give the names that they pass, each where it comes first. -/
theorem names_changeAll {cs : List Change} (h : s.names = known.eraseDups) :
    (s.changeAll cs).names = (known ++ passedNames cs).eraseDups := by
  induction cs generalizing s known with
  | nil =>
    rw [passedNames, List.flatMap_nil, List.append_nil]
    exact h
  | cons c cs ih =>
    rw [changeAll_cons, passedNames, List.flatMap_cons, ← List.append_assoc]
    exact ih (names_change h)

/-- A state has the names that were passed, each where it came first. -/
theorem names_changeAll_new (name : String) (cs : List Change) :
    ((new name).changeAll cs).names = (passedNames cs).eraseDups := by
  have hnew : (new name).names = [].eraseDups := rfl
  rw [names_changeAll hnew, List.nil_append]

/-- The lexeme of a name is the one registered last; if none was, it stays the one that was there,
or else it is the one passed first. -/
theorem get?_changeAll (s : State) (cs : List Change) (name : String) :
    (s.changeAll cs).get? name =
      (lastRegistered? name cs).or ((s.get? name).or (firstPassed? name cs)) := by
  induction cs generalizing s with
  | nil => simp [changeAll, lastRegistered?, firstPassed?]
  | cons c cs ih =>
    rw [changeAll_cons, ih]
    cases c with
    | register l =>
      rw [change, get?_register]
      by_cases hname : name = l.name
      · simp [lastRegistered?, firstPassed?, Change.registered?, Change.lexemes, hname]
      · simp [lastRegistered?, firstPassed?, Change.registered?, Change.lexemes, hname,
          Ne.symm hname]
    | update ls =>
      simp [change, get?_update, lastRegistered?, firstPassed?, Change.registered?,
        Change.lexemes, Option.or_assoc]

/-- After any changes to an empty state no name is listed twice, and the names are those that were
passed. Later changes leave every name in its place. Added lexemes neither move nor change those
that are there, and adding them again changes nothing. A registered lexeme is found under its name,
and no lexeme of another name is moved, changed or added. -/
theorem names_stay_in_place (name : String) (cs : List Change) :
    let s := (new name).changeAll cs
    s.names.Nodup ∧
      (∀ key, key ∈ s.names ↔ ∃ c ∈ cs, ∃ l ∈ c.lexemes, l.name = key) ∧
      (∀ later (i : Nat) key, s.names[i]? = some key →
        (s.changeAll later).names[i]? = some key) ∧
      (∀ ls, (∀ (i : Nat) l, s.lexemes[i]? = some l → (s.update ls).lexemes[i]? = some l) ∧
        (s.update ls).update ls = s.update ls) ∧
      ∀ l, (s.register l).get? l.name = some l ∧
        ∀ (i : Nat) k, k.name ≠ l.name →
          ((s.register l).lexemes[i]? = some k ↔ s.lexemes[i]? = some k) := by
  intro s
  have hnames : s.names = (passedNames cs).eraseDups := names_changeAll_new name cs
  refine ⟨?_, fun key ↦ ?_, fun later i key hkey ↦ ?_, fun ls ↦ ⟨fun i l hl ↦ ?_, ?_⟩,
    fun l ↦ ⟨?_, fun i k hk ↦ ?_⟩⟩
  · rw [hnames]
    exact nodup_eraseDups _
  · rw [hnames, List.mem_eraseDups]
    simp [passedNames]
  · have hprefix : s.names <+: (s.changeAll later).names := by
      rw [names_changeAll hnames, hnames, List.eraseDups_append]
      exact List.prefix_append _ _
    exact getElem?_of_prefix hprefix hkey
  · exact getElem?_of_prefix (lexemes_prefix_update s ls) hl
  · exact update_update s ls
  · rw [get?_register, if_pos rfl]
  · exact getElem?_register hk

/-- A word that is spelled as given. -/
def wordLexeme (text : String) : Lexeme := ⟨"WORD", .literal text, none⟩

/-- A number that is spelled as given; it is dropped. -/
def numberLexeme (text : String) : Lexeme := ⟨"NUMBER", .literal text, some .drop⟩

/-- A word is added twice with a number between, and then the number is replaced. -/
def overridingChanges : List Change :=
  [.update [wordLexeme "a", numberLexeme "1", wordLexeme "b"], .register (numberLexeme "2")]

/-- The number keeps its place when it is replaced and when other lexemes are registered. -/
theorem names_stay_in_place_overridingChanges :
    let s := (new "tag").changeAll overridingChanges
    s.names[1]? = some "NUMBER" ∧
      (s.changeAll [.register (wordLexeme "c"), .register (numberLexeme "3")]).names[1]? =
        some "NUMBER" ∧
      s.lexemes[1]? = some (numberLexeme "2") ∧
      (s.update [numberLexeme "3", wordLexeme "c"]).lexemes[1]? = some (numberLexeme "2") ∧
      (numberLexeme "2").name ≠ (wordLexeme "c").name ∧
      (s.register (wordLexeme "c")).lexemes[1]? = some (numberLexeme "2") := by
  obtain ⟨_, _, hstay, hupdate, hregister⟩ := names_stay_in_place "tag" overridingChanges
  have hname : (numberLexeme "2").name ≠ (wordLexeme "c").name := by decide
  exact ⟨rfl, hstay _ 1 _ rfl, rfl, (hupdate _).1 1 _ rfl, hname,
    ((hregister _).2 1 _ hname).2 rfl⟩

end State

end ModalLexer
