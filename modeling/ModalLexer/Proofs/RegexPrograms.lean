import ModalLexer.Proofs.RegexMatches
import ModalLexer.Regex

/-!
# What the program for a regular expression accepts

`Accepts` says how a program comes from one of its instructions to accept, without threads and
preferences. The instructions for an expression are put before an instruction that is there already,
so what they do is said with the rest of the run in view: they take what the expression may take,
and the run goes on at that instruction (`Emits`).
-/

namespace ModalLexer.Regex

open Text (Spot)
open Unicode (Spans)

namespace Program

variable {code final : Array Instruction} {i j k n next again leave : Nat} {s : Spot}

/-- From an instruction at a spot a program comes to accept: the number of steps, the instruction,
the spot and the number of characters taken. -/
inductive Accepts (code : Array Instruction) : Nat → Nat → Spot → Nat → Prop where
  | accept {i : Nat} {s : Spot} (hi : code[i]? = some .accept) : Accepts code 0 i s 0
  | take {k i next n : Nat} {s : Spot} {cls : Spans} {c : Char}
      (hi : code[i]? = some (.take cls next)) (hc : c ∈ s.ahead.head?) (hcls : cls.contains c)
      (h : Accepts code k next (s.advance 1) n) : Accepts code (k + 1) i s (n + 1)
  | require {k i next n : Nat} {s : Spot} {look : Look} (hi : code[i]? = some (.require look next))
      (hlook : look.holds s.behind.head? s.ahead.head?) (h : Accepts code k next s n) :
      Accepts code (k + 1) i s n
  | first {k i first second n : Nat} {s : Spot} (hi : code[i]? = some (.split first second))
      (h : Accepts code k first s n) : Accepts code (k + 1) i s n
  | second {k i first second n : Nat} {s : Spot} (hi : code[i]? = some (.split first second))
      (h : Accepts code k second s n) : Accepts code (k + 1) i s n

/-- A run takes what may be taken and then goes on at an instruction, in no more steps. -/
def GoesOn (M : Extents) (code : Array Instruction) (next k : Nat) (s : Spot) (n : Nat) : Prop :=
  ∃ a b j, n = a + b ∧ j ≤ k ∧ M s a ∧ Accepts code j next (s.advance a) b

private theorem GoesOn.followedBy {M N : Extents} {mid : Nat} (h : GoesOn M code mid k s n)
    (hN : ∀ {j s n}, j ≤ k → Accepts code j mid s n → GoesOn N code next j s n) :
    GoesOn (M.followedBy N) code next k s n := by
  obtain ⟨a, _, j, rfl, hj, hM, hmid⟩ := h
  obtain ⟨b, c, l, rfl, hl, hN, hnext⟩ := hN hj hmid
  rw [Spot.advance_advance] at hnext
  exact ⟨a + b, c, l, by omega, by omega, ⟨a, b, rfl, hM, hN⟩, hnext⟩

private theorem GoesOn.mono {M N : Extents} (h : GoesOn M code next j s n)
    (hMN : ∀ {s n}, M s n → N s n) (hj : j ≤ k) : GoesOn N code next k s n := by
  obtain ⟨a, b, l, rfl, hl, hM, hnext⟩ := h
  exact ⟨a, b, l, rfl, by omega, hMN hM, hnext⟩

private theorem Accepts.goesOn (h : Accepts code k i s n) : GoesOn .nothing code i k s n :=
  ⟨0, n, k, by omega, by omega, rfl, h⟩

/-! ### One instruction -/

private theorem Accepts.of_accept (hi : code[i]? = some .accept) (h : Accepts code k i s n) :
    n = 0 := by
  cases h <;> simp_all

private theorem Accepts.of_take {cls : Spans} (hi : code[i]? = some (.take cls next))
    (h : Accepts code k i s n) : GoesOn (Expr.one cls).Matches code next k s n := by
  cases h with
  | take hi' hc hcls h =>
    rw [hi] at hi'
    cases hi'
    exact ⟨1, _, _, by omega, by omega, ⟨rfl, _, hc, hcls⟩, h⟩
  | accept hi' | require hi' | first hi' | second hi' => rw [hi] at hi'; cases hi'

private theorem Accepts.of_require {look : Look} (hi : code[i]? = some (.require look next))
    (h : Accepts code k i s n) : GoesOn (Expr.look look).Matches code next k s n := by
  cases h with
  | require hi' hlook h =>
    rw [hi] at hi'
    cases hi'
    exact ⟨0, n, _, by omega, by omega, ⟨rfl, hlook⟩, h⟩
  | accept hi' | take hi' | first hi' | second hi' => rw [hi] at hi'; cases hi'

private theorem Accepts.of_split {first second : Nat} (hi : code[i]? = some (.split first second))
    (h : Accepts code k i s n) :
    ∃ j < k, Accepts code j first s n ∨ Accepts code j second s n := by
  cases h with
  | first hi' h =>
    rw [hi] at hi'
    cases hi'
    exact ⟨_, by omega, .inl h⟩
  | second hi' h =>
    rw [hi] at hi'
    cases hi'
    exact ⟨_, by omega, .inr h⟩
  | accept hi' | take hi' | require hi' => rw [hi] at hi'; cases hi'

private theorem Accepts.of_choice {greedy : Bool} (hi : code[i]? = some (choice greedy again leave))
    (h : Accepts code k i s n) :
    ∃ j < k, Accepts code j again s n ∨ Accepts code j leave s n := by
  cases greedy with
  | true => exact h.of_split hi
  | false =>
    obtain ⟨j, hj, h⟩ := h.of_split hi
    exact ⟨j, hj, h.symm⟩

/-! ### Instructions that were put before others -/

/-- From a place on, the instructions of a list stand in another one. -/
def Stands (place : Nat) (code final : Array Instruction) : Prop :=
  ∀ i, place ≤ i → i < code.size → final[i]? = code[i]?

private theorem Stands.refl (place : Nat) (code : Array Instruction) : Stands place code code :=
  fun _ _ _ ↦ rfl

private theorem Stands.mono {place place' : Nat} (h : Stands place code final)
    (hplace : place ≤ place') :
    Stands place' code final :=
  fun i hi ↦ h i (Nat.le_trans hplace hi)

private theorem Stands.trans {place : Nat} {mid : Array Instruction} (h : Stands place code mid)
    (hsize : code.size ≤ mid.size) (h' : Stands place mid final) : Stands place code final :=
  fun i hi hlt ↦ (h' i hi (Nat.lt_of_lt_of_le hlt hsize)).trans (h i hi hlt)

private theorem stands_push (place : Nat) (code : Array Instruction) (instruction : Instruction) :
    Stands place code (code.push instruction) :=
  fun i _ hlt ↦ by rw [Array.getElem?_push_lt hlt, Array.getElem?_eq_getElem hlt]

private theorem Stands.getElem?_of_push {place : Nat} {instruction : Instruction}
    (h : Stands place (code.push instruction) final) (hplace : place ≤ code.size) :
    final[code.size]? = some instruction := by
  rw [h code.size hplace (by simp), Array.getElem?_push_size]

/-- A way to put instructions before others leaves those as they are, and its own take what `M`
allows before a run comes to the others: whatever follows, a run from the first of the instructions
leaves them by the way out. -/
structure Emits (M : Extents) (emit : Array Instruction → Nat → Array Instruction × Nat) :
    Prop where
  size_le : ∀ code next, code.size ≤ (emit code next).1.size
  stands : ∀ code next, Stands 0 code (emit code next).1
  goesOn : ∀ {code final next k s n}, Stands code.size (emit code next).1 final →
    Accepts final k (emit code next).2 s n → GoesOn M final next k s n

private theorem Emits.nothing : Emits .nothing fun code next ↦ (code, next) where
  size_le _ _ := Nat.le_refl _
  stands code _ := .refl 0 code
  goesOn _ h := h.goesOn

private theorem Emits.mono {M N : Extents}
    {emit : Array Instruction → Nat → Array Instruction × Nat}
    (hM : Emits M emit) (h : ∀ {s n}, M s n → N s n) : Emits N emit where
  size_le := hM.size_le
  stands := hM.stands
  goesOn hstands haccepts := (hM.goesOn hstands haccepts).mono h (Nat.le_refl _)

/-- A single instruction that does what `M` says. -/
theorem Emits.single {M : Extents} (instruction : Nat → Instruction)
    (hM : ∀ {code i next k s n}, code[i]? = some (instruction next) → Accepts code k i s n →
      GoesOn M code next k s n) :
    Emits M fun code next ↦ (code.push (instruction next), code.size) where
  size_le code next := by simp
  stands code next := stands_push 0 code (instruction next)
  goesOn hstands h := hM (hstands.getElem?_of_push (Nat.le_refl _)) h

private theorem Emits.followedBy {M N : Extents}
    {emitM emitN : Array Instruction → Nat → Array Instruction × Nat} (hM : Emits M emitM)
    (hN : Emits N emitN) :
    Emits (M.followedBy N) fun code next ↦
      emitM (emitN code next).1 (emitN code next).2 where
  size_le code next := by
    have hsizeN := hN.size_le code next
    have hsizeM := hM.size_le (emitN code next).1 (emitN code next).2
    omega
  stands code next := (hN.stands code next).trans (hN.size_le code next) (hM.stands _ _)
  goesOn {code final next k s n} hstands h := by
    have hsize := hN.size_le code next
    have hlater := ((hM.stands _ _).mono (Nat.zero_le _)).trans (hM.size_le _ _) hstands
    have hfirst := hM.goesOn (hstands.mono hsize) h
    exact hfirst.followedBy fun _ h ↦ hN.goesOn hlater h

private theorem Emits.copies {M : Extents}
    {emit : Array Instruction → Nat → Array Instruction × Nat}
    (hM : Emits M emit) (count : Nat) : Emits (M.times count) (copies emit count) := by
  induction count with
  | zero => exact .nothing
  | succ count ih =>
    rw [Extents.times_succ]
    exact ih.followedBy hM

/-! ### Optional copies and loops -/

/-- The instructions of a turn stand as they were put there: only the place before them changes. -/
theorem stands_turn {emit : Array Instruction → Nat → Array Instruction × Nat} (greedy : Bool)
    (hstands : Stands code.size (loop greedy emit code next).1 final) :
    Stands (code.push .accept).size (emit (code.push .accept) code.size).1 final := by
  intro i hi hlt
  rw [Array.size_push] at hi
  have hloop : (loop greedy emit code next).1[i]? = (emit (code.push .accept) code.size).1[i]? :=
    Array.getElem?_setIfInBounds_ne (Nat.ne_of_lt hi)
  rw [hstands i (Nat.le_of_lt hi) ?_, hloop]
  show i < (Array.setIfInBounds _ _ _).size
  rwa [Array.size_setIfInBounds]

section

variable {M : Extents} {emit : Array Instruction → Nat → Array Instruction × Nat}
  (hM : Emits M emit) (greedy : Bool)

include hM

private theorem Emits.size_le_options (leave bound : Nat) (code : Array Instruction) (next : Nat) :
    code.size ≤ (options greedy leave emit bound code next).1.size := by
  induction bound generalizing code next with
  | zero => exact Nat.le_refl _
  | succ bound ih =>
    have hpush := ih ((emit code next).1.push (choice greedy (emit code next).2 leave))
      (emit code next).1.size
    have hsize := hM.size_le code next
    rw [Array.size_push] at hpush
    show code.size ≤ (options greedy leave emit bound _ _).1.size
    omega

private theorem Emits.stands_options (leave bound : Nat) (code : Array Instruction) (next : Nat) :
    Stands 0 code (options greedy leave emit bound code next).1 := by
  induction bound generalizing code next with
  | zero => exact .refl 0 code
  | succ bound ih =>
    have hpush := stands_push 0 (emit code next).1 (choice greedy (emit code next).2 leave)
    refine (hM.stands code next).trans (hM.size_le code next) ?_
    exact hpush.trans (by simp) (ih _ _)

/-- Optional copies are all taken, or the run leaves before one of them. -/
theorem Emits.goesOn_options {bound : Nat}
    (hstands : Stands code.size (options greedy leave emit bound code next).1 final)
    (h : Accepts final k (options greedy leave emit bound code next).2 s n) :
    GoesOn (M.times bound) final next k s n ∨
      ∃ count < bound, GoesOn (M.times count) final leave k s n := by
  induction bound generalizing code next with
  | zero => exact .inl h.goesOn
  | succ bound ih =>
    let copy := emit code next
    let split := copy.1.push (choice greedy copy.2 leave)
    have hsize : code.size ≤ copy.1.size := hM.size_le code next
    have hsplit : copy.1.size ≤ split.size := by simp [split]
    have hrest := hM.size_le_options greedy leave bound split copy.1.size
    have hchoice : Stands code.size split final :=
      ((hM.stands_options greedy leave bound split _).mono (Nat.zero_le _)).trans hrest hstands
    have hcopy : Stands code.size copy.1 final :=
      (stands_push code.size copy.1 _).trans hsplit hchoice
    rcases ih (hstands.mono (Nat.le_trans hsize hsplit)) h with hall | ⟨count, hcount, hsome⟩
    · obtain ⟨a, b, j, rfl, hj, htimes, hmid⟩ := hall
      obtain ⟨l, hl, hagain | hleave⟩ := hmid.of_choice (hchoice.getElem?_of_push hsize)
      · rw [Extents.times_succ]
        have hmid : GoesOn (M.times bound) final copy.2 k s (a + b) :=
          ⟨a, b, l, rfl, by omega, htimes, hagain⟩
        exact .inl (hmid.followedBy fun _ h ↦ hM.goesOn hcopy h)
      · exact .inr ⟨bound, by omega, a, b, l, rfl, by omega, htimes, hleave⟩
    · exact .inr ⟨count, by omega, hsome⟩

private theorem Emits.options (bound : Nat) :
    Emits (M.upTo bound) fun code next ↦ options greedy next emit bound code next where
  size_le code next := hM.size_le_options greedy next bound code next
  stands code next := hM.stands_options greedy next bound code next
  goesOn hstands h := by
    rcases hM.goesOn_options greedy hstands h with hall | ⟨count, hcount, hsome⟩
    · exact hall.mono (fun h ↦ ⟨bound, by omega, h⟩) (by omega)
    · exact hsome.mono (fun h ↦ ⟨count, by omega, h⟩) (by omega)

private theorem Emits.size_lt_loop (code : Array Instruction) (next : Nat) :
    code.size < (loop greedy emit code next).1.size := by
  have hturn := hM.size_le (code.push .accept) code.size
  rw [Array.size_push] at hturn
  show code.size < (Array.setIfInBounds _ _ _).size
  rw [Array.size_setIfInBounds]
  exact hturn

private theorem Emits.stands_loop (code : Array Instruction) (next : Nat) :
    Stands 0 code (loop greedy emit code next).1 := by
  intro i _ hi
  show (Array.setIfInBounds _ code.size _)[i]? = _
  rw [Array.getElem?_setIfInBounds_ne (Nat.ne_of_gt hi)]
  have hpush := stands_push 0 code .accept i (Nat.zero_le i) hi
  have hturn := hM.stands (code.push .accept) code.size i (Nat.zero_le i)
  rw [hturn (by simp; omega), hpush]

private theorem Emits.getElem?_loop
    (hstands : Stands code.size (loop greedy emit code next).1 final) :
    final[code.size]? = some (choice greedy (loop greedy emit code next).2.2 next) := by
  have hsize := hM.size_le (code.push .accept) code.size
  rw [Array.size_push] at hsize
  rw [hstands code.size (Nat.le_refl _) (hM.size_lt_loop greedy code next)]
  exact Array.getElem?_setIfInBounds_self_of_lt hsize

/-- From the choice that ends each turn a run takes any number of turns; each takes a step at
least, so the induction is on the number of steps. -/
theorem Emits.goesOn_loop (hstands : Stands code.size (loop greedy emit code next).1 final)
    (h : Accepts final k (loop greedy emit code next).2.1 s n) :
    GoesOn M.star final next k s n := by
  induction k using Nat.strongRecOn generalizing s n with
  | ind k ih =>
    obtain ⟨j, hj, hagain | hleave⟩ := h.of_choice (hM.getElem?_loop greedy hstands)
    · have hturn := hM.goesOn (stands_turn greedy hstands) hagain
      have hturns : GoesOn (M.followedBy M.star) final next j s n :=
        hturn.followedBy fun hl h ↦ ih _ (Nat.lt_of_le_of_lt hl hj) h
      exact hturns.mono Extents.star_of_followedBy (Nat.le_of_lt hj)
    · exact hleave.goesOn.mono Extents.star_of_nothing (Nat.le_of_lt hj)

/-- A loop entered by the choice that ends each turn. -/
theorem Emits.star : Emits M.star fun code next ↦
    ((loop greedy emit code next).1, (loop greedy emit code next).2.1) where
  size_le code next := Nat.le_of_lt (hM.size_lt_loop greedy code next)
  stands code next := hM.stands_loop greedy code next
  goesOn hstands h := hM.goesOn_loop greedy hstands h

/-- A loop entered at the start of a turn. -/
theorem Emits.turns : Emits (M.followedBy M.star) fun code next ↦
    ((loop greedy emit code next).1, (loop greedy emit code next).2.2) where
  size_le code next := Nat.le_of_lt (hM.size_lt_loop greedy code next)
  stands code next := hM.stands_loop greedy code next
  goesOn hstands h :=
    (hM.goesOn (stands_turn greedy hstands) h).followedBy
      fun _ h ↦ hM.goesOn_loop greedy hstands h

/-- A loop entered by a choice of its own, as it is where a turn may take nothing. -/
theorem Emits.star_of_choice : Emits M.star fun code next ↦
    let turns := loop greedy emit code next
    (turns.1.push (choice greedy turns.2.2 next), turns.1.size) where
  size_le code next := by
    have hsize := hM.size_lt_loop greedy code next
    simp only [Array.size_push]
    omega
  stands code next :=
    (hM.stands_loop greedy code next).trans (Nat.le_of_lt (hM.size_lt_loop greedy code next))
      (stands_push 0 _ _)
  goesOn {code final next k s n} hstands h := by
    have hsize := Nat.le_of_lt (hM.size_lt_loop greedy code next)
    have hloop := (stands_push code.size _ _).trans (by simp) hstands
    obtain ⟨j, hj, hagain | hleave⟩ := h.of_choice (hstands.getElem?_of_push hsize)
    · have hturns := (hM.turns greedy).goesOn hloop hagain
      exact hturns.mono Extents.star_of_followedBy (Nat.le_of_lt hj)
    · exact hleave.goesOn.mono Extents.star_of_nothing (Nat.le_of_lt hj)

end

/-! ### Expressions -/

/-- One character after another, each by an instruction of its own. -/
theorem emits_spell (cs : List Char) : Emits (Expr.text cs).Matches (spell cs) := by
  induction cs with
  | nil => exact Emits.nothing.mono fun h ↦ ⟨h, List.nil_prefix⟩
  | cons c cs ih =>
    have hc : Emits (Expr.one (.single c)).Matches fun code next ↦
        (code.push (.take (.single c) next), code.size) :=
      .single (.take (.single c)) fun hi h ↦ h.of_take hi
    refine (hc.followedBy ih).mono ?_
    rintro s _ ⟨_, _, rfl, ⟨rfl, d, hd, hcontains⟩, rfl, hrest⟩
    obtain rfl : c = d := by simpa using hcontains
    obtain ⟨rest, hahead⟩ := List.head?_eq_some_iff.1 hd
    rw [Spot.ahead_advance, hahead, List.drop_one, List.tail_cons] at hrest
    refine ⟨Nat.add_comm 1 cs.length, ?_⟩
    rw [hahead]
    exact List.cons_prefix_cons.2 ⟨rfl, hrest⟩

/-- A choice between two ways to go on. -/
theorem Emits.either {M N : Extents}
    {emitM emitN : Array Instruction → Nat → Array Instruction × Nat} (hM : Emits M emitM)
    (hN : Emits N emitN) :
    Emits (fun s n ↦ M s n ∨ N s n) fun code next ↦
      let others := emitN code next
      let branch := emitM others.1 next
      (branch.1.push (.split branch.2 others.2), branch.1.size) where
  size_le code next := by
    have hsizeN := hN.size_le code next
    have hsizeM := hM.size_le (emitN code next).1 next
    simp only [Array.size_push]
    omega
  stands code next := by
    have hboth := (hN.stands code next).trans (hN.size_le code next) (hM.stands _ next)
    have hsize := Nat.le_trans (hN.size_le code next) (hM.size_le (emitN code next).1 next)
    exact hboth.trans hsize (stands_push 0 _ _)
  goesOn {code final next k s n} hstands h := by
    have hsizeN := hN.size_le code next
    have hsizeM := hM.size_le (emitN code next).1 next
    have hM' := (stands_push code.size _ _).trans (by simp) hstands
    have hN' := ((hM.stands _ next).mono (Nat.zero_le _)).trans hsizeM hM'
    have hsplit := hstands.getElem?_of_push (Nat.le_trans hsizeN hsizeM)
    obtain ⟨j, hj, hfirst | hsecond⟩ := h.of_split hsplit
    · exact (hM.goesOn (hM'.mono hsizeN) hfirst).mono .inl (Nat.le_of_lt hj)
    · exact (hN.goesOn hN' hsecond).mono .inr (Nat.le_of_lt hj)

/-- A repetition without an upper bound: a loop, after all turns but one that must be there. -/
theorem emits_unbounded {sub : Expr} (hsub : Emits sub.Matches (emit sub)) (least : Nat)
    (greedy : Bool) :
    Emits (sub.Matches.between least none) (emit (.repetition least none greedy sub)) := by
  cases least with
  | zero =>
    show Emits (Extents.nothing.followedBy sub.Matches.star) _
    rw [Extents.nothing_followedBy]
    cases hconsumes : sub.consumes with
    | true =>
      have heq : emit (.repetition 0 none greedy sub) = fun code next ↦
          ((loop greedy (emit sub) code next).1, (loop greedy (emit sub) code next).2.1) := by
        funext code next
        simp [emit, hconsumes]
      rw [heq]
      exact hsub.star greedy
    | false =>
      have heq : emit (.repetition 0 none greedy sub) = fun code next ↦
          let turns := loop greedy (emit sub) code next
          (turns.1.push (choice greedy turns.2.2 next), turns.1.size) := by
        funext code next
        simp [emit, hconsumes]
      rw [heq]
      exact hsub.star_of_choice greedy
  | succ count =>
    show Emits ((sub.Matches.times (count + 1)).followedBy sub.Matches.star) _
    rw [Extents.times_succ, Extents.followedBy_assoc]
    exact (hsub.copies count).followedBy (hsub.turns greedy)

/-- The instructions for an expression take what the expression may take. -/
theorem emits (e : Expr) : Emits e.Matches (emit e) := by
  induction e with
  | empty => exact .nothing
  | text cs => exact emits_spell cs
  | one cls => exact .single (.take cls) fun hi h ↦ h.of_take hi
  | look l => exact .single (.require l) fun hi h ↦ h.of_require hi
  | capture index sub ih => exact ih
  | seq a b iha ihb => exact iha.followedBy ihb
  | either a b iha ihb => exact iha.either ihb
  | repetition least most greedy sub ih =>
    cases most with
    | some most => exact (ih.copies least).followedBy (ih.options greedy (most - least))
    | none => exact emits_unbounded ih least greedy

/-- The program for an expression accepts what the expression may take. -/
theorem matches_of_accepts {e : Expr} (h : Accepts (ofExpr e).code k (ofExpr e).entry s n) :
    e.Matches s n := by
  have hend : (ofExpr e).code[0]? = some .accept :=
    (emits e).stands #[.accept] 0 0 (Nat.le_refl 0) (Nat.zero_lt_one)
  obtain ⟨a, b, j, rfl, -, hmatches, haccepts⟩ := (emits e).goesOn (Stands.refl _ _) h
  obtain rfl := haccepts.of_accept hend
  exact hmatches

/-! ### Threads -/

/-- An instruction is come to from another one at a spot without taking a character. -/
inductive Reaches (code : Array Instruction) (s : Spot) : Nat → Nat → Prop where
  | refl (i : Nat) : Reaches code s i i
  | require {i next j : Nat} {look : Look} (hi : code[i]? = some (.require look next))
      (hlook : look.holds s.behind.head? s.ahead.head?) (h : Reaches code s next j) :
      Reaches code s i j
  | first {i first second j : Nat} (hi : code[i]? = some (.split first second))
      (h : Reaches code s first j) : Reaches code s i j
  | second {i first second j : Nat} (hi : code[i]? = some (.split first second))
      (h : Reaches code s second j) : Reaches code s i j

private theorem Reaches.accepts (h : Reaches code s i j) (haccepts : Accepts code k j s n) :
    ∃ l, Accepts code l i s n := by
  induction h with
  | refl => exact ⟨k, haccepts⟩
  | require hi hlook _ ih =>
    obtain ⟨l, hl⟩ := ih haccepts
    exact ⟨l + 1, .require hi hlook hl⟩
  | first hi _ ih =>
    obtain ⟨l, hl⟩ := ih haccepts
    exact ⟨l + 1, .first hi hl⟩
  | second hi _ ih =>
    obtain ⟨l, hl⟩ := ih haccepts
    exact ⟨l + 1, .second hi hl⟩

/-- From an instruction of a stack the program comes to an instruction of a certain kind. -/
def Finds (code : Array Instruction) (s : Spot) (stack : List Nat) (instruction : Instruction) :
    Prop :=
  ∃ i ∈ stack, ∃ j, Reaches code s i j ∧ code[j]? = some instruction

private theorem Finds.cons {stack : List Nat} {instruction : Instruction}
    (h : Finds code s stack instruction) (i : Nat) : Finds code s (i :: stack) instruction := by
  obtain ⟨l, hl, hreaches⟩ := h
  exact ⟨l, List.mem_cons_of_mem i hl, hreaches⟩

private theorem Finds.of_self {stack : List Nat} {instruction : Instruction}
    (hi : code[i]? = some instruction) : Finds code s (i :: stack) instruction :=
  ⟨i, List.mem_cons_self, i, .refl i, hi⟩

private theorem Finds.of_require {stack : List Nat} {instruction : Instruction} {look : Look}
    (hi : code[i]? = some (.require look next))
    (hlook : look.holds s.behind.head? s.ahead.head?)
    (h : Finds code s (next :: stack) instruction) : Finds code s (i :: stack) instruction := by
  obtain ⟨l, hl, j, hreaches, hj⟩ := h
  rcases List.mem_cons.1 hl with rfl | hl
  · exact ⟨i, List.mem_cons_self, j, .require hi hlook hreaches, hj⟩
  · exact ⟨l, List.mem_cons_of_mem i hl, j, hreaches, hj⟩

private theorem Finds.of_split {stack : List Nat} {instruction : Instruction} {first second : Nat}
    (hi : code[i]? = some (.split first second))
    (h : Finds code s (first :: second :: stack) instruction) :
    Finds code s (i :: stack) instruction := by
  obtain ⟨l, hl, j, hreaches, hj⟩ := h
  rcases List.mem_cons.1 hl with rfl | hl
  · exact ⟨i, List.mem_cons_self, j, .first hi hreaches, hj⟩
  · rcases List.mem_cons.1 hl with rfl | hl
    · exact ⟨i, List.mem_cons_self, j, .second hi hreaches, hj⟩
    · exact ⟨l, List.mem_cons_of_mem i hl, j, hreaches, hj⟩

/-- Threads that were there or come of a stack, and an end of a match only if that does too. -/
structure Traced (code : Array Instruction) (s : Spot) (stack : List Nat) (threads : List Thread)
    (result : List Thread × Bool) : Prop where
  thread : ∀ t ∈ result.1, t ∈ threads ∨ Finds code s stack (.take t.1 t.2)
  accept : result.2 = true → Finds code s stack .accept

private theorem Traced.mono {stack stack' : List Nat} {threads : List Thread}
    {result : List Thread × Bool} (h : Traced code s stack threads result)
    (hstack : ∀ {instruction}, Finds code s stack instruction → Finds code s stack' instruction) :
    Traced code s stack' threads result where
  thread t ht := (h.thread t ht).imp_right hstack
  accept haccept := hstack (h.accept haccept)

private theorem traced_reverse (stack : List Nat) (threads : List Thread) :
    Traced code s stack threads (threads.reverse, false) where
  thread t ht := .inl (List.mem_reverse.1 ht)
  accept h := by cases h

private theorem traced_follow {p : Program} {s : Spot} {holds : Look → Bool}
    (hholds : ∀ look, holds look = look.holds s.behind.head? s.ahead.head?) (bound : Nat)
    (stack : List Nat) (seen : Nat) (threads : List Thread) :
    Traced p.code s stack threads (follow p holds bound stack seen threads) := by
  fun_induction follow p holds bound stack seen threads with
  | case1 => exact traced_reverse _ _
  | case2 => exact traced_reverse _ _
  | case3 bound i stack seen threads hseen ih =>
    exact ih.mono fun h ↦ h.cons i
  | case4 bound i stack seen threads hseen seen' hi ih =>
    exact ih.mono fun h ↦ h.cons i
  | case5 bound i stack seen threads hseen seen' cls next hi ih => 
    refine ⟨fun t ht ↦ ?_, fun haccept ↦ (ih.accept haccept).cons i⟩
    rcases ih.thread t ht with hmem | hfinds
    · rcases List.mem_cons.1 hmem with rfl | hmem
      · exact .inr (.of_self hi)
      · exact .inl hmem
    · exact .inr (hfinds.cons i)
  | case6 bound i stack seen threads hseen seen' look next hi ih =>
    refine ih.mono fun h ↦ ?_
    split at h
    · next hlook => exact .of_require hi ((hholds look).symm.trans hlook) h
    · exact h.cons i
  | case7 bound i stack seen threads hseen seen' first second hi ih => exact ih.mono (.of_split hi)
  | case8 bound i stack seen threads hseen hi =>
    exact ⟨fun t ht ↦ .inl (List.mem_reverse.1 ht), fun _ ↦ .of_self hi⟩

/-! ### Runs -/

/-- A match that a run may find, `taken` characters into the text: what a thread that waits there
still takes, or one that starts there or later. -/
def Pending (p : Program) (waiting : List Nat) (taken : Nat) (s : Spot) (n : Nat) : Prop :=
  ∃ m, n = taken + m ∧ ((∃ i ∈ waiting, ∃ k, Accepts p.code k i s m) ∨
    ∃ j ≤ m, ∃ k, Accepts p.code k p.entry (s.advance j) (m - j))

private theorem pending_of_finds {p : Program} {anchored : Bool} {waiting : List Nat} {taken : Nat}
    {found : Option Nat} {instruction : Instruction} {m : Nat}
    (h : Finds p.code s (waiting ++ p.entries anchored taken found) instruction)
    (haccepts : ∀ {j}, p.code[j]? = some instruction → ∃ k, Accepts p.code k j s m) :
    Pending p waiting taken s (taken + m) := by
  obtain ⟨i, hi, j, hreaches, hj⟩ := h
  obtain ⟨k, haccepts⟩ := haccepts hj
  refine ⟨m, rfl, ?_⟩
  rcases List.mem_append.1 hi with hwaiting | hentry
  · exact .inl ⟨i, hwaiting, hreaches.accepts haccepts⟩
  · have hentry : i = p.entry := by
      unfold entries at hentry
      split at hentry
      · exact List.mem_singleton.1 hentry
      · cases hentry
    subst hentry
    exact .inr ⟨0, Nat.zero_le m, hreaches.accepts haccepts⟩

private theorem traced_settle {p : Program} (holds : Look → Bool)
    (hholds : ∀ look, holds look = look.holds s.behind.head? s.ahead.head?) (stack : List Nat) :
    Traced p.code s stack [] (p.settle holds stack) :=
  traced_follow hholds _ stack 0 []

private theorem pending_of_improve {p : Program} {anchored : Bool} {waiting : List Nat}
    {taken : Nat}
    {found : Option Nat} {threads : List Thread} {result : List Thread × Bool}
    (htraced : Traced p.code s (waiting ++ p.entries anchored taken found) threads result)
    (h : improve result.2 taken found = some n) : found = some n ∨ Pending p waiting taken s n := by
  unfold improve at h
  split at h
  · next haccepts =>
    cases h
    refine .inr (pending_of_finds (m := 0) (htraced.accept haccepts) fun hj ↦ ⟨0, .accept hj⟩)
  · exact .inl h

/-- What a thread that gets over a character, or one that starts after it, still takes. -/
theorem Pending.of_survivors {p : Program} {anchored : Bool} {waiting : List Nat} {taken : Nat}
    {found : Option Nat} {result : List Thread × Bool} {c : Char} (hc : c ∈ s.ahead.head?)
    (htraced : Traced p.code s (waiting ++ p.entries anchored taken found) [] result)
    (h : Pending p (survivors c result.1) (taken + 1) (s.advance 1) n) :
    Pending p waiting taken s n := by
  obtain ⟨m, rfl, ⟨i, hi, k, haccepts⟩ | ⟨j, hj, k, haccepts⟩⟩ := h
  · obtain ⟨⟨cls, next⟩, ht, hsurvives⟩ := List.mem_filterMap.1 hi
    obtain ⟨hcls, hi⟩ := Option.ite_none_right_eq_some.1 hsurvives
    obtain rfl := Option.some.inj hi
    have hfinds := (htraced.thread _ ht).resolve_left List.not_mem_nil
    have hpending := pending_of_finds (m := m + 1) hfinds
      fun htake ↦ ⟨k + 1, .take htake hc hcls haccepts⟩
    rwa [Nat.add_right_comm, Nat.add_assoc]
  · rw [Spot.advance_advance, Nat.add_comm 1 j] at haccepts
    refine ⟨m + 1, by omega, .inr ⟨j + 1, Nat.succ_le_succ hj, k, ?_⟩⟩
    rwa [Nat.add_sub_add_right]

/-- The end of a match that a run reports is the end of a match that starts where the run stands or
later, or of one that was found before. -/
theorem run_sound {p : Program} {anchored : Bool} {waiting : List Nat} {taken n : Nat}
    {found : Option Nat} {text : List Char} (htext : s.ahead = text)
    (h : p.run anchored s.behind.head? waiting taken found text = some n) :
    found = some n ∨ Pending p waiting taken s n := by
  induction text generalizing s waiting taken found with
  | nil =>
    have htraced := traced_settle (p := p) (s := s) (·.holds s.behind.head? none)
      (fun look ↦ by rw [htext]; rfl) (waiting ++ p.entries anchored taken found)
    exact pending_of_improve htraced h
  | cons c ahead ih =>
    have htraced := traced_settle (p := p) (s := s) (·.holds s.behind.head? (some c))
      (fun look ↦ by rw [htext]; rfl) (waiting ++ p.entries anchored taken found)
    rw [run] at h
    generalize p.settle (·.holds s.behind.head? (some c))
      (waiting ++ p.entries anchored taken found) = result at h htraced
    simp only at h
    split at h
    · exact pending_of_improve htraced h
    · have hahead : (s.advance 1).ahead = ahead := by
        rw [Spot.ahead_advance, htext]
        rfl
      have hbehind : (s.advance 1).behind.head? = some c := by
        rw [Spot.behind_advance, htext]
        rfl
      rw [← hbehind] at h
      rcases ih hahead h with hfound | hpending
      · exact pending_of_improve htraced hfound
      · exact .inr (.of_survivors (by simp [htext]) htraced hpending)

end Program

/-- The end of a match that a search finds is the end of a match that starts somewhere before. -/
theorem exists_matches_of_search {source : String} {r : Regex} {e : Expr} {text : List Char}
    {n : Nat} (hcompile : compile source = .ok r) (he : expression source.toList = .ok e)
    (h : r.search text = some n) :
    ∃ j ≤ n, e.Matches ((Spot.start text).advance j) (n - j) := by
  unfold compile at hcompile
  rw [he] at hcompile
  cases hcompile
  rcases Program.run_sound (s := Spot.start text) rfl h with hfound | ⟨m, rfl, hpending⟩
  · cases hfound
  · rcases hpending with ⟨i, hi, -⟩ | ⟨j, hj, k, haccepts⟩
    · cases hi
    · rw [Nat.zero_add]
      exact ⟨j, hj, Program.matches_of_accepts haccepts⟩

end ModalLexer.Regex
