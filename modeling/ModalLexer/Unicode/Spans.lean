/-!
# Sets of code points

A property of characters is constant on long runs of code points, so a set of them is kept as the
rising list of the code points where membership changes: the first one in the set, the first one
after that not in it, and so on. Sets are combined by one walk through both lists, and
`contains_union`, `contains_inter`, `contains_diff`, `contains_symmDiff` and `contains_complement`
say what comes out.

Surrogates are no characters. The sets made here never change inside their block, where they count
with the code point before them; so two sets of the same characters have the same list.
-/

namespace ModalLexer.Unicode

/-- The entries of a list rise, from a given number on. -/
def RisingFrom : Nat → List Nat → Prop
  | _, [] => True
  | least, n :: ns => least ≤ n ∧ RisingFrom (n + 1) ns

instance RisingFrom.decidable : (least : Nat) → (ns : List Nat) → Decidable (RisingFrom least ns)
  | _, [] => .isTrue trivial
  | least, n :: ns =>
    have := RisingFrom.decidable (n + 1) ns
    inferInstanceAs (Decidable (least ≤ n ∧ RisingFrom (n + 1) ns))

private theorem RisingFrom.mono {l m : Nat} (h : m ≤ l) {ns : List Nat} (hs : RisingFrom l ns) :
    RisingFrom m ns := by
  cases ns with
  | nil => trivial
  | cons n ns => exact ⟨Nat.le_trans h hs.1, hs.2⟩

/-- A set of code points: the first one in it, the first one after that not in it, and so on; these
rise. -/
structure Spans where
  bounds : List Nat
  rising : RisingFrom 0 bounds
  deriving DecidableEq

namespace Spans

/-- Whether a number is in a set, by the changes of membership from some point on; the flag says
whether numbers are in the set before the first of them. -/
def walk : Bool → List Nat → Nat → Bool
  | inside, [], _ => inside
  | inside, b :: bs, n => if b ≤ n then walk (!inside) bs n else inside

/-- Whether a character is in a set. -/
def contains (s : Spans) (c : Char) : Bool :=
  walk false s.bounds c.toNat

/-- Adds a change of membership to later ones, if it is one. -/
def change (changes : Bool) (n : Nat) (later : List Nat) : List Nat :=
  if changes then n :: later else later

/-- The changes of membership of two sets combined by a truth function, from some point on; the
flags say whether numbers are in the sets before that. -/
def combineFrom (op : Bool → Bool → Bool) : Bool → Bool → List Nat → List Nat → List Nat
  | _, _, [], [] => []
  | p, q, a :: as, [] => change (op p q != op (!p) q) a (combineFrom op (!p) q as [])
  | p, q, [], b :: bs => change (op p q != op p (!q)) b (combineFrom op p (!q) [] bs)
  | p, q, a :: as, b :: bs =>
    if a < b then change (op p q != op (!p) q) a (combineFrom op (!p) q as (b :: bs))
    else if b < a then change (op p q != op p (!q)) b (combineFrom op p (!q) (a :: as) bs)
    else change (op p q != op (!p) (!q)) a (combineFrom op (!p) (!q) as bs)
termination_by _ _ as bs => as.length + bs.length

private theorem risingFrom_change {changes : Bool} {least n : Nat} {later : List Nat}
    (h : least ≤ n) (hl : RisingFrom (n + 1) later) :
    RisingFrom least (change changes n later) := by
  unfold change
  split
  · exact ⟨h, hl⟩
  · exact hl.mono (by omega)

private theorem risingFrom_combineFrom {op : Bool → Bool → Bool} {p q : Bool} {as bs : List Nat} :
    ∀ {least : Nat}, RisingFrom least as → RisingFrom least bs →
      RisingFrom least (combineFrom op p q as bs) := by
  fun_induction combineFrom op p q as bs with
  | case1 => intros; trivial
  | case2 p q a as ih =>
    intro least ha _
    exact risingFrom_change ha.1 (ih ha.2 trivial)
  | case3 p q b bs ih =>
    intro least _ hb
    exact risingFrom_change hb.1 (ih trivial hb.2)
  | case4 p q a as b bs hab ih =>
    intro least ha hb
    exact risingFrom_change ha.1 (ih ha.2 ⟨hab, hb.2⟩)
  | case5 p q a as b bs _ hba ih =>
    intro least ha hb
    exact risingFrom_change hb.1 (ih ⟨hba, ha.2⟩ hb.2)
  | case6 p q a as b bs h₁ h₂ ih =>
    intro least ha hb
    obtain rfl : a = b := by omega
    exact risingFrom_change ha.1 (ih ha.2 hb.2)

/-- The set of what a truth function accepts of the membership in two sets. -/
def combine (op : Bool → Bool → Bool) (s t : Spans) : Spans :=
  ⟨combineFrom op false false s.bounds t.bounds, risingFrom_combineFrom s.rising t.rising⟩

private theorem walk_cons (p : Bool) (b : Nat) (bs : List Nat) (n : Nat) :
    walk p (b :: bs) n = if b ≤ n then walk (!p) bs n else p := rfl

/-- Below the first change nothing changes. -/
theorem walk_of_lt {p : Bool} {n least : Nat} {bs : List Nat} (h : RisingFrom least bs)
    (hn : n < least) : walk p bs n = p := by
  cases bs with
  | nil => rfl
  | cons b bs =>
    have := h.1
    rw [walk, if_neg (by omega)]

private theorem walk_change {changes p : Bool} {n m : Nat} {later : List Nat}
    (hl : RisingFrom (n + 1) later) :
    walk p (change changes n later) m =
      if n ≤ m then walk (if changes then !p else p) later m else p := by
  unfold change
  cases changes with
  | true => simp [walk]
  | false =>
    by_cases h : n ≤ m
    · simp [h]
    · simp [h, walk_of_lt hl (show m < n + 1 by omega)]

private theorem walk_combineFrom (op : Bool → Bool → Bool) (p q : Bool) {as bs : List Nat}
    (n : Nat) :
    ∀ {least : Nat}, RisingFrom least as → RisingFrom least bs →
      walk (op p q) (combineFrom op p q as bs) n = op (walk p as n) (walk q bs n) := by
  have flip (x y : Bool) : (if (x != y) = true then !x else x) = y := by cases x <;> cases y <;> rfl
  fun_induction combineFrom op p q as bs with
  | case1 => intros; rfl
  | case2 p q a as ih =>
    intro least ha _
    have hb' : RisingFrom (a + 1) [] := trivial
    rw [walk_change (risingFrom_combineFrom ha.2 hb'), flip, ih ha.2 hb', walk_cons p]
    split <;> rfl
  | case3 p q b bs ih =>
    intro least _ hb
    have ha' : RisingFrom (b + 1) [] := trivial
    rw [walk_change (risingFrom_combineFrom ha' hb.2), flip, ih ha' hb.2, walk_cons q]
    split <;> rfl
  | case4 p q a as b bs hab ih =>
    intro least ha hb
    have hb' : RisingFrom (a + 1) (b :: bs) := ⟨hab, hb.2⟩
    rw [walk_change (risingFrom_combineFrom ha.2 hb'), flip, ih ha.2 hb', walk_cons p]
    split
    · rfl
    · rw [walk_of_lt hb' (n := n) (by omega)]
  | case5 p q a as b bs _ hba ih =>
    intro least ha hb
    have ha' : RisingFrom (b + 1) (a :: as) := ⟨hba, ha.2⟩
    rw [walk_change (risingFrom_combineFrom ha' hb.2), flip, ih ha' hb.2, walk_cons q]
    split
    · rfl
    · rw [walk_of_lt ha' (n := n) (by omega)]
  | case6 p q a as b bs h₁ h₂ ih =>
    intro least ha hb
    obtain rfl : a = b := by omega
    rw [walk_change (risingFrom_combineFrom ha.2 hb.2), flip, ih ha.2 hb.2, walk_cons p,
      walk_cons q]
    split <;> rfl

/-- A combined set holds what the truth function accepts. -/
theorem contains_combine {op : Bool → Bool → Bool} (h : op false false = false) {s t : Spans}
    {c : Char} : (combine op s t).contains c = op (s.contains c) (t.contains c) := by
  have := walk_combineFrom op false false c.toNat s.rising t.rising
  rwa [h] at this

/-- No code points. -/
def empty : Spans := ⟨[], trivial⟩

/-- The number of code points. -/
def codePoints : Nat := 0x110000

/-- All code points. -/
def every : Spans := ⟨[0, codePoints], by decide⟩

/-- What is in either set. -/
def union : Spans → Spans → Spans := combine or

/-- What is in both sets. -/
def inter : Spans → Spans → Spans := combine and

/-- What is in the first set only. -/
def diff : Spans → Spans → Spans := combine fun p q ↦ p && !q

/-- What is in just one of the sets. -/
def symmDiff : Spans → Spans → Spans := combine xor

/-- What is not in a set. -/
def complement (s : Spans) : Spans := every.diff s

/-- The code point after a given one, surrogates being passed over. -/
def after (n : Nat) : Nat :=
  if n = 0xD7FF then 0xE000 else n + 1

/-- The characters from one to another. -/
def range (first last : Char) : Spans :=
  if h : first ≤ last then
    ⟨[first.toNat, after last.toNat], Nat.zero_le _, by
      have h : first.toNat ≤ last.toNat := h
      unfold after
      split <;> omega, trivial⟩
  else empty

/-- One character alone. -/
def single (c : Char) : Spans := range c c

/-- What is in one of several sets. -/
def unionAll (sets : List Spans) : Spans :=
  sets.foldr union empty

/-- The characters of several ranges. -/
def ofRanges (ranges : List (Char × Char)) : Spans :=
  unionAll (ranges.map fun (first, last) ↦ range first last)

/-- The runs of a set: the first and the last code point of each. -/
def runs (s : Spans) : List (Nat × Nat) :=
  pairs s.bounds
where
  /-- Takes changes of membership two by two. -/
  pairs : List Nat → List (Nat × Nat)
    | a :: b :: rest => (a, b - 1) :: pairs rest
    | [a] => [(a, codePoints - 1)]
    | [] => []

/-- The empty set has no character. -/
@[simp] theorem contains_empty (c : Char) : empty.contains c = false := rfl

private theorem toNat_lt_codePoints (c : Char) : c.toNat < codePoints := by
  have := c.valid
  simp only [UInt32.isValidChar, Nat.isValidChar] at this
  show c.val.toNat < 0x110000
  omega

/-- The set of all characters has each. -/
@[simp] theorem contains_every (c : Char) : every.contains c = true := by
  have := toNat_lt_codePoints c
  simp [contains, every, walk, show ¬codePoints ≤ c.toNat by omega]

/-- A union has what is in one of two sets. -/
@[simp] theorem contains_union (s t : Spans) (c : Char) :
    (s.union t).contains c = (s.contains c || t.contains c) :=
  contains_combine rfl

/-- An intersection has what is in both. -/
@[simp] theorem contains_inter (s t : Spans) (c : Char) :
    (s.inter t).contains c = (s.contains c && t.contains c) :=
  contains_combine rfl

/-- A difference has what is in the first only. -/
@[simp] theorem contains_diff (s t : Spans) (c : Char) :
    (s.diff t).contains c = (s.contains c && !t.contains c) :=
  contains_combine rfl

/-- A symmetric difference has what is in just one. -/
@[simp] theorem contains_symmDiff (s t : Spans) (c : Char) :
    (s.symmDiff t).contains c = xor (s.contains c) (t.contains c) :=
  contains_combine rfl

/-- A complement has what is not in the set. -/
@[simp] theorem contains_complement (s : Spans) (c : Char) :
    s.complement.contains c = !s.contains c := by
  simp [complement]

/-- A range holds the characters between its ends. -/
@[simp] theorem contains_range {first last c : Char} :
    (range first last).contains c = (first ≤ c && c ≤ last) := by
  have hc : ¬(0xD800 ≤ c.toNat ∧ c.toNat < 0xE000) := by
    have := c.valid
    simp only [UInt32.isValidChar, Nat.isValidChar] at this
    show ¬(0xD800 ≤ c.val.toNat ∧ c.val.toNat < 0xE000)
    omega
  have hle (a b : Char) : a ≤ b ↔ a.toNat ≤ b.toNat := Iff.rfl
  unfold range
  split
  · next h =>
    rw [hle] at h
    simp only [contains, walk, Bool.not_false, Bool.not_true, hle]
    by_cases h₁ : first.toNat ≤ c.toNat
    · by_cases h₂ : c.toNat ≤ last.toNat
      · have : ¬after last.toNat ≤ c.toNat := by unfold after; split <;> omega
        simp [h₁, h₂, this]
      · have : after last.toNat ≤ c.toNat := by unfold after; split <;> omega
        simp [h₁, h₂, this]
    · simp [h₁]
  · next h =>
    rw [hle] at h
    simp only [contains_empty, hle]
    by_cases h₁ : first.toNat ≤ c.toNat
    · simp [show ¬c.toNat ≤ last.toNat by omega]
    · simp [h₁]

/-- A set of one character has this one only. -/
@[simp] theorem contains_single {c d : Char} : (single c).contains d = (c == d) := by
  rw [single, contains_range]
  by_cases h : c = d
  · subst h
    simp
  · rw [beq_eq_false_iff_ne.2 h, ← Bool.decide_and, decide_eq_false_iff_not]
    rintro ⟨h₁, h₂⟩
    exact h (Char.le_antisymm h₁ h₂)

/-- A union of several sets has what is in one of them. -/
theorem contains_unionAll {sets : List Spans} {c : Char} :
    (unionAll sets).contains c = sets.any (·.contains c) := by
  induction sets with
  | nil => rfl
  | cons s sets ih => rw [unionAll, List.foldr_cons, ← unionAll, contains_union, ih, List.any_cons]

/-- The characters of several ranges are those of one of them. -/
theorem contains_ofRanges {ranges : List (Char × Char)} {c : Char} :
    (ofRanges ranges).contains c = ranges.any fun r ↦ r.1 ≤ c && c ≤ r.2 := by
  rw [ofRanges, contains_unionAll, List.any_map]
  congr 1
  funext r
  exact contains_range

end Spans

end ModalLexer.Unicode
