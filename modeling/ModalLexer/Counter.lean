/-!
# Counters

Lines, columns and the characters still to be skipped are counted in words of 64 bits, and a count
that grows beyond the largest word wraps around. As long as a sum fits into a word, it is the sum.
-/

namespace ModalLexer

/-- A count in a word of 64 bits, which wraps around. -/
abbrev Counter := UInt64

namespace Counter

/-- The greatest count; one more is none. -/
def last : Counter := 18446744073709551615

/-- Whether the sum of two counts is one itself, so that it does not wrap around. -/
def Fits (a b : Counter) : Prop := a.toNat + b.toNat < UInt64.size

instance (a b : Counter) : Decidable (Fits a b) := inferInstanceAs (Decidable (_ < _))

variable {a b : Counter}

/-- A sum that fits is the sum. -/
theorem toNat_add_of_fits (h : Fits a b) : (a + b).toNat = a.toNat + b.toNat := by
  rw [UInt64.toNat_add, Nat.mod_eq_of_lt h]

/-- A sum that fits is not smaller than what is added to. -/
theorem le_add_of_fits {c : Counter} (h : Fits a b) (hc : c ≤ a) : c ≤ a + b := by
  rw [UInt64.le_iff_toNat_le] at hc ⊢
  rw [toNat_add_of_fits h]
  exact Nat.le_add_right_of_le hc

/-- Something added makes a sum that fits greater. -/
theorem lt_add_of_fits (h : Fits a b) (hb : 1 ≤ b) : a < a + b := by
  rw [UInt64.le_iff_toNat_le] at hb
  rw [UInt64.lt_iff_toNat_lt, toNat_add_of_fits h]
  exact Nat.lt_add_of_pos_right hb

/-- The count of so many things that it can still be added is that of all of them. -/
theorem toNat_add_ofNat {n : Nat} (h : a.toNat + n < UInt64.size) :
    (a + .ofNat n).toNat = a.toNat + n := by
  have hn : (UInt64.ofNat n).toNat = n :=
    UInt64.toNat_ofNat_of_lt' (Nat.lt_of_le_of_lt (Nat.le_add_left n _) h)
  rw [UInt64.toNat_add, hn, Nat.mod_eq_of_lt h]

end Counter

end ModalLexer
