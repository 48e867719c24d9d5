import Mathlib.Data.Nat.Bitwise

/-!
# Register words as natural numbers

The LTDC registers are `uint32_t` words that the driver reads and writes through
masks and shifts. The model keeps them as natural numbers and the C operators as
`&&&`, `|||`, `<<<`, `>>>`; the complement `~m` of a `uint32_t` mask is
`compl32 m`.

Two kinds of facts are proved once here and used by every register field. A
contiguous mask `(2^w - 1) <<< p` selects the field `x / 2^p % 2^w` in place
(`and_field_mask`), and disjoint fields combine by addition (`or_shiftLeft_eq_add`),
so a packed register read back becomes an `omega` goal. A single-bit flag is a
`testBit` (`and_two_pow_ne_zero`), and a read-modify-write leaves every bit
outside its mask as it was (`testBit_rmw`).
-/

namespace Ltdc

/-- `~m` on a `uint32_t`. -/
def compl32 (m : Nat) : Nat := 0xFFFFFFFF ^^^ m

/-- `x - c` on a `uint32_t` `x`, which wraps below zero. -/
def subU32 (x c : Nat) : Nat := if c ≤ x then x - c else x + 2 ^ 32 - c

/-- On a `uint32_t`, `subU32` is subtraction modulo `2^32`. -/
theorem subU32_eq_mod {x c : Nat} (hx : x < 2 ^ 32) (hc : c ≤ 2 ^ 32) :
    subU32 x c = (x + 2 ^ 32 - c) % 2 ^ 32 := by
  unfold subU32
  split <;> omega

theorem testBit_compl32 {m : Nat} (hm : m < 2 ^ 32) (i : Nat) :
    (compl32 m).testBit i = (decide (i < 32) && !m.testBit i) := by
  rw [compl32, show (0xFFFFFFFF : Nat) = 2 ^ 32 - 1 from rfl, Nat.testBit_xor,
    Nat.testBit_two_pow_sub_one]
  by_cases hi : i < 32
  · simp [hi]
  · have hm' : m < 2 ^ i := lt_of_lt_of_le hm (Nat.pow_le_pow_right (by decide) (by omega))
    simp [hi, Nat.testBit_lt_two_pow hm']

/-- A contiguous mask selects its field in place. -/
theorem and_field_mask (x w p : Nat) :
    x &&& ((2 ^ w - 1) <<< p) = x / 2 ^ p % 2 ^ w * 2 ^ p := by
  apply Nat.eq_of_testBit_eq
  intro i
  rw [Nat.mul_comm, Nat.testBit_mul_pow_two, Nat.testBit_and, Nat.testBit_shiftLeft,
    Nat.testBit_two_pow_sub_one, Nat.testBit_mod_two_pow, ← Nat.shiftRight_eq_div_pow,
    Nat.testBit_shiftRight]
  by_cases hi : p ≤ i
  · simp [hi, Nat.add_sub_cancel' hi, Bool.and_comm]
  · simp [hi]

/-- A low mask keeps the low bits. -/
theorem and_low_mask (x w : Nat) : x &&& (2 ^ w - 1) = x % 2 ^ w :=
  Nat.and_pow_two_sub_one_eq_mod x w

/-- Disjoint fields combine by addition. -/
theorem or_shiftLeft_eq_add {a : Nat} (b p : Nat) (h : a < 2 ^ p) :
    a ||| b <<< p = a + b * 2 ^ p := by
  rw [Nat.or_comm, Nat.shiftLeft_eq, Nat.mul_comm, ← Nat.mul_add_lt_is_or h, Nat.add_comm]

/-- A single-bit flag is set exactly when its bit is. -/
theorem and_two_pow_ne_zero (x k : Nat) : x &&& 2 ^ k ≠ 0 ↔ x.testBit k = true := by
  constructor
  · intro h
    by_contra hb
    apply h
    apply Nat.eq_of_testBit_eq
    intro i
    by_cases hi : k = i
    · subst hi; simpa using hb
    · simp [Nat.testBit_two_pow, hi]
  · intro h h0
    simpa [Nat.testBit_two_pow, h] using congrArg (Nat.testBit · k) h0

/-- The read-modify-write `(r & ~m) | (v & m)` of a field setter: the bits of mask `m`
from `v`, the others from the register `r`. -/
def rmw (r m v : Nat) : Nat := (r &&& compl32 m) ||| (v &&& m)

/-- A read-modify-write takes the bits of `m` from `v` and keeps those of `r` outside
`m`, within the word. -/
theorem testBit_rmw {m : Nat} (hm : m < 2 ^ 32) (r v i : Nat) :
    (rmw r m v).testBit i = if m.testBit i then v.testBit i else (decide (i < 32) && r.testBit i) := by
  rw [rmw, Nat.testBit_or, Nat.testBit_and, Nat.testBit_and, testBit_compl32 hm]
  cases m.testBit i <;> simp [Bool.and_comm]

/-- The field a read-modify-write sets reads back as the value written. -/
theorem rmw_and_mask {m : Nat} (hm : m < 2 ^ 32) (r v : Nat) : rmw r m v &&& m = v &&& m := by
  apply Nat.eq_of_testBit_eq
  intro i
  rw [Nat.testBit_and, Nat.testBit_and, testBit_rmw hm]
  cases m.testBit i <;> simp

/-- Outside its field a read-modify-write leaves the register as it was. -/
theorem rmw_and_compl {m : Nat} (hm : m < 2 ^ 32) (r v : Nat) :
    rmw r m v &&& compl32 m = r &&& compl32 m := by
  apply Nat.eq_of_testBit_eq
  intro i
  rw [Nat.testBit_and, Nat.testBit_and, testBit_rmw hm, testBit_compl32 hm]
  cases m.testBit i <;> simp [Bool.and_comm]

/-- An `|` is zero exactly when both sides are. -/
theorem lor_eq_zero_iff (x y : Nat) : x ||| y = 0 ↔ x = 0 ∧ y = 0 := by
  refine ⟨fun h => ?_, fun h => by rw [h.1, h.2]; rfl⟩
  have hb : ∀ i, x.testBit i = false ∧ y.testBit i = false := fun i => by
    simpa [Nat.testBit_or] using congrArg (Nat.testBit · i) h
  exact ⟨Nat.eq_of_testBit_eq fun i => by simp [(hb i).1],
    Nat.eq_of_testBit_eq fun i => by simp [(hb i).2]⟩

/-- Clearing bits that are already clear changes nothing, within the word. -/
theorem and_compl32_of_and_eq_zero {x m : Nat} (hm : m < 2 ^ 32) (hx : x < 2 ^ 32)
    (h : x &&& m = 0) : x &&& compl32 m = x := by
  apply Nat.eq_of_testBit_eq
  intro i
  have := congrArg (Nat.testBit · i) h
  simp only [Nat.testBit_and, Nat.zero_testBit, testBit_compl32 hm] at this ⊢
  rcases Nat.lt_or_ge i 32 with hi | hi
  · cases hxi : x.testBit i <;> simp_all
  · simp [Nat.testBit_lt_two_pow (lt_of_lt_of_le hx (Nat.pow_le_pow_right (by decide) hi))]

/-- The bits just set are set. -/
theorem lor_and_self (a b : Nat) : (a ||| b) &&& b = b :=
  Nat.eq_of_testBit_eq fun i => by
    simp only [Nat.testBit_and, Nat.testBit_or]
    cases b.testBit i <;> simp

/-! ## Lanes

The software colour conversions move colour channels between lanes of a word:
`(c & m) << s` writes a lane, `(o & M) >> s` reads one, and a lane written only
when it is non-zero may carry a filler below it. Reading lane `M` back from an
`|||` of lanes distributes over the `|||`; each part is then the lane itself, when
it lies inside `M`, or zero, when it lies outside. Whether a literal mask lies
inside or outside another is a closed fact that `decide` settles, so these lemmas
take it as a hypothesis for `simp (disch := decide)`. -/

theorem shiftLeft_and_distrib (x y s : Nat) : (x &&& y) <<< s = (x <<< s) &&& (y <<< s) := by
  apply Nat.eq_of_testBit_eq
  intro i
  simp only [Nat.testBit_shiftLeft, Nat.testBit_and]
  cases decide (i ≥ s) <;> simp

theorem shiftLeft_or_distrib (x y s : Nat) : (x ||| y) <<< s = (x <<< s) ||| (y <<< s) := by
  apply Nat.eq_of_testBit_eq
  intro i
  simp only [Nat.testBit_shiftLeft, Nat.testBit_or]
  cases decide (i ≥ s) <;> simp

theorem shiftRight_or_distrib (x y s : Nat) : (x ||| y) >>> s = (x >>> s) ||| (y >>> s) := by
  apply Nat.eq_of_testBit_eq
  intro i
  simp only [Nat.testBit_shiftRight, Nat.testBit_or]

/-- A lane read down by `s` and written back up by `s` is the lane itself, when the
mask has no bit below `s`. -/
theorem and_shiftRight_shiftLeft {x M s : Nat} (h : M >>> s <<< s = M) :
    (x &&& M) >>> s <<< s = x &&& M := by
  apply Nat.eq_of_testBit_eq
  intro i
  have hb := congrArg (Nat.testBit · i) h
  simp only [Nat.testBit_shiftLeft, Nat.testBit_shiftRight, Nat.testBit_and] at hb ⊢
  by_cases hi : s ≤ i
  · simp [hi, Nat.add_sub_cancel' hi]
  · simp only [hi, ge_iff_le, decide_False, Bool.false_and] at hb ⊢
    rw [← hb, Bool.and_false]

/-- Such a lane read down is zero exactly when the lane is. -/
theorem and_shiftRight_eq_zero {x M s : Nat} (h : M >>> s <<< s = M) :
    (x &&& M) >>> s = 0 ↔ x &&& M = 0 :=
  ⟨fun h0 => by rw [← and_shiftRight_shiftLeft h, h0, Nat.zero_shiftLeft],
    fun h0 => by rw [h0, Nat.zero_shiftRight]⟩

theorem shiftRight_and (x s M : Nat) : (x >>> s) &&& M = (x &&& (M <<< s)) >>> s := by
  apply Nat.eq_of_testBit_eq
  intro i
  simp [Nat.testBit_shiftRight, Nat.testBit_and, Nat.testBit_shiftLeft]

theorem ite_or (p : Prop) [Decidable p] (o k : Nat) :
    (if p then o ||| k else o) = o ||| (if p then k else 0) := by
  split <;> simp

/-- A lane written only when it is non-zero: its filler stays under the guard. -/
theorem ite_lane (x f s : Nat) :
    (if x ≠ 0 then (x <<< s) ||| f else 0) = (x <<< s) ||| (if x ≠ 0 then f else 0) := by
  by_cases h : x = 0 <;> simp [h]

theorem ite_lane_self (x s : Nat) : (if x ≠ 0 then x <<< s else 0) = x <<< s := by
  by_cases h : x = 0 <;> simp [h]

theorem ite_shiftRight (p : Prop) [Decidable p] (a b s : Nat) :
    (if p then a else b) >>> s = if p then a >>> s else b >>> s := by
  split <;> rfl

/-- A one-bit lane copied from a one-bit test. -/
theorem ite_and_two_pow (x k : Nat) : (if x &&& 2 ^ k ≠ 0 then 2 ^ k else 0) = x &&& 2 ^ k := by
  by_cases h : x.testBit k = true
  · rw [if_pos ((and_two_pow_ne_zero x k).mpr h)]
    apply Nat.eq_of_testBit_eq
    intro i
    by_cases hi : k = i
    · subst hi; simp [h]
    · simp [Nat.testBit_two_pow, hi]
  · have h0 : x &&& 2 ^ k = 0 := by
      by_contra h0
      exact h ((and_two_pow_ne_zero x k).mp h0)
    simp [h0]

theorem ite_zero_and (p : Prop) [Decidable p] (f M : Nat) :
    (if p then f else 0) &&& M = if p then f &&& M else 0 := by
  split <;> simp

theorem and_shl_eq_zero {x m s M : Nat} (h : (m <<< s) &&& M = 0) :
    ((x &&& m) <<< s) &&& M = 0 := by
  rw [shiftLeft_and_distrib, Nat.and_assoc, h, Nat.and_zero]

theorem and_shl_of_sub {x m s M : Nat} (h : (m <<< s) &&& M = m <<< s) :
    ((x &&& m) <<< s) &&& M = (x &&& m) <<< s := by
  rw [shiftLeft_and_distrib, Nat.and_assoc, h]

theorem and_and_eq_zero {x m M : Nat} (h : m &&& M = 0) : (x &&& m) &&& M = 0 := by
  rw [Nat.and_assoc, h, Nat.and_zero]

theorem and_and_of_sub {x m M : Nat} (h : m &&& M = m) : (x &&& m) &&& M = x &&& m := by
  rw [Nat.and_assoc, h]

/-- Two words share no bit when their exclusive or is their or. -/
theorem and_eq_zero_of_xor_eq_lor {a m : Nat} (h : a ^^^ m = a ||| m) : a &&& m = 0 := by
  apply Nat.eq_of_testBit_eq
  intro i
  have hi := congrArg (·.testBit i) h
  simp only [Nat.testBit_xor, Nat.testBit_or, Nat.testBit_and, Nat.zero_testBit] at hi ⊢
  revert hi
  cases a.testBit i <;> cases m.testBit i <;> decide

/-- A mask lies inside a word when ORing it in changes nothing. -/
theorem and_eq_right_of_lor_eq {a m : Nat} (h : a ||| m = a) : a &&& m = m := by
  apply Nat.eq_of_testBit_eq
  intro i
  have hi := congrArg (·.testBit i) h
  simp only [Nat.testBit_or, Nat.testBit_and] at hi ⊢
  revert hi
  cases a.testBit i <;> cases m.testBit i <;> decide

/-- ORing in bits outside a mask leaves the masked value alone. -/
theorem lor_and_of_and_eq_zero (x : Nat) {a m : Nat} (h : a &&& m = 0) : (x ||| a) &&& m = x &&& m := by
  rw [Nat.and_distrib_right, h, Nat.or_zero]

/-- ORing in bits inside a mask ORs them into the masked value. -/
theorem lor_and_of_and_eq_self (x : Nat) {a m : Nat} (h : a &&& m = a) :
    (x ||| a) &&& m = (x &&& m) ||| a := by
  rw [Nat.and_distrib_right, h]

/-- Masking with a superset of a mask's bits after the mask changes nothing. -/
theorem and_and_of_and_eq_right (x : Nat) {a m : Nat} (h : a &&& m = m) : (x &&& a) &&& m = x &&& m := by
  rw [Nat.land_assoc, h]

end Ltdc
