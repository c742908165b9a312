import Mathlib.Algebra.Group.Nat.Defs
import PathAccess.Mask

/-!
# The order of masks

Masks are ordered by inclusion: `a.covers b` says that every position of `b` is one of `a`.  The key facts: inclusion
is a partial order, a union is its least upper bound (`covers_or`, `covers_unions`), and two masks meet in some
position of theirs, so that a larger mask meets no fewer (`meets_of_covers`).  Among the numbers the order is the
usual one only where a mask has all positions up to some bound (`covers_first_iff`).
-/

namespace PathAccess.Mask

theorem covers_refl (a : Mask) : a.covers a = true := by
  rw [covers_iff]
  exact fun _ h => h

theorem covers_trans {a b c : Mask} (hab : a.covers b = true) (hbc : b.covers c = true) : a.covers c = true := by
  rw [covers_iff] at *
  exact fun k hk => hab k (hbc k hk)

theorem covers_antisymm {a b : Mask} (hab : a.covers b = true) (hba : b.covers a = true) : a = b := by
  rw [covers_iff] at hab hba
  apply ext_testBit
  intro k
  rw [Bool.eq_iff_iff]
  exact ⟨hba k, hab k⟩

@[simp] theorem covers_zero (a : Mask) : a.covers 0 = true := by
  simp [covers_iff]

theorem eq_zero_of_zero_covers {a : Mask} (h : (0 : Mask).covers a = true) : a = 0 :=
  covers_antisymm (covers_zero a) h

/-- A union is contained in a mask if both parts are. -/
theorem covers_or {a b c : Mask} : a.covers (b ||| c) = true ↔ a.covers b = true ∧ a.covers c = true := by
  simp only [covers_iff, testBit_or, Bool.or_eq_true]
  constructor
  · intro h
    exact ⟨fun k hk => h k (Or.inl hk), fun k hk => h k (Or.inr hk)⟩
  · rintro ⟨hb, hc⟩ k (hk | hk)
    · exact hb k hk
    · exact hc k hk

theorem or_covers_left (a b : Mask) : (a ||| b).covers a = true := (covers_or.1 (covers_refl (a ||| b))).1

theorem or_covers_right (a b : Mask) : (a ||| b).covers b = true := (covers_or.1 (covers_refl (a ||| b))).2

theorem or_zero (a : Mask) : a ||| 0 = a := ext_testBit fun k => by simp

theorem or_ne_zero_right (a : Mask) {b : Mask} (h : b ≠ 0) : a ||| b ≠ 0 := by
  intro hz
  have hcov := or_covers_right a b
  rw [hz] at hcov
  exact h (eq_zero_of_zero_covers hcov)

theorem covers_and_left (a b : Mask) : a.covers (a &&& b) = true := by
  rw [covers_iff]
  intro k hk
  rw [testBit_and, Bool.and_eq_true] at hk
  exact hk.1

theorem bit_eq (position : Nat) : bit position = ⟨(2 ^ position : Nat)⟩ := rfl

theorem bit_ne_zero (position : Nat) : bit position ≠ 0 := by
  intro h
  have hv : ((2 ^ position : Nat) : Int) = 0 := congrArg value h
  have := Nat.two_pow_pos position
  omega

theorem and_eq_left_of_covers {a b : Mask} (h : b.covers a = true) : a &&& b = a := by
  rw [covers_iff] at h
  apply ext_testBit
  intro k
  rw [testBit_and]
  cases hk : a.testBit k with
  | false => rfl
  | true => exact h k hk

/-- A part of a finite mask is no larger a number. -/
theorem value_of_covers {a b : Mask} (ha : 0 ≤ a.value) (h : a.covers b = true) : 0 ≤ b.value ∧ b.value ≤ a.value := by
  have hand := and_eq_left_of_covers h
  obtain ⟨a⟩ := a
  obtain ⟨b⟩ := b
  obtain ⟨m, rfl⟩ := Int.eq_ofNat_of_zero_le ha
  cases b with
  | ofNat n =>
    have hand : n &&& m = n := Int.ofNat.inj (Mask.mk.inj hand)
    have hle : n &&& m ≤ m := Nat.and_le_right
    exact ⟨Int.natCast_nonneg n, Int.ofNat_le.2 (hand ▸ hle)⟩
  | negSucc n => exact Int.noConfusion (Mask.mk.inj hand)

/-! ### Single positions -/

@[simp] theorem testBit_bit (position k : Nat) : (bit position).testBit k = decide (position = k) :=
  Nat.testBit_two_pow

theorem bit_injective : Function.Injective bit := by
  intro i j h
  have hj : (bit j).testBit i = true := by simp [← h]
  exact (of_decide_eq_true (testBit_bit j i ▸ hj)).symm

theorem meets_bit {m : Mask} {position : Nat} : m.meets (bit position) = m.testBit position := by
  rw [Bool.eq_iff_iff, meets_iff]
  simp

theorem isSingle_iff {m : Mask} : m.isSingle = true ↔ ∃ position, m = bit position := by
  obtain ⟨v⟩ := m
  cases v with
  | ofNat n =>
    simp only [isSingle, Bool.and_eq_true, bne_iff_ne, beq_iff_eq, bit_eq, Mask.mk.injEq]
    rw [Nat.ne_zero_and_sub_one_eq_zero_iff_isPowerOfTwo]
    exact exists_congr fun k => (Int.ofNat_inj (m := n) (n := 2 ^ k)).symm
  | negSucc n =>
    have hne : ∀ k, Int.negSucc n ≠ (2 ^ k : Nat) := fun _ => Int.noConfusion
    simpa only [isSingle, bit_eq, Mask.mk.injEq, Bool.false_eq_true, false_iff, not_exists] using hne

/-- The mask of the first `n` positions contains exactly the numbers below `2 ^ n`. -/
theorem covers_first_iff {n : Nat} {m : Mask} :
    (⟨(2 ^ n - 1 : Nat)⟩ : Mask).covers m = true ↔ 0 ≤ m.value ∧ m.value < (2 ^ n : Nat) := by
  have hfirst : ∀ k, (⟨(2 ^ n - 1 : Nat)⟩ : Mask).testBit k = decide (k < n) :=
    fun k => Nat.testBit_two_pow_sub_one n k
  obtain ⟨v⟩ := m
  simp only [covers_iff, hfirst, decide_eq_true_eq]
  cases v with
  | ofNat v =>
    have hlt : v < 2 ^ n ↔ ∀ k, v.testBit k = true → k < n := by
      constructor
      · intro hv k hk
        apply Nat.lt_of_not_le
        intro hn
        rw [Nat.testBit_lt_two_pow (Nat.lt_of_lt_of_le hv (Nat.pow_le_pow_right (by omega) hn))] at hk
        simp at hk
      · intro h
        apply Nat.lt_pow_two_of_testBit
        intro k hk
        rw [Bool.eq_false_iff]
        intro hb
        have := h k hb
        omega
    have hcast : Int.ofNat v < (2 ^ n : Nat) ↔ v < 2 ^ n := Int.ofNat_lt
    rw [hcast, hlt]
    simp [testBit]
  | negSucc v =>
    -- a complement has positions beyond every bound
    constructor
    · intro h
      have hbit : (⟨Int.negSucc v⟩ : Mask).testBit (max n v) = true := by
        have hv : v < 2 ^ max n v :=
          Nat.lt_of_lt_of_le Nat.lt_two_pow_self (Nat.pow_le_pow_right (by omega) (Nat.le_max_right n v))
        simp [testBit, Nat.testBit_lt_two_pow hv]
      have := h _ hbit
      omega
    · rintro ⟨h, -⟩
      simp at h

/-! ### Unions of lists -/

private theorem testBit_foldl_or (ms : List Mask) (a : Mask) (k : Nat) :
    (ms.foldl (· ||| ·) a).testBit k = true ↔ a.testBit k = true ∨ ∃ m ∈ ms, m.testBit k = true := by
  induction ms generalizing a with
  | nil => simp
  | cons m ms ih => simp [ih, or_assoc]

theorem testBit_unions {ms : List Mask} {k : Nat} :
    (unions ms).testBit k = true ↔ ∃ m ∈ ms, m.testBit k = true := by
  simp [unions, testBit_foldl_or]

/-- The union of a list is contained in a mask if all its members are. -/
theorem covers_unions {a : Mask} {ms : List Mask} :
    a.covers (unions ms) = true ↔ ∀ m ∈ ms, a.covers m = true := by
  simp only [covers_iff, testBit_unions]
  constructor
  · intro h m hm k hk
    exact h k ⟨m, hm, hk⟩
  · rintro h k ⟨m, hm, hk⟩
    exact h m hm k hk

theorem unions_covers {m : Mask} {ms : List Mask} (hm : m ∈ ms) : (unions ms).covers m = true :=
  covers_unions.1 (covers_refl _) m hm

theorem unions_eq_zero_iff {ms : List Mask} : unions ms = 0 ↔ ∀ m ∈ ms, m = 0 := by
  have hzero : ∀ m : Mask, (0 : Mask).covers m = true ↔ m = 0 := by
    intro m
    constructor
    · exact eq_zero_of_zero_covers
    · rintro rfl
      exact covers_zero 0
  rw [← hzero, covers_unions]
  exact forall₂_congr fun m _ => hzero m

theorem value_or_nonneg {a b : Mask} (ha : 0 ≤ a.value) (hb : 0 ≤ b.value) : 0 ≤ (a ||| b).value := by
  obtain ⟨a⟩ := a
  obtain ⟨b⟩ := b
  obtain ⟨x, rfl⟩ := Int.eq_ofNat_of_zero_le ha
  obtain ⟨y, rfl⟩ := Int.eq_ofNat_of_zero_le hb
  exact Int.natCast_nonneg (x ||| y)

theorem value_unions_nonneg {ms : List Mask} (h : ∀ m ∈ ms, 0 ≤ m.value) : 0 ≤ (unions ms).value := by
  have hfold : ∀ a : Mask, 0 ≤ a.value → 0 ≤ (ms.foldl (· ||| ·) a).value := by
    induction ms with
    | nil => exact fun _ ha => ha
    | cons m ms ih =>
      rw [List.forall_mem_cons] at h
      intro a ha
      exact ih h.2 _ (value_or_nonneg ha h.1)
  exact hfold 0 (Int.le_refl 0)

/-! ### Masks that meet -/

/-- A mask meets what a part of it meets. -/
theorem meets_of_covers {a b c : Mask} (hab : a.covers b = true) (hbc : b.meets c = true) : a.meets c = true := by
  rw [covers_iff] at hab
  rw [meets_iff] at *
  obtain ⟨k, hb, hc⟩ := hbc
  exact ⟨k, hab k hb, hc⟩

theorem meets_comm (a b : Mask) : a.meets b = b.meets a := by
  rw [Bool.eq_iff_iff, meets_iff, meets_iff]
  simp only [and_comm]

theorem or_meets {a b c : Mask} : (a ||| b).meets c = true ↔ a.meets c = true ∨ b.meets c = true := by
  simp only [meets_iff, testBit_or, Bool.or_eq_true, or_and_right, exists_or]

theorem and_eq_zero_iff {a b : Mask} : a &&& b = 0 ↔ a.meets b = false := by
  simp [meets]

theorem meets_unions {ms : List Mask} {b : Mask} : (unions ms).meets b = true ↔ ∃ m ∈ ms, m.meets b = true := by
  simp only [meets_iff, testBit_unions]
  constructor
  · rintro ⟨k, ⟨m, hm, hk⟩, hb⟩
    exact ⟨m, hm, k, hk, hb⟩
  · rintro ⟨m, hm, k, hk, hb⟩
    exact ⟨k, ⟨m, hm, hk⟩, hb⟩

end PathAccess.Mask
