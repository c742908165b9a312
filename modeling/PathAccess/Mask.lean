/-!
# Masks

A mask is a set of bit positions, written as a whole number in two's complement: a natural number is the finite set
of its binary ones, and the negative number `-(n + 1)` is the complement of the set of `n`.  So masks have
unions, intersections and complements without any bound on their size.  The key facts: `testBit` turns the three
operations into Boolean ones (`testBit_and`, `testBit_or`, `testBit_not`), and a mask is determined by its bits
(`Mask.ext_testBit`).
-/

namespace PathAccess

/-- A finite or cofinite set of bit positions. -/
structure Mask where
  /-- The set as a number in two's complement. -/
  value : Int
  deriving DecidableEq

namespace Mask

instance (n : Nat) : OfNat Mask n := ⟨⟨n⟩⟩

instance : Inhabited Mask := ⟨0⟩

/-- The mask of a single position. -/
def bit (position : Nat) : Mask := ⟨Nat.pow 2 position⟩

/-- Whether a position belongs to the set. -/
def testBit (m : Mask) (position : Nat) : Bool :=
  match m.value with
  | .ofNat n => n.testBit position
  | .negSucc n => !n.testBit position

/-- The positions of `m` that are not in `n`. -/
private def natDiff (m n : Nat) : Nat := m ^^^ (m &&& n)

/-- All positions outside the set. -/
def compl (a : Mask) : Mask :=
  match a.value with
  | .ofNat m => ⟨.negSucc m⟩
  | .negSucc m => ⟨.ofNat m⟩

/-- The positions in both sets. -/
def inter (a b : Mask) : Mask :=
  match a.value, b.value with
  | .ofNat m, .ofNat n => ⟨.ofNat (m &&& n)⟩
  | .ofNat m, .negSucc n => ⟨.ofNat (natDiff m n)⟩
  | .negSucc m, .ofNat n => ⟨.ofNat (natDiff n m)⟩
  | .negSucc m, .negSucc n => ⟨.negSucc (m ||| n)⟩

/-- The positions in at least one of the sets. -/
def union (a b : Mask) : Mask :=
  match a.value, b.value with
  | .ofNat m, .ofNat n => ⟨.ofNat (m ||| n)⟩
  | .ofNat m, .negSucc n => ⟨.negSucc (natDiff n m)⟩
  | .negSucc m, .ofNat n => ⟨.negSucc (natDiff m n)⟩
  | .negSucc m, .negSucc n => ⟨.negSucc (m &&& n)⟩

instance : AndOp Mask := ⟨inter⟩
instance : OrOp Mask := ⟨union⟩
instance : Complement Mask := ⟨compl⟩

/-- Whether every position of `b` is one of `a`. -/
def covers (a b : Mask) : Bool := a &&& b == b

/-- Whether some position is in both sets. -/
def meets (a b : Mask) : Bool := a &&& b != 0

/-- Whether exactly one position belongs to the set. -/
def isSingle (m : Mask) : Bool :=
  match m.value with
  | .ofNat n => n != 0 && n &&& (n - 1) == 0
  | .negSucc _ => false

/-- The union of a list of masks. -/
def unions (ms : List Mask) : Mask := ms.foldl (· ||| ·) 0

private theorem testBit_natDiff (m n k : Nat) : (natDiff m n).testBit k = (m.testBit k && !n.testBit k) := by
  simp only [natDiff, Nat.testBit_xor, Nat.testBit_and]
  cases m.testBit k <;> simp

@[simp] theorem testBit_zero (k : Nat) : (0 : Mask).testBit k = false := by
  simp [testBit]

@[simp] theorem testBit_and (a b : Mask) (k : Nat) : (a &&& b).testBit k = (a.testBit k && b.testBit k) := by
  obtain ⟨a⟩ := a
  obtain ⟨b⟩ := b
  change (inter ⟨a⟩ ⟨b⟩).testBit k = _
  cases a <;> cases b <;> simp [inter, testBit, testBit_natDiff, Bool.and_comm]

@[simp] theorem testBit_or (a b : Mask) (k : Nat) : (a ||| b).testBit k = (a.testBit k || b.testBit k) := by
  obtain ⟨a⟩ := a
  obtain ⟨b⟩ := b
  change (union ⟨a⟩ ⟨b⟩).testBit k = _
  cases a <;> cases b <;> simp [union, testBit, testBit_natDiff, Bool.or_comm]

@[simp] theorem testBit_not (a : Mask) (k : Nat) : (~~~a).testBit k = !a.testBit k := by
  obtain ⟨a⟩ := a
  change (compl ⟨a⟩).testBit k = _
  cases a <;> simp [compl, testBit]

private theorem exists_testBit_false (n : Nat) : ∃ k, ∀ j, k ≤ j → n.testBit j = false :=
  ⟨n, fun j hj => Nat.testBit_lt_two_pow (Nat.lt_of_lt_of_le Nat.lt_two_pow_self
    (Nat.pow_le_pow_right (by omega) hj))⟩

/-- A mask is determined by its bits. -/
theorem ext_testBit {a b : Mask} (h : ∀ k, a.testBit k = b.testBit k) : a = b := by
  obtain ⟨a⟩ := a
  obtain ⟨b⟩ := b
  cases a with
  | ofNat m =>
    cases b with
    | ofNat n => rw [Nat.eq_of_testBit_eq (x := m) (y := n) h]
    | negSucc n =>
      obtain ⟨k, hk⟩ := exists_testBit_false m
      obtain ⟨l, hl⟩ := exists_testBit_false n
      have := h (max k l)
      simp [testBit, hk _ (Nat.le_max_left k l), hl _ (Nat.le_max_right k l)] at this
  | negSucc m =>
    cases b with
    | ofNat n =>
      obtain ⟨k, hk⟩ := exists_testBit_false m
      obtain ⟨l, hl⟩ := exists_testBit_false n
      have := h (max k l)
      simp [testBit, hk _ (Nat.le_max_left k l), hl _ (Nat.le_max_right k l)] at this
    | negSucc n =>
      rw [Nat.eq_of_testBit_eq (x := m) (y := n) fun k => by simpa [testBit] using h k]

theorem covers_iff {a b : Mask} : a.covers b = true ↔ ∀ k, b.testBit k = true → a.testBit k = true := by
  simp only [covers, beq_iff_eq]
  constructor
  · intro h k hb
    have := congrArg (testBit · k) h
    simp [hb] at this
    exact this
  · intro h
    apply ext_testBit
    intro k
    rw [testBit_and]
    cases hb : b.testBit k with
    | false => simp
    | true => simp [h k hb]

theorem eq_zero_iff {a : Mask} : a = 0 ↔ ∀ k, a.testBit k = false :=
  ⟨fun h k => by rw [h, testBit_zero], fun h => ext_testBit fun k => by rw [h k, testBit_zero]⟩

theorem meets_iff {a b : Mask} : a.meets b = true ↔ ∃ k, a.testBit k = true ∧ b.testBit k = true := by
  simp only [meets, bne_iff_ne, ne_eq, eq_zero_iff, testBit_and]
  simp

end Mask

end PathAccess
