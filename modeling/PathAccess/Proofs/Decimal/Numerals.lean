import Mathlib.Algebra.Group.Nat.Defs
import PathAccess.Decimal.Reading

/-!
# Numerals that are read back

The written form of a natural number is a run of ASCII digits (`Decimal.isDigit_of_mem_toString`).  It is read back as the
number, if it is not too long to be read (`Decimal.bounded?_toString`), and then the number is not too large to be
written (`Decimal.isWritable_iff`).

A text in the digits of any script is no numeral if it is too long or has a digit that is not decimal
(`Decimal.bounded?_eq_none_iff`).  What is read from it otherwise can be written (`Decimal.isWritable_of_bounded?`).
-/

namespace PathAccess

namespace Text

theorem digitValue?_of_isDigit {i : Char} (h : i.isDigit = true) : digitValue? i = some (i.toNat - 48) := by
  simp only [Char.isDigit, Bool.and_eq_true, decide_eq_true_eq] at h
  have hlow : 48 ≤ i.toNat := h.1
  have hhigh : i.toNat ≤ 57 := h.2
  have hrange : (decide (0x30 ≤ i.toNat) && decide (i.toNat < 0x30 + 10)) = true := by simp; omega
  rw [digitValue?, digitZeros, List.findSome?_cons, if_pos hrange]

theorem isDigitLike_of_isDigit {i : Char} (h : i.isDigit = true) : isDigitLike i = true := by
  simp [isDigitLike, digitValue?_of_isDigit h]

theorem isBlank_of_isDigit {i : Char} (h : i.isDigit = true) : isBlank i = false := by
  simp only [Char.isDigit, Bool.and_eq_true, decide_eq_true_eq] at h
  have hlow : 48 ≤ i.toNat := h.1
  have hhigh : i.toNat ≤ 57 := h.2
  simp only [isBlank, inRanges, blankRanges, List.any_eq_false, List.mem_cons, List.not_mem_nil, or_false]
  rintro r (rfl | rfl | rfl | rfl | rfl | rfl | rfl | rfl | rfl | rfl) <;> simp <;> omega

theorem digitValue?_lt {i : Char} {d : Nat} (h : digitValue? i = some d) : d < 10 := by
  obtain ⟨z, -, hz⟩ := List.exists_of_findSome?_eq_some h
  split at hz
  · rename_i hrange
    simp only [Bool.and_eq_true, decide_eq_true_eq] at hrange
    have hd := Option.some.inj hz
    omega
  · simp at hz

end Text

namespace Decimal

private theorem toList_toString (n : Nat) : (toString n).toList = Nat.toDigits 10 n := by
  rw [Nat.toString_eq_ofList_toDigits, String.toList_ofList]

theorem isDigit_of_mem_toString {n : Nat} {i : Char} (h : i ∈ (toString n).toList) : i.isDigit = true := by
  rw [toList_toString] at h
  exact Nat.isDigit_of_mem_toDigits (by decide) (by decide) h

private theorem foldlM_digits {s : List Char} (h : ∀ i ∈ s, i.isDigit = true) (m : Nat) :
    s.foldlM (fun n i => (Text.digitValue? i).map (n * 10 + ·)) m = some (Nat.ofDigitChars 10 s m) := by
  induction s generalizing m with
  | nil => rfl
  | cons i s ih =>
    rw [List.forall_mem_cons] at h
    have hstep : m * 10 + (i.toNat - 48) = 10 * m + (i.toNat - '0'.toNat) := congrArg (· + _) (Nat.mul_comm m 10)
    rw [List.foldlM_cons, Text.digitValue?_of_isDigit h.1, Option.map_some, hstep]
    exact ih h.2 _

theorem bounded?_toString {n : Nat} (h : (toString n).length ≤ maxDigits) :
    bounded? (toString n).toList = some n := by
  have hdigits : ∀ i ∈ (toString n).toList, i.isDigit = true := fun i => isDigit_of_mem_toString
  have hne : (toString n).toList.isEmpty = false := by simp
  rw [bounded?, String.length_toList, if_pos h, natural?, hne]
  simp only [Bool.false_eq_true, ↓reduceIte]
  rw [foldlM_digits hdigits, toList_toString, Nat.ofDigitChars_toDigits (by decide) (by decide)]

theorem isWritable_iff_lt {n : Nat} : isWritable n = true ↔ n < 10 ^ maxDigits := by
  simp only [isWritable, Int.natAbs_natCast, Nat.pow_eq, decide_eq_true_eq]

theorem isWritable_iff {n : Nat} : isWritable n = true ↔ (toString n).length ≤ maxDigits := by
  have hsize : (Nat.toDigits 10 n).length ≤ maxDigits ↔ n < 10 ^ maxDigits :=
    Nat.length_toDigits_le_iff (by decide) (by decide)
  rw [← String.length_toList, toList_toString, hsize, isWritable_iff_lt]

/-! ### Digits of any script -/

private theorem foldlM_eq_none_iff {s : List Char} {m : Nat} :
    s.foldlM (fun n i => (Text.digitValue? i).map (n * 10 + ·)) m = none ↔ ∃ i ∈ s, Text.digitValue? i = none := by
  induction s generalizing m with
  | nil => simp
  | cons i s ih =>
    rw [List.foldlM_cons]
    cases hi : Text.digitValue? i with
    | none => simp [hi]
    | some d => simp [hi, ih]

/-- Digits that are read on from a number multiply it, and leave it zero only if they are zeros. -/
private theorem foldlM_bounds {s : List Char} {m n : Nat}
    (h : s.foldlM (fun n i => (Text.digitValue? i).map (n * 10 + ·)) m = some n) :
    n < (m + 1) * 10 ^ s.length ∧ (n = 0 ↔ m = 0 ∧ ∀ i ∈ s, Text.digitValue? i = some 0) := by
  induction s generalizing m with
  | nil =>
    obtain rfl : m = n := by simpa using h
    simp
  | cons i s ih =>
    rw [List.foldlM_cons] at h
    cases hi : Text.digitValue? i with
    | none => simp [hi] at h
    | some d =>
      have hd := Text.digitValue?_lt hi
      obtain ⟨hlt, hzero⟩ := ih (by simpa [hi] using h)
      constructor
      · calc n < (m * 10 + d + 1) * 10 ^ s.length := hlt
          _ ≤ ((m + 1) * 10) * 10 ^ s.length := Nat.mul_le_mul_right _ (by omega)
          _ = (m + 1) * 10 ^ (i :: s).length := by rw [List.length_cons, Nat.pow_succ', Nat.mul_assoc]
      · have hfirst : m * 10 + d = 0 ↔ m = 0 ∧ d = 0 := by omega
        rw [hzero, hfirst, List.forall_mem_cons, hi, Option.some.injEq, and_assoc]

theorem bounded?_eq_none_iff {s : List Char} (hne : s ≠ []) :
    bounded? s = none ↔ maxDigits < s.length ∨ ∃ i ∈ s, Text.digitValue? i = none := by
  unfold bounded?
  split
  · rename_i hlen
    have hnot : ¬ maxDigits < s.length := by omega
    simp [natural?, hne, foldlM_eq_none_iff, hnot]
  · rename_i hlen
    simp only [true_iff]
    exact Or.inl (by omega)

private theorem bounds_of_bounded? {s : List Char} {n : Nat} (h : bounded? s = some n) :
    n < 10 ^ maxDigits ∧ (n = 0 ↔ ∀ i ∈ s, Text.digitValue? i = some 0) := by
  unfold bounded? natural? at h
  split at h
  · rename_i hlen
    split at h
    · simp at h
    · obtain ⟨hlt, hzero⟩ := foldlM_bounds h
      have hpow : 10 ^ s.length ≤ 10 ^ maxDigits := Nat.pow_le_pow_right (by decide) hlen
      rw [Nat.zero_add, Nat.one_mul] at hlt
      exact ⟨Nat.lt_of_lt_of_le hlt hpow, by simpa using hzero⟩
  · simp at h

/-- What is read as a number can be written. -/
theorem isWritable_of_bounded? {s : List Char} {n : Nat} (h : bounded? s = some n) : isWritable n = true :=
  isWritable_iff_lt.2 (bounds_of_bounded? h).1

theorem eq_zero_iff_of_bounded? {s : List Char} {n : Nat} (h : bounded? s = some n) :
    n = 0 ↔ ∀ i ∈ s, Text.digitValue? i = some 0 :=
  (bounds_of_bounded? h).2

end Decimal

end PathAccess
