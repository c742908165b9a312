import PathAccess.Proofs.Permission.WellFormed

/-!
# Faults of reading

A text that is no permission is rejected by a rule of the library, with one exception.  Digits in the place of a
privilege are taken for a number before it is known that they are one; where they are none, or where the refusal would
have to state a number that is too long to be written, the fault is no rejection
(`Permission.parseText_eq_notANumber_iff`).
-/

namespace PathAccess

namespace Scheme

variable {c : Scheme} {token : String} {e : Fault}

/-- A token of digits that is neither a privilege nor an alias and cannot be judged as a number. -/
structure IsFalseNumeral (c : Scheme) (token : String) : Prop where
  not_privilege : c.bitFor token = none
  not_alias : c.aliasMask token = none
  isDigitRun : Text.isDigitRun token = true
  /-- No decimal number of a length that is read, or one out of a range that is too long to be stated. -/
  not_judged : ∀ n, Decimal.bounded? token.toList = some n →
    ¬ ((1 : Int) ≤ n ∧ n ≤ c.fullMask.value) ∧ ¬ (Decimal.isWritable n ∧ Decimal.isWritable c.fullMask.value)

theorem checkRange_eq_error {m : Mask} (h : c.checkRange m = .error e) : e.isRejection = true ∨ e = .notANumber := by
  unfold checkRange at h
  split at h
  · simp at h
  split at h
  · rw [← Except.error.inj h]
    exact Or.inl rfl
  · exact Or.inr (Except.error.inj h).symm

theorem checkRange_eq_notANumber_iff {m : Mask} :
    c.checkRange m = .error .notANumber ↔
      ¬ (1 ≤ m.value ∧ m.value ≤ c.fullMask.value) ∧
        ¬ (Decimal.isWritable m.value ∧ Decimal.isWritable c.fullMask.value) := by
  unfold checkRange
  split
  · rename_i hrange
    simp [hrange]
  split
  · rename_i hwritable
    rw [Bool.and_eq_true] at hwritable
    simp [hwritable]
  · rename_i hrange hwritable
    simpa [hrange] using hwritable

theorem isRejection_of_readIdentifiers {is : List Char} {mask : Mask} (h : c.readIdentifiers is mask = .error e) :
    e.isRejection = true := by
  induction is generalizing mask with
  | nil => simp [readIdentifiers] at h
  | cons i is ih =>
    rw [readIdentifiers] at h
    split at h
    · exact ih h
    · rw [← Except.error.inj h]
      rfl

theorem readToken_of_isFalseNumeral (h : c.IsFalseNumeral token) : c.readToken token = .error .notANumber := by
  unfold readToken
  rw [h.not_privilege, h.not_alias]
  dsimp only
  rw [if_pos h.isDigitRun]
  cases hn : Decimal.bounded? token.toList with
  | none => rfl
  | some n => exact checkRange_eq_notANumber_iff.2 (h.not_judged n hn)

/-- What is no privilege is rejected, unless it is a false numeral. -/
theorem readToken_eq_error (h : c.readToken token = .error e) :
    e.isRejection = true ∨ e = .notANumber ∧ c.IsFalseNumeral token := by
  unfold readToken at h
  split at h
  · simp at h
  · simp at h
  rename_i hbit halias
  -- digits that are a number are judged by the range of masks, and others not at all
  split at h
  · rename_i hdigits
    split at h
    · rename_i n hn
      rcases checkRange_eq_error h with hr | rfl
      · exact Or.inl hr
      · refine Or.inr ⟨rfl, hbit, halias, hdigits, fun n' hn' => ?_⟩
        obtain rfl := Option.some.inj (hn.symm.trans hn')
        exact checkRange_eq_notANumber_iff.1 h
    · rename_i hn
      refine Or.inr ⟨(Except.error.inj h).symm, hbit, halias, hdigits, fun n' hn' => ?_⟩
      rw [hn] at hn'
      simp at hn'
  · split at h
    · exact Or.inl (isRejection_of_readIdentifiers h)
    · rw [← Except.error.inj h]
      exact Or.inl rfl

/-- A false numeral is met before any other fault. -/
def MeetsFalseNumeral (c : Scheme) : List String → Prop
  | [] => False
  | t :: ts => c.IsFalseNumeral t ∨ (∃ mask, c.readToken t = .ok mask) ∧ c.MeetsFalseNumeral ts

theorem readTokens_eq_error {ts : List String} {mask : Mask} (h : c.readTokens ts mask = .error e) :
    e.isRejection = true ∨ e = .notANumber ∧ c.MeetsFalseNumeral ts := by
  induction ts generalizing mask with
  | nil => simp [readTokens] at h
  | cons t ts ih =>
    unfold readTokens at h
    split at h
    · rename_i m hm
      exact (ih h).imp_right fun hts => ⟨hts.1, Or.inr ⟨⟨m, hm⟩, hts.2⟩⟩
    · rename_i hm
      obtain rfl := Except.error.inj h
      exact (readToken_eq_error hm).imp_right fun ht => ⟨ht.1, Or.inl ht.2⟩

theorem readTokens_of_meetsFalseNumeral {ts : List String} (h : c.MeetsFalseNumeral ts) (mask : Mask) :
    c.readTokens ts mask = .error .notANumber := by
  induction ts generalizing mask with
  | nil => exact h.elim
  | cons t ts ih =>
    rcases h with ht | ⟨⟨m, hm⟩, hts⟩
    · rw [readTokens, readToken_of_isFalseNumeral ht]
    · rw [readTokens, hm]
      exact ih hts _

/-- A list of texts is rejected, unless a false numeral is met. -/
theorem readTexts_eq_error {texts : List String} (h : c.readTexts texts = .error e) :
    e.isRejection = true ∨ e = .notANumber ∧ c.MeetsFalseNumeral (tokens texts) := by
  unfold readTexts at h
  split at h
  · rw [← Except.error.inj h]
    exact Or.inl rfl
  · split at h
    · simp at h
    · rename_i hread
      obtain rfl := Except.error.inj h
      exact readTokens_eq_error hread

theorem readTexts_of_meetsFalseNumeral {texts : List String} (h : c.MeetsFalseNumeral (tokens texts)) :
    c.readTexts texts = .error .notANumber := by
  unfold readTexts
  split
  · rename_i hnone
    rw [hnone] at h
    exact h.elim
  · rw [readTokens_of_meetsFalseNumeral h]

theorem readTexts_eq_notANumber_iff {texts : List String} :
    c.readTexts texts = .error .notANumber ↔ c.MeetsFalseNumeral (tokens texts) := by
  refine ⟨fun h => ?_, readTexts_of_meetsFalseNumeral⟩
  rcases readTexts_eq_error h with hr | hn
  · exact absurd hr (by simp [Fault.isRejection])
  · exact hn.2

end Scheme

namespace Attributes

theorem isRejection_of_readPieces {pieces : List String} {m : Attributes} {e : Fault}
    (h : readPieces pieces m = .error e) : e.isRejection = true := by
  induction pieces generalizing m with
  | nil => simp [readPieces] at h
  | cons piece pieces ih =>
    unfold readPieces at h
    split at h
    · exact ih h
    · rename_i hpiece
      obtain rfl := Except.error.inj h
      unfold readPiece at hpiece
      split at hpiece
      · split at hpiece
        · rw [← Except.error.inj hpiece]
          rfl
        · simp at hpiece
      · rw [← Except.error.inj hpiece]
        rfl

end Attributes

namespace Permission

variable {c : Scheme} {text : String} {e : Fault}

theorem isRejection_of_readTarget {target : String} (h : readTarget target = .error e) : e.isRejection = true := by
  unfold readTarget at h
  split at h
  · rename_i query _
    cases hq : Attributes.parse query with
    | error e' =>
      rw [hq] at h
      obtain rfl := Except.error.inj h
      exact Attributes.isRejection_of_readPieces hq
    | ok m =>
      rw [hq] at h
      simp [Except.map] at h
  · simp at h

/-- Among the privileges of a text a false numeral is met before any other fault. -/
def HasFalseNumeral (c : Scheme) (text : String) : Prop :=
  ∃ target privileges, Text.cutLast ':' text = some (target, privileges) ∧
    c.MeetsFalseNumeral (Scheme.tokens [privileges])

theorem parseText_of_hasFalseNumeral (h : HasFalseNumeral c text) : parseText c text = .error .notANumber := by
  -- the privileges are read before the target
  obtain ⟨target, privileges, hcut, hmeets⟩ := h
  rw [parseText_eq, hcut]
  simp only [Scheme.readTexts_of_meetsFalseNumeral hmeets]

/-- What is no permission is rejected, unless it has a false numeral. -/
theorem parseText_eq_error (h : parseText c text = .error e) :
    e.isRejection = true ∨ e = .notANumber ∧ HasFalseNumeral c text := by
  rw [parseText_eq] at h
  split at h
  · rw [← Except.error.inj h]
    exact Or.inl rfl
  rename_i target privileges hcut
  split at h
  · rename_i hread
    obtain rfl := Except.error.inj h
    exact (Scheme.readTexts_eq_error hread).imp_right fun hn => ⟨hn.1, _, _, hcut, hn.2⟩
  · rename_i htarget
    obtain rfl := Except.error.inj h
    exact Or.inl (isRejection_of_readTarget htarget)
  · split at h
    · rw [← Except.error.inj h]
      exact Or.inl rfl
    split at h
    · rw [← Except.error.inj h]
      exact Or.inl rfl
    · simp at h

theorem parseText_eq_notANumber_iff : parseText c text = .error .notANumber ↔ HasFalseNumeral c text := by
  refine ⟨fun h => ?_, parseText_of_hasFalseNumeral⟩
  rcases parseText_eq_error h with hr | hn
  · exact absurd hr (by simp [Fault.isRejection])
  · exact hn.2

end Permission

end PathAccess
