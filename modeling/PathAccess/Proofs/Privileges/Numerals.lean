import PathAccess.Proofs.Decimal.Numerals
import PathAccess.Proofs.Privileges.Numbers
import PathAccess.Proofs.Privileges.Tokens
import PathAccess.Proofs.Scheme.Naming

/-!
# A number and its numeral

A mask may be given as a number or as the numeral of it.  Given as a number, its range is checked and nothing else.  Given
as a numeral, it is a token, so that names and aliases come first.

No identifier is a numeral, and in the numeric form no name is.  But a name of the identifier form may be one, and so may
an alias in both forms.  `Scheme.resolve_numeral_iff` says what becomes of a number, and that its numeral has the same
outcome, whatever this is, unless such a name or alias stands for something else.
-/

namespace PathAccess.Scheme

variable {c : Scheme} {n : Nat}

private theorem comma_not_mem_numeral : ',' ∉ (toString n).toList := by
  intro h
  exact absurd (Decimal.isDigit_of_mem_toString h) (by decide)

private theorem trim_numeral : Text.trim (toString n) = toString n :=
  Text.trim_eq_self fun _ hi => Text.isBlank_of_isDigit (Decimal.isDigit_of_mem_toString hi)

private theorem isDigitRun_numeral : Text.isDigitRun (toString n) = true := by
  have hdigits : ∀ i ∈ (toString n).toList, Text.isDigitLike i = true :=
    fun _ hi => Text.isDigitLike_of_isDigit (Decimal.isDigit_of_mem_toString hi)
  simpa [Text.isDigitRun] using hdigits

private theorem readTexts_numeral (c : Scheme) (n : Nat) :
    c.readTexts [toString n] = (c.readToken (toString n)).map fun m => ⟨m, c⟩ := by
  have hread := readTexts_singleton c (comma_not_mem_numeral (n := n))
  rw [trim_numeral] at hread
  exact hread (by simp)

/-- No identifier is a numeral, so that only names are found by one. -/
private theorem IsValidated.answersTo_numeral_iff (hc : c.IsValidated) {p : Privilege} (hp : p ∈ c.privileges) :
    p.answersTo (toString n) = true ↔ p.name = toString n := by
  refine Privilege.answersTo_iff.trans (or_iff_left fun hident => ?_)
  cases hi : c.isIdentified with
  | true =>
    obtain ⟨i, hi, -, hdigit, -⟩ := hc.identified hi hp
    have hrun := isDigitRun_numeral (n := n)
    rw [hi, Option.some.injEq] at hident
    simp [← hident, Text.isDigitRun, hdigit] at hrun
  | false =>
    obtain ⟨hnone, -⟩ := hc.named hi hp
    simp [hnone] at hident

private theorem IsValidated.bitFor_numeral_iff (hc : c.IsValidated) {bit : Mask} :
    c.bitFor (toString n) = some bit ↔ ∃ p ∈ c.privileges, p.name = toString n ∧ p.bit = bit := by
  constructor
  · intro h
    obtain ⟨p, hp, hanswers, hbit⟩ := exists_of_bitFor h
    exact ⟨p, hp, (hc.answersTo_numeral_iff hp).1 hanswers, hbit⟩
  · rintro ⟨p, hp, hname, rfl⟩
    exact hc.coherent.bitFor_eq p hp _ ((hc.answersTo_numeral_iff hp).2 hname)

/-- Known privileges are the outcome of checking a number only if they are that number. -/
private theorem IsValidated.eq_checkRange_iff (hc : c.IsValidated) {m k : Mask} (hm : m ≠ 0)
    (hcov : c.fullMask.covers m = true) : .ok m = c.checkRange k ↔ m = k := by
  rw [eq_comm, checkRange_eq_ok]
  constructor
  · rintro ⟨hmask, -⟩
    exact hmask
  · rintro rfl
    exact ⟨rfl, hc.labelled.range_of_covers hm hcov⟩

/-- A run of digits is read as its number unless it is a name or an alias, and stands for something else. -/
private theorem IsValidated.readToken_digits_iff (hc : c.IsValidated) {token : String}
    (hdigits : Text.isDigitRun token = true) (hvalue : Decimal.bounded? token.toList = some n) :
    c.readToken token = c.checkRange ⟨n⟩ ↔
      (∀ bit, c.bitFor token = some bit → bit = ⟨n⟩) ∧ ∀ mask, c.aliasMask token = some mask → mask = ⟨n⟩ := by
  cases hbit : c.bitFor token with
  | some bit =>
    have hread : c.readToken token = .ok bit := by simp [readToken, hbit]
    have halias : c.aliasMask token = none := by
      rw [Option.eq_none_iff_forall_ne_some]
      intro mask h
      simp [hc.coherent.bitFor_of_aliasMask h] at hbit
    rw [hread, hc.eq_checkRange_iff (hc.wellFormed.bitFor_ne_zero hbit) (covers_of_bitFor hbit)]
    simp [halias]
  | none =>
    cases halias : c.aliasMask token with
    | some mask =>
      have hne := hc.wellFormed.alias_ne_zero _ _ halias
      rw [hc.coherent.readToken_of_aliasMask halias, hc.eq_checkRange_iff hne (hc.knowsAliases _ _ halias)]
      simp
    | none =>
      have hnumber : c.ReadsNumber token n := ⟨hbit, halias, hdigits, by simp [hvalue]⟩
      simp [hnumber.readToken_eq]

/-! ### The outcome of a number -/

private theorem map_mask_inj {x y : Except Fault Mask} :
    x.map (fun m => (⟨m, c⟩ : Privileges)) = y.map (fun m => ⟨m, c⟩) ↔ x = y := by
  cases x <;> cases y <;> simp [Except.map]

/-- **A number and its numeral.**  A number is a mask if it is in the range of masks, and else out of range, which is not
said if the mask of all privileges is too long to be written.  The numeral of a number has the same outcome if and only if
every name and every alias that is spelled like it stands for the number.  In the numeric form no name is. -/
theorem resolve_numeral_iff (hc : c.IsValidated) (hn : (toString n).length ≤ Decimal.maxDigits) (active : Scheme) :
    Privileges.resolve (.int n) (some c) active =
        (if 1 ≤ n ∧ (n : Int) ≤ c.fullMask.value then .ok ⟨⟨n⟩, c⟩
        else if Decimal.isWritable c.fullMask.value then .error (.outOfRange ⟨n⟩ c.fullMask)
        else .error .notANumber) ∧
      (Privileges.resolve (.text (toString n)) (some c) active = Privileges.resolve (.int n) (some c) active ↔
        (∀ p ∈ c.privileges, p.name = toString n → p.bit = ⟨n⟩) ∧
          ∀ mask, c.aliasMask (toString n) = some mask → mask = ⟨n⟩) ∧
      (c.isIdentified = false → ∀ p ∈ c.privileges, p.name ≠ toString n) := by
  refine ⟨?_, ?_, fun hi p hp hname => ?_⟩
  · rw [resolve_some, readPrivileges_of_isNumber (.int n), checkRange, Decimal.isWritable_iff.2 hn, Bool.true_and]
    have hlow : 1 ≤ (n : Int) ↔ 1 ≤ n := by omega
    simp only [hlow]
    split
    · rfl
    · split <;> rfl
  · rw [resolve_text, readTexts_numeral, resolve_some, readPrivileges_of_isNumber (.int n), map_mask_inj,
      hc.readToken_digits_iff isDigitRun_numeral (Decimal.bounded?_toString hn)]
    refine and_congr_left fun _ => ?_
    simp only [hc.bitFor_numeral_iff]
    constructor
    · intro h p hp hname
      exact h p.bit ⟨p, hp, hname, rfl⟩
    · rintro h bit ⟨p, hp, hname, rfl⟩
      exact h p hp hname
  · obtain ⟨-, -, -, hdigits⟩ := hc.named hi hp
    rw [hname, isDigitRun_numeral] at hdigits
    exact Bool.noConfusion hdigits

/-- A numeral that is read as its number, and one that is an alias for something else. -/
theorem resolve_numeral_iff_in_gapped :
    gapped.IsValidated ∧ (toString 9).length ≤ Decimal.maxDigits ∧ (toString 7).length ≤ Decimal.maxDigits ∧
      Privileges.resolve (.text (toString 9)) (some gapped) Scheme.standard =
        Privileges.resolve (.int (9 : Nat)) (some gapped) Scheme.standard ∧
      Privileges.resolve (.text (toString 7)) (some gapped) Scheme.standard ≠
        Privileges.resolve (.int (7 : Nat)) (some gapped) Scheme.standard := by
  have hnine : (toString 9).length ≤ Decimal.maxDigits := by decide +kernel
  have hseven : (toString 7).length ≤ Decimal.maxDigits := by decide +kernel
  obtain ⟨-, hsame, -⟩ := resolve_numeral_iff gapped_isValidated hnine Scheme.standard
  obtain ⟨-, hother, -⟩ := resolve_numeral_iff gapped_isValidated hseven Scheme.standard
  refine ⟨gapped_isValidated, hnine, hseven, hsame.2 ⟨by decide +kernel, ?_⟩, fun h => ?_⟩
  · intro mask halias
    have hnone : gapped.aliasMask (toString 9) = none := by decide +kernel
    exact absurd (hnone.symm.trans halias) nofun
  · have hmask := (hother.1 h).2 ⟨3⟩ (by decide +kernel)
    exact absurd hmask (by decide)

/-- A name of the identifier form that is spelled like a mask of other privileges. -/
theorem not_resolve_numeral_of_name :
    let c : Scheme :=
      ⟨[⟨"create", Mask.bit 0, some "c"⟩, ⟨"read", Mask.bit 1, some "r"⟩, ⟨"update", Mask.bit 2, some "u"⟩,
        ⟨"10", Mask.bit 3, some "d"⟩], ∅, ∅⟩
    c.IsValidated ∧ (toString 10).length ≤ Decimal.maxDigits ∧
      Privileges.resolve (.int 10) (some c) Scheme.standard = .ok ⟨⟨10⟩, c⟩ ∧
      Privileges.resolve (.text (toString 10)) (some c) Scheme.standard = .ok ⟨⟨8⟩, c⟩ := by
  intro c
  have hc : c.IsValidated :=
    ⟨.map [(.text "privileges", .map
      [(.text "c", .text "create"), (.text "r", .text "read"), (.text "u", .text "update"), (.text "d", .text "10")])],
      none, by rfl⟩
  exact ⟨hc, by decide +kernel, eq_ok_of_toOption (by decide +kernel), eq_ok_of_toOption (by decide +kernel)⟩

end PathAccess.Scheme
