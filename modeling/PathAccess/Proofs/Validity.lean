import PathAccess.Proofs.Decimal.Numerals
import PathAccess.Proofs.Permission.ReadingFaults
import PathAccess.Proofs.Privileges.Numbers
import PathAccess.Proofs.Scheme.TypedSections
import PathAccess.Proofs.Text.Pieces
import PathAccess.Validity

/-!
# Validity and reading

Whether a text is valid is the verdict of reading it (`IsVerdict`): yes if something is read, no if the reading is
rejected by a rule.  One fault is no rejection and escapes from both.  It comes from digits whose number is not judged
(`Scheme.IsUnjudged`), in the first token that is not read (`Scheme.meetsFalseNumeral_iff`), before anything is known of
the path and the constraints.

Digits are not judged if one of them is not decimal or if there are too many of them.  A number of a length that is read
can be written, so that its refusal fails only if the mask of all privileges cannot be written, and under such a mask no
number is refused but zero (`Scheme.isFalseNumeral_iff`).
-/

namespace PathAccess

namespace Scheme

variable {c : Scheme} {token : String}

/-- The first token that is not read. -/
def IsFirstUnread (c : Scheme) (ts : List String) (token : String) : Prop :=
  ∃ before after, ts = before ++ token :: after ∧ (∀ t ∈ before, ∃ m, c.readToken t = .ok m) ∧
    ∀ m, c.readToken token ≠ .ok m

/-- Digits that give no verdict on what they stand for. -/
inductive UnjudgedDigits (c : Scheme) (digits : List Char) : Prop
  | notDecimal {i : Char} (hi : i ∈ digits) (h : Text.digitValue? i = none)
  | tooLong (h : Decimal.maxDigits < digits.length)
  /-- Zero is refused, but the range that it is out of is too long to be stated. -/
  | zero (h : ∀ i ∈ digits, Text.digitValue? i = some 0) (hfull : Decimal.isWritable c.fullMask.value = false)

/-- A token of digits that is neither a privilege nor an alias, and whose number is not judged. -/
structure IsUnjudged (c : Scheme) (token : String) : Prop where
  not_privilege : ∀ p ∈ c.privileges, p.name ≠ token ∧ p.identifier ≠ some token
  not_alias : token ∉ c.aliases.keys
  digits : ∀ i ∈ token.toList, Text.isDigitLike i = true
  unjudged : c.UnjudgedDigits token.toList

/-- The privileges that a text names are read up to a token whose number is not judged. -/
def StopsUnjudged (c : Scheme) (text : String) : Prop :=
  ∃ token, c.IsFirstUnread (tokens [text]) token ∧ c.IsUnjudged token

/-! ### Digits that are not judged -/

theorem bitFor_eq_none_iff :
    c.bitFor token = none ↔ ∀ p ∈ c.privileges, p.name ≠ token ∧ p.identifier ≠ some token := by
  constructor
  · intro h p hp
    rw [← not_or, ← Privilege.answersTo_iff]
    intro hanswers
    obtain ⟨bit, hbit⟩ := bitFor_isSome hp hanswers
    rw [h] at hbit
    exact absurd hbit nofun
  · intro h
    rw [Option.eq_none_iff_forall_ne_some]
    intro bit hbit
    obtain ⟨p, hp, hanswers, -⟩ := exists_of_bitFor hbit
    exact (Privilege.answersTo_iff.1 hanswers).elim (h p hp).1 (h p hp).2

theorem aliasMask_eq_none_iff : c.aliasMask token = none ↔ token ∉ c.aliases.keys :=
  OrderedMap.get?_eq_none_iff

/-- A number that can be written is not judged only if it is zero and the mask of all privileges cannot be written. -/
private theorem not_judged_iff {n : Nat} (hn : Decimal.isWritable n = true) (hfull : 0 ≤ c.fullMask.value) :
    ¬ ((1 : Int) ≤ n ∧ n ≤ c.fullMask.value) ∧ ¬ (Decimal.isWritable n ∧ Decimal.isWritable c.fullMask.value) ↔
      n = 0 ∧ Decimal.isWritable c.fullMask.value = false := by
  obtain ⟨full, hvalue⟩ := Int.eq_ofNat_of_zero_le hfull
  rw [hn, hvalue]
  simp only [true_and, Bool.not_eq_true]
  refine and_congr_left fun hlong => ?_
  -- what cannot be written is larger than what can
  have hlt : n < full := by
    rw [← Bool.not_eq_true, Decimal.isWritable_iff_lt, Nat.not_lt] at hlong
    exact Nat.lt_of_lt_of_le (Decimal.isWritable_iff_lt.1 hn) hlong
  omega

private theorem unjudgedDigits_iff (hfull : 0 ≤ c.fullMask.value) {digits : List Char} (hne : digits ≠ []) :
    c.UnjudgedDigits digits ↔ ∀ n, Decimal.bounded? digits = some n →
      ¬ ((1 : Int) ≤ n ∧ n ≤ c.fullMask.value) ∧ ¬ (Decimal.isWritable n ∧ Decimal.isWritable c.fullMask.value) := by
  cases hvalue : Decimal.bounded? digits with
  | none =>
    refine iff_of_true ?_ nofun
    rcases (Decimal.bounded?_eq_none_iff hne).1 hvalue with hlen | ⟨i, hi, hnone⟩
    · exact .tooLong hlen
    · exact .notDecimal hi hnone
  | some n =>
    have hsome : Decimal.bounded? digits ≠ none := by simp [hvalue]
    rw [Ne, Decimal.bounded?_eq_none_iff hne, not_or] at hsome
    simp only [Option.some.injEq, forall_eq', not_judged_iff (Decimal.isWritable_of_bounded? hvalue) hfull,
      Decimal.eq_zero_iff_of_bounded? hvalue]
    constructor
    · rintro (⟨hi, hnone⟩ | hlen | ⟨hzero, hlong⟩)
      · exact absurd ⟨_, hi, hnone⟩ hsome.2
      · exact absurd hlen hsome.1
      · exact ⟨hzero, hlong⟩
    · rintro ⟨hzero, hlong⟩
      exact .zero hzero hlong

/-- A false numeral by its characters. -/
theorem isFalseNumeral_iff (hfull : 0 ≤ c.fullMask.value) (hne : token ≠ "") :
    c.IsFalseNumeral token ↔ c.IsUnjudged token := by
  have hnil : token.toList ≠ [] := by simpa using hne
  have hunjudged := unjudgedDigits_iff hfull hnil
  have hdigits : Text.isDigitRun token = true ↔ ∀ i ∈ token.toList, Text.isDigitLike i = true := by
    simp [Text.isDigitRun, hne]
  constructor
  · intro h
    exact ⟨bitFor_eq_none_iff.1 h.not_privilege, aliasMask_eq_none_iff.1 h.not_alias, hdigits.1 h.isDigitRun,
      hunjudged.2 h.not_judged⟩
  · intro h
    exact ⟨bitFor_eq_none_iff.2 h.not_privilege, aliasMask_eq_none_iff.2 h.not_alias, hdigits.2 h.digits,
      hunjudged.1 h.unjudged⟩

/-! ### The first token that is not read -/

theorem isFirstUnread_cons_iff {t : String} {ts : List String} :
    c.IsFirstUnread (t :: ts) token ↔
      (t = token ∧ ∀ m, c.readToken t ≠ .ok m) ∨ (∃ m, c.readToken t = .ok m) ∧ c.IsFirstUnread ts token := by
  constructor
  · rintro ⟨before, after, hts, hbefore, htoken⟩
    cases before with
    | nil =>
      obtain ⟨rfl, -⟩ := List.cons_eq_cons.1 hts
      exact Or.inl ⟨rfl, htoken⟩
    | cons t' before =>
      obtain ⟨rfl, rfl⟩ := List.cons_eq_cons.1 hts
      rw [List.forall_mem_cons] at hbefore
      exact Or.inr ⟨hbefore.1, before, after, rfl, hbefore.2, htoken⟩
  · rintro (⟨rfl, htoken⟩ | ⟨ht, before, after, rfl, hbefore, htoken⟩)
    · exact ⟨[], ts, rfl, by simp, htoken⟩
    · exact ⟨t :: before, after, rfl, List.forall_mem_cons.2 ⟨ht, hbefore⟩, htoken⟩

/-- A false numeral that is met is the first token that is not read. -/
theorem meetsFalseNumeral_iff {ts : List String} :
    c.MeetsFalseNumeral ts ↔ ∃ token, c.IsFirstUnread ts token ∧ c.IsFalseNumeral token := by
  induction ts with
  | nil => simp [MeetsFalseNumeral, IsFirstUnread]
  | cons t ts ih =>
    simp only [MeetsFalseNumeral, ih, isFirstUnread_cons_iff]
    constructor
    · rintro (ht | ⟨hread, token, hfirst, hfalse⟩)
      · have hunread : ∀ m, c.readToken t ≠ .ok m := by simp [readToken_of_isFalseNumeral ht]
        exact ⟨t, Or.inl ⟨rfl, hunread⟩, ht⟩
      · exact ⟨token, Or.inr ⟨hread, hfirst⟩, hfalse⟩
    · rintro ⟨token, ⟨rfl, -⟩ | ⟨hread, hfirst⟩, hfalse⟩
      · exact Or.inl hfalse
      · exact Or.inr ⟨hread, token, hfirst, hfalse⟩

theorem meetsFalseNumeral_tokens_iff (hfull : 0 ≤ c.fullMask.value) (text : String) :
    c.MeetsFalseNumeral (tokens [text]) ↔ c.StopsUnjudged text := by
  rw [meetsFalseNumeral_iff]
  refine exists_congr fun token => and_congr_right fun hfirst => isFalseNumeral_iff hfull ?_
  obtain ⟨before, after, hts, -, -⟩ := hfirst
  have hmem : token ∈ tokens [text] := by simp [hts]
  exact tokens_ne_empty token hmem

end Scheme

/-! ### Verdicts -/

/-- The verdict that a validity gives of a reading, and the condition under which both fail because digits are no
number, which is the only way to fail. -/
structure IsVerdict {α : Type} (valid : Except Fault Bool) (read : Except Fault α) (escapes : Prop) : Prop where
  accepted : valid = .ok true ↔ ∃ a, read = .ok a
  rejected : valid = .ok false ↔ ∃ e, read = .error e ∧ e.isRejection = true
  failed : ∀ e, valid = .error e ↔ read = .error e ∧ e.isRejection = false
  escaped : ∀ e, e.isRejection = false → (read = .error e ↔ e = .notANumber ∧ escapes)

namespace Ambient

variable {α : Type} {x : Ambient α} {active : Scheme} {e : Fault}

theorem accepts_of_ok {a : α} (h : x active = .ok a) : x.accepts active = .ok true := by
  simp [accepts, h]

theorem accepts_of_rejection (h : x active = .error e) (he : e.isRejection = true) : x.accepts active = .ok false := by
  simp [accepts, h, he]

theorem accepts_of_failure (h : x active = .error e) (he : e.isRejection = false) : x.accepts active = .error e := by
  simp [accepts, h, he]

theorem isVerdict_accepts {escapes : Prop}
    (hfault : ∀ e, x active = .error e → e.isRejection = true ∨ e = .notANumber)
    (hescapes : x active = .error .notANumber ↔ escapes) : IsVerdict (x.accepts active) (x active) escapes := by
  have hescaped : ∀ e, e.isRejection = false → (x active = .error e ↔ e = .notANumber ∧ escapes) := by
    intro e he
    constructor
    · intro h
      obtain rfl := (hfault e h).resolve_left (by simp [he])
      exact ⟨rfl, hescapes.1 h⟩
    · rintro ⟨rfl, h⟩
      exact hescapes.2 h
  cases hx : x active with
  | ok a =>
    rw [accepts_of_ok hx]
    exact ⟨by simp, by simp, by simp, hx ▸ hescaped⟩
  | error e =>
    cases he : e.isRejection with
    | true =>
      rw [accepts_of_rejection hx he]
      refine ⟨by simp, by simp [he], fun e' => iff_of_false nofun ?_, hx ▸ hescaped⟩
      rintro ⟨hsame, he'⟩
      rw [← Except.error.inj hsame, he] at he'
      exact Bool.noConfusion he'
    | false =>
      rw [accepts_of_failure hx he]
      refine ⟨by simp, by simp [he], fun e' => ?_, hx ▸ hescaped⟩
      rw [Except.error.injEq, Except.error.injEq]
      exact ⟨fun hsame => ⟨hsame, hsame ▸ he⟩, And.left⟩

end Ambient

/-! ### Verdicts on texts -/

theorem Permission.isValid_text (text : String) (explicit : Option Scheme) :
    Permission.isValid (.text text) explicit = (Permission.parse (.text text) explicit).accepts := rfl

private theorem Permission.hasFalseNumeral_iff {c : Scheme} (hfull : 0 ≤ c.fullMask.value) (text : String) :
    Permission.HasFalseNumeral c text ↔
      ∃ target privileges, text = target ++ ":" ++ privileges ∧ ':' ∉ privileges.toList ∧
        c.StopsUnjudged privileges := by
  simp only [Permission.HasFalseNumeral, Scheme.meetsFalseNumeral_tokens_iff hfull, Text.cutLast_eq_some, and_assoc]
  rfl

/-- **Validity and reading.**  A text is a valid permission if it is read as one, and invalid if a rule rejects it.
Nothing else happens except that digits are no number, which escapes from both if there is a colon and what follows the
last one stops at a token whose number is not judged.  The same holds for a text of privileges, all of which is looked
at. -/
theorem validity_agrees_with_reading (explicit : Option Scheme) (active : Scheme)
    (hc : (explicit.getD active).IsValidated) (text : String) :
    IsVerdict (Permission.isValid (.text text) explicit active) (Permission.parse (.text text) explicit active)
        (∃ target privileges, text = target ++ ":" ++ privileges ∧ ':' ∉ privileges.toList ∧
          (explicit.getD active).StopsUnjudged privileges) ∧
      IsVerdict (Privileges.isValid (.text text) explicit active) (Privileges.resolve (.text text) explicit active)
        ((explicit.getD active).StopsUnjudged text) := by
  have hfull := hc.labelled.value_fullMask_nonneg
  have hresolve : Privileges.resolve (.text text) explicit active = (explicit.getD active).readTexts [text] := rfl
  constructor
  · rw [Permission.isValid_text]
    apply Ambient.isVerdict_accepts
    · intro e h
      rw [Permission.parse_eq_parseText] at h
      exact (Permission.parseText_eq_error h).imp_right And.left
    · rw [Permission.parse_eq_parseText, Permission.parseText_eq_notANumber_iff, Permission.hasFalseNumeral_iff hfull]
  · apply Ambient.isVerdict_accepts
    · intro e h
      rw [hresolve] at h
      exact (Scheme.readTexts_eq_error h).imp_right And.left
    · rw [hresolve, Scheme.readTexts_eq_notANumber_iff, Scheme.meetsFalseNumeral_tokens_iff hfull]

/-- Digits that are no number escape behind a privilege that is read, and before it is known that the path and a key are
missing. -/
theorem validity_agrees_with_reading_of_superscript :
    Scheme.standard.IsValidated ∧
      Permission.isValid (.text "?=:r") none Scheme.standard = .ok false ∧
      Permission.parse (.text "?=:r, ²") none Scheme.standard = .error .notANumber ∧
      Permission.isValid (.text "?=:r, ²") none Scheme.standard = .error .notANumber ∧
      Privileges.isValid (.text "r, ²") none Scheme.standard = .error .notANumber := by
  have hc : ((none : Option Scheme).getD Scheme.standard).IsValidated := Scheme.standard_isValidated
  obtain ⟨hmissing, -⟩ := validity_agrees_with_reading none Scheme.standard hc "?=:r"
  obtain ⟨hpermission, -⟩ := validity_agrees_with_reading none Scheme.standard hc "?=:r, ²"
  obtain ⟨-, hprivileges⟩ := validity_agrees_with_reading none Scheme.standard hc "r, ²"
  have hstops : Scheme.standard.StopsUnjudged "r, ²" := by
    have htokens : Scheme.tokens ["r, ²"] = ["r"] ++ "²" :: [] := by decide +kernel
    have hread : Scheme.standard.readToken "r" = .ok (Mask.bit 1) := eq_ok_of_toOption (by decide +kernel)
    have hchars : "²".toList = ['²'] := by decide
    have hdigits : ∀ i ∈ "²".toList, Text.isDigitLike i = true := by
      rw [hchars, List.forall_mem_singleton]
      decide +kernel
    have hdecorated : Text.digitValue? '²' = none := by decide +kernel
    have hunjudged : Scheme.standard.IsUnjudged "²" :=
      ⟨by decide +kernel, by decide +kernel, hdigits, .notDecimal (by simp [hchars]) hdecorated⟩
    have hunread := (Scheme.isFalseNumeral_iff (by decide +kernel) (by decide)).2 hunjudged
    refine ⟨"²", ⟨["r"], [], htokens, by simp [hread], ?_⟩, hunjudged⟩
    simp [Scheme.readToken_of_isFalseNumeral hunread]
  have hparse := (hpermission.escaped .notANumber rfl).2 ⟨rfl, "?=", "r, ²", by decide, by decide, hstops⟩
  have hresolve := (hprivileges.escaped .notANumber rfl).2 ⟨rfl, hstops⟩
  exact ⟨hc, hmissing.rejected.2 ⟨_, rfl, rfl⟩, hparse, (hpermission.failed _).2 ⟨hparse, rfl⟩,
    (hprivileges.failed _).2 ⟨hresolve, rfl⟩⟩

/-- A scheme with privileges at so high positions that the mask of all of them is too long to be written. -/
def Scheme.vast : Scheme := ⟨[⟨"read", Mask.bit 14283, none⟩, ⟨"write", Mask.bit 14284, none⟩], ∅, ∅⟩

theorem Scheme.vast_isValidated : vast.IsValidated := by
  let privileges : OrderedMap String (Int ⊕ String) :=
    .ofList [("read", .inl (Nat.pow 2 14283)), ("write", .inl (Nat.pow 2 14284))]
  let sections : TypedSections := ⟨some privileges, none, none⟩
  have hin : sections.AreIn (.ofList [("privileges", TypedSections.item (Sum.elim .int .text) privileges)]) :=
    ⟨rfl, rfl, rfl⟩
  have hrules : sections.draft.declaration.WellFormed := ⟨by decide +kernel, by decide +kernel⟩
  exact ⟨_, none, (TypedSections.ofItem_eq_ok_iff hin).2 ⟨by decide +kernel, hrules, by decide +kernel⟩⟩

/-- Under such a scheme the single digit zero escapes, although it is decimal. -/
theorem not_validity_agrees_with_reading_of_zero :
    Scheme.vast.IsValidated ∧ Text.cutLast ':' "/a:0" = some ("/a", "0") ∧ Scheme.tokens ["0"] = ["0"] ∧
      (∀ i ∈ "0".toList, Text.digitValue? i ≠ none) ∧ "0".toList.length ≤ Decimal.maxDigits ∧
      Permission.parse (.text "/a:0") (some Scheme.vast) Scheme.standard = .error .notANumber ∧
      Permission.isValid (.text "/a:0") (some Scheme.vast) Scheme.standard = .error .notANumber := by
  have hcut : Text.cutLast ':' "/a:0" = some ("/a", "0") := by decide +kernel
  have htokens : Scheme.tokens ["0"] = ["0"] := by decide +kernel
  have hchars : "0".toList = ['0'] := by decide
  have hlike : Text.isDigitLike '0' = true := by decide +kernel
  have hvalue : Text.digitValue? '0' = some 0 := by decide +kernel
  have hlong : Decimal.isWritable Scheme.vast.fullMask.value = false := by decide +kernel
  have hunjudged : Scheme.vast.IsUnjudged "0" :=
    ⟨by decide +kernel, by decide +kernel, by simp [hchars, hlike], .zero (by simp [hchars, hvalue]) hlong⟩
  have hfalse : Permission.HasFalseNumeral Scheme.vast "/a:0" := by
    refine ⟨"/a", "0", hcut, ?_⟩
    rw [htokens]
    exact Or.inl ((Scheme.isFalseNumeral_iff (by decide +kernel) (by decide)).2 hunjudged)
  have hparse : Permission.parse (.text "/a:0") (some Scheme.vast) Scheme.standard = .error .notANumber := by
    rw [Permission.parse_eq_parseText]
    exact Permission.parseText_of_hasFalseNumeral hfalse
  have hdecimal : ∀ i ∈ "0".toList, Text.digitValue? i ≠ none := by simp [hchars, hvalue]
  rw [Permission.isValid_text]
  exact ⟨Scheme.vast_isValidated, hcut, htokens, hdecimal, by simp [hchars, Decimal.maxDigits], hparse,
    Ambient.accepts_of_failure hparse rfl⟩

end PathAccess
