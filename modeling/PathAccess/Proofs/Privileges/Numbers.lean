import PathAccess.Proofs.Privileges.Reading
import PathAccess.Proofs.Scheme.Labels

/-!
# Numbers among privileges

Names, identifiers and aliases stand for privileges of the scheme only (`Scheme.KnowsAliases.readToken_cases`).  A
number stands for a mask, and reading it checks its range and nothing else.  So the privileges that were read are all
known to the scheme if and only if the numbers among them are (`Scheme.resolve_known`).

Where the scheme has the first positions without a gap, as it has in the identifier form, every number in the range is a
set of its privileges.  In the numeric form there may be a gap, and then a number may stand for no privilege at all, and
several numbers for a mask beyond the range (`Scheme.resolve_numbers_in_gap`).
-/

namespace PathAccess

namespace Scheme

/-- Every alias stands for privileges of the scheme. -/
def KnowsAliases (c : Scheme) : Prop := ∀ token mask, c.aliasMask token = some mask → c.fullMask.covers mask = true

/-- A token that is no name and no alias is read as a number. -/
structure ReadsNumber (c : Scheme) (token : String) (n : Int) : Prop where
  name_free : c.bitFor token = none
  alias_free : c.aliasMask token = none
  digits : Text.isDigitRun token = true
  value : (Decimal.bounded? token.toList).map Int.ofNat = some n

/-- A number by which a value names privileges. -/
inductive NamesNumber (c : Scheme) (item : Item) (n : Int) : Prop
  /-- The value itself is a mask. -/
  | given (h : item.IsNumber n)
  /-- One of the tokens in the value is read as a mask. -/
  | written {texts : List String} {token : String} (h : item.IsTexts texts) (ht : token ∈ tokens texts)
      (hn : c.ReadsNumber token n)

variable {c : Scheme}

/-! ### What tokens stand for -/

theorem covers_of_bitFor {token : String} {bit : Mask} (h : c.bitFor token = some bit) :
    c.fullMask.covers bit = true := by
  obtain ⟨p, hp, -, rfl⟩ := exists_of_bitFor h
  exact Mask.unions_covers (List.mem_map_of_mem hp)

private theorem covers_of_readIdentifiers {is : List Char} {m n : Mask} (h : c.readIdentifiers is m = .ok n)
    (hm : c.fullMask.covers m = true) : c.fullMask.covers n = true := by
  induction is generalizing m with
  | nil =>
    rw [← Except.ok.inj h]
    exact hm
  | cons i is ih =>
    unfold readIdentifiers at h
    split at h
    · rename_i bit hbit
      exact ih h (Mask.covers_or.2 ⟨hm, covers_of_bitFor hbit⟩)
    · simp at h

/-- A token stands for known privileges, or it is a number in the range of masks. -/
theorem KnowsAliases.readToken_cases (hc : c.KnowsAliases) {token : String} {m : Mask} (h : c.readToken token = .ok m) :
    ((∀ n, ¬c.ReadsNumber token n) ∧ c.fullMask.covers m = true) ∨
      (c.ReadsNumber token m.value ∧ 1 ≤ m.value ∧ m.value ≤ c.fullMask.value) := by
  cases readToken_eq_ok_iff.1 h with
  | named hname => exact Or.inl ⟨fun n hn => by simp [hn.name_free] at hname, covers_of_bitFor hname⟩
  | aliased _ halias => exact Or.inl ⟨fun n hn => by simp [hn.alias_free] at halias, hc token _ halias⟩
  | number hname halias hdigits hvalue hchecked =>
    obtain ⟨rfl, hrange⟩ := checkRange_eq_ok.1 hchecked
    exact Or.inr ⟨⟨hname, halias, hdigits, by rw [hvalue]; rfl⟩, hrange⟩
  | run _ _ hdigits _ hrun =>
    have hcov := covers_of_readIdentifiers hrun (Mask.covers_zero _)
    exact Or.inl ⟨fun n hn => by simp [hn.digits] at hdigits, hcov⟩

theorem ReadsNumber.readToken_eq {token : String} {n : Int} (h : c.ReadsNumber token n) :
    c.readToken token = c.checkRange ⟨n⟩ := by
  obtain ⟨k, hk, rfl⟩ := Option.map_eq_some_iff.1 h.value
  simp [readToken, h.name_free, h.alias_free, h.digits, hk]

theorem ReadsNumber.unique {token : String} {m n : Int} (hm : c.ReadsNumber token m) (hn : c.ReadsNumber token n) :
    m = n :=
  Option.some.inj (hm.value.symm.trans hn.value)

theorem KnowsAliases.covers_readToken_iff (hc : c.KnowsAliases) {token : String} {m : Mask}
    (h : c.readToken token = .ok m) :
    c.fullMask.covers m = true ↔ ∀ n, c.ReadsNumber token n → c.fullMask.covers ⟨n⟩ = true := by
  rcases hc.readToken_cases h with ⟨hno, hcov⟩ | ⟨hm, -⟩
  · exact ⟨fun _ n hn => absurd hn (hno n), fun _ => hcov⟩
  · constructor
    · intro hcov n hn
      rw [← hm.unique hn]
      exact hcov
    · intro hall
      exact hall _ hm

theorem KnowsAliases.covers_readTokens_iff (hc : c.KnowsAliases) {ts : List String} {m r : Mask}
    (h : c.readTokens ts m = .ok r) :
    c.fullMask.covers r = true ↔ c.fullMask.covers m = true ∧
      ∀ t ∈ ts, ∀ n, c.ReadsNumber t n → c.fullMask.covers ⟨n⟩ = true := by
  induction ts generalizing m with
  | nil =>
    obtain rfl := Except.ok.inj h
    simp
  | cons t ts ih =>
    unfold readTokens at h
    split at h
    · rename_i mask hmask
      rw [ih h, Mask.covers_or, hc.covers_readToken_iff hmask, List.forall_mem_cons, and_assoc]
    · simp at h

/-- A number among the tokens that were read is in the range of masks. -/
theorem KnowsAliases.range_of_readTokens (hc : c.KnowsAliases) {ts : List String} {m r : Mask}
    (h : c.readTokens ts m = .ok r) {t : String} (ht : t ∈ ts) {n : Int} (hn : c.ReadsNumber t n) :
    1 ≤ n ∧ n ≤ c.fullMask.value := by
  induction ts generalizing m with
  | nil => simp at ht
  | cons t' ts ih =>
    unfold readTokens at h
    split at h
    · rename_i mask hmask
      rcases List.mem_cons.1 ht with rfl | ht
      · rcases hc.readToken_cases hmask with ⟨hno, -⟩ | ⟨hm, hrange⟩
        · exact absurd hn (hno n)
        · rw [hn.unique hm]
          exact hrange
      · exact ih h ht
    · simp at h

/-! ### Values of any shape -/

variable {item : Item} {s : Privileges}

theorem KnowsAliases.covers_readTexts_iff (hc : c.KnowsAliases) {texts : List String} (h : c.readTexts texts = .ok s) :
    c.fullMask.covers s.mask = true ↔
      ∀ t ∈ tokens texts, ∀ n, c.ReadsNumber t n → c.fullMask.covers ⟨n⟩ = true := by
  obtain ⟨-, htokens, -⟩ := readTexts_eq_ok h
  rw [hc.covers_readTokens_iff htokens]
  simp

/-- Without a gap, texts stand for privileges of the scheme only, numbers among them included. -/
theorem KnowsAliases.covers_of_readTexts (hc : c.KnowsAliases) (hg : c.IsGapless) {texts : List String}
    (h : c.readTexts texts = .ok s) : c.fullMask.covers s.mask = true := by
  rw [hc.covers_readTexts_iff h]
  intro t ht n hn
  obtain ⟨-, htokens, -⟩ := readTexts_eq_ok h
  obtain ⟨h1, h2⟩ := hc.range_of_readTokens htokens ht hn
  exact hg.covers_of_range h1 h2

/-- Privileges that were read are known to the scheme if the numbers among them are. -/
theorem KnowsAliases.covers_readPrivileges_iff (hc : c.KnowsAliases) (h : c.readPrivileges item = .ok s) :
    c.fullMask.covers s.mask = true ↔ ∀ n, c.NamesNumber item n → c.fullMask.covers ⟨n⟩ = true := by
  constructor
  · intro hcov n hn
    cases hn with
    | given hi =>
      rw [readPrivileges_of_isNumber hi] at h
      obtain ⟨hmask, -⟩ := checkRange_of_map h
      rw [← (checkRange_eq_ok.1 hmask).1]
      exact hcov
    | written hi ht hn =>
      rw [readPrivileges_of_isTexts hi] at h
      exact (hc.covers_readTexts_iff h).1 hcov _ ht n hn
  · intro hall
    rcases readPrivileges_ok h with ⟨n, hi, hr, -⟩ | ⟨texts, hi, ht⟩
    · rw [(checkRange_eq_ok.1 hr).1]
      exact hall n (.given hi)
    · rw [hc.covers_readTexts_iff ht]
      exact fun t hmem n hn => hall n (.written hi hmem hn)

/-- A set of privileges is read again as itself if its mask is in the range. -/
theorem readPrivileges_ofPrivileges {s : Privileges} (hs : s.scheme = c) (h1 : 1 ≤ s.mask.value)
    (h2 : s.mask.value ≤ c.fullMask.value) : c.readPrivileges (.ofPrivileges s) = .ok s := by
  have hrange : c.checkRange ⟨s.mask.value⟩ = .ok s.mask := checkRange_eq_ok.2 ⟨rfl, h1, h2⟩
  rw [readPrivileges_of_isNumber (.privileges s), hrange, ← hs]
  rfl

private theorem value_nonneg_of_readTokens (hl : c.Labelled) (hc : c.KnowsAliases) {ts : List String} {m r : Mask}
    (h : c.readTokens ts m = .ok r) (hm : 0 ≤ m.value) : 0 ≤ r.value := by
  induction ts generalizing m with
  | nil =>
    obtain rfl := Except.ok.inj h
    exact hm
  | cons t ts ih =>
    unfold readTokens at h
    split at h
    · rename_i mask hmask
      have hpos : 0 ≤ mask.value := by
        rcases hc.readToken_cases hmask with ⟨-, hcov⟩ | ⟨-, h1, -⟩
        · exact (Mask.value_of_covers hl.value_fullMask_nonneg hcov).1
        · omega
      exact ih h (Mask.value_or_nonneg hm hpos)
    · simp at h

private theorem value_pos_of_readPrivileges (hw : c.WellFormed) (hl : c.Labelled) (hc : c.KnowsAliases)
    (h : c.readPrivileges item = .ok s) : 1 ≤ s.mask.value := by
  have hne := hw.readPrivileges_ne_zero h
  have hvalue : s.mask.value ≠ 0 := fun hz => hne (congrArg Mask.mk hz)
  rcases readPrivileges_ok h with ⟨n, -, hr, -⟩ | ⟨texts, -, ht⟩
  · obtain ⟨hm, h1, -⟩ := checkRange_eq_ok.1 hr
    rw [hm]
    exact h1
  · have := value_nonneg_of_readTokens hl hc (readTexts_eq_ok ht).2.1 (Int.le_refl 0)
    omega

end Scheme

/-! ### Validated schemes -/

theorem Declaration.knowsAliases_toScheme (d : Declaration) : d.toScheme.KnowsAliases := by
  intro token mask h
  obtain ⟨e, -, he⟩ := List.mem_map.1 (OrderedMap.mem_of_get?_ofList h)
  obtain ⟨-, rfl⟩ := Prod.mk.inj he
  exact Scheme.covers_maskOf d.base e.2

namespace Scheme

variable {c : Scheme}

theorem IsValidated.labelled (hc : c.IsValidated) : c.Labelled := by
  obtain ⟨document, origin, h⟩ := hc
  obtain ⟨d, hd, hs, rfl⟩ := exists_of_ofItem h
  exact ⟨(hd.labelled hs).exists_bit, (hd.labelled hs).bitFor_label⟩

theorem IsValidated.knowsAliases (hc : c.IsValidated) : c.KnowsAliases := by
  obtain ⟨document, origin, h⟩ := hc
  obtain ⟨d, -, -, rfl⟩ := exists_of_ofItem h
  exact d.knowsAliases_toScheme

theorem IsValidated.isGapless (hc : c.IsValidated) (hi : c.isIdentified = true) : c.IsGapless := by
  obtain ⟨document, origin, h⟩ := hc
  obtain ⟨d, hd, -, rfl⟩ := exists_of_ofItem h
  exact hd.isGapless hi

theorem resolve_text (c : Scheme) (s : String) (active : Scheme) :
    Privileges.resolve (.text s) (some c) active = c.readTexts [s] := rfl

/-- Privileges that were read are never empty.  They are all known to the scheme if and only if the numbers among them
are, which is always so without a gap.  Then, or if a number was all that was read, they are in the range of masks; and
privileges in the range are read again as themselves. -/
theorem resolve_known (hc : c.IsValidated) {value : Item} {s : Privileges} {active : Scheme}
    (h : Privileges.resolve value (some c) active = .ok s) :
    s.mask ≠ 0 ∧
      (c.fullMask.covers s.mask = true ↔ ∀ n, c.NamesNumber value n → c.fullMask.covers ⟨n⟩ = true) ∧
      (c.isIdentified = true ∨ c.IsGapless → c.fullMask.covers s.mask = true) ∧
      (c.fullMask.covers s.mask = true ∨ (∃ n, value.IsNumber n) → s.mask.value ≤ c.fullMask.value) ∧
      (s.mask.value ≤ c.fullMask.value → Privileges.resolve (.ofPrivileges s) (some c) active = .ok s) := by
  rw [resolve_some] at h
  have hne := hc.wellFormed.readPrivileges_ne_zero h
  have hpos := value_pos_of_readPrivileges hc.wellFormed hc.labelled hc.knowsAliases h
  refine ⟨hne, hc.knowsAliases.covers_readPrivileges_iff h, ?_, ?_, ?_⟩
  · intro hg
    have hg : c.IsGapless := hg.elim hc.isGapless id
    rcases readPrivileges_ok h with ⟨n, -, hr, -⟩ | ⟨texts, -, ht⟩
    · obtain ⟨hm, h1, h2⟩ := checkRange_eq_ok.1 hr
      rw [hm]
      exact hg.covers_of_range h1 h2
    · exact hc.knowsAliases.covers_of_readTexts hg ht
  · rintro (hcov | ⟨n, hn⟩)
    · exact (hc.labelled.range_of_covers hne hcov).2
    · rw [readPrivileges_of_isNumber hn] at h
      obtain ⟨hm, -, h2⟩ := checkRange_eq_ok.1 (checkRange_of_map h).1
      rw [hm]
      exact h2
  · rw [resolve_some]
    exact fun h2 => readPrivileges_ofPrivileges (scheme_of_readPrivileges h) hpos h2

/-- A scheme with a gap between its privileges. -/
def gapped : Scheme :=
  ⟨[⟨"read", Mask.bit 0, none⟩, ⟨"write", Mask.bit 1, none⟩, ⟨"admin", Mask.bit 3, none⟩],
    .ofList [("7", ⟨3⟩)], ∅⟩

theorem gapped_isValidated : gapped.IsValidated :=
  ⟨.map
    [(.text "privileges", .map [(.text "read", .int 1), (.text "write", .int 2), (.text "admin", .int 8)]),
     (.text "aliases", .map [(.text "7", .list [.text "write", .text "read"])])], none, by rfl⟩

/-- In a gapped scheme, an alias that looks like a number beyond its privileges, and a number that is known. -/
theorem resolve_known_of_alias_and_number :
    gapped.IsValidated ∧
      Privileges.resolve (.list [.text "7, admin", .text "9"]) (some gapped) Scheme.standard = .ok ⟨⟨11⟩, gapped⟩ ∧
      gapped.fullMask.covers ⟨11⟩ = true ∧
      Privileges.resolve (.ofPrivileges ⟨⟨11⟩, gapped⟩) (some gapped) Scheme.standard = .ok ⟨⟨11⟩, gapped⟩ := by
  have hread : Privileges.resolve (.list [.text "7, admin", .text "9"]) (some gapped) Scheme.standard =
      .ok ⟨⟨11⟩, gapped⟩ := by rfl
  have hcov : gapped.fullMask.covers ⟨11⟩ = true := by decide
  obtain ⟨-, -, -, hrange, hagain⟩ := resolve_known gapped_isValidated hread
  exact ⟨gapped_isValidated, hread, hcov, hagain (hrange (Or.inl hcov))⟩

/-- A number in the gap is read although it stands for no privilege, and a union of such numbers although it is beyond
the range of masks, in which it is not read again. -/
theorem resolve_numbers_in_gap :
    gapped.IsValidated ∧
      Privileges.resolve (.int 4) (some gapped) Scheme.standard = .ok ⟨⟨4⟩, gapped⟩ ∧
      gapped.labels ⟨4⟩ = [] ∧ gapped.fullMask.covers ⟨4⟩ = false ∧
      Privileges.resolve (.text "4,8") (some gapped) Scheme.standard = .ok ⟨⟨12⟩, gapped⟩ ∧
      ∀ s, Privileges.resolve (.ofPrivileges ⟨⟨12⟩, gapped⟩) (some gapped) Scheme.standard ≠ .ok s := by
  refine ⟨gapped_isValidated, by rfl, by decide, by decide, by rfl, fun s h => ?_⟩
  rw [resolve_some, readPrivileges_of_isNumber (.privileges _)] at h
  have hrange := (checkRange_eq_ok.1 (checkRange_of_map h).1).2.2
  exact absurd hrange (by decide)

end Scheme

end PathAccess
