import Mathlib.Data.List.Perm.Subperm
import PathAccess.Proofs.Privileges.Numbers
import PathAccess.Proofs.Privileges.Tokens
import PathAccess.Proofs.Scheme.Naming

/-!
# Which privileges are read back

Privileges of a validated scheme are written as a run of their identifiers, or as their names with separators between
them.  Not all of them are read back, because a name or an alias may be spelled like something else.

In the identifier form a run is a single token.  It is lost if it is the name of a privilege, or an alias for others, and
if it has a blank identifier at its ends, which is trimmed (`Scheme.LegibleRun`).  In the numeric form every name is a
token, which is the name unless that has blanks at its ends (`Scheme.LegibleName`).  There is no other way to be lost:
`Scheme.resolve_text_iff` says which runs are read back, which single privileges, and that several privileges are if every
single one is.
-/

namespace PathAccess.Scheme

/-- The run of identifiers that a mask is written as, without blanks at its ends. -/
def runOf (c : Scheme) (m : Mask) : String := Text.trim (Privileges.text ⟨m, c⟩)

/-- The run of identifiers that a mask is written as stands for it. -/
structure LegibleRun (c : Scheme) (m : Mask) : Prop where
  ne_empty : c.runOf m ≠ ""
  name_free : ∀ p ∈ c.privileges, p.name ≠ c.runOf m
  /-- It is an alias for the same privileges, or no alias and complete. -/
  stands : c.aliasMask (c.runOf m) = some m ∨
    c.aliasMask (c.runOf m) = none ∧ c.runOf m = Privileges.text ⟨m, c⟩

/-- The name of a privilege stands for it. -/
inductive LegibleName (c : Scheme) (p : Privilege) : Prop
  | itself (h : Text.trim p.name = p.name)
  | aliased (hne : Text.trim p.name ≠ "") (h : c.aliasMask (Text.trim p.name) = some p.bit)
  | number (h : c.ReadsNumber (Text.trim p.name) p.bit.value)

instance (c : Scheme) (m : Mask) : Decidable (c.LegibleRun m) :=
  decidable_of_iff (c.runOf m ≠ "" ∧ (∀ p ∈ c.privileges, p.name ≠ c.runOf m) ∧
      (c.aliasMask (c.runOf m) = some m ∨
        c.aliasMask (c.runOf m) = none ∧ c.runOf m = Privileges.text ⟨m, c⟩))
    ⟨fun ⟨hne, hname, hstands⟩ => ⟨hne, hname, hstands⟩, fun h => ⟨h.ne_empty, h.name_free, h.stands⟩⟩

variable {c : Scheme} {p : Privilege} {m : Mask}

private theorem mem_of_mem_within (h : p ∈ c.within m) : p ∈ c.privileges := List.mem_of_mem_filter h

private theorem Coherent.within_bit (hc : c.Coherent) (hp : p ∈ c.privileges) : c.within p.bit = [p] := by
  have hmeets : ∀ q ∈ c.privileges, p.bit.meets q.bit = (q == p) := by
    intro q hq
    obtain ⟨j, hj⟩ := hc.exists_bit p hp
    obtain ⟨k, hk⟩ := hc.exists_bit q hq
    rw [hk, Mask.meets_bit, hj, Mask.testBit_bit, Bool.eq_iff_iff, decide_eq_true_iff, beq_iff_eq]
    constructor
    · rintro rfl
      exact hc.eq_of_bit_eq hq hp (hk.trans hj.symm)
    · rintro rfl
      exact Mask.bit_injective (hj.symm.trans hk)
  have hcount : c.privileges.count p = 1 := List.count_eq_one_of_mem (.of_map _ hc.nodup_bits) hp
  rw [within, List.filter_congr hmeets, List.filter_beq, hcount, List.replicate_one]

/-! ### Runs of identifiers -/

private theorem IsValidated.length_label (hc : c.IsValidated) (hi : c.isIdentified = true) :
    ∀ p ∈ c.privileges, p.label.toList.length = 1 := by
  intro p hp
  obtain ⟨i, hident, -⟩ := hc.identified hi hp
  simp [Privilege.label, hident]

private theorem IsValidated.plain_of_mem_text (hc : c.IsValidated) (hi : c.isIdentified = true) {i : Char}
    (h : i ∈ (Privileges.text ⟨m, c⟩).toList) : i ≠ ',' ∧ Text.isDigitLike i = false := by
  rw [toList_text hi, List.mem_flatMap] at h
  obtain ⟨p, hp, h⟩ := h
  obtain ⟨j, hident, hcomma, hdigit, -⟩ := hc.identified hi (mem_of_mem_within hp)
  obtain rfl : i = j := by simpa [Privilege.label, hident] using h
  exact ⟨hcomma, hdigit⟩

/-- Characters that are left of a run, in order, are the run of some of its privileges. -/
private theorem exists_sublist_of_run {ps : List Privilege} (hsingle : ∀ p ∈ ps, p.label.toList.length = 1)
    {is : List Char} (h : is.Sublist (ps.flatMap (·.label.toList))) :
    ∃ qs : List Privilege, qs.Sublist ps ∧ is = qs.flatMap (·.label.toList) := by
  induction ps generalizing is with
  | nil => exact ⟨[], .slnil, by simpa using h⟩
  | cons p ps ih =>
    rw [List.forall_mem_cons] at hsingle
    obtain ⟨i, hi⟩ := List.length_eq_one_iff.1 hsingle.1
    rw [List.flatMap_cons, hi, List.singleton_append, List.sublist_cons_iff] at h
    rcases h with h | ⟨is', rfl, h⟩
    · obtain ⟨qs, hqs, rfl⟩ := ih hsingle.2 h
      exact ⟨qs, hqs.cons p, rfl⟩
    · obtain ⟨qs, hqs, rfl⟩ := ih hsingle.2 h
      exact ⟨p :: qs, hqs.cons_cons p, by simp [hi]⟩

/-- Only all the privileges of a mask make it up. -/
private theorem Coherent.eq_within_of_unions (hc : c.Coherent) {qs : List Privilege} (hqs : qs.Sublist (c.within m))
    (h : Mask.unions (qs.map Privilege.bit) = m) : qs = c.within m := by
  have hsubset : c.within m ⊆ qs := by
    intro p hp
    obtain ⟨hmem, hmeets⟩ := List.mem_filter.1 hp
    obtain ⟨k, hk⟩ := hc.exists_bit p hmem
    rw [hk, Mask.meets_bit, ← h, Mask.testBit_unions] at hmeets
    obtain ⟨bit, hbit, hset⟩ := hmeets
    obtain ⟨q, hq, rfl⟩ := List.mem_map.1 hbit
    have hqmem := mem_of_mem_within (hqs.subset hq)
    obtain ⟨j, hj⟩ := hc.exists_bit q hqmem
    obtain rfl : j = k := by simpa [hj] using hset
    rwa [hc.eq_of_bit_eq hmem hqmem (hk.trans hj.symm)]
  have hnodup : (c.within m).Nodup := (List.Nodup.of_map _ hc.nodup_bits).filter _
  exact hqs.eq_of_length_le (hnodup.subperm hsubset).length_le

/-- A name would stand for its privilege alone, which is written shorter. -/
private theorem IsValidated.name_ne_runOf (hc : c.IsValidated) (hi : c.isIdentified = true)
    (h : c.readToken (c.runOf m) = .ok m) : ∀ p ∈ c.privileges, p.name ≠ c.runOf m := by
  intro p hp hname
  have hread := hc.coherent.readToken_of_answersTo hp (Privilege.answersTo_iff.2 (Or.inl hname))
  rw [h, Except.ok.injEq] at hread
  obtain ⟨-, -, -, -, hlong⟩ := hc.identified hi hp
  have hlength := (Text.sublist_trim (Privileges.text ⟨m, c⟩)).length_le
  rw [toList_text hi, hread, hc.coherent.within_bit hp, List.flatMap_singleton, hc.length_label hi p hp,
    ← hread] at hlength
  rw [hname, ← String.length_toList] at hlong
  exact absurd (Nat.le_trans hlong hlength) (by decide)

/-- What is left of a run reads as the whole only if it is the whole. -/
private theorem IsValidated.runOf_eq_text (hc : c.IsValidated) (hi : c.isIdentified = true)
    (h : c.readIdentifiers (c.runOf m).toList 0 = .ok m) : c.runOf m = Privileges.text ⟨m, c⟩ := by
  have hsingle : ∀ p ∈ c.within m, p.label.toList.length = 1 :=
    fun p hp => hc.length_label hi p (mem_of_mem_within hp)
  have hsub : (c.runOf m).toList.Sublist (Privileges.text ⟨m, c⟩).toList := Text.sublist_trim _
  rw [toList_text hi] at hsub
  obtain ⟨qs, hqs, hchars⟩ := exists_sublist_of_run hsingle hsub
  rw [hchars, readIdentifiers_labels (fun q hq => hsingle q (hqs.subset hq))
    (fun q hq => hc.labelled.bitFor_label q (mem_of_mem_within (hqs.subset hq))), Except.ok.injEq] at h
  rw [← String.toList_inj, hchars, toList_text hi, hc.coherent.eq_within_of_unions hqs h]

private theorem IsValidated.isDigitRun_runOf (hc : c.IsValidated) (hi : c.isIdentified = true) :
    Text.isDigitRun (c.runOf m) = false := by
  have hsub : (c.runOf m).toList.Sublist (Privileges.text ⟨m, c⟩).toList := Text.sublist_trim _
  cases his : (c.runOf m).toList with
  | nil => simp [Text.isDigitRun, String.toList_eq_nil_iff.1 his]
  | cons i is =>
    have hmem : i ∈ (Privileges.text ⟨m, c⟩).toList := hsub.subset (by simp [his])
    simp [Text.isDigitRun, his, (hc.plain_of_mem_text hi hmem).2]

private theorem IsValidated.readTexts_run_iff (hc : c.IsValidated) (hi : c.isIdentified = true)
    (hcov : c.fullMask.covers m = true) :
    c.readTexts [Privileges.text ⟨m, c⟩] = .ok ⟨m, c⟩ ↔ c.LegibleRun m := by
  have hrun := fun (hname : ∀ p ∈ c.privileges, p.name ≠ c.runOf m) (halias : c.aliasMask (c.runOf m) = none) =>
    readToken_run hi (hc.length_label hi) (hc.isDigitRun_runOf hi) hname halias
  rw [readTexts_singleton_eq_ok_iff fun hcomma => (hc.plain_of_mem_text hi hcomma).1 rfl]
  constructor
  · rintro ⟨hne, hread⟩
    have hname := hc.name_ne_runOf hi hread
    refine ⟨hne, hname, ?_⟩
    cases halias : c.aliasMask (c.runOf m) with
    | some mask =>
      have hmask := hc.coherent.readToken_of_aliasMask halias
      exact Or.inl (congrArg some (Except.ok.inj (hmask.symm.trans hread)))
    | none => exact Or.inr ⟨rfl, hc.runOf_eq_text hi ((hrun hname halias).symm.trans hread)⟩
  · rintro ⟨hne, hname, halias | ⟨halias, hwhole⟩⟩
    · exact ⟨hne, hc.coherent.readToken_of_aliasMask halias⟩
    · refine ⟨hne, (hrun hname halias).trans ?_⟩
      rw [hwhole]
      exact hc.labelled.readIdentifiers_text hi (hc.length_label hi) hcov

/-! ### Names -/

private theorem IsValidated.legibleName_iff (hc : c.IsValidated) (hi : c.isIdentified = false)
    (hp : p ∈ c.privileges) :
    c.LegibleName p ↔ Text.trim p.name ≠ "" ∧ c.readToken (Text.trim p.name) = .ok p.bit := by
  obtain ⟨-, hempty, -⟩ := hc.named hi hp
  constructor
  · rintro (htrim | ⟨hne, halias⟩ | hnumber)
    · rw [htrim]
      exact ⟨hempty, hc.coherent.readToken_of_answersTo hp (Privilege.answersTo_iff.2 (Or.inl rfl))⟩
    · exact ⟨hne, hc.coherent.readToken_of_aliasMask halias⟩
    · have hne : Text.trim p.name ≠ "" := by
        intro h
        have hdigits := hnumber.digits
        simp [h, Text.isDigitRun] at hdigits
      have hcov := Mask.unions_covers (List.mem_map_of_mem hp : p.bit ∈ c.privileges.map Privilege.bit)
      have hrange := hc.labelled.range_of_covers (hc.wellFormed.bit_ne_zero p hp) hcov
      exact ⟨hne, hnumber.readToken_eq.trans (checkRange_eq_ok.2 ⟨rfl, hrange⟩)⟩
  · rintro ⟨hne, hread⟩
    cases readToken_eq_ok_iff.1 hread with
    | named hname =>
      obtain ⟨q, hq, hanswers, hbit⟩ := exists_of_bitFor hname
      obtain rfl := hc.coherent.eq_of_bit_eq hq hp hbit
      obtain ⟨hident, -⟩ := hc.named hi hq
      exact .itself ((Privilege.answersTo_iff.1 hanswers).resolve_right (by simp [hident])).symm
    | aliased _ halias => exact .aliased hne halias
    | number hname halias hdigits hvalue hrange =>
      obtain ⟨hmask, -⟩ := checkRange_eq_ok.1 hrange
      exact .number ⟨hname, halias, hdigits, by simp [hvalue, hmask]⟩
    | run _ _ _ hident => exact absurd hident (by simp [hi])

private theorem text_of_named (hi : c.isIdentified = false) (m : Mask) :
    Privileges.text ⟨m, c⟩ = Text.join "," ((c.within m).map Privilege.name) := by
  simp [Privileges.text, hi, Privileges.names, names]

private theorem IsValidated.readTexts_name_iff (hc : c.IsValidated) (hi : c.isIdentified = false)
    (hp : p ∈ c.privileges) : c.readTexts [Privileges.text ⟨p.bit, c⟩] = .ok ⟨p.bit, c⟩ ↔ c.LegibleName p := by
  obtain ⟨-, -, hcomma, -⟩ := hc.named hi hp
  have htext : Privileges.text ⟨p.bit, c⟩ = p.name := by
    simp [text_of_named hi, hc.coherent.within_bit hp, Text.join]
  rw [htext, readTexts_singleton_eq_ok_iff hcomma, hc.legibleName_iff hi hp]

private theorem IsValidated.readTexts_names (hc : c.IsValidated) (hi : c.isIdentified = false) (hm : m ≠ 0)
    (hcov : c.fullMask.covers m = true) (h : ∀ p ∈ c.within m, c.LegibleName p) :
    c.readTexts [Privileges.text ⟨m, c⟩] = .ok ⟨m, c⟩ := by
  have hlegible := fun p hp => (hc.legibleName_iff hi (mem_of_mem_within hp)).1 (h p hp)
  have hne : c.within m ≠ [] := by
    intro hnil
    exact hc.labelled.labels_ne_nil hm hcov (by rw [labels, hnil, List.map_nil])
  have hcomma : ∀ t ∈ (c.within m).map Privilege.name, ',' ∉ t.toList := by
    rw [List.forall_mem_map]
    intro p hp
    obtain ⟨-, -, hcomma, -⟩ := hc.named hi (mem_of_mem_within hp)
    exact hcomma
  have htokens : tokens [Privileges.text ⟨m, c⟩] = (c.within m).map fun p => Text.trim p.name := by
    rw [text_of_named hi, tokens_join (by simpa using hne) hcomma, List.map_map]
    refine List.filter_eq_self.2 (List.forall_mem_map.2 fun p hp => ?_)
    simpa using (hlegible p hp).1
  have hunion := hc.labelled.unions_within m
  rw [Mask.and_eq_left_of_covers hcov] at hunion
  apply readTexts_of_readTokens
  · rw [htokens]
    simpa using hne
  · rw [htokens, readTokens_map fun p hp => (hlegible p hp).2]
    exact congrArg Except.ok hunion

/-! ### Reading what was written -/

/-- **Which privileges are read back from what they are written as.**  In the identifier form these are the ones whose
run stands for them.  In the numeric form a single privilege is read back if its name stands for it, and several are if
all their names do. -/
theorem resolve_text_iff (hc : c.IsValidated) (active : Scheme) :
    (c.isIdentified = true → ∀ m ≠ 0, c.fullMask.covers m = true →
      (Privileges.resolve (.text (Privileges.text ⟨m, c⟩)) (some c) active = .ok ⟨m, c⟩ ↔ c.LegibleRun m)) ∧
    (c.isIdentified = false →
      (∀ p ∈ c.privileges,
        Privileges.resolve (.text (Privileges.text ⟨p.bit, c⟩)) (some c) active = .ok ⟨p.bit, c⟩ ↔ c.LegibleName p) ∧
      ∀ m ≠ 0, c.fullMask.covers m = true → (∀ p ∈ c.within m, c.LegibleName p) →
        Privileges.resolve (.text (Privileges.text ⟨m, c⟩)) (some c) active = .ok ⟨m, c⟩) := by
  simp only [resolve_text]
  refine ⟨fun hi m _ hcov => hc.readTexts_run_iff hi hcov, fun hi => ⟨fun p hp => hc.readTexts_name_iff hi hp, ?_⟩⟩
  intro m hm hcov h
  exact hc.readTexts_names hi hm hcov h

/-- A scheme with a blank identifier, and with an alias that is spelled like the privileges it stands for. -/
def blankMarked : Scheme :=
  ⟨[⟨"create", Mask.bit 0, some "c"⟩, ⟨"read", Mask.bit 1, some "r"⟩, ⟨"audit", Mask.bit 2, some " "⟩],
    .ofList [("cr", ⟨3⟩)], ∅⟩

theorem blankMarked_isValidated : blankMarked.IsValidated :=
  ⟨.map
    [(.text "privileges", .map
        [(.text "c", .text "create"), (.text "r", .text "read"), (.text " ", .text "audit")]),
     (.text "aliases", .map [(.text "cr", .list [.text "r", .text "c"])])], none, by rfl⟩

/-- A run that is an alias for itself is read back, and one that ends with the blank identifier is not. -/
theorem resolve_text_iff_for_alias_and_blank :
    blankMarked.IsValidated ∧
      Privileges.resolve (.text (Privileges.text ⟨⟨3⟩, blankMarked⟩)) (some blankMarked) Scheme.standard =
        .ok ⟨⟨3⟩, blankMarked⟩ ∧
      Privileges.resolve (.text (Privileges.text ⟨⟨5⟩, blankMarked⟩)) (some blankMarked) Scheme.standard ≠
        .ok ⟨⟨5⟩, blankMarked⟩ := by
  obtain ⟨hruns, -⟩ := resolve_text_iff blankMarked_isValidated Scheme.standard
  have hlegible : blankMarked.LegibleRun ⟨3⟩ := by decide +kernel
  have hlost : ¬blankMarked.LegibleRun ⟨5⟩ := by decide +kernel
  refine ⟨blankMarked_isValidated, ?_, ?_⟩
  · exact (hruns (by decide) ⟨3⟩ (by decide) (by decide)).2 hlegible
  · exact mt (hruns (by decide) ⟨5⟩ (by decide) (by decide)).1 hlost

/-- A name that is spelled by two identifiers takes their run, and a name without the blank at its end takes the one
with it. -/
theorem not_resolve_text_of_name_spelled_alike :
    let c : Scheme :=
      ⟨[⟨"create", Mask.bit 0, some "c"⟩, ⟨"read", Mask.bit 1, some "r"⟩, ⟨"cr", Mask.bit 2, some "x"⟩], ∅, ∅⟩
    let d : Scheme := ⟨[⟨"read ", Mask.bit 0, none⟩, ⟨"read", Mask.bit 1, none⟩], ∅, ∅⟩
    c.IsValidated ∧ c.fullMask.covers ⟨3⟩ = true ∧
      Privileges.resolve (.text (Privileges.text ⟨⟨3⟩, c⟩)) (some c) Scheme.standard = .ok ⟨⟨4⟩, c⟩ ∧
      d.IsValidated ∧ d.fullMask.covers ⟨1⟩ = true ∧
      Privileges.resolve (.text (Privileges.text ⟨⟨1⟩, d⟩)) (some d) Scheme.standard = .ok ⟨⟨2⟩, d⟩ := by
  intro c d
  have hc : c.IsValidated :=
    ⟨.map [(.text "privileges", .map
      [(.text "c", .text "create"), (.text "r", .text "read"), (.text "x", .text "cr")])], none, by rfl⟩
  have hd : d.IsValidated :=
    ⟨.map [(.text "privileges", .map [(.text "read ", .int 1), (.text "read", .int 2)])], none, by rfl⟩
  exact ⟨hc, by decide, eq_ok_of_toOption (by decide +kernel), hd, by decide, eq_ok_of_toOption (by decide +kernel)⟩

end PathAccess.Scheme
