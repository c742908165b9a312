import PathAccess.Proofs.Mask
import PathAccess.Proofs.OrderedMap
import PathAccess.Scheme.Document

/-!
# Validated schemes

A validated scheme is one that some document describes (`Scheme.IsValidated`).  Its declaration breaks no rule
(`Declaration.WellFormed`), whether its sections are the document's own or the standard ones, and so every name in it
stands for some privilege: every privilege has a bit, and every alias stands for at least one of them
(`Scheme.WellFormed`).
-/

namespace PathAccess

/-- A scheme that some document describes. -/
def Scheme.IsValidated (c : Scheme) : Prop := ∃ document origin, Scheme.ofItem document origin = .ok c

/-- No privilege and no alias of the scheme is empty. -/
structure Scheme.WellFormed (c : Scheme) : Prop where
  bit_ne_zero : ∀ p ∈ c.privileges, p.bit ≠ 0
  alias_ne_zero : ∀ token mask, c.aliasMask token = some mask → mask ≠ 0

/-- A computation that gives a value gave one in its first part. -/
theorem exists_of_bind_ok {ε α β : Type} {x : Except ε α} {f : α → Except ε β} {b : β} (h : (x >>= f) = .ok b) :
    ∃ a, x = .ok a ∧ f a = .ok b := by
  cases x with
  | error e => simp [bind, Except.bind] at h
  | ok a => exact ⟨a, rfl, h⟩

theorem eq_ok_of_toOption {α β : Type} {x : Except α β} {b : β} (h : x.toOption = some b) : x = .ok b := by
  cases x with
  | error e => simp [Except.toOption] at h
  | ok a => rw [Option.some.inj h]

namespace Scheme

theorem standard_isValidated : standard.IsValidated := ⟨.map [], none, by rfl⟩

/-- A bit that a token stands for is that of a privilege, one that answers to the token. -/
theorem exists_of_bitFor {c : Scheme} {token : String} {bit : Mask} (h : c.bitFor token = some bit) :
    ∃ p ∈ c.privileges, p.answersTo token = true ∧ p.bit = bit := by
  obtain ⟨p, hp, rfl⟩ := Option.map_eq_some_iff.1 h
  have ht := List.find?_some hp
  exact ⟨p, List.mem_reverse.1 (List.mem_of_find?_eq_some hp), ht, rfl⟩

theorem bitFor_isSome {c : Scheme} {token : String} {p : Privilege} (hp : p ∈ c.privileges)
    (ht : p.answersTo token = true) : ∃ bit, c.bitFor token = some bit := by
  have : (c.privileges.reverse.find? (·.answersTo token)).isSome = true := by
    rw [List.find?_isSome]
    exact ⟨p, List.mem_reverse.2 hp, ht⟩
  obtain ⟨q, hq⟩ := Option.isSome_iff_exists.1 this
  exact ⟨q.bit, by rw [bitFor, hq]; rfl⟩

end Scheme

namespace Declaration

/-- A declaration that breaks no rule. -/
structure WellFormed (d : Declaration) : Prop where
  privileges_ok : privilegeViolation? d.privileges = none
  references_ok : d.referenceViolation? = none

/-! ### Documents -/

private theorem shapePrivileges_ok {item : Item} {privileges : OrderedMap CodeText Designation}
    (h : shapePrivileges item = .ok privileges) : privilegeViolation? privileges = none := by
  obtain ⟨own, -, h⟩ := exists_of_bind_ok h
  split at h
  · simp [faultAt] at h
  · rename_i hv
    rw [← Except.ok.inj h]
    exact hv

private theorem both_eq_ok_iff {α β γ : Type} {f : α → β → γ} {x : Shaped α} {y : Shaped β} {c : γ} :
    both f x y = .ok c ↔ ∃ a b, x = .ok a ∧ y = .ok b ∧ f a b = c := by
  cases x <;> cases y <;> simp [both]

private theorem sectionOr_privileges {ps : List (Item × Item)} {privileges : OrderedMap CodeText Designation}
    (h : sectionOr ps "privileges" shapePrivileges standard.privileges = .ok privileges) :
    privilegeViolation? privileges = none := by
  unfold sectionOr at h
  split at h
  · exact shapePrivileges_ok h
  · rw [← Except.ok.inj h]
    decide

/-- Whether the sections of a document, all of them known, declare this. -/
structure IsRead (ps : List (Item × Item)) (d : Declaration) : Prop where
  spelled : hasUnspelledSection ps = false
  known : unknownSections ps = []
  privileges : sectionOr ps "privileges" shapePrivileges standard.privileges = .ok d.privileges
  aliases : sectionOr ps "aliases" (shapeSection "aliases" shapeList)
    (if (Value.lookup? "privileges" ps).isSome then ∅ else standard.aliases) = .ok d.aliases
  grants : sectionOr ps "grant_privileges" (shapeSection "grant_privileges" shapeGrantable)
    (if (Value.lookup? "privileges" ps).isSome then ∅ else standard.grants) = .ok d.grants
  references : d.referenceViolation? = none

theorem ofSections_eq_ok_iff {ps : List (Item × Item)} {d : Declaration} : ofSections ps = .ok d ↔ IsRead ps d := by
  constructor
  · intro h
    unfold ofSections at h
    by_cases hu : hasUnspelledSection ps = true
    · simp [hu, faultAt, bind, Except.bind] at h
    simp only [hu, Bool.false_eq_true, ↓reduceIte] at h
    obtain ⟨own, hown, h⟩ := exists_of_bind_ok h
    obtain ⟨d', _, hd, hknown, rfl⟩ := both_eq_ok_iff.1 hown
    obtain ⟨⟨privileges, aliases⟩, grants, hpa, hg, rfl⟩ := both_eq_ok_iff.1 hd
    obtain ⟨_, _, hp, ha, hpair⟩ := both_eq_ok_iff.1 hpa
    obtain ⟨rfl, rfl⟩ := Prod.mk.inj hpair
    split at h
    · simp [faultAt] at h
    · rename_i hr
      obtain rfl := Except.ok.inj h
      refine ⟨Bool.eq_false_iff.2 hu, ?_, hp, ha, hg, hr⟩
      split at hknown
      · assumption
      · simp at hknown
  · rintro ⟨hu, hknown, hp, ha, hg, hr⟩
    simp [ofSections, hu, hknown, hp, ha, hg, both, bind, Except.bind, hr]

/-- What a document declares breaks no rule. -/
theorem IsRead.wellFormed {ps : List (Item × Item)} {d : Declaration} (h : IsRead ps d) : d.WellFormed :=
  ⟨sectionOr_privileges h.privileges, h.references⟩

/-! ### Privileges -/

/-- Pairs that pass a check each, with different second parts that are all new. -/
def AllNew {α β : Type} (P : α × β → Prop) (seen : List β) (ps : List (α × β)) : Prop :=
  (∀ e ∈ ps, P e) ∧ (ps.map Prod.snd).Nodup ∧ ∀ e ∈ ps, e.2 ∉ seen

theorem allNew_cons {α β : Type} {P : α × β → Prop} {seen : List β} {e : α × β} {ps : List (α × β)} :
    AllNew P seen (e :: ps) ↔ P e ∧ e.2 ∉ seen ∧ AllNew P (e.2 :: seen) ps := by
  have hmem : (∀ f ∈ ps, f.2 ∉ e.2 :: seen) ↔ e.2 ∉ ps.map Prod.snd ∧ ∀ f ∈ ps, f.2 ∉ seen := by
    simp only [List.mem_cons, not_or, List.mem_map, not_exists, not_and]
    exact forall₂_and
  rw [AllNew, AllNew, List.forall_mem_cons, List.forall_mem_cons, List.map_cons, List.nodup_cons, hmem]
  constructor
  · rintro ⟨⟨he, hps⟩, ⟨hne, hnodup⟩, hnew, hrest⟩
    exact ⟨he, hnew, hps, hnodup, hne, hrest⟩
  · rintro ⟨he, hnew, hps, hnodup, hne, hrest⟩
    exact ⟨⟨he, hps⟩, ⟨hne, hnodup⟩, hnew, hrest⟩

theorem violationOfBits_eq_none_iff {ps : List (CodeText × Int)} {seen : List Int} :
    violationOfBits ps seen = none ↔
      AllNew (fun e => (e.1.isEmpty || e.1.contains ',' || e.1.isDigitRun) = false ∧ Mask.isSingle ⟨e.2⟩ = true)
        seen ps := by
  induction ps generalizing seen with
  | nil => simp [violationOfBits, AllNew]
  | cons e ps ih =>
    obtain ⟨name, bit⟩ := e
    rw [allNew_cons, ← ih, violationOfBits]
    cases name.isEmpty || name.contains ',' || name.isDigitRun <;> cases Mask.isSingle ⟨bit⟩ <;>
      by_cases hseen : bit ∈ seen <;> simp [hseen]

theorem violationOfNames_eq_none_iff {ps : List (CodeText × CodeText)} {seen : List CodeText} :
    violationOfNames ps seen = none ↔
      AllNew (fun e => isIdentifier e.1 = true ∧ 2 ≤ e.2.length) seen ps := by
  induction ps generalizing seen with
  | nil => simp [violationOfNames, AllNew]
  | cons e ps ih =>
    obtain ⟨identifier, name⟩ := e
    rw [allNew_cons, ← ih, violationOfNames]
    have hlong : name.length ≤ 1 ↔ ¬ 2 ≤ name.length := by omega
    cases isIdentifier identifier <;> by_cases hname : 2 ≤ name.length <;> by_cases hseen : name ∈ seen <;>
      simp [hseen, hlong, hname]

/-- The privileges that are declared by a bit. -/
def bits (d : Declaration) : List (CodeText × Int) :=
  d.privileges.entries.filterMap fun e => e.2.bit?.map fun n => (e.1, n)

theorem definitions_eq (d : Declaration) :
    d.definitions = if d.bits.length = d.privileges.size then d.bits.map fun e => ⟨e.1.text, ⟨e.2⟩, none⟩
      else identified 0 d.privileges.entries := rfl

theorem privilegeViolation_eq (d : Declaration) :
    privilegeViolation? d.privileges =
      if d.privileges.isEmpty then some .noPrivileges
      else if d.bits.isEmpty then violationOfNames (d.privileges.entries.map fun e => (e.1, e.2.text)) []
      else if d.bits.length ≠ d.privileges.size then some .mixedForms
      else violationOfBits d.bits [] := rfl

theorem WellFormed.isSingle_of_mem_bits {d : Declaration} (h : d.WellFormed) {e : CodeText × Int}
    (he : e ∈ d.bits) (hlen : d.bits.length = d.privileges.size) : Mask.isSingle ⟨e.2⟩ = true := by
  have hv := h.privileges_ok
  have hne : d.bits.isEmpty = false := List.isEmpty_eq_false_iff.2 (List.ne_nil_of_mem he)
  simp only [privilegeViolation_eq, hne, hlen, ne_eq, not_true, Bool.false_eq_true, ↓reduceIte] at hv
  split at hv
  · simp at hv
  · exact ((violationOfBits_eq_none_iff.1 hv).1 e he).2

private theorem bit_of_mem_identified {position : Nat} {entries : List (CodeText × Designation)} {p : Privilege}
    (hp : p ∈ identified position entries) : ∃ k, p.bit = Mask.bit k := by
  induction entries generalizing position with
  | nil => simp [identified] at hp
  | cons e entries ih =>
    rcases List.mem_cons.1 hp with rfl | hp
    · exact ⟨position, rfl⟩
    · exact ih hp

private theorem mem_identified (position : Nat) {entries : List (CodeText × Designation)}
    {e : CodeText × Designation} (he : e ∈ entries) :
    ∃ k, (⟨e.2.text.text, Mask.bit k, some e.1.text⟩ : Privilege) ∈ identified position entries := by
  induction entries generalizing position with
  | nil => simp at he
  | cons e' entries ih =>
    rcases List.mem_cons.1 he with rfl | he
    · exact ⟨position, by simp [identified]⟩
    · obtain ⟨k, hk⟩ := ih (position + 1) he
      exact ⟨k, List.mem_cons_of_mem _ hk⟩

/-- Every declared privilege has a bit. -/
theorem WellFormed.bit_ne_zero {d : Declaration} (h : d.WellFormed) : ∀ p ∈ d.definitions, p.bit ≠ 0 := by
  intro p hp
  rw [definitions_eq] at hp
  split at hp
  · rename_i hlen
    obtain ⟨e, he, rfl⟩ := List.mem_map.1 hp
    intro hz
    have hs := h.isSingle_of_mem_bits he hlen
    rw [show (⟨e.2⟩ : Mask) = 0 from hz] at hs
    exact absurd hs (by decide)
  · obtain ⟨k, hk⟩ := bit_of_mem_identified hp
    rw [hk]
    exact Mask.bit_ne_zero k

/-- A token that is declared has a privilege that answers to it. -/
theorem exists_of_declares {d : Declaration} {t : CodeText} (h : d.declares t = true) :
    ∃ p ∈ d.definitions, p.answersTo t.text = true := by
  obtain ⟨e, he, ht⟩ := List.any_eq_true.1 h
  simp only [Bool.or_eq_true, decide_eq_true_eq] at ht
  rw [definitions_eq]
  -- with bits for all, the token is the name of a privilege; else it is its name or its identifier
  split
  · rename_i hlen
    have hbit := (List.filterMap_length_eq_length.1 hlen) e he
    cases hd : e.2 with
    | name s => simp [hd, Designation.bit?] at hbit
    | bit n =>
      have hname : e.1 = t := by simpa [hd] using ht
      have hmem : (e.1, n) ∈ d.bits := List.mem_filterMap.2 ⟨e, he, by simp [hd, Designation.bit?]⟩
      exact ⟨_, List.mem_map_of_mem hmem, by simp [Privilege.answersTo, hname]⟩
  · obtain ⟨k, hk⟩ := mem_identified 0 he
    refine ⟨_, hk, ?_⟩
    rcases ht with rfl | ht
    · simp [Privilege.answersTo]
    · simp [Privilege.answersTo, ht, Designation.text]

/-! ### References -/

/-- Aliases break no rule if each has a name of its own and stands for tokens that are declared, at least one. -/
theorem aliasViolation_eq_none_iff {d : Declaration} {aliases : List (CodeText × List CodeText)} :
    d.aliasViolation? aliases = none ↔
      ∀ a ∈ aliases, a.2 ≠ [] ∧ d.declares a.1 = false ∧ ∀ t ∈ a.2, d.declares t = true := by
  induction aliases with
  | nil => simp [aliasViolation?]
  | cons a aliases ih =>
    obtain ⟨name, tokens⟩ := a
    rw [List.forall_mem_cons, ← ih]
    have hfind : tokens.find? (fun t => !d.declares t) = none ↔ ∀ t ∈ tokens, d.declares t = true := by simp
    rw [← hfind, aliasViolation?]
    by_cases hempty : tokens = []
    · simp [hempty]
    · cases tokens.find? fun t => !d.declares t <;> cases d.declares name <;> simp [hempty]

/-- What a grant may be: a mask within the range of masks, or tokens that are declared, at least one. -/
def IsSound (d : Declaration) : Grantable → Prop
  | .mask n => 1 ≤ n ∧ n ≤ d.base.fullMask.value
  | .tokens ts => ts ≠ [] ∧ ∀ t ∈ ts, d.declares t = true

theorem grantViolation_eq_none_iff {d : Declaration} {grants : List (CodeText × Grantable)} :
    d.grantViolation? grants = none ↔ ∀ g ∈ grants, d.declares g.1 = true ∧ d.IsSound g.2 := by
  induction grants with
  | nil => simp [grantViolation?]
  | cons g grants ih =>
    obtain ⟨key, grantable⟩ := g
    rw [List.forall_mem_cons, ← ih]
    cases grantable with
    | mask n =>
      rw [grantViolation?, IsSound]
      by_cases hn : 1 ≤ n ∧ n ≤ d.base.fullMask.value <;> cases d.declares key <;> simp [hn]
    | tokens ts =>
      have hfind : ts.find? (fun t => !d.declares t) = none ↔ ∀ t ∈ ts, d.declares t = true := by simp
      rw [IsSound, ← hfind, grantViolation?]
      by_cases hempty : ts = []
      · cases d.declares key <;> simp [hempty]
      · cases ts.find? fun t => !d.declares t <;> cases d.declares key <;> simp [hempty]

theorem referenceViolation_eq_none_iff {d : Declaration} :
    d.referenceViolation? = none ↔
      d.aliasViolation? d.aliases.entries = none ∧ d.grantViolation? d.grants.entries = none := by
  rw [referenceViolation?]
  cases d.aliasViolation? d.aliases.entries <;> simp

/-- Tokens that are declared, at least one, stand for at least one privilege. -/
theorem WellFormed.maskOf_ne_zero {d : Declaration} (h : d.WellFormed) {tokens : List CodeText}
    (hne : tokens ≠ []) (hdecl : ∀ t ∈ tokens, d.declares t = true) : maskOf d.base tokens ≠ 0 := by
  obtain ⟨t, rest, rfl⟩ := List.exists_cons_of_ne_nil hne
  obtain ⟨p, hp, ht⟩ := exists_of_declares (hdecl t (by simp))
  obtain ⟨bit, hbit⟩ := Scheme.bitFor_isSome (c := d.base) hp ht
  obtain ⟨q, hq, -, rfl⟩ := Scheme.exists_of_bitFor hbit
  have hcov : (maskOf d.base (t :: rest)).covers q.bit = true := by
    apply Mask.unions_covers
    exact List.mem_filterMap.2 ⟨t, by simp, hbit⟩
  intro hz
  rw [hz] at hcov
  exact h.bit_ne_zero q hq (Mask.eq_zero_of_zero_covers hcov)

/-- The scheme of a declaration that breaks no rule is well formed. -/
theorem WellFormed.toScheme {d : Declaration} (h : d.WellFormed) : d.toScheme.WellFormed where
  bit_ne_zero := h.bit_ne_zero
  alias_ne_zero := by
    intro token mask hm
    have hmem := OrderedMap.mem_of_get?_ofList hm
    obtain ⟨a, ha, heq⟩ := List.mem_map.1 hmem
    obtain ⟨-, rfl⟩ := Prod.mk.inj heq
    have hv := (referenceViolation_eq_none_iff.1 h.references_ok).1
    obtain ⟨hne, -, hdecl⟩ := aliasViolation_eq_none_iff.1 hv a ha
    exact h.maskOf_ne_zero hne hdecl

end Declaration

/-- A document describes a scheme if its sections declare it by names that are texts. -/
theorem Scheme.ofItem_map_eq_ok_iff {ps : List (Item × Item)} {origin : Option String} {c : Scheme} :
    ofItem (.map ps) origin = .ok c ↔
      ∃ d : Declaration, Declaration.IsRead ps d ∧ d.isSpelled = true ∧ d.toScheme = c := by
  simp only [ofItem, ← Declaration.ofSections_eq_ok_iff]
  constructor
  · intro h
    split at h
    · rename_i d hd
      split at h
      · rename_i hs
        exact ⟨d, hd, hs, Except.ok.inj h⟩
      · simp at h
    · simp at h
  · rintro ⟨d, hd, hs, rfl⟩
    simp [hd, hs]

/-- A document that describes a scheme declares it, by a declaration that breaks no rule and whose names are texts. -/
theorem Scheme.exists_of_ofItem {document : Item} {origin : Option String} {c : Scheme}
    (h : ofItem document origin = .ok c) :
    ∃ d : Declaration, d.WellFormed ∧ d.isSpelled = true ∧ d.toScheme = c := by
  cases document with
  | map ps =>
    obtain ⟨d, hread, hs, rfl⟩ := ofItem_map_eq_ok_iff.1 h
    exact ⟨d, hread.wellFormed, hs, rfl⟩
  | _ => simp [ofItem] at h

/-- A validated scheme is well formed. -/
theorem Scheme.IsValidated.wellFormed {c : Scheme} (h : c.IsValidated) : c.WellFormed := by
  obtain ⟨document, origin, h⟩ := h
  obtain ⟨d, hd, -, rfl⟩ := exists_of_ofItem h
  exact hd.toScheme

end PathAccess
