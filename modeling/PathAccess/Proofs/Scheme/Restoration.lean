import PathAccess.Proofs.Scheme.Labels
import PathAccess.Proofs.Scheme.WrittenDeclaration

/-!
# Schemes restored from their declarations

A scheme is written back as a declaration of the same privileges, in which aliases and grants name them by their
labels, and grants of the numeric form are masks (`Declaration.normalized`).  That declaration breaks no rule and
describes the same scheme, so the document of a scheme that was read from a document is read as that scheme again
(`Scheme.ofItem_toItem_declaration`).

In the identifier form a mask of known privileges is had back from its labels, and every mask that an alias or a grant
may stand for is one of known privileges; several grants of one privilege were taken together before.  In the numeric
form a grant may have bits that no privilege has.  It keeps its mask, which is within the range of masks because no
two keys name one privilege there.
-/

namespace PathAccess

namespace Scheme

def privilegeEntry (c : Scheme) (p : Privilege) : CodeText × Designation :=
  if c.isIdentified then (.ofString p.label, .name p.name) else (.ofString p.name, .bit p.bit.value)

/-- A grant by the label of its privilege, as a declaration has it. -/
def grantEntry (c : Scheme) (e : Mask × Mask) : CodeText × Grantable :=
  (.ofString ((c.labelOf? e.1).getD ""),
    if c.isIdentified then .tokens ((c.labels e.2).map .ofString) else .mask e.2.value)

theorem grantEntries?_eq {c : Scheme} {grants : List (Mask × Mask)} (h : ∀ e ∈ grants, (c.labelOf? e.1).isSome = true) :
    c.grantEntries? grants = some (grants.map c.grantEntry) := by
  induction grants with
  | nil => rfl
  | cons e grants ih =>
    rw [List.forall_mem_cons] at h
    obtain ⟨label, hlabel⟩ := Option.isSome_iff_exists.1 h.1
    simp [grantEntries?, hlabel, ih h.2, grantEntry]

/-- The label of a bit is one by which the bit is found. -/
theorem Labelled.labelOf?_eq {c : Scheme} (hc : c.Labelled) {bit : Mask} (h : ∃ p ∈ c.privileges, p.bit = bit) :
    ∃ p ∈ c.privileges, c.labelOf? bit = some p.label ∧ c.bitFor p.label = some bit := by
  have hfind : (c.privileges.find? (·.bit = bit)).isSome = true := by
    rw [List.find?_isSome]
    simpa using h
  obtain ⟨p, hp⟩ := Option.isSome_iff_exists.1 hfind
  have hmem := List.mem_of_find?_eq_some hp
  have hbit : p.bit = bit := by simpa using List.find?_some hp
  exact ⟨p, hmem, by rw [labelOf?, hp]; rfl, hbit ▸ hc.bitFor_label p hmem⟩

end Scheme

namespace Declaration

/-! ### Resolved grants -/

def maskIn (c : Scheme) : Grantable → Mask
  | .mask n => ⟨n⟩
  | .tokens ts => maskOf c ts

def grantOf (c : Scheme) (e : CodeText × Grantable) : Mask × Mask := ((c.bitFor e.1.text).getD 0, maskIn c e.2)

theorem resolveGrants_cons (c : Scheme) {e : CodeText × Grantable} (he : (c.bitFor e.1.text).isSome = true)
    (rest : List (CodeText × Grantable)) (grants : OrderedMap Mask Mask) :
    resolveGrants c (e :: rest) grants =
      resolveGrants c rest (grants.put (grantOf c e).1 ((grants.get? (grantOf c e).1).getD 0 ||| (grantOf c e).2)) := by
  obtain ⟨key, grantable⟩ := e
  obtain ⟨bit, hbit⟩ := Option.isSome_iff_exists.1 he
  cases grantable <;> simp [resolveGrants, grantOf, maskIn, hbit]

/-- Grants of different privileges are resolved one by one. -/
theorem resolveGrants_eq {c : Scheme} {entries : List (CodeText × Grantable)}
    (hsome : ∀ e ∈ entries, (c.bitFor e.1.text).isSome = true)
    (hnodup : ((entries.map (grantOf c)).map Prod.fst).Nodup) :
    resolveGrants c entries ∅ = .ofList (entries.map (grantOf c)) := by
  -- the keys that are still to come are none of those before
  have hfold : ∀ grants : OrderedMap Mask Mask, (∀ e ∈ entries, grants.get? (grantOf c e).1 = none) →
      resolveGrants c entries grants = (entries.map (grantOf c)).foldl (fun m p => m.put p.1 p.2) grants := by
    induction entries with
    | nil => exact fun _ _ => rfl
    | cons e entries ih =>
      intro grants hfresh
      rw [List.forall_mem_cons] at hsome hfresh
      rw [List.map_cons, List.map_cons, List.nodup_cons] at hnodup
      have hzero : (0 : Mask) ||| (grantOf c e).2 = (grantOf c e).2 := Mask.ext_testBit fun k => by simp
      rw [resolveGrants_cons c hsome.1, hfresh.1, Option.getD_none, hzero, List.map_cons, List.foldl_cons]
      refine ih hsome.2 hnodup.2 _ fun f hf => ?_
      have hne : (grantOf c e).1 ≠ (grantOf c f).1 := by
        intro heq
        exact hnodup.1 (heq ▸ List.mem_map_of_mem (List.mem_map_of_mem hf))
      rw [OrderedMap.get?_put, if_neg hne]
      exact hfresh.2 f hf
  exact hfold ∅ fun _ _ => OrderedMap.get?_empty _

theorem resolveGrants_concat (c : Scheme) {e : CodeText × Grantable} (he : (c.bitFor e.1.text).isSome = true)
    (entries : List (CodeText × Grantable)) (grants : OrderedMap Mask Mask) :
    resolveGrants c (entries ++ [e]) grants = (resolveGrants c entries grants).put (grantOf c e).1
      (((resolveGrants c entries grants).get? (grantOf c e).1).getD 0 ||| (grantOf c e).2) := by
  induction entries generalizing grants with
  | nil => rw [List.nil_append, resolveGrants_cons c he]; rfl
  | cons f entries ih =>
    obtain ⟨key, grantable⟩ := f
    cases grantable <;> cases hbit : c.bitFor key.text <;> simpa only [List.cons_append, resolveGrants, hbit] using ih _

theorem keys_resolveGrants {c : Scheme} {entries : List (CodeText × Grantable)}
    (hsome : ∀ e ∈ entries, (c.bitFor e.1.text).isSome = true) :
    (resolveGrants c entries ∅).keys = (entries.map fun e => (grantOf c e).1).eraseDups := by
  induction entries using List.reverseRecOn with
  | nil => rfl
  | append_singleton entries e ih =>
    rw [List.forall_mem_append, List.forall_mem_singleton] at hsome
    rw [resolveGrants_concat c hsome.2, List.map_append]
    exact OrderedMap.keys_put_of_eraseDups (ih hsome.1) _ _

/-- Grants of one privilege are taken together. -/
theorem getD_resolveGrants {c : Scheme} {entries : List (CodeText × Grantable)}
    (hsome : ∀ e ∈ entries, (c.bitFor e.1.text).isSome = true) (bit : Mask) :
    ((resolveGrants c entries ∅).get? bit).getD 0 =
      Mask.unions ((entries.filter fun e => (grantOf c e).1 = bit).map fun e => (grantOf c e).2) := by
  induction entries using List.reverseRecOn with
  | nil => rfl
  | append_singleton entries e ih =>
    rw [List.forall_mem_append, List.forall_mem_singleton] at hsome
    rw [resolveGrants_concat c hsome.2, OrderedMap.get?_put, List.filter_append, List.map_append]
    by_cases hbit : (grantOf c e).1 = bit
    · rw [if_pos hbit, Option.getD_some, hbit, ih hsome.1]
      simp [hbit, Mask.unions]
    · rw [if_neg hbit, ih hsome.1]
      simp [hbit]

variable {d : Declaration}

theorem isSome_bitFor_of_declares {t : CodeText} (h : d.declares t = true) :
    (d.base.bitFor t.text).isSome = true := by
  obtain ⟨p, hp, ht⟩ := exists_of_declares h
  obtain ⟨bit, hbit⟩ := Scheme.bitFor_isSome (c := d.base) hp ht
  simp [hbit]

/-- What a grant of a scheme is: the bit of a privilege, and a mask that is a set of privileges in the identifier
form and within the range of masks in the numeric form. -/
structure IsGrant (d : Declaration) (e : Mask × Mask) : Prop where
  exists_privilege : ∃ p ∈ d.base.privileges, p.bit = e.1
  known : d.base.isIdentified = true → e.2 ≠ 0 ∧ d.base.fullMask.covers e.2 = true
  range : d.base.isIdentified = false → 1 ≤ e.2.value ∧ e.2.value ≤ d.base.fullMask.value

private theorem WellFormed.maskIn_of_isSound (h : d.WellFormed) (hs : d.isSpelled = true) {g : Grantable}
    (hg : d.IsSound g) :
    maskIn d.base g ≠ 0 ∧ (d.base.isIdentified = true → d.base.fullMask.covers (maskIn d.base g) = true) ∧
      1 ≤ (maskIn d.base g).value ∧ (maskIn d.base g).value ≤ d.base.fullMask.value := by
  cases g with
  | mask n =>
    refine ⟨?_, fun hi => h.covers_of_range hi hg.1 hg.2, hg⟩
    intro hz
    have hn : n = 0 := congrArg Mask.value hz
    have := hg.1
    omega
  | tokens ts =>
    have hne := h.maskOf_ne_zero hg.1 hg.2
    have hcov := Scheme.covers_maskOf d.base ts
    exact ⟨hne, fun _ => hcov, (h.labelled hs).range_of_covers hne hcov⟩

private theorem WellFormed.grants_sound (h : d.WellFormed) :
    ∀ e ∈ d.grants.entries, d.declares e.1 = true ∧ d.IsSound e.2 :=
  grantViolation_eq_none_iff.1 (referenceViolation_eq_none_iff.1 h.references_ok).2

theorem WellFormed.isSome_bitFor_grants (h : d.WellFormed) :
    ∀ e ∈ d.grants.entries, (d.base.bitFor e.1.text).isSome = true :=
  fun e he => isSome_bitFor_of_declares (h.grants_sound e he).1

private theorem exists_privilege_grantOf {e : CodeText × Grantable} (he : d.declares e.1 = true) :
    ∃ p ∈ d.base.privileges, p.bit = (grantOf d.base e).1 := by
  obtain ⟨bit, hbit⟩ := Option.isSome_iff_exists.1 (isSome_bitFor_of_declares he)
  obtain ⟨p, hp, -, rfl⟩ := Scheme.exists_of_bitFor hbit
  exact ⟨p, hp, by simp [grantOf, hbit]⟩

private theorem WellFormed.isGrant_of_identified (h : d.WellFormed) (hs : d.isSpelled = true)
    (hi : d.base.isIdentified = true) {entries : List (CodeText × Grantable)}
    (hsound : ∀ e ∈ entries, d.declares e.1 = true ∧ d.IsSound e.2) {grants : OrderedMap Mask Mask}
    (hgrants : ∀ e ∈ grants.entries, d.IsGrant e) :
    ∀ e ∈ (resolveGrants d.base entries grants).entries, d.IsGrant e := by
  induction entries generalizing grants with
  | nil => exact hgrants
  | cons f entries ih =>
    -- the grant goes to a privilege that may have one already, and both are of known privileges
    rw [List.forall_mem_cons] at hsound
    rw [resolveGrants_cons d.base (isSome_bitFor_of_declares hsound.1.1)]
    refine ih hsound.2 fun e he => ?_
    obtain ⟨hne, hcov, -⟩ := h.maskIn_of_isSound hs hsound.1.2
    rw [OrderedMap.mem_entries (k := e.1) (v := e.2), OrderedMap.get?_put] at he
    split at he
    · rename_i hkey
      have hmask := Option.some.inj he
      refine ⟨hkey ▸ exists_privilege_grantOf hsound.1.1, fun _ => hmask ▸ ⟨Mask.or_ne_zero_right _ hne, ?_⟩,
        fun hn => absurd (hi.symm.trans hn) (by decide)⟩
      rw [Mask.covers_or]
      refine ⟨?_, hcov hi⟩
      cases hold : grants.get? (grantOf d.base f).1 with
      | none => exact Mask.covers_zero _
      | some m => exact ((hgrants _ (OrderedMap.mem_entries.2 hold)).known hi).2
    · exact hgrants e (OrderedMap.mem_entries.2 he)

/-- In the numeric form different keys name different privileges. -/
private theorem WellFormed.eq_of_bitFor_eq (h : d.WellFormed) (hs : d.isSpelled = true)
    (hi : d.base.isIdentified = false) {s t : CodeText} (hds : d.declares s = true) (hdt : d.declares t = true)
    (heq : d.base.bitFor s.text = d.base.bitFor t.text) : s = t := by
  cases h.form with
  | identified names _ _ hdefs _ _ => exact absurd hi (by simp [isIdentified_of_zipIdx hdefs])
  | numeric bits _ hentries hdefs _ hnodup =>
    have hfind : ∀ t, d.declares t = true → ∃ e ∈ bits, e.1 = t ∧ d.base.bitFor t.text = some ⟨e.2⟩ := by
      intro t ht
      rw [declares, hentries, List.any_map, List.any_eq_true] at ht
      obtain ⟨e, he, ht⟩ := ht
      obtain rfl : e.1 = t := by simpa using ht
      have hmem : (⟨e.1.text, ⟨e.2⟩, none⟩ : Privilege) ∈ d.base.privileges := by
        rw [base, hdefs]
        exact List.mem_map_of_mem (f := fun e : CodeText × Int => (⟨e.1.text, ⟨e.2⟩, none⟩ : Privilege)) he
      exact ⟨e, he, rfl, (h.labelled hs).bitFor_label _ hmem⟩
    obtain ⟨e, he, rfl, hbit⟩ := hfind s hds
    obtain ⟨f, hf, rfl, hbit'⟩ := hfind t hdt
    rw [hbit, hbit', Option.some.injEq, Mask.mk.injEq] at heq
    rw [List.inj_on_of_nodup_map hnodup he hf heq]

private theorem WellFormed.isGrant_of_numeric (h : d.WellFormed) (hs : d.isSpelled = true)
    (hi : d.base.isIdentified = false) : ∀ e ∈ d.toScheme.grants.entries, d.IsGrant e := by
  have hsome := h.isSome_bitFor_grants
  have hnodup : ((d.grants.entries.map (grantOf d.base)).map Prod.fst).Nodup := by
    have hkeys : (d.grants.entries.map (grantOf d.base)).map Prod.fst =
        (d.grants.entries.map Prod.fst).map fun key => (d.base.bitFor key.text).getD 0 := by
      simp [grantOf, Function.comp_def]
    rw [hkeys]
    apply List.Nodup.map_on ?_ d.grants.nodup
    intro s hmems t hmemt heq
    obtain ⟨e, he, rfl⟩ := List.mem_map.1 hmems
    obtain ⟨f, hf, rfl⟩ := List.mem_map.1 hmemt
    apply h.eq_of_bitFor_eq hs hi (h.grants_sound e he).1 (h.grants_sound f hf).1
    obtain ⟨b, hb⟩ := Option.isSome_iff_exists.1 (hsome e he)
    obtain ⟨b', hb'⟩ := Option.isSome_iff_exists.1 (hsome f hf)
    rw [hb, hb', Option.getD_some, Option.getD_some] at heq
    rw [hb, hb', heq]
  intro e he
  have hgrants : d.toScheme.grants = .ofList (d.grants.entries.map (grantOf d.base)) := resolveGrants_eq hsome hnodup
  rw [hgrants, OrderedMap.ofList_of_nodup hnodup] at he
  obtain ⟨f, hf, rfl⟩ := List.mem_map.1 he
  obtain ⟨hkey, hsound⟩ := h.grants_sound f hf
  obtain ⟨-, -, hrange⟩ := h.maskIn_of_isSound hs hsound
  exact ⟨exists_privilege_grantOf hkey, fun hid => absurd (hi.symm.trans hid) (by decide), fun _ => hrange⟩

theorem WellFormed.isGrant (h : d.WellFormed) (hs : d.isSpelled = true) :
    ∀ e ∈ d.toScheme.grants.entries, d.IsGrant e := by
  cases hi : d.base.isIdentified with
  | true =>
    exact h.isGrant_of_identified hs hi h.grants_sound (by simp [OrderedMap.empty, EmptyCollection.emptyCollection])
  | false => exact h.isGrant_of_numeric hs hi

/-! ### Written back -/

/-- The declaration that has each privilege in its aliases and grants by its label. -/
def normalized (d : Declaration) : Declaration where
  privileges := d.privileges
  aliases := .ofList (d.toScheme.aliases.entries.map fun e => (.ofString e.1, (d.base.labels e.2).map .ofString))
  grants := .ofList (d.toScheme.grants.entries.map d.base.grantEntry)

private theorem WellFormed.map_privilegeEntry (h : d.WellFormed) (hs : d.isSpelled = true) :
    d.definitions.map d.base.privilegeEntry = d.privileges.entries := by
  have hspelled := fun e he => isSpelled_of_mem (e := e) hs he
  cases h.form with
  | numeric bits hne hentries hdefs _ _ =>
    rw [hentries] at hspelled ⊢
    rw [hdefs, List.map_map]
    apply List.map_congr_left
    intro e he
    have hkey := (hspelled _ (List.mem_map_of_mem he)).1
    simp [Scheme.privilegeEntry, isIdentified_of_bits hne hdefs, CodeText.ofString_text hkey]
  | identified names _ hentries hdefs _ _ =>
    have hnames : names = names.zipIdx.map Prod.fst := by simp
    rw [hentries] at hspelled ⊢
    rw [hdefs, List.map_map]
    -- the positions are not written
    conv => rhs; rw [hnames, List.map_map]
    apply List.map_congr_left
    intro e he
    obtain ⟨hkey, hname⟩ := hspelled _ (List.mem_map_of_mem (List.fst_mem_of_mem_zipIdx he))
    simp only [Designation.text] at hname
    simp [Scheme.privilegeEntry, isIdentified_of_zipIdx hdefs, Privilege.label, CodeText.ofString_text hkey,
      CodeText.ofString_text hname]

theorem WellFormed.declaration?_toScheme (h : d.WellFormed) (hs : d.isSpelled = true) :
    d.toScheme.declaration? = some d.normalized := by
  have hgrants : d.toScheme.grantEntries? d.toScheme.grants.entries =
      some (d.toScheme.grants.entries.map d.base.grantEntry) := by
    apply Scheme.grantEntries?_eq
    intro e he
    obtain ⟨p, -, hlabel, -⟩ := (h.labelled hs).labelOf?_eq (h.isGrant hs e he).exists_privilege
    exact Option.isSome_iff_exists.2 ⟨p.label, hlabel⟩
  have hprivileges : OrderedMap.ofList (d.definitions.map d.base.privilegeEntry) = d.privileges := by
    rw [h.map_privilegeEntry hs, OrderedMap.ofList_entries]
  rw [Scheme.declaration?, hgrants, Option.map_some, Option.some.injEq, normalized, mk.injEq]
  exact ⟨hprivileges, rfl, rfl⟩

/-! ### The same scheme -/

private theorem WellFormed.grantOf_grantEntry (h : d.WellFormed) (hs : d.isSpelled = true) {e : Mask × Mask}
    (he : d.IsGrant e) : grantOf d.base (d.base.grantEntry e) = e := by
  obtain ⟨p, -, hlabel, hbit⟩ := (h.labelled hs).labelOf?_eq he.exists_privilege
  have hmask : maskIn d.base (d.base.grantEntry e).2 = e.2 := by
    cases hi : d.base.isIdentified with
    | true =>
      simp only [Scheme.grantEntry, hi, ↓reduceIte, maskIn, (h.labelled hs).maskOf_labels]
      exact Mask.and_eq_left_of_covers (he.known hi).2
    | false => simp [Scheme.grantEntry, hi, maskIn]
  exact Prod.ext (by simp [grantOf, Scheme.grantEntry, hlabel, hbit]) hmask

private theorem WellFormed.map_grantOf (h : d.WellFormed) (hs : d.isSpelled = true) :
    (d.toScheme.grants.entries.map d.base.grantEntry).map (grantOf d.base) = d.toScheme.grants.entries := by
  rw [List.map_map]
  conv => rhs; rw [← List.map_id d.toScheme.grants.entries]
  exact List.map_congr_left fun e he => h.grantOf_grantEntry hs (h.isGrant hs e he)

private theorem WellFormed.entries_grants_normalized (h : d.WellFormed) (hs : d.isSpelled = true) :
    d.normalized.grants.entries = d.toScheme.grants.entries.map d.base.grantEntry := by
  have hnodup : ((d.toScheme.grants.entries.map d.base.grantEntry).map Prod.fst).Nodup := by
    -- the keys are different because their bits are
    apply List.Nodup.of_map fun key : CodeText => (d.base.bitFor key.text).getD 0
    have hbits : ((d.toScheme.grants.entries.map d.base.grantEntry).map Prod.fst).map
        (fun key : CodeText => (d.base.bitFor key.text).getD 0) =
        ((d.toScheme.grants.entries.map d.base.grantEntry).map (grantOf d.base)).map Prod.fst := by
      simp [grantOf, Function.comp_def]
    rw [hbits, h.map_grantOf hs]
    exact d.toScheme.grants.nodup
  rw [normalized, OrderedMap.ofList_of_nodup hnodup]

private theorem entries_aliases_normalized (d : Declaration) :
    d.normalized.aliases.entries =
      d.toScheme.aliases.entries.map fun e => (.ofString e.1, (d.base.labels e.2).map .ofString) := by
  have hnodup : ((d.toScheme.aliases.entries.map fun e =>
      (CodeText.ofString e.1, (d.base.labels e.2).map CodeText.ofString)).map Prod.fst).Nodup := by
    have hkeys : (d.toScheme.aliases.entries.map fun e =>
        (CodeText.ofString e.1, (d.base.labels e.2).map CodeText.ofString)).map Prod.fst =
        (d.toScheme.aliases.entries.map Prod.fst).map CodeText.ofString := by
      simp [Function.comp_def]
    rw [hkeys]
    exact d.toScheme.aliases.nodup.map fun _ _ => CodeText.ofString_injective
  rw [normalized, OrderedMap.ofList_of_nodup hnodup]

/-- An alias of a scheme stands for known privileges, at least one, and has a name of its own. -/
theorem WellFormed.alias_ok (h : d.WellFormed) (hs : d.isSpelled = true) {e : String × Mask}
    (he : e ∈ d.toScheme.aliases.entries) :
    d.declares (.ofString e.1) = false ∧ e.2 ≠ 0 ∧ d.base.fullMask.covers e.2 = true := by
  obtain ⟨a, ha, heq⟩ := List.mem_map.1 (OrderedMap.mem_of_get?_ofList (OrderedMap.mem_entries.1 he))
  obtain ⟨hname, hmask⟩ := Prod.mk.inj heq
  obtain ⟨hne, hown, hdecl⟩ :=
    aliasViolation_eq_none_iff.1 (referenceViolation_eq_none_iff.1 h.references_ok).1 a ha
  have hspelled : a.1.isSpelled = true := by
    simp only [isSpelled, Bool.and_eq_true, List.all_eq_true] at hs
    exact hs.2 a.1 (List.mem_map_of_mem ha)
  rw [← hname, ← hmask, CodeText.ofString_text hspelled]
  exact ⟨hown, h.maskOf_ne_zero hne hdecl, Scheme.covers_maskOf d.base a.2⟩

theorem WellFormed.toScheme_normalized (h : d.WellFormed) (hs : d.isSpelled = true) :
    d.normalized.toScheme = d.toScheme := by
  have haliases : d.normalized.toScheme.aliases = d.toScheme.aliases := by
    have hmap : (d.toScheme.aliases.entries.map fun e =>
        (CodeText.ofString e.1, (d.base.labels e.2).map CodeText.ofString)).map
        (fun e => (e.1.text, maskOf d.base e.2)) = d.toScheme.aliases.entries := by
      rw [List.map_map]
      conv => rhs; rw [← List.map_id d.toScheme.aliases.entries]
      apply List.map_congr_left
      intro e he
      obtain ⟨-, -, hcov⟩ := h.alias_ok hs he
      have hmask : maskOf d.base ((d.base.labels e.2).map CodeText.ofString) = e.2 :=
        ((h.labelled hs).maskOf_labels e.2).trans (Mask.and_eq_left_of_covers hcov)
      exact Prod.ext (CodeText.text_ofString e.1) hmask
    change OrderedMap.ofList (d.normalized.aliases.entries.map fun e => (e.1.text, maskOf d.base e.2)) = _
    rw [entries_aliases_normalized, hmap, OrderedMap.ofList_entries]
  have hgrants : d.normalized.toScheme.grants = d.toScheme.grants := by
    have hsome : ∀ e ∈ d.toScheme.grants.entries.map d.base.grantEntry, (d.base.bitFor e.1.text).isSome = true := by
      rw [List.forall_mem_map]
      intro e he
      obtain ⟨p, -, hlabel, hbit⟩ := (h.labelled hs).labelOf?_eq (h.isGrant hs e he).exists_privilege
      simp [Scheme.grantEntry, hlabel, hbit]
    have hnodup : (((d.toScheme.grants.entries.map d.base.grantEntry).map (grantOf d.base)).map Prod.fst).Nodup := by
      rw [h.map_grantOf hs]
      exact d.toScheme.grants.nodup
    change resolveGrants d.base d.normalized.grants.entries ∅ = _
    rw [h.entries_grants_normalized hs, resolveGrants_eq hsome hnodup, h.map_grantOf hs, OrderedMap.ofList_entries]
  have hparts : ∀ c c' : Scheme, c.privileges = c'.privileges → c.aliases = c'.aliases → c.grants = c'.grants →
      c = c' := by
    rintro ⟨⟩ ⟨⟩ rfl rfl rfl
    rfl
  exact hparts _ _ rfl haliases hgrants

/-! ### The written declaration breaks no rule -/

private theorem WellFormed.labels_ok (h : d.WellFormed) (hs : d.isSpelled = true) {m : Mask} (hm : m ≠ 0)
    (hcov : d.base.fullMask.covers m = true) :
    (d.base.labels m).map CodeText.ofString ≠ [] ∧
      ∀ t ∈ (d.base.labels m).map CodeText.ofString, d.declares t = true := by
  refine ⟨by simpa using (h.labelled hs).labels_ne_nil hm hcov, ?_⟩
  simp only [Scheme.labels, List.map_map, List.forall_mem_map]
  exact fun p hp => h.declares_of_answersTo hs (List.mem_of_mem_filter hp) p.answersTo_label

theorem WellFormed.normalized (h : d.WellFormed) (hs : d.isSpelled = true) : d.normalized.WellFormed := by
  refine ⟨h.privileges_ok, referenceViolation_eq_none_iff.2 ⟨?_, ?_⟩⟩
  · rw [aliasViolation_eq_none_iff, entries_aliases_normalized, List.forall_mem_map]
    intro e he
    obtain ⟨hown, hne, hcov⟩ := h.alias_ok hs he
    obtain ⟨hnil, hdecl⟩ := h.labels_ok hs hne hcov
    exact ⟨hnil, hown, hdecl⟩
  · rw [grantViolation_eq_none_iff, h.entries_grants_normalized hs, List.forall_mem_map]
    intro e he
    have hgrant := h.isGrant hs e he
    obtain ⟨p, hp, hlabel, -⟩ := (h.labelled hs).labelOf?_eq hgrant.exists_privilege
    refine ⟨?_, ?_⟩
    · rw [Scheme.grantEntry, hlabel]
      exact h.declares_of_answersTo hs hp p.answersTo_label
    · cases hi : d.base.isIdentified with
      | true =>
        obtain ⟨hne, hcov⟩ := hgrant.known hi
        simp only [Scheme.grantEntry, hi]
        exact h.labels_ok hs hne hcov
      | false =>
        simp only [Scheme.grantEntry, hi]
        exact hgrant.range hi

theorem isSpelled_normalized (hs : d.isSpelled = true) : d.normalized.isSpelled = true := by
  simp only [isSpelled, Bool.and_eq_true] at hs ⊢
  refine ⟨hs.1, ?_⟩
  rw [OrderedMap.keys, entries_aliases_normalized]
  simp

end Declaration

/-- The declaration of a validated scheme breaks no rule and describes the scheme. -/
theorem Scheme.IsValidated.exists_declaration {c : Scheme} (h : c.IsValidated) :
    ∃ d : Declaration, c.declaration? = some d ∧ d.WellFormed ∧ d.isSpelled = true ∧ d.toScheme = c := by
  obtain ⟨document, origin, h⟩ := h
  obtain ⟨d, hd, hs, rfl⟩ := exists_of_ofItem h
  exact ⟨d.normalized, hd.declaration?_toScheme hs, hd.normalized hs, Declaration.isSpelled_normalized hs,
    hd.toScheme_normalized hs⟩

/-- A scheme that was read from a document has a declaration, and the document of it is read as the same scheme. -/
theorem Scheme.ofItem_toItem_declaration {document : Item} {origin : Option String} {c : Scheme}
    (h : ofItem document origin = .ok c) (origin' : Option String) :
    ∃ d, c.declaration? = some d ∧ ofItem d.toItem origin' = .ok c := by
  obtain ⟨d, hd, hs, rfl⟩ := exists_of_ofItem h
  refine ⟨d.normalized, hd.declaration?_toScheme hs, ?_⟩
  rw [(hd.normalized hs).ofItem_toItem (Declaration.isSpelled_normalized hs), hd.toScheme_normalized hs]

/-- Two grants of one privilege, one by its identifier with a mask and one by its name, are written as one. -/
theorem Scheme.ofItem_toItem_declaration_of_two_grants :
    let document : Item := .map
      [(.text "privileges", .map [(.text "r", .text "read"), (.text "w", .text "write")]),
       (.text "aliases", .map [(.text "all", .tuple [.text "write", .text "r"])]),
       (.text "grant_privileges", .map [(.text "w", .int 1), (.text "write", .list [.text "w"])])]
    let c : Scheme := ⟨[⟨"read", Mask.bit 0, some "r"⟩, ⟨"write", Mask.bit 1, some "w"⟩],
      .ofList [("all", ⟨3⟩)], .ofList [(Mask.bit 1, ⟨3⟩)]⟩
    ofItem document none = .ok c ∧
      ∃ d, c.declaration? = some d ∧ d.grants.entries = [(.ofString "w", .tokens ["r", "w"])] ∧
        ofItem d.toItem none = .ok c := by
  intro document c
  have hread : ofItem document none = .ok c := by rfl
  obtain ⟨d, hd, hback⟩ := ofItem_toItem_declaration hread none
  have hgrants : c.declaration?.map (·.grants.entries) = some [(.ofString "w", .tokens ["r", "w"])] := by decide +kernel
  rw [hd, Option.map_some, Option.some.injEq] at hgrants
  exact ⟨hread, d, hd, hgrants, hback⟩

end PathAccess
