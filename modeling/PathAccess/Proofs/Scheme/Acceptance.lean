import PathAccess.Proofs.Scheme.TypedSections

/-!
# Which declarations are accepted

The rules for declarations with typed sections, as conditions on the sections (`Draft.Accepted`), and what an accepted
declaration describes (`Draft.Describes`).  A document with typed sections is read if and only if no other section is in
it and its sections are accepted (`TypedSections.ofItem_iff_accepted`).

The values of the privileges are all bits or all names, and either way they have to be different.  So the two forms
need no different conditions on the list, only on its parts (`Draft.IsNumeric`, `Draft.IsIdentified`).
-/

namespace PathAccess

open Declaration

namespace Draft

/-- A name that is given a bit. -/
def IsNumeric (e : String × (Int ⊕ String)) : Prop :=
  e.1 ≠ "" ∧ ',' ∉ e.1.toList ∧ Text.isDigitRun e.1 = false ∧ ∃ position, e.2 = .inl (2 ^ position : Nat)

/-- An identifier that is given a name. -/
def IsIdentified (e : String × (Int ⊕ String)) : Prop :=
  e.1.length = 1 ∧ Text.isDigitRun e.1 = false ∧ e.1 ≠ "," ∧ ∃ name : String, e.2 = .inr name ∧ 2 ≤ name.length

/-- The privileges: with their bits, or else with the bits of their positions. -/
def definitions (s : Draft) : List Privilege :=
  s.privileges.entries.zipIdx.map fun e =>
    match e.1.2 with
    | .inl bit => ⟨e.1.1, ⟨bit⟩, none⟩
    | .inr name => ⟨name, Mask.bit e.2, some e.1.1⟩

def fullMask (s : Draft) : Mask := Mask.unions (s.definitions.map Privilege.bit)

/-- Whether a token is a name or an identifier. -/
def Knows (s : Draft) (token : String) : Prop := ∃ e ∈ s.privileges.entries, e.1 = token ∨ e.2 = .inr token

/-- Whether a privilege may be allowed to hand this out. -/
def IsGrantable (s : Draft) : Int ⊕ List String → Prop
  | .inl mask => 1 ≤ mask ∧ mask ≤ s.fullMask.value
  | .inr ts => ts ≠ [] ∧ ∀ t ∈ ts, s.Knows t

/-- Whether a declaration breaks no rule. -/
structure Accepted (s : Draft) : Prop where
  privileges_ne_nil : s.privileges.entries ≠ []
  one_form : (∀ e ∈ s.privileges.entries, IsNumeric e) ∨ ∀ e ∈ s.privileges.entries, IsIdentified e
  nodup_values : (s.privileges.entries.map Prod.snd).Nodup
  aliases_known : ∀ a ∈ s.aliases.entries, a.2 ≠ [] ∧ ¬ s.Knows a.1 ∧ ∀ t ∈ a.2, s.Knows t
  grants_known : ∀ g ∈ s.grants.entries, s.Knows g.1 ∧ s.IsGrantable g.2

/-- The bit of the privilege that a token names. -/
def bitOf (s : Draft) (token : String) : Option Mask :=
  (s.definitions.find? (·.answersTo token)).map Privilege.bit

/-- All privileges that some tokens name. -/
def union (s : Draft) (ts : List String) : Mask := Mask.unions (ts.filterMap s.bitOf)

/-- What a grant stands for. -/
def granted (s : Draft) : Int ⊕ List String → Mask
  | .inl mask => ⟨mask⟩
  | .inr ts => s.union ts

/-- What the scheme of a declaration is.  Grants of one privilege, by its name and by its identifier, are taken together
at the place of the first. -/
structure Describes (s : Draft) (c : Scheme) : Prop where
  privileges_eq : c.privileges = s.definitions
  aliases_eq : c.aliases.entries = s.aliases.entries.map fun a => (a.1, s.union a.2)
  grants_keys : c.grants.keys = (s.grants.keys.filterMap s.bitOf).eraseDups
  grants_get : ∀ bit mask, c.grants.get? bit = some mask →
    mask = Mask.unions ((s.grants.entries.filter fun g => s.bitOf g.1 = some bit).map fun g => s.granted g.2)

variable {s : Draft}

/-! ### References -/

theorem declares_iff {token : String} : s.declaration.declares (.ofString token) = true ↔ s.Knows token := by
  have hvalue : ∀ v, designation v = .name (.ofString token) ↔ v = .inr token := by
    rintro (bit | name) <;> simp [designation]
  simp [declares, entries_privileges, Knows, hvalue]

theorem aliasViolation_iff : s.declaration.aliasViolation? s.declaration.aliases.entries = none ↔
    ∀ a ∈ s.aliases.entries, a.2 ≠ [] ∧ ¬ s.Knows a.1 ∧ ∀ t ∈ a.2, s.Knows t := by
  rw [aliasViolation_eq_none_iff, entries_aliases, List.forall_mem_map]
  refine forall₂_congr fun a _ => ?_
  simp only [tokens, ne_eq, List.map_eq_nil_iff, List.forall_mem_map, declares_iff, ← Bool.not_eq_true]

theorem grantViolation_iff (hfull : s.declaration.base.fullMask = s.fullMask) :
    s.declaration.grantViolation? s.declaration.grants.entries = none ↔
      ∀ g ∈ s.grants.entries, s.Knows g.1 ∧ s.IsGrantable g.2 := by
  rw [grantViolation_eq_none_iff, entries_grants, List.forall_mem_map]
  refine forall₂_congr fun g _ => ?_
  rw [declares_iff]
  refine and_congr_right fun _ => ?_
  obtain ⟨key, mask | ts⟩ := g
  · rw [IsGrantable, ← hfull]
    rfl
  · simp only [grantable, IsSound, IsGrantable, tokens, ne_eq, List.map_eq_nil_iff, List.forall_mem_map, declares_iff]

/-! ### The two forms -/

/-- The privileges are all given bits, or all given names, or there are some of both. -/
theorem entries_cases (entries : List (String × (Int ⊕ String))) :
    (∃ bits : List (String × Int), entries = bits.map fun e => (e.1, .inl e.2)) ∨
      (∃ names : List (String × String), entries = names.map fun e => (e.1, .inr e.2)) ∨
      (∃ key bit, (key, .inl bit) ∈ entries) ∧ ∃ key name, (key, .inr name) ∈ entries := by
  induction entries with
  | nil => exact Or.inl ⟨[], rfl⟩
  | cons e entries ih =>
    obtain ⟨key, value⟩ := e
    rcases ih with ⟨bits, rfl⟩ | ⟨names, rfl⟩ | ⟨⟨key', bit, hbit⟩, key'', name, hname⟩
    · rcases value with bit | name
      · exact Or.inl ⟨(key, bit) :: bits, rfl⟩
      · cases bits with
        | nil => exact Or.inr (Or.inl ⟨[(key, name)], rfl⟩)
        | cons b bits => exact Or.inr (Or.inr ⟨⟨b.1, b.2, by simp⟩, key, name, by simp⟩)
    · rcases value with bit | name
      · cases names with
        | nil => exact Or.inl ⟨[(key, bit)], rfl⟩
        | cons n names => exact Or.inr (Or.inr ⟨⟨key, bit, by simp⟩, n.1, n.2, by simp⟩)
      · exact Or.inr (Or.inl ⟨(key, name) :: names, rfl⟩)
    · exact Or.inr (Or.inr ⟨⟨key', bit, List.mem_cons_of_mem _ hbit⟩, key'', name, List.mem_cons_of_mem _ hname⟩)

/-- The condition on the privileges. -/
def HasOneForm (entries : List (String × (Int ⊕ String))) : Prop :=
  entries ≠ [] ∧ ((∀ e ∈ entries, IsNumeric e) ∨ ∀ e ∈ entries, IsIdentified e) ∧ (entries.map Prod.snd).Nodup

theorem isNumeric_inl_iff {name : String} {bit : Int} : IsNumeric (name, .inl bit) ↔
    ((CodeText.ofString name).isEmpty || (CodeText.ofString name).contains ',' || (CodeText.ofString name).isDigitRun) =
      false ∧ Mask.isSingle ⟨bit⟩ = true := by
  have hbit : Mask.isSingle ⟨bit⟩ = true ↔ ∃ position, bit = (2 ^ position : Nat) := by
    simp only [Mask.isSingle_iff, Mask.bit_eq, Mask.mk.injEq]
  have hcomma : (CodeText.ofString name).contains ',' = false ↔ ',' ∉ name.toList := by
    rw [← CodeText.contains_ofString, Bool.not_eq_true]
  rw [hbit, Bool.or_eq_false_iff, Bool.or_eq_false_iff, hcomma]
  simp [IsNumeric, and_assoc]

theorem isIdentified_inr_iff {identifier name : String} : IsIdentified (identifier, .inr name) ↔
    isIdentifier (.ofString identifier) = true ∧ 2 ≤ (CodeText.ofString name).length := by
  have hcomma : identifier.length = 1 → ((CodeText.ofString identifier).contains ',' = false ↔ identifier ≠ ",") := by
    intro hlength
    rw [← String.length_toList] at hlength
    obtain ⟨c, hc⟩ := List.length_eq_one_iff.1 hlength
    rw [← Bool.not_eq_true, CodeText.contains_ofString, hc, ne_eq, ← String.toList_inj, hc]
    simp [eq_comm]
  simp only [IsIdentified, isIdentifier, CodeText.length_ofString, CodeText.isDigitRun_ofString, Bool.and_eq_true,
    decide_eq_true_eq, Bool.not_eq_true', Sum.inr.injEq, exists_eq_left', and_assoc]
  exact and_congr_right fun hlength => and_congr_right fun _ => and_congr_left fun _ => (hcomma hlength).symm

theorem hasOneForm_bits_iff {bits : List (String × Int)} (hne : bits ≠ []) :
    HasOneForm (bits.map fun e => (e.1, .inl e.2)) ↔
      (∀ e ∈ bits, IsNumeric (e.1, .inl e.2)) ∧ (bits.map Prod.snd).Nodup := by
  have hvalues : ((bits.map fun e => (e.1, (.inl e.2 : Int ⊕ String))).map Prod.snd).Nodup ↔ (bits.map Prod.snd).Nodup := by
    have hinl : Function.Injective (Sum.inl : Int → Int ⊕ String) := fun _ _ => Sum.inl.inj
    rw [← List.nodup_map_iff hinl, List.map_map, List.map_map]
    rfl
  have hnot : ¬ ∀ e ∈ bits.map fun e => (e.1, (.inl e.2 : Int ⊕ String)), IsIdentified e := by
    obtain ⟨b, hb⟩ := List.exists_mem_of_ne_nil _ hne
    intro h
    obtain ⟨-, -, -, name, hname, -⟩ := h _ (List.mem_map_of_mem hb)
    simp at hname
  rw [HasOneForm, hvalues, or_iff_left hnot, List.forall_mem_map, and_iff_right (by simpa using hne)]

theorem hasOneForm_names_iff {names : List (String × String)} (hne : names ≠ []) :
    HasOneForm (names.map fun e => (e.1, .inr e.2)) ↔
      (∀ e ∈ names, IsIdentified (e.1, .inr e.2)) ∧ (names.map Prod.snd).Nodup := by
  have hvalues : ((names.map fun e => (e.1, (.inr e.2 : Int ⊕ String))).map Prod.snd).Nodup ↔
      (names.map Prod.snd).Nodup := by
    have hinr : Function.Injective (Sum.inr : String → Int ⊕ String) := fun _ _ => Sum.inr.inj
    rw [← List.nodup_map_iff hinr, List.map_map, List.map_map]
    rfl
  have hnot : ¬ ∀ e ∈ names.map fun e => (e.1, (.inr e.2 : Int ⊕ String)), IsNumeric e := by
    obtain ⟨n, hn⟩ := List.exists_mem_of_ne_nil _ hne
    intro h
    obtain ⟨-, -, -, position, hbit⟩ := h _ (List.mem_map_of_mem hn)
    simp at hbit
  rw [HasOneForm, hvalues, or_iff_right hnot, List.forall_mem_map, and_iff_right (by simpa using hne)]

theorem not_hasOneForm_of_mixed {entries : List (String × (Int ⊕ String))} {key key' name : String} {bit : Int}
    (hbit : (key, .inl bit) ∈ entries) (hname : (key', .inr name) ∈ entries) : ¬ HasOneForm entries := by
  rintro ⟨-, hnumeric | hidentified, -⟩
  · obtain ⟨-, -, -, position, h⟩ := hnumeric _ hname
    simp at h
  · obtain ⟨-, -, -, name, h, -⟩ := hidentified _ hbit
    simp at h

theorem bits_declaration (s : Draft) : s.declaration.bits =
    s.privileges.entries.filterMap fun e => e.2.getLeft?.map fun n => (.ofString e.1, n) := by
  have hbit : ∀ v, (designation v).bit? = v.getLeft? := by rintro (bit | name) <;> rfl
  rw [Declaration.bits, entries_privileges, List.filterMap_map]
  simp only [Function.comp_def, hbit]

theorem size_declaration (s : Draft) : s.declaration.privileges.size = s.privileges.entries.length := by
  rw [OrderedMap.size, entries_privileges, List.length_map]

theorem isEmpty_declaration (s : Draft) : s.declaration.privileges.isEmpty = true ↔ s.privileges.entries = [] := by
  rw [OrderedMap.isEmpty, entries_privileges, List.isEmpty_iff, List.map_eq_nil_iff]

theorem bits_of_bits {bits : List (String × Int)} (h : s.privileges.entries = bits.map fun e => (e.1, .inl e.2)) :
    s.declaration.bits = bits.map fun e => (.ofString e.1, e.2) := by
  rw [bits_declaration, h, List.filterMap_map]
  simp [Function.comp_def]

theorem length_bits_of_bits {bits : List (String × Int)}
    (h : s.privileges.entries = bits.map fun e => (e.1, .inl e.2)) :
    s.declaration.bits.length = s.privileges.entries.length := by
  rw [bits_of_bits h, h, List.length_map, List.length_map]

theorem bits_of_names {names : List (String × String)} (h : s.privileges.entries = names.map fun e => (e.1, .inr e.2)) :
    s.declaration.bits = [] := by
  simp [bits_declaration, h]

theorem map_text_of_names {names : List (String × String)}
    (h : s.privileges.entries = names.map fun e => (e.1, .inr e.2)) :
    s.declaration.privileges.entries.map (fun e => (e.1, e.2.text)) =
      names.map fun e => (.ofString e.1, .ofString e.2) := by
  rw [entries_privileges, h, List.map_map, List.map_map]
  rfl

/-- Privileges break no rule if they have one form. -/
theorem privilegeViolation_iff :
    privilegeViolation? s.declaration.privileges = none ↔ HasOneForm s.privileges.entries := by
  rw [privilegeViolation_eq]
  by_cases hnil : s.privileges.entries = []
  · rw [if_pos (s.isEmpty_declaration.2 hnil)]
    simp [HasOneForm, hnil]
  rw [if_neg (mt s.isEmpty_declaration.1 hnil), s.size_declaration]
  -- bits only and names only are checked one by one; of a mixture neither form is possible
  rcases entries_cases s.privileges.entries with ⟨bits, h⟩ | ⟨names, h⟩ | ⟨⟨key, bit, hbit⟩, key', name, hname⟩
  · have hne : bits ≠ [] := by rintro rfl; exact hnil h
    have hvalues : (bits.map fun e => (CodeText.ofString e.1, e.2)).map Prod.snd = bits.map Prod.snd := by simp
    rw [if_neg (by simpa [bits_of_bits h] using hne), if_neg (by simp [length_bits_of_bits h]), h, hasOneForm_bits_iff hne,
      bits_of_bits h, violationOfBits_eq_none_iff, AllNew, List.forall_mem_map, hvalues]
    simp [isNumeric_inl_iff]
  · have hne : names ≠ [] := by rintro rfl; exact hnil h
    have hnodup : ((names.map fun e => (CodeText.ofString e.1, CodeText.ofString e.2)).map Prod.snd).Nodup ↔
        (names.map Prod.snd).Nodup := by
      have hcodes : Function.Injective CodeText.ofString := fun _ _ => CodeText.ofString_injective
      rw [← List.nodup_map_iff hcodes, List.map_map, List.map_map]
      rfl
    rw [if_pos (by simp [bits_of_names h]), h, hasOneForm_names_iff hne, map_text_of_names h,
      violationOfNames_eq_none_iff, AllNew, hnodup, List.forall_mem_map]
    simp [isIdentified_inr_iff]
  · have hsome : s.declaration.bits ≠ [] := by
      rw [bits_declaration]
      exact List.ne_nil_of_mem (List.mem_filterMap.2 ⟨_, hbit, rfl⟩)
    have hlength : s.declaration.bits.length ≠ s.privileges.entries.length := by
      rw [bits_declaration]
      intro h
      have := List.filterMap_length_eq_length.1 h _ hname
      simp at this
    rw [if_neg (by simpa using hsome), if_pos hlength]
    simp [not_hasOneForm_of_mixed hbit hname]

/-! ### The privileges -/

theorem definitions_of_bits {bits : List (String × Int)}
    (h : s.privileges.entries = bits.map fun e => (e.1, .inl e.2)) :
    s.definitions = bits.map fun e => ⟨e.1, ⟨e.2⟩, none⟩ := by
  rw [definitions, h, List.zipIdx_map, List.map_map]
  conv => rhs; rw [← List.zipIdx_map_fst 0 bits, List.map_map]
  rfl

theorem definitions_of_names {names : List (String × String)}
    (h : s.privileges.entries = names.map fun e => (e.1, .inr e.2)) :
    s.definitions = names.zipIdx.map fun e => ⟨e.1.2, Mask.bit e.2, some e.1.1⟩ := by
  rw [definitions, h, List.zipIdx_map, List.map_map]
  rfl

theorem definitions_declaration (h : HasOneForm s.privileges.entries) : s.declaration.definitions = s.definitions := by
  rw [definitions_eq, s.size_declaration]
  rcases entries_cases s.privileges.entries with ⟨bits, hbits⟩ | ⟨names, hnames⟩ | ⟨⟨_, _, hbit⟩, _, _, hname⟩
  · rw [if_pos (length_bits_of_bits hbits), bits_of_bits hbits, definitions_of_bits hbits, List.map_map]
    simp [Function.comp_def]
  · have hlength : s.declaration.bits.length ≠ s.privileges.entries.length := by
      rw [bits_of_names hnames]
      exact fun h0 => h.1 (List.eq_nil_of_length_eq_zero h0.symm)
    have hentries : s.declaration.privileges.entries =
        (names.map fun e => (CodeText.ofString e.1, CodeText.ofString e.2)).map fun e => (e.1, .name e.2) := by
      rw [entries_privileges, hnames, List.map_map, List.map_map]
      rfl
    rw [if_neg hlength, hentries, identified_map_name, definitions_of_names hnames, List.zipIdx_map, List.map_map]
    simp [Function.comp_def]
  · exact absurd h (not_hasOneForm_of_mixed hbit hname)

theorem fullMask_declaration (h : HasOneForm s.privileges.entries) : s.declaration.base.fullMask = s.fullMask := by
  rw [Scheme.fullMask, base, definitions_declaration h, fullMask]

/-- A declaration is accepted if it breaks no rule. -/
theorem wellFormed_iff : s.declaration.WellFormed ↔ s.Accepted := by
  have hwf : s.declaration.WellFormed ↔ HasOneForm s.privileges.entries ∧
      s.declaration.aliasViolation? s.declaration.aliases.entries = none ∧
      s.declaration.grantViolation? s.declaration.grants.entries = none := by
    rw [← privilegeViolation_iff, ← referenceViolation_eq_none_iff]
    exact ⟨fun h => ⟨h.privileges_ok, h.references_ok⟩, fun h => ⟨h.1, h.2⟩⟩
  rw [hwf]
  constructor
  · rintro ⟨hform, haliases, hgrants⟩
    exact ⟨hform.1, hform.2.1, hform.2.2, aliasViolation_iff.1 haliases,
      (grantViolation_iff (fullMask_declaration hform)).1 hgrants⟩
  · rintro ⟨hne, hone, hnodup, haliases, hgrants⟩
    have hform : HasOneForm s.privileges.entries := ⟨hne, hone, hnodup⟩
    exact ⟨hform, aliasViolation_iff.2 haliases, (grantViolation_iff (fullMask_declaration hform)).2 hgrants⟩

/-! ### What is declared -/

namespace Accepted

theorem definitions_eq (h : s.Accepted) : s.declaration.definitions = s.definitions :=
  definitions_declaration ⟨h.privileges_ne_nil, h.one_form, h.nodup_values⟩

theorem grants_isSome (h : s.Accepted) :
    ∀ e ∈ s.declaration.grants.entries, (s.declaration.base.bitFor e.1.text).isSome = true := by
  rw [entries_grants, List.forall_mem_map]
  exact fun g hg => isSome_bitFor_of_declares (declares_iff.2 (h.grants_known g hg).1)

/-- No two privileges answer to a token, so it makes no difference whether the first one or the last is taken. -/
theorem bitFor_eq (h : s.Accepted) (token : String) : s.declaration.base.bitFor token = s.bitOf token := by
  have hprivileges : s.declaration.base.privileges = s.definitions := h.definitions_eq
  cases hfind : s.definitions.find? (·.answersTo token) with
  | some p =>
    have hp : p ∈ s.declaration.base.privileges := hprivileges ▸ List.mem_of_find?_eq_some hfind
    have ht : p.answersTo token = true := by simpa using List.find?_some hfind
    rw [(wellFormed_iff.2 h).bitFor_of_answersTo s.isSpelled_declaration hp ht, bitOf, hfind]
    rfl
  | none =>
    -- where no privilege answers, none does from the other end
    have hrev : s.definitions.reverse.find? (·.answersTo token) = none := by
      rw [List.find?_eq_none] at hfind ⊢
      exact fun p hp => hfind p (List.mem_reverse.1 hp)
    rw [bitOf, hfind, Scheme.bitFor, hprivileges, hrev]

theorem maskOf_eq (h : s.Accepted) (ts : List String) : maskOf s.declaration.base (tokens ts) = s.union ts := by
  simp only [maskOf, tokens, List.filterMap_map, Function.comp_def, CodeText.text_ofString, h.bitFor_eq, union]

theorem maskIn_eq (h : s.Accepted) (g : Int ⊕ List String) :
    maskIn s.declaration.base (grantable g) = s.granted g := by
  obtain mask | ts := g
  · rfl
  · exact h.maskOf_eq ts

theorem grantOf_eq (h : s.Accepted) (g : String × (Int ⊕ List String)) :
    grantOf s.declaration.base (.ofString g.1, grantable g.2) = ((s.bitOf g.1).getD 0, s.granted g.2) := by
  rw [grantOf, CodeText.text_ofString, h.bitFor_eq, h.maskIn_eq]

theorem exists_bitOf (h : s.Accepted) {g : String × (Int ⊕ List String)} (hg : g ∈ s.grants.entries) :
    ∃ bit, s.bitOf g.1 = some bit := by
  have hsome := h.grants_isSome _ (List.mem_map_of_mem hg)
  rw [CodeText.text_ofString, h.bitFor_eq] at hsome
  exact Option.isSome_iff_exists.1 hsome

theorem grants_keys (h : s.Accepted) :
    s.declaration.toScheme.grants.keys = (s.grants.keys.filterMap s.bitOf).eraseDups := by
  have hbits : s.grants.keys.filterMap s.bitOf = s.grants.entries.map fun g => (s.bitOf g.1).getD 0 := by
    rw [OrderedMap.keys, List.filterMap_map, List.filterMap_eq_map_iff_forall_eq_some]
    intro g hg
    obtain ⟨bit, hbit⟩ := h.exists_bitOf hg
    simp [hbit]
  rw [toScheme, keys_resolveGrants h.grants_isSome, entries_grants, List.map_map, hbits]
  simp only [Function.comp_def, h.grantOf_eq]

theorem grants_get (h : s.Accepted) {bit mask : Mask} (hmask : s.declaration.toScheme.grants.get? bit = some mask) :
    mask = Mask.unions ((s.grants.entries.filter fun g => s.bitOf g.1 = some bit).map fun g => s.granted g.2) := by
  have hget := getD_resolveGrants h.grants_isSome bit
  rw [toScheme] at hmask
  rw [hmask, Option.getD_some, entries_grants, List.filter_map, List.map_map] at hget
  simp only [Function.comp_def, h.grantOf_eq] at hget
  rw [hget]
  congr 2
  refine List.filter_congr fun g hg => ?_
  obtain ⟨b, hb⟩ := h.exists_bitOf hg
  simp [hb]

theorem describes (h : s.Accepted) : s.Describes s.declaration.toScheme where
  privileges_eq := h.definitions_eq
  aliases_eq := by
    have hentries : s.declaration.aliases.entries.map (fun e => (e.1.text, maskOf s.declaration.base e.2)) =
        s.aliases.entries.map fun a => (a.1, s.union a.2) := by
      rw [entries_aliases, List.map_map]
      simp only [Function.comp_def, CodeText.text_ofString, h.maskOf_eq]
    have hnodup : ((s.aliases.entries.map fun a => (a.1, s.union a.2)).map Prod.fst).Nodup := by
      rw [List.map_map]
      exact s.aliases.nodup
    rw [toScheme, hentries, OrderedMap.ofList_of_nodup hnodup]
  grants_keys := h.grants_keys
  grants_get := fun _ _ => h.grants_get

end Accepted

end Draft

namespace TypedSections

/-- A document with typed sections is read if and only if it has no other sections and what it declares is accepted;
then it is read as what it describes. -/
theorem ofItem_iff_accepted {t : TypedSections} {m : OrderedMap String Item} (hm : t.AreIn m)
    (origin : Option String) :
    ((∃ c, Scheme.ofItem (document m) origin = .ok c) ↔
      (∀ name ∈ m.keys, name ∈ SchemeFault.sectionNames) ∧ t.draft.Accepted) ∧
      ∀ c, Scheme.ofItem (document m) origin = .ok c → t.draft.Describes c := by
  simp only [ofItem_eq_ok_iff hm, Draft.wellFormed_iff]
  constructor
  · constructor
    · rintro ⟨c, hknown, haccepted, -⟩
      exact ⟨hknown, haccepted⟩
    · rintro ⟨hknown, haccepted⟩
      exact ⟨_, hknown, haccepted, rfl⟩
  · rintro c ⟨-, haccepted, rfl⟩
    exact haccepted.describes

/-- One privilege with two grants, by its identifier and by its name. -/
def twoGrants : TypedSections where
  privileges? := some (.ofList [("r", .inr "read"), ("w", .inr "write")])
  aliases? := none
  grants? := some (.ofList [("w", .inr ["r"]), ("write", .inl 2)])

/-- The document of these sections. -/
def twoGrantsDocument : OrderedMap String Item :=
  .ofList [("privileges", .map [(.text "r", .text "read"), (.text "w", .text "write")]),
    ("grant_privileges", .map [(.text "w", .list [.text "r"]), (.text "write", .int 2)])]

theorem ofItem_iff_accepted_two_grants :
    twoGrants.AreIn twoGrantsDocument ∧
      (∃ c, Scheme.ofItem (document twoGrantsDocument) none = .ok c ∧ c.grants.get? 2 = some 3) ∧
      twoGrants.AreIn (twoGrantsDocument.put "labels" (.map [])) ∧
      ¬ ∃ c, Scheme.ofItem (document (twoGrantsDocument.put "labels" (.map []))) none = .ok c := by
  have hin : twoGrants.AreIn twoGrantsDocument := ⟨rfl, rfl, rfl⟩
  have hmore : twoGrants.AreIn (twoGrantsDocument.put "labels" (.map [])) := ⟨rfl, rfl, rfl⟩
  have haccepted : twoGrants.draft.Accepted := Draft.wellFormed_iff.1 ⟨by decide +kernel, by decide +kernel⟩
  obtain ⟨c, hc⟩ := (ofItem_iff_accepted hin none).1.2 ⟨by decide +kernel, haccepted⟩
  have hdescribes := (ofItem_iff_accepted hin none).2 c hc
  refine ⟨hin, ⟨c, hc, ?_⟩, hmore, ?_⟩
  · have hkey : (2 : Mask) ∈ c.grants.keys := by
      rw [hdescribes.grants_keys]
      decide +kernel
    obtain ⟨mask, hmask⟩ := Option.isSome_iff_exists.1 (OrderedMap.get?_isSome_iff.2 hkey)
    rw [hmask, hdescribes.grants_get 2 mask hmask]
    decide +kernel
  · rw [(ofItem_iff_accepted hmore none).1]
    rintro ⟨hknown, -⟩
    exact absurd (hknown "labels" (by decide +kernel)) (by decide +kernel)

end TypedSections

end PathAccess
