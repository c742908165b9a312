import PathAccess.Proofs.Scheme.Replacement

/-!
# Sections named without a value

`configure` may be given a section without a value.  Such a section is not written into the declaration of the active
scheme, so it makes no difference whether it is named or left out, with one exception.  Privileges that are named drop
the old aliases and grants, and they do so without a value too, although the old privileges stay.

The document that is read then differs from the one without the name only in sections that break no rule
(`Declaration.assemble_keepIf`).  So both are accepted or both refused for the same faults, and the schemes differ by
the parts that are dropped (`Registry.scheme_configure_unset`).
-/

namespace PathAccess

namespace Declaration

/-! ### Declarations with some sections dropped -/

variable {d d' : Declaration}

/-- What privileges declare together with aliases and grants that are read. -/
def assemble (privileges : OrderedMap CodeText Designation) (aliases : Shaped (OrderedMap CodeText (List CodeText)))
    (grants : Shaped (OrderedMap CodeText Grantable)) : Shaped Declaration := do
  let declaration ← both (Declaration.mk privileges) aliases grants
  match declaration.referenceViolation? with
  | some rule => faultAt [] (.rule rule)
  | none => .ok declaration

/-- A section that is kept, or else an empty one. -/
def keepIf {α β : Type} (kept : Bool) (m : OrderedMap α β) : OrderedMap α β := if kept then m else ∅

/-- The declaration with only those aliases and grants that are kept. -/
def restrict (aliases grants : Bool) (d : Declaration) : Declaration :=
  ⟨d.privileges, keepIf aliases d.aliases, keepIf grants d.grants⟩

theorem ofSections_pairs {m : OrderedMap String Item} (hm : ∀ name ∈ m.keys, name ∈ SchemeFault.sectionNames)
    {privileges : OrderedMap CodeText Designation} {item aliases grants : Item}
    (hp : m.get? "privileges" = some item) (hread : shapePrivileges item = .ok privileges)
    (ha : m.get? "aliases" = some aliases) (hg : m.get? "grant_privileges" = some grants) :
    ofSections (pairs m) = assemble privileges (shapeSection "aliases" shapeList aliases)
      (shapeSection "grant_privileges" shapeGrantable grants) := by
  simp only [ofSections, hasUnspelledSection_pairs, unknownSections_pairs_iff.2 hm, sectionOr_of_get? hp, hread,
    sectionOr_of_get? ha, sectionOr_of_get? hg, assemble]
  cases shapeSection "aliases" shapeList aliases <;>
    cases shapeSection "grant_privileges" shapeGrantable grants <;> rfl

theorem declares_congr (h : d'.privileges = d.privileges) : d'.declares = d.declares := by
  funext token
  simp only [declares, h]

theorem aliasViolation?_congr (h : d'.privileges = d.privileges) (aliases : List (CodeText × List CodeText)) :
    d'.aliasViolation? aliases = d.aliasViolation? aliases := by
  induction aliases with
  | nil => rfl
  | cons a aliases ih => rw [aliasViolation?, aliasViolation?, ih, declares_congr h]

theorem grantViolation?_congr (h : d'.privileges = d.privileges) (grants : List (CodeText × Grantable)) :
    d'.grantViolation? grants = d.grantViolation? grants := by
  have hbase : d'.base = d.base := by rw [base, definitions_congr h, base]
  induction grants with
  | nil => rfl
  | cons g grants ih =>
    obtain ⟨key, grantable⟩ := g
    cases grantable <;> simp only [grantViolation?, ih, declares_congr h, hbase]

/-- Dropping sections that break no rule does not change which rule is the first to be broken. -/
theorem referenceViolation?_restrict {aliases grants : Bool}
    (ha : aliases = false → d.aliasViolation? d.aliases.entries = none)
    (hg : grants = false → d.grantViolation? d.grants.entries = none) :
    (restrict aliases grants d).referenceViolation? = d.referenceViolation? := by
  have hsame : (restrict aliases grants d).privileges = d.privileges := rfl
  have haliases : (restrict aliases grants d).aliasViolation? (restrict aliases grants d).aliases.entries =
      d.aliasViolation? d.aliases.entries := by
    rw [aliasViolation?_congr hsame]
    cases aliases with
    | true => rfl
    | false => exact (ha rfl).symm
  have hgrants : (restrict aliases grants d).grantViolation? (restrict aliases grants d).grants.entries =
      d.grantViolation? d.grants.entries := by
    rw [grantViolation?_congr hsame]
    cases grants with
    | true => rfl
    | false => exact (hg rfl).symm
  rw [referenceViolation?, haliases, hgrants, referenceViolation?]

/-- Sections that break no rule may be dropped before the sections are put together or after. -/
theorem assemble_keepIf {privileges : OrderedMap CodeText Designation} {aliases grants : Bool}
    {as : Shaped (OrderedMap CodeText (List CodeText))} {gs : Shaped (OrderedMap CodeText Grantable)}
    (ha : aliases = false → ∃ a, as = .ok a ∧
      ∀ g, (Declaration.mk privileges a g).aliasViolation? a.entries = none)
    (hg : grants = false → ∃ g, gs = .ok g ∧
      ∀ a, (Declaration.mk privileges a g).grantViolation? g.entries = none) :
    assemble privileges (as.map (keepIf aliases)) (gs.map (keepIf grants)) =
      (assemble privileges as gs).map (restrict aliases grants) := by
  cases as with
  | error faults => cases gs <;> rfl
  | ok a =>
    cases gs with
    | error faults => rfl
    | ok g =>
      have hsame : (restrict aliases grants ⟨privileges, a, g⟩).referenceViolation? =
          (Declaration.mk privileges a g).referenceViolation? := by
        apply referenceViolation?_restrict
        · intro hdrop
          obtain ⟨a', ha', hnone⟩ := ha hdrop
          obtain rfl := Except.ok.inj ha'
          exact hnone g
        · intro hdrop
          obtain ⟨g', hg', hnone⟩ := hg hdrop
          obtain rfl := Except.ok.inj hg'
          exact hnone a
      have hleft : assemble privileges (Except.map (keepIf aliases) (.ok a)) (Except.map (keepIf grants) (.ok g)) =
          match (restrict aliases grants ⟨privileges, a, g⟩).referenceViolation? with
          | some rule => faultAt [] (.rule rule)
          | none => .ok (restrict aliases grants ⟨privileges, a, g⟩) := rfl
      have hright : assemble privileges (.ok a) (.ok g) =
          match (Declaration.mk privileges a g).referenceViolation? with
          | some rule => faultAt [] (.rule rule)
          | none => .ok ⟨privileges, a, g⟩ := rfl
      rw [hleft, hright, hsame]
      cases (Declaration.mk privileges a g).referenceViolation? <;> rfl

theorem isSpelled_restrict {aliases grants : Bool} (ha : aliases = false → d.aliases.keys.all CodeText.isSpelled) :
    (restrict aliases grants d).isSpelled = d.isSpelled := by
  cases aliases with
  | true => rfl
  | false =>
    rw [isSpelled, isSpelled, ha rfl]
    rfl

theorem toScheme_restrict (aliases grants : Bool) (d : Declaration) :
    (restrict aliases grants d).toScheme =
      ⟨d.toScheme.privileges, keepIf aliases d.toScheme.aliases, keepIf grants d.toScheme.grants⟩ := by
  cases aliases <;> cases grants <;> rfl

end Declaration

namespace Registry

open Declaration

/-! ### Sections with a value -/

def hasValue : Item → Bool
  | .null => false
  | _ => true

/-- The sections that are given with a value. -/
def valued (given : OrderedMap String Item) : OrderedMap String Item :=
  ⟨given.entries.filter fun e => hasValue e.2, given.nodup.sublist (List.filter_sublist.map _)⟩

variable {d : Declaration} {given : OrderedMap String Item}

theorem hasValue_iff {item : Item} : hasValue item = true ↔ item ≠ .null := by
  cases item <;> simp [hasValue]

theorem valued_ne_null : ∀ e ∈ (valued given).entries, e.2 ≠ .null := by
  intro e he
  exact hasValue_iff.1 (List.mem_filter.1 he).2

theorem keys_valued (hnames : ∀ name ∈ given.keys, name ∈ SchemeFault.sectionNames) :
    ∀ name ∈ (valued given).keys, name ∈ SchemeFault.sectionNames := by
  intro name hname
  obtain ⟨e, he, rfl⟩ := List.mem_map.1 hname
  exact hnames e.1 (List.mem_map_of_mem (List.mem_of_mem_filter he))

theorem get?_valued_eq_some {name : String} {item : Item} :
    (valued given).get? name = some item ↔ given.get? name = some item ∧ item ≠ .null := by
  rw [← OrderedMap.mem_entries, ← OrderedMap.mem_entries, ← hasValue_iff]
  exact List.mem_filter

theorem get?_valued_of_null {name : String} (h : given.get? name = some .null) : (valued given).get? name = none := by
  cases hv : (valued given).get? name with
  | none => rfl
  | some item =>
    obtain ⟨hitem, hne⟩ := get?_valued_eq_some.1 hv
    rw [h, Option.some.injEq] at hitem
    exact absurd hitem.symm hne

/-- Only sections with a value are written. -/
theorem mergedSections_eq (d : Declaration) (given : OrderedMap String Item) :
    mergedSections d given = (valued given).entries.foldl (fun m e => m.put e.1 e.2) (keptSections d given) := by
  rw [mergedSections, valued, List.foldl_filter]
  refine List.foldl_ext _ _ _ fun m e _ => ?_
  by_cases he : e.2 = .null
  · simp [writeSection, he, hasValue]
  · rw [writeSection_eq he, if_pos (hasValue_iff.2 he)]

theorem get?_mergedSections_valued (d : Declaration) (given : OrderedMap String Item) (name : String) :
    (mergedSections d given).get? name = ((valued given).get? name).or ((keptSections d given).get? name) := by
  rw [mergedSections_eq, OrderedMap.get?_foldl_put, OrderedMap.ofList_entries]

theorem keys_mergedSections (d : Declaration) (hnames : ∀ name ∈ given.keys, name ∈ SchemeFault.sectionNames) :
    ∀ name ∈ (mergedSections d given).keys, name ∈ SchemeFault.sectionNames := by
  intro name hname
  rw [← OrderedMap.get?_isSome_iff, get?_mergedSections_valued, Option.isSome_or, Bool.or_eq_true,
    OrderedMap.get?_isSome_iff, OrderedMap.get?_isSome_iff, keys_keptSections] at hname
  exact hname.elim (keys_valued hnames name) id

/-- The same sections are kept unless privileges are named without a value. -/
theorem mergedSections_valued (d : Declaration) (hp : given.get? "privileges" ≠ some .null) :
    mergedSections d (valued given) = mergedSections d given := by
  have hsame : (valued given).get? "privileges" = given.get? "privileges" := by
    cases hg : given.get? "privileges" with
    | none =>
      cases hv : (valued given).get? "privileges" with
      | none => rfl
      | some item => rw [(get?_valued_eq_some.1 hv).1] at hg; exact hg
    | some item => exact get?_valued_eq_some.2 ⟨hg, fun hnull => hp (hnull ▸ hg)⟩
  have hkept : keptSections d (valued given) = keptSections d given := by
    rw [keptSections, OrderedMap.contains, hsame, keptSections, OrderedMap.contains]
  have hvalued : valued (valued given) = valued given := by
    apply OrderedMap.ext_entries
    exact List.filter_eq_self.2 fun e he => (List.mem_filter.1 he).2
  rw [mergedSections_eq, mergedSections_eq, hkept, hvalued]

/-! ### Documents with unset privileges -/

/-- A section that is empty unless it is given is the old one, where that is kept. -/
private theorem shapeSection_unset {α : Type} {name : String} {shape : List Step → Item → Shaped α} {item : Item}
    {old : OrderedMap CodeText α} (hold : shapeSection name shape item = .ok old) (value : Option Item) :
    shapeSection name shape (value.getD (.map [])) =
        (shapeSection name shape (value.getD item)).map (keepIf value.isSome) ∧
      (value.isSome = false → shapeSection name shape (value.getD item) = .ok old) := by
  cases value with
  | none =>
    refine ⟨?_, fun _ => hold⟩
    rw [Option.getD_none, Option.getD_none, hold]
    rfl
  | some own =>
    refine ⟨?_, by simp⟩
    rw [Option.getD_some, Option.getD_some]
    cases shapeSection name shape own <;> rfl

theorem get?_keptSections_privileges (d : Declaration) (given : OrderedMap String Item) :
    (keptSections d given).get? "privileges" = some (sectionItem Designation.toItem d.privileges) := by
  unfold keptSections
  split <;> simp [d.get?_sections.1]

/-- Privileges without a value drop aliases and grants that have none, from what is declared otherwise. -/
theorem ofSections_unset (hd : d.WellFormed) (hnames : ∀ name ∈ given.keys, name ∈ SchemeFault.sectionNames)
    (hp : given.get? "privileges" = some .null) :
    ofSections (pairs (mergedSections d given)) =
      (ofSections (pairs (mergedSections d (valued given)))).map
        (restrict ((valued given).get? "aliases").isSome ((valued given).get? "grant_privileges").isSome) := by
  have hunset := get?_valued_of_null hp
  have hgiven : (given.get? "privileges").isSome = true := by rw [hp, Option.isSome_some]
  obtain ⟨-, haliases, hgrants⟩ := d.get?_sections
  obtain ⟨hnoAliases, hnoGrants⟩ := get?_keptSections_of_given (d := d) hgiven
  have hkept := keptSections_of_not_given (d := d) hunset
  obtain ⟨hsameAliases, holdAliases⟩ := shapeSection_unset d.shapeAliases_written ((valued given).get? "aliases")
  obtain ⟨hsameGrants, holdGrants⟩ :=
    shapeSection_unset d.shapeGrants_written ((valued given).get? "grant_privileges")
  have hread := hd.shapePrivileges_written
  -- both documents have the old privileges, but only where they are not named the old aliases and grants are kept too
  have hleft : ofSections (pairs (mergedSections d given)) = _ :=
    ofSections_pairs (keys_mergedSections d hnames)
      (by rw [get?_mergedSections_valued, hunset, Option.none_or, get?_keptSections_privileges]) hread
      (by rw [get?_mergedSections_valued, hnoAliases, Option.or_some])
      (by rw [get?_mergedSections_valued, hnoGrants, Option.or_some])
  have hright : ofSections (pairs (mergedSections d (valued given))) = _ :=
    ofSections_pairs (keys_mergedSections d (keys_valued hnames))
      (by rw [get?_mergedSections valued_ne_null, hunset, Option.none_or, get?_keptSections_privileges]) hread
      (by rw [get?_mergedSections valued_ne_null, hkept, haliases, Option.or_some])
      (by rw [get?_mergedSections valued_ne_null, hkept, hgrants, Option.or_some])
  obtain ⟨haliasRules, hgrantRules⟩ := referenceViolation_eq_none_iff.1 hd.references_ok
  rw [hleft, hright, hsameAliases, hsameGrants]
  refine assemble_keepIf (fun hdrop => ⟨_, holdAliases hdrop, fun g => ?_⟩) fun hdrop => ⟨_, holdGrants hdrop, fun a => ?_⟩
  · have hsame : (Declaration.mk d.privileges d.aliases g).privileges = d.privileges := rfl
    rw [aliasViolation?_congr hsame, haliasRules]
  · have hsame : (Declaration.mk d.privileges a d.grants).privileges = d.privileges := rfl
    rw [grantViolation?_congr hsame, hgrantRules]

theorem scheme_configure (hnames : ∀ name ∈ given.keys, name ∈ SchemeFault.sectionNames) {active : Scheme}
    (hdecl : active.declaration? = some d) :
    (Command.configure given).scheme active = Scheme.ofItem (.map (pairs (mergedSections d given))) none := by
  have hknown : given.keys.filter (fun name => !SchemeFault.sectionNames.contains name) = [] := by simpa using hnames
  rw [Command.scheme, hknown, hdecl]
  rfl

/-- The scheme without the aliases and grants that are not given. -/
def dropped (given : OrderedMap String Item) (c : Scheme) : Scheme :=
  ⟨c.privileges, keepIf (given.get? "aliases").isSome c.aliases,
    keepIf (given.get? "grant_privileges").isSome c.grants⟩

theorem scheme_configure_unset {active : Scheme} (hactive : active.IsValidated)
    (hnames : ∀ name ∈ given.keys, name ∈ SchemeFault.sectionNames) (hp : given.get? "privileges" = some .null) :
    (Command.configure given).scheme active =
      ((Command.configure (valued given)).scheme active).map (dropped (valued given)) := by
  obtain ⟨d, hdecl, hd, hs, -⟩ := hactive.exists_declaration
  rw [scheme_configure hnames hdecl, scheme_configure (keys_valued hnames) hdecl, Scheme.ofItem, Scheme.ofItem,
    ofSections_unset hd hnames hp]
  cases hread : ofSections (pairs (mergedSections d (valued given))) with
  | error faults => rfl
  | ok d' =>
    obtain ⟨-, haliases, -⟩ :=
      declared_of_not_given hd valued_ne_null (get?_valued_of_null hp) (ofSections_eq_ok_iff.1 hread)
    -- aliases that are dropped are the old ones, whose names are texts
    have hspelled : ((valued given).get? "aliases").isSome = false → d'.aliases.keys.all CodeText.isSpelled := by
      intro hdrop
      rw [haliases (by simpa using hdrop)]
      simp only [isSpelled, Bool.and_eq_true] at hs
      exact hs.2
    simp only [Except.map, isSpelled_restrict hspelled, toScheme_restrict]
    split <;> rfl

/-! ### Commands with unset sections -/

variable {r : Registry}

private theorem run_congr {command command' : Command} (h : command.scheme r.active = command'.scheme r.active) :
    r.run command = r.run command' := by
  rw [run, run, h]

/-- Sections that have no value beside unset privileges are the old ones if these are only left out. -/
private theorem active_parts (hr : r.active.IsValidated) (hp : given.get? "privileges" = some .null) {c : Scheme}
    (hc : (Command.configure (valued given)).scheme r.active = .ok c) :
    ((valued given).get? "aliases" = none → c.aliases = r.active.aliases) ∧
      ((valued given).get? "grant_privileges" = none → c.grants = r.active.grants) := by
  obtain ⟨d, hdecl, hd, -, hactive⟩ := hr.exists_declaration
  obtain ⟨-, d', hread, -, rfl⟩ := (configure_eq_ok_iff hdecl).1 hc
  rw [← hactive]
  exact (toScheme_of_not_given hd valued_ne_null (get?_valued_of_null hp) hread).2

private theorem keepIf_eq_self_iff {α β : Type} {value : Option Item} {m : OrderedMap α β} :
    keepIf value.isSome m = m ↔ (value = none → m = ∅) := by
  cases value <;> simp [keepIf, eq_comm]

private theorem dropped_eq_self_iff {c : Scheme} :
    dropped given c = c ↔ (given.get? "aliases" = none → c.aliases = ∅) ∧
      (given.get? "grant_privileges" = none → c.grants = ∅) := by
  rw [← keepIf_eq_self_iff, ← keepIf_eq_self_iff]
  obtain ⟨privileges, aliases, grants⟩ := c
  simp [dropped]

/-- **Sections without a value.**  Naming a section without a value is the same as leaving it out, for every section but
the privileges.  Naming the privileges without a value drops the aliases and grants that have none either, so it is the
same only if there are no such, or if the rest is refused. -/
theorem run_configure_unset (hr : r.active.IsValidated)
    (hnames : ∀ name ∈ given.keys, name ∈ SchemeFault.sectionNames) :
    (given.get? "privileges" ≠ some .null → r.run (.configure given) = r.run (.configure (valued given))) ∧
    (given.get? "privileges" = some .null →
      (r.run (.configure given)).2 = (r.run (.configure (valued given))).2.map (dropped (valued given)) ∧
      (r.run (.configure given) = r.run (.configure (valued given)) ↔
        ∀ c, (r.run (.configure (valued given))).2 = .ok c →
          ((valued given).get? "aliases" = none → r.active.aliases = ∅) ∧
            ((valued given).get? "grant_privileges" = none → r.active.grants = ∅))) := by
  simp only [run_snd]
  refine ⟨fun hp => run_congr ?_, fun hp => ?_⟩
  · obtain ⟨d, hdecl, -⟩ := hr.exists_declaration
    rw [scheme_configure hnames hdecl, scheme_configure (keys_valued hnames) hdecl, mergedSections_valued d hp]
  · have hdropped := scheme_configure_unset hr hnames hp
    refine ⟨hdropped, fun hsame c hc => ?_, fun hall => run_congr ?_⟩
    · have hscheme : (Command.configure given).scheme r.active = .ok c := by rw [← run_snd, hsame, run_snd, hc]
      rw [hdropped, hc] at hscheme
      obtain ⟨ha, hg⟩ := dropped_eq_self_iff.1 (Except.ok.inj hscheme)
      obtain ⟨ha', hg'⟩ := active_parts hr hp hc
      exact ⟨fun h => (ha' h).symm.trans (ha h), fun h => (hg' h).symm.trans (hg h)⟩
    · rw [hdropped]
      cases hc : (Command.configure (valued given)).scheme r.active with
      | error fault => rfl
      | ok c =>
        obtain ⟨ha, hg⟩ := hall c hc
        obtain ⟨ha', hg'⟩ := active_parts hr hp hc
        exact congrArg Except.ok (dropped_eq_self_iff.2 ⟨fun h => (ha' h).trans (ha h), fun h => (hg' h).trans (hg h)⟩)

/-- The standard scheme with its aliases replaced: unset grants stay, and they go if the privileges are unset as well. -/
theorem run_configure_unset_beside_aliases :
    let aliases : Item := .map [(.text "look", .list [.text "r"])]
    let unset : OrderedMap String Item := .ofList [("grant_privileges", .null), ("aliases", aliases)]
    let both : OrderedMap String Item :=
      .ofList [("aliases", aliases), ("privileges", .null), ("grant_privileges", .null)]
    let only : OrderedMap String Item := .ofList [("aliases", aliases)]
    let looking : Scheme := ⟨Scheme.standard.privileges, .ofList [("look", 2)], Scheme.standard.grants⟩
    initial.run (.configure unset) = initial.run (.configure only) ∧ (initial.run (.configure only)).2 = .ok looking ∧
      (initial.run (.configure both)).2 = .ok ⟨looking.privileges, looking.aliases, ∅⟩ := by
  intro aliases unset both only looking
  have hstandard : initial.active.IsValidated := Scheme.standard_isValidated
  have honly : (initial.run (.configure only)).2 = .ok looking := eq_ok_of_toOption (by decide +kernel)
  have hunset : valued unset = only := rfl
  have hboth : valued both = only := rfl
  refine ⟨?_, honly, ?_⟩
  · rw [← hunset]
    have hnone : unset.get? "privileges" = none := rfl
    exact (run_configure_unset hstandard (by decide)).1 (by simp [hnone])
  · have hnames : ∀ name ∈ both.keys, name ∈ SchemeFault.sectionNames := by decide
    have hdropped := ((run_configure_unset hstandard hnames).2 rfl).1
    rw [hdropped, hboth, honly]
    rfl

/-- Unset privileges alone: the standard scheme loses its aliases and its grants. -/
theorem not_run_configure_unset_privileges :
    let given : OrderedMap String Item := .ofList [("privileges", .null)]
    (initial.run (.configure ∅)).2 = .ok .standard ∧
      (initial.run (.configure given)).2 = .ok ⟨Scheme.standard.privileges, ∅, ∅⟩ ∧
      initial.run (.configure given) ≠ initial.run (.configure ∅) := by
  intro given
  have hleft : (initial.run (.configure ∅)).2 = .ok .standard := eq_ok_of_toOption (by decide +kernel)
  have hunset : (initial.run (.configure given)).2 = .ok ⟨Scheme.standard.privileges, ∅, ∅⟩ :=
    eq_ok_of_toOption (by decide +kernel)
  refine ⟨hleft, hunset, fun hsame => ?_⟩
  rw [hsame, hleft, Except.ok.injEq] at hunset
  exact absurd hunset (by decide)

end Registry

end PathAccess
