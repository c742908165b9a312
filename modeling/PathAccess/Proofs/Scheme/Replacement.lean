import PathAccess.Proofs.Item
import PathAccess.Proofs.Scheme.Restoration

/-!
# Replaced sections

`configure` writes the active scheme as a document, replaces the given sections of it and reads the result.  The other
sections come back as they were written (`Registry.get?_mergedSections`): without new privileges their tokens stand for
the same masks as before, so the parts of the scheme that are not given stay, and tokens in the given ones stand for the
privileges that are active (`Registry.AliasesOf`, `Registry.GrantsOf`).  With new privileges the old aliases and grants
are dropped, and the result is what the given sections describe by themselves (`Registry.configure_replaces_given`).
-/

namespace PathAccess

/-! ### Documents by their sections -/

namespace Declaration

/-- The pairs of a document with these sections. -/
def pairs (m : OrderedMap String Item) : List (Item × Item) := m.entries.map fun e => (.text e.1, e.2)

theorem lookup?_pairs (m : OrderedMap String Item) (name : String) : Value.lookup? name (pairs m) = m.get? name := by
  have hlookup := Value.lookup?_entries m id name
  rwa [Option.map_id] at hlookup

theorem sectionOr_of_get? {α : Type} {m : OrderedMap String Item} {name : String} {item : Item}
    (h : m.get? name = some item) (shape : Item → Shaped α) (default : α) :
    sectionOr (pairs m) name shape default = shape item := by
  rw [sectionOr, lookup?_pairs, h]

theorem sectionOr_of_get?_eq_none {α : Type} {m : OrderedMap String Item} {name : String} (h : m.get? name = none)
    (shape : Item → Shaped α) (default : α) : sectionOr (pairs m) name shape default = .ok default := by
  rw [sectionOr, lookup?_pairs, h]

theorem hasUnspelledSection_pairs (m : OrderedMap String Item) : hasUnspelledSection (pairs m) = false := by
  simp [hasUnspelledSection, pairs]

theorem unknownSections_pairs_iff {m : OrderedMap String Item} :
    unknownSections (pairs m) = [] ↔ ∀ name ∈ m.keys, name ∈ SchemeFault.sectionNames := by
  rw [unknownSections, pairs, List.filterMap_map, List.filterMap_eq_nil_iff, OrderedMap.keys, List.forall_mem_map]
  exact forall₂_congr fun e _ => by simp

theorem get?_sections (d : Declaration) :
    d.sections.get? "privileges" = some (sectionItem Designation.toItem d.privileges) ∧
      d.sections.get? "aliases" = some (sectionItem (fun ts => .list (ts.map .ofCodes)) d.aliases) ∧
      d.sections.get? "grant_privileges" = some (sectionItem Grantable.toItem d.grants) := by
  simp [← OrderedMap.mem_entries, entries_sections]

theorem keys_sections (d : Declaration) : d.sections.keys = SchemeFault.sectionNames := by
  rw [OrderedMap.keys, entries_sections]
  rfl

/-- The same privileges are declared by the same part. -/
theorem definitions_congr {d d' : Declaration} (h : d'.privileges = d.privileges) : d'.definitions = d.definitions := by
  simp only [definitions, h]

end Declaration

namespace Registry

open Declaration

/-! ### Sections written into a declaration -/

/-- The sections of a declaration that are kept beside the given ones; the names for old privileges are not. -/
def keptSections (d : Declaration) (given : OrderedMap String Item) : OrderedMap String Item :=
  if given.contains "privileges" then (d.sections.put "aliases" (.map [])).put "grant_privileges" (.map [])
  else d.sections

/-- Writes a section that has a value. -/
def writeSection (m : OrderedMap String Item) (e : String × Item) : OrderedMap String Item :=
  match e.2 with
  | .null => m
  | value => m.put e.1 value

def mergedSections (d : Declaration) (given : OrderedMap String Item) : OrderedMap String Item :=
  given.entries.foldl writeSection (keptSections d given)

theorem merged_eq (d : Declaration) (given : OrderedMap String Item) :
    merged d given = .map (pairs (mergedSections d given)) := rfl

theorem writeSection_eq {m : OrderedMap String Item} {e : String × Item} (he : e.2 ≠ .null) :
    writeSection m e = m.put e.1 e.2 := by
  unfold writeSection
  split
  · rename_i hnull
    exact absurd hnull he
  · rfl

variable {d : Declaration} {given : OrderedMap String Item}

/-- A given section takes the place of the kept one. -/
theorem get?_mergedSections (hgiven : ∀ e ∈ given.entries, e.2 ≠ .null) (name : String) :
    (mergedSections d given).get? name = (given.get? name).or ((keptSections d given).get? name) := by
  have hput : mergedSections d given =
      given.entries.foldl (fun m e => m.put e.1 e.2) (keptSections d given) :=
    List.foldl_ext _ _ _ fun _ e he => writeSection_eq (hgiven e he)
  rw [hput, OrderedMap.get?_foldl_put, OrderedMap.ofList_entries]

theorem keptSections_of_not_given (hp : given.get? "privileges" = none) : keptSections d given = d.sections := by
  simp [keptSections, OrderedMap.contains, hp]

theorem get?_keptSections_of_given (hp : (given.get? "privileges").isSome = true) :
    (keptSections d given).get? "aliases" = some (.map []) ∧
      (keptSections d given).get? "grant_privileges" = some (.map []) := by
  simp [keptSections, OrderedMap.contains, hp]

theorem keys_keptSections (d : Declaration) (given : OrderedMap String Item) :
    (keptSections d given).keys = SchemeFault.sectionNames := by
  unfold keptSections
  split <;> simp [OrderedMap.keys_put, keys_sections, SchemeFault.sectionNames]

theorem mem_sectionNames_of_mergedSections (hgiven : ∀ e ∈ given.entries, e.2 ≠ .null)
    (hnames : ∀ name ∈ given.keys, name ∈ SchemeFault.sectionNames) :
    ∀ name ∈ (mergedSections d given).keys, name ∈ SchemeFault.sectionNames := by
  intro name hname
  rw [← OrderedMap.get?_isSome_iff, get?_mergedSections hgiven, Option.isSome_or, Bool.or_eq_true,
    OrderedMap.get?_isSome_iff, OrderedMap.get?_isSome_iff, keys_keptSections] at hname
  exact hname.elim (hnames name) id

/-- What a command that replaces sections reads. -/
theorem configure_eq_ok_iff {active c : Scheme} (hdecl : active.declaration? = some d) :
    (Command.configure given).scheme active = .ok c ↔
      (∀ name ∈ given.keys, name ∈ SchemeFault.sectionNames) ∧
        ∃ d' : Declaration, IsRead (pairs (mergedSections d given)) d' ∧ d'.isSpelled = true ∧ d'.toScheme = c := by
  have hnames : given.keys.filter (fun name => !SchemeFault.sectionNames.contains name) = [] ↔
      ∀ name ∈ given.keys, name ∈ SchemeFault.sectionNames := by simp
  have hread := @Scheme.ofItem_map_eq_ok_iff (pairs (mergedSections d given)) none c
  rw [← hread, ← merged_eq, ← hnames, Command.scheme, hdecl]
  split
  · rename_i hknown
    exact (and_iff_right hknown).symm
  · rename_i hunknown
    exact ⟨fun h => by simp at h, fun h => absurd h.1 hunknown⟩

/-- Without new privileges, what is not given is declared as before. -/
theorem declared_of_not_given {d' : Declaration} (hd : d.WellFormed) (hgiven : ∀ e ∈ given.entries, e.2 ≠ .null)
    (hp : given.get? "privileges" = none) (hread : IsRead (pairs (mergedSections d given)) d') :
    d'.privileges = d.privileges ∧ (given.get? "aliases" = none → d'.aliases = d.aliases) ∧
      (given.get? "grant_privileges" = none → d'.grants = d.grants) := by
  obtain ⟨hprivileges, haliases, hgrants⟩ := d.get?_sections
  have hget : ∀ name, given.get? name = none → (mergedSections d given).get? name = d.sections.get? name := by
    intro name hname
    rw [get?_mergedSections hgiven, hname, keptSections_of_not_given hp, Option.none_or]
  refine ⟨?_, fun ha => ?_, fun hg => ?_⟩
  · have h := hread.privileges
    rw [sectionOr_of_get? ((hget _ hp).trans hprivileges), hd.shapePrivileges_written] at h
    exact (Except.ok.inj h).symm
  · have h := hread.aliases
    rw [sectionOr_of_get? ((hget _ ha).trans haliases), d.shapeAliases_written] at h
    exact (Except.ok.inj h).symm
  · have h := hread.grants
    rw [sectionOr_of_get? ((hget _ hg).trans hgrants), d.shapeGrants_written] at h
    exact (Except.ok.inj h).symm

/-- With new privileges, a section is empty if it is not given. -/
theorem sectionOr_mergedSections {α : Type} (hgiven : ∀ e ∈ given.entries, e.2 ≠ .null) {name : String}
    (hname : (keptSections d given).get? name = some (.map [])) (shape : List Step → Item → Shaped α)
    (default : OrderedMap CodeText α) :
    sectionOr (pairs (mergedSections d given)) name (shapeSection name shape) default =
      sectionOr (pairs given) name (shapeSection name shape) ∅ := by
  have hget := get?_mergedSections (d := d) hgiven name
  cases hown : given.get? name with
  | some item =>
    rw [hown, Option.some_or] at hget
    rw [sectionOr_of_get? hget, sectionOr_of_get? hown]
  | none =>
    rw [hown, Option.none_or, hname] at hget
    rw [sectionOr_of_get? hget, sectionOr_of_get?_eq_none hown]
    rfl

/-- With new privileges, nothing is declared but by the given sections. -/
theorem isRead_mergedSections_iff {d' : Declaration} (hgiven : ∀ e ∈ given.entries, e.2 ≠ .null)
    (hnames : ∀ name ∈ given.keys, name ∈ SchemeFault.sectionNames) (hp : (given.get? "privileges").isSome = true) :
    IsRead (pairs (mergedSections d given)) d' ↔ IsRead (pairs given) d' := by
  obtain ⟨haliases, hgrants⟩ := get?_keptSections_of_given (d := d) hp
  obtain ⟨item, hitem⟩ := Option.isSome_iff_exists.1 hp
  have hmerged : (mergedSections d given).get? "privileges" = some item := by
    rw [get?_mergedSections hgiven, hitem, Option.some_or]
  have hknown := unknownSections_pairs_iff.2 (mem_sectionNames_of_mergedSections (d := d) hgiven hnames)
  constructor
  · rintro ⟨-, -, hp', ha', hg', hr⟩
    rw [sectionOr_of_get? hmerged] at hp'
    rw [sectionOr_mergedSections hgiven haliases] at ha'
    rw [sectionOr_mergedSections hgiven hgrants] at hg'
    refine ⟨hasUnspelledSection_pairs given, unknownSections_pairs_iff.2 hnames, ?_, ?_, ?_, hr⟩
    · rw [sectionOr_of_get? hitem, hp']
    · rw [lookup?_pairs, if_pos hp, ha']
    · rw [lookup?_pairs, if_pos hp, hg']
  · rintro ⟨-, -, hp', ha', hg', hr⟩
    rw [sectionOr_of_get? hitem] at hp'
    rw [lookup?_pairs, if_pos hp] at ha' hg'
    refine ⟨hasUnspelledSection_pairs _, hknown, ?_, ?_, ?_, hr⟩
    · rw [sectionOr_of_get? hmerged, hp']
    · rw [sectionOr_mergedSections hgiven haliases, ha']
    · rw [sectionOr_mergedSections hgiven hgrants, hg']

/-- Without new privileges, the parts of the scheme that are not given stay. -/
theorem toScheme_of_not_given {d' : Declaration} (hd : d.WellFormed) (hgiven : ∀ e ∈ given.entries, e.2 ≠ .null)
    (hp : given.get? "privileges" = none) (hread : IsRead (pairs (mergedSections d given)) d') :
    d'.toScheme.privileges = d.toScheme.privileges ∧
      (given.get? "aliases" = none → d'.toScheme.aliases = d.toScheme.aliases) ∧
      (given.get? "grant_privileges" = none → d'.toScheme.grants = d.toScheme.grants) := by
  obtain ⟨hprivileges, haliases, hgrants⟩ := declared_of_not_given hd hgiven hp hread
  have hbase : d'.base = d.base := by rw [base, definitions_congr hprivileges, base]
  refine ⟨definitions_congr hprivileges, fun ha => ?_, fun hg => ?_⟩
  · simp only [toScheme, hbase, haliases ha]
  · simp only [toScheme, hbase, hgrants hg]

/-- What a given section declares is read from it alone. -/
theorem declared_of_given {d' : Declaration} (hgiven : ∀ e ∈ given.entries, e.2 ≠ .null)
    (hread : IsRead (pairs (mergedSections d given)) d') (item : Item) :
    (given.get? "aliases" = some item → shapeSection "aliases" shapeList item = .ok d'.aliases) ∧
      (given.get? "grant_privileges" = some item → shapeSection "grant_privileges" shapeGrantable item = .ok d'.grants) := by
  have hget : ∀ name, given.get? name = some item → (mergedSections d given).get? name = some item := by
    intro name hname
    rw [get?_mergedSections hgiven, hname, Option.some_or]
  constructor
  · intro ha
    have h := hread.aliases
    rwa [sectionOr_of_get? (hget _ ha)] at h
  · intro hg
    have h := hread.grants
    rwa [sectionOr_of_get? (hget _ hg)] at h

/-- Aliases that a section declares, under the privileges of a scheme. -/
def AliasesOf (c : Scheme) (item : Item) (aliases : OrderedMap String Mask) : Prop :=
  ∃ declared, shapeSection "aliases" shapeList item = .ok declared ∧
    aliases = .ofList (declared.entries.map fun e => (e.1.text, maskOf c e.2))

/-- Grants that a section declares, under the privileges of a scheme.  Those of one privilege are taken together at the
place of the first. -/
def GrantsOf (c : Scheme) (item : Item) (grants : OrderedMap Mask Mask) : Prop :=
  ∃ declared, shapeSection "grant_privileges" shapeGrantable item = .ok declared ∧
    grants.keys = (declared.entries.map fun e => (grantOf c e).1).eraseDups ∧
    ∀ bit, (grants.get? bit).getD 0 =
      Mask.unions ((declared.entries.filter fun e => (grantOf c e).1 = bit).map fun e => (grantOf c e).2)

/-- Without new privileges, the tokens in a given section name active ones. -/
theorem toScheme_of_sections {d' : Declaration} {active : Scheme} (hgiven : ∀ e ∈ given.entries, e.2 ≠ .null)
    (hread : IsRead (pairs (mergedSections d given)) d') (hbase : d'.base = ⟨active.privileges, ∅, ∅⟩) (item : Item) :
    (given.get? "aliases" = some item → AliasesOf active item d'.toScheme.aliases) ∧
      (given.get? "grant_privileges" = some item → GrantsOf active item d'.toScheme.grants) := by
  obtain ⟨haliases, hgrants⟩ := declared_of_given hgiven hread item
  have hmask : ∀ tokens, maskOf d'.base tokens = maskOf active tokens := by
    intro tokens
    rw [hbase]
    rfl
  have hgrant : ∀ e, grantOf d'.base e = grantOf active e := by
    rintro ⟨key, mask | tokens⟩ <;> rw [hbase] <;> rfl
  refine ⟨fun ha => ⟨d'.aliases, haliases ha, ?_⟩, fun hg => ⟨d'.grants, hgrants hg, ?_, fun bit => ?_⟩⟩
  · simp only [toScheme, hmask]
  · simp only [toScheme, keys_resolveGrants hread.wellFormed.isSome_bitFor_grants, hgrant]
  · simp only [toScheme, getD_resolveGrants hread.wellFormed.isSome_bitFor_grants, hgrant]

/-- Aliases and grants that are not given beside new privileges are none. -/
theorem toScheme_of_given {d' : Declaration} (hp : (given.get? "privileges").isSome = true)
    (hread : IsRead (pairs given) d') :
    (given.get? "aliases" = none → d'.toScheme.aliases = ∅) ∧
      (given.get? "grant_privileges" = none → d'.toScheme.grants = ∅) := by
  have hown : (Value.lookup? "privileges" (pairs given)).isSome = true := by rw [lookup?_pairs, hp]
  constructor
  · intro ha
    have haliases := hread.aliases
    rw [if_pos hown, sectionOr_of_get?_eq_none ha] at haliases
    rw [toScheme, ← Except.ok.inj haliases]
    rfl
  · intro hg
    have hgrants := hread.grants
    rw [if_pos hown, sectionOr_of_get?_eq_none hg] at hgrants
    rw [toScheme, ← Except.ok.inj hgrants]
    rfl

theorem run_snd (r : Registry) (command : Command) : (r.run command).2 = command.scheme r.active := by
  unfold run
  split <;> simp_all

/-- Replacing sections replaces exactly the given ones.  Without new privileges a given section is read under the active
ones, and the others stay.  With new privileges the others are dropped, and the command makes active what the given
sections describe by themselves, if they describe anything. -/
theorem configure_replaces_given {r : Registry} (hr : r.active.IsValidated)
    (hgiven : ∀ e ∈ given.entries, e.2 ≠ .null) (c : Scheme) :
    ((given.get? "privileges").isSome = true →
      ((r.run (.configure given)).2 = .ok c ↔ Scheme.ofItem (document given) none = .ok c)) ∧
    ((r.run (.configure given)).2 = .ok c →
      (r.run (.configure given)).1.active = c ∧
        (given.get? "privileges" = none →
          c.privileges = r.active.privileges ∧ (given.get? "aliases" = none → c.aliases = r.active.aliases) ∧
            (given.get? "grant_privileges" = none → c.grants = r.active.grants) ∧
            ∀ item, (given.get? "aliases" = some item → AliasesOf r.active item c.aliases) ∧
              (given.get? "grant_privileges" = some item → GrantsOf r.active item c.grants)) ∧
        ((given.get? "privileges").isSome = true →
          (given.get? "aliases" = none → c.aliases = ∅) ∧
            (given.get? "grant_privileges" = none → c.grants = ∅))) := by
  obtain ⟨d, hdecl, hd, -, hactive⟩ := hr.exists_declaration
  have hdocument : document given = .map (pairs given) := rfl
  rw [run_snd, configure_eq_ok_iff hdecl, hdocument, Scheme.ofItem_map_eq_ok_iff]
  refine ⟨fun hp => ⟨?_, ?_⟩, ?_⟩
  · rintro ⟨hnames, d', hread, hs, hc⟩
    exact ⟨d', (isRead_mergedSections_iff hgiven hnames hp).1 hread, hs, hc⟩
  · rintro ⟨d', hread, hs, hc⟩
    have hnames := unknownSections_pairs_iff.1 hread.known
    exact ⟨hnames, d', (isRead_mergedSections_iff hgiven hnames hp).2 hread, hs, hc⟩
  · rintro ⟨hnames, d', hread, hs, rfl⟩
    refine ⟨run_ok ?_, fun hp => ?_, fun hp => ?_⟩
    · rw [run_snd, configure_eq_ok_iff hdecl]
      exact ⟨hnames, d', hread, hs, rfl⟩
    · rw [← hactive]
      obtain ⟨hprivileges, haliases, hgrants⟩ := toScheme_of_not_given hd hgiven hp hread
      have hbase : d'.base = ⟨d.toScheme.privileges, ∅, ∅⟩ := congrArg (Scheme.mk · ∅ ∅) hprivileges
      exact ⟨hprivileges, haliases, hgrants, toScheme_of_sections hgiven hread hbase⟩
    · exact toScheme_of_given hp ((isRead_mergedSections_iff hgiven hnames hp).1 hread)

/-- Aliases are replaced beside a grant of numbers that no privilege has; new privileges drop both. -/
theorem configure_replaces_given_beside_gap :
    let written : Item := .map
      [(.text "privileges", .map [(.text "read", .int 1), (.text "write", .int 8)]),
       (.text "aliases", .map [(.text "any", .list [.text "read", .text "write"])]),
       (.text "grant_privileges", .map [(.text "write", .int 6)])]
    let privileges : List Privilege := [⟨"read", Mask.bit 0, none⟩, ⟨"write", Mask.bit 3, none⟩]
    let before : Scheme := ⟨privileges, .ofList [("any", ⟨9⟩)], .ofList [(Mask.bit 3, ⟨6⟩)]⟩
    let partly : Scheme := ⟨privileges, .ofList [("most", ⟨8⟩)], .ofList [(Mask.bit 3, ⟨6⟩)]⟩
    let wholly : Scheme := ⟨[⟨"read", Mask.bit 0, some "r"⟩], ∅, ∅⟩
    let aliases : OrderedMap String Item := .ofList [("aliases", .map [(.text "most", .list [.text "write"])])]
    let own : OrderedMap String Item := .ofList [("privileges", .map [(.text "r", .text "read")])]
    Scheme.ofItem written none = .ok before ∧
      (run ⟨before⟩ (.configure aliases)).2 = .ok partly ∧ partly.grants = before.grants ∧
      (run ⟨before⟩ (.configure own)).2 = .ok wholly ∧ Scheme.ofItem (document own) none = .ok wholly := by
  intro written privileges before partly wholly aliases own
  have hread : Scheme.ofItem written none = .ok before := by rfl
  have hpartly : (run ⟨before⟩ (.configure aliases)).2 = .ok partly := eq_ok_of_toOption (by decide +kernel)
  have hwholly : (run ⟨before⟩ (.configure own)).2 = .ok wholly := eq_ok_of_toOption (by decide +kernel)
  have hgiven : ∀ name ps, ∀ e ∈ (OrderedMap.ofList [((name : String), (.map ps : Item))]).entries, e.2 ≠ .null := by
    intro name ps e he
    obtain rfl := List.mem_singleton.1 he
    simp
  have hbefore : before.IsValidated := ⟨written, none, hread⟩
  obtain ⟨-, hkept⟩ := configure_replaces_given (r := ⟨before⟩) hbefore (hgiven "aliases" _) partly
  obtain ⟨hown, -⟩ := configure_replaces_given (r := ⟨before⟩) hbefore (hgiven "privileges" _) wholly
  exact ⟨hread, hpartly, ((hkept hpartly).2.1 rfl).2.2.1 rfl, hwholly, (hown rfl).1 hwholly⟩

end Registry

end PathAccess
