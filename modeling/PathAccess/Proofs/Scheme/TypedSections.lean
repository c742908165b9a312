import PathAccess.Proofs.Scheme.Replacement
import PathAccess.Proofs.Text.CodeText

/-!
# Documents with typed sections

A document whose sections are well typed is read without a fault of shape: each section as it is given, or else as it is
by default (`TypedSections.draft`).  So only the rules for well-formed declarations are left, and the names of the other
sections (`TypedSections.isRead_iff`).
-/

namespace PathAccess

/-- A declaration whose names are texts. -/
structure Draft where
  privileges : OrderedMap String (Int ⊕ String)
  aliases : OrderedMap String (List String)
  grants : OrderedMap String (Int ⊕ List String)

/-- The sections of a document that are given, by their types. -/
structure TypedSections where
  privileges? : Option (OrderedMap String (Int ⊕ String))
  aliases? : Option (OrderedMap String (List String))
  grants? : Option (OrderedMap String (Int ⊕ List String))

namespace Draft

/-- The default sections. -/
def standard : Draft where
  privileges := .ofList [("c", .inr "create"), ("r", .inr "read"), ("u", .inr "update"), ("d", .inr "delete"),
    ("s", .inr "super"), ("m", .inr "manage")]
  aliases := .ofList [("all", ["c", "r", "u", "d"]), ("manager", ["c", "r", "u", "d", "m"]),
    ("owner", ["c", "r", "u", "d", "s"])]
  grants := .ofList [("m", .inr ["c", "r", "u", "d"]), ("s", .inr ["c", "r", "u", "d", "s", "m"])]

def designation : Int ⊕ String → Designation
  | .inl bit => .bit bit
  | .inr name => .name name

def tokens (ts : List String) : List CodeText := ts.map .ofString

def grantable : Int ⊕ List String → Grantable
  | .inl mask => .mask mask
  | .inr ts => .tokens (tokens ts)

/-- A section by the code points of its keys. -/
def coded {α β : Type} (f : α → β) (m : OrderedMap String α) : OrderedMap CodeText β where
  entries := m.entries.map fun e => (.ofString e.1, f e.2)
  nodup := by
    have hmap : (m.entries.map fun e => (CodeText.ofString e.1, f e.2)).map Prod.fst = m.keys.map .ofString := by
      rw [OrderedMap.keys, List.map_map, List.map_map]
      rfl
    rw [hmap]
    exact m.nodup.map fun _ _ => CodeText.ofString_injective

def declaration (s : Draft) : Declaration :=
  ⟨coded designation s.privileges, coded tokens s.aliases, coded grantable s.grants⟩

theorem entries_privileges (s : Draft) :
    s.declaration.privileges.entries = s.privileges.entries.map fun e => (.ofString e.1, designation e.2) := rfl

theorem entries_aliases (s : Draft) :
    s.declaration.aliases.entries = s.aliases.entries.map fun a => (.ofString a.1, tokens a.2) := rfl

theorem entries_grants (s : Draft) :
    s.declaration.grants.entries = s.grants.entries.map fun g => (.ofString g.1, grantable g.2) := rfl

theorem declaration_standard : standard.declaration = Declaration.standard := by decide +kernel

theorem isSpelled_declaration (s : Draft) : s.declaration.isSpelled = true := by
  have hname : ∀ v, (designation v).text.isSpelled = true := by
    intro v
    cases v <;> simp [designation, Designation.text]
  simp [Declaration.isSpelled, declaration, coded, OrderedMap.keys, hname]

end Draft

namespace TypedSections

open Declaration

/-- The sections with those that are not given as they are by default.  Privileges that are given leave no aliases and
no grants. -/
def draft (t : TypedSections) : Draft where
  privileges := t.privileges?.getD Draft.standard.privileges
  aliases := t.aliases?.getD (if t.privileges?.isSome then ∅ else Draft.standard.aliases)
  grants := t.grants?.getD (if t.privileges?.isSome then ∅ else Draft.standard.grants)

/-- A section as a document has it. -/
def item {α : Type} (f : α → Item) (m : OrderedMap String α) : Item := .map (m.entries.map fun e => (.text e.1, f e.2))

def textsItem (ts : List String) : Item := .list (ts.map .text)

/-- Whether these are the sections that are given in a document, which may have others. -/
structure AreIn (t : TypedSections) (m : OrderedMap String Item) : Prop where
  privileges : m.get? "privileges" = t.privileges?.map (item (Sum.elim .int .text))
  aliases : m.get? "aliases" = t.aliases?.map (item textsItem)
  grants : m.get? "grant_privileges" = t.grants?.map (item (Sum.elim .int textsItem))

/-! ### Reading the sections -/

theorem item_eq_sectionItem {α β : Type} {f : α → Item} {g : β → Item} {code : α → β} (hf : ∀ a, g (code a) = f a)
    (m : OrderedMap String α) : item f m = sectionItem g (Draft.coded code m) := by
  simp [item, sectionItem, Draft.coded, hf, Function.comp_def]

theorem list_ofCodes_tokens (ts : List String) : .list ((Draft.tokens ts).map .ofCodes) = textsItem ts := by
  simp [textsItem, Draft.tokens, Function.comp_def]

theorem shapeSection_privileges (m : OrderedMap String (Int ⊕ String)) :
    shapeSection "privileges" shapeDesignation (item (Sum.elim .int .text) m) =
      .ok (Draft.coded Draft.designation m) := by
  have hitem : ∀ v, Designation.toItem (Draft.designation v) = Sum.elim Value.int Value.text v := by
    rintro (bit | name)
    · rfl
    · simp [Draft.designation, Designation.toItem]
  rw [item_eq_sectionItem hitem]
  exact shapeSection_sectionItem shapeDesignation_toItem _ _

theorem shapeSection_aliases (m : OrderedMap String (List String)) :
    shapeSection "aliases" shapeList (item textsItem m) = .ok (Draft.coded Draft.tokens m) := by
  rw [item_eq_sectionItem (g := fun ts : List CodeText => .list (ts.map .ofCodes)) list_ofCodes_tokens]
  exact shapeSection_sectionItem shapeList_ofCodes _ _

theorem shapeSection_grants (m : OrderedMap String (Int ⊕ List String)) :
    shapeSection "grant_privileges" shapeGrantable (item (Sum.elim .int textsItem) m) =
      .ok (Draft.coded Draft.grantable m) := by
  have hitem : ∀ v, Grantable.toItem (Draft.grantable v) = Sum.elim Value.int textsItem v := by
    rintro (mask | ts)
    · rfl
    · exact list_ofCodes_tokens ts
  rw [item_eq_sectionItem hitem]
  exact shapeSection_sectionItem shapeGrantable_toItem _ _

/-- A section that is given or else is as it is by default. -/
theorem sectionOr_typed {α β : Type} {m : OrderedMap String Item} {name : String} {own : Option α} {f : α → Item}
    (h : m.get? name = own.map f) {shape : Item → Shaped β} {code : α → β} (hshape : ∀ a, shape (f a) = .ok (code a))
    (default : β) : sectionOr (pairs m) name shape default = .ok ((own.map code).getD default) := by
  cases own with
  | none => rw [sectionOr_of_get?_eq_none h]; rfl
  | some a => rw [sectionOr_of_get? h, hshape]; rfl

variable {t : TypedSections} {m : OrderedMap String Item}

theorem sectionOr_privileges_typed (h : t.AreIn m) :
    sectionOr (pairs m) "privileges" shapePrivileges Declaration.standard.privileges =
      match privilegeViolation? t.draft.declaration.privileges with
      | some rule => faultAt [.key "privileges"] (.rule rule)
      | none => .ok t.draft.declaration.privileges := by
  have hp := h.privileges
  cases hown : t.privileges? with
  | none =>
    -- the standard privileges are not checked, and would pass
    have hstandard : t.draft.declaration.privileges = Declaration.standard.privileges := by
      rw [← Draft.declaration_standard, Draft.declaration, draft, hown]
      rfl
    have hnone : privilegeViolation? Declaration.standard.privileges = none := by decide +kernel
    rw [hown] at hp
    rw [sectionOr_of_get?_eq_none hp, hstandard, hnone]
  | some own =>
    have hdraft : t.draft.declaration.privileges = Draft.coded Draft.designation own := by
      rw [Draft.declaration, draft, hown]
      rfl
    rw [hown] at hp
    rw [sectionOr_of_get? hp, shapePrivileges, shapeSection_privileges, hdraft]
    rfl

theorem aliases_typed (h : t.AreIn m) :
    sectionOr (pairs m) "aliases" (shapeSection "aliases" shapeList)
      (if (Value.lookup? "privileges" (pairs m)).isSome then ∅ else Declaration.standard.aliases) =
        .ok t.draft.declaration.aliases := by
  rw [sectionOr_typed h.aliases shapeSection_aliases, lookup?_pairs, h.privileges, ← Draft.declaration_standard]
  rw [Draft.declaration, draft]
  cases t.aliases? <;> cases t.privileges? <;> rfl

theorem grants_typed (h : t.AreIn m) :
    sectionOr (pairs m) "grant_privileges" (shapeSection "grant_privileges" shapeGrantable)
      (if (Value.lookup? "privileges" (pairs m)).isSome then ∅ else Declaration.standard.grants) =
        .ok t.draft.declaration.grants := by
  rw [sectionOr_typed h.grants shapeSection_grants, lookup?_pairs, h.privileges, ← Draft.declaration_standard]
  rw [Draft.declaration, draft]
  cases t.grants? <;> cases t.privileges? <;> rfl

/-- A document with typed sections declares them if no other section is in it and no rule is broken. -/
theorem isRead_iff (h : t.AreIn m) {d : Declaration} : IsRead (pairs m) d ↔
    (∀ name ∈ m.keys, name ∈ SchemeFault.sectionNames) ∧ t.draft.declaration.WellFormed ∧ d = t.draft.declaration := by
  constructor
  · rintro ⟨-, hknown, hp, ha, hg, hr⟩
    rw [sectionOr_privileges_typed h] at hp
    split at hp
    · simp [faultAt] at hp
    · rename_i hrules
      rw [aliases_typed h] at ha
      rw [grants_typed h] at hg
      obtain rfl : d = t.draft.declaration := by
        obtain ⟨privileges, aliases, grants⟩ := d
        rw [Declaration.mk.injEq]
        exact ⟨(Except.ok.inj hp).symm, (Except.ok.inj ha).symm, (Except.ok.inj hg).symm⟩
      exact ⟨unknownSections_pairs_iff.1 hknown, ⟨hrules, hr⟩, rfl⟩
  · rintro ⟨hknown, ⟨hrules, hr⟩, rfl⟩
    refine ⟨hasUnspelledSection_pairs m, unknownSections_pairs_iff.2 hknown, ?_, aliases_typed h, grants_typed h, hr⟩
    rw [sectionOr_privileges_typed h, hrules]

/-- A document with typed sections describes a scheme if no other section is in it and no rule is broken. -/
theorem ofItem_eq_ok_iff (h : t.AreIn m) {origin : Option String} {c : Scheme} :
    Scheme.ofItem (document m) origin = .ok c ↔ (∀ name ∈ m.keys, name ∈ SchemeFault.sectionNames) ∧
      t.draft.declaration.WellFormed ∧ t.draft.declaration.toScheme = c := by
  have hdocument : document m = .map (pairs m) := rfl
  rw [hdocument, Scheme.ofItem_map_eq_ok_iff]
  constructor
  · rintro ⟨d, hread, -, rfl⟩
    obtain ⟨hknown, hwf, rfl⟩ := (isRead_iff h).1 hread
    exact ⟨hknown, hwf, rfl⟩
  · rintro ⟨hknown, hwf, rfl⟩
    exact ⟨_, (isRead_iff h).2 ⟨hknown, hwf, rfl⟩, Draft.isSpelled_declaration _, rfl⟩

end TypedSections

end PathAccess
