import PathAccess.Proofs.Scheme.Validation
import PathAccess.Scheme.Registry

/-!
# Declarations read back from their documents

A declaration is written as a document with three sections, and every part of it, a text, a bit, a mask or a list of
tokens, is read back as it was.  So the document of a declaration that breaks no rule is read as that declaration
(`Declaration.WellFormed.ofItem_toItem`).
-/

namespace PathAccess.Declaration

/-! ### Parts -/

theorem shapeText_ofCodes (place : List Step) (t : CodeText) : shapeText place (.ofCodes t) = .ok t := by
  unfold Value.ofCodes
  split
  · rename_i ht
    simp [shapeText, CodeText.ofString_text ht]
  · rfl

private theorem shapeTexts_ofCodes (place : List Step) (n : Nat) (ts : List CodeText) :
    shapeTexts place n (ts.map .ofCodes) = .ok ts := by
  induction ts generalizing n with
  | nil => rfl
  | cons t ts ih => simp [shapeTexts, shapeText_ofCodes, ih, both]

theorem shapeList_ofCodes (place : List Step) (ts : List CodeText) :
    shapeList place (.list (ts.map .ofCodes)) = .ok ts :=
  shapeTexts_ofCodes place 0 ts

theorem shapeDesignation_toItem (place : List Step) (d : Designation) :
    shapeDesignation place (Designation.toItem d) = .ok d := by
  cases d with
  | bit n => rfl
  | name s =>
    rw [Designation.toItem]
    unfold Value.ofCodes
    split
    · rename_i hs
      simp [shapeDesignation, CodeText.ofString_text hs]
    · rfl

/-- A list is no number, so that it is read as the tokens in it. -/
theorem shapeGrantable_toItem (place : List Step) (g : Grantable) :
    shapeGrantable place (Grantable.toItem g) = .ok g := by
  cases g with
  | mask n => rfl
  | tokens ts =>
    have hint : ∀ p, shapeInt p (Grantable.toItem (.tokens ts)) = faultAt p .notWhole := fun _ => rfl
    rw [shapeGrantable, hint, Grantable.toItem, shapeList_ofCodes]
    rfl

/-! ### Sections -/

variable {α : Type} {f : α → Item} {shape : List Step → Item → Shaped α}

private theorem shapePairs_written (hf : ∀ place a, shape place (f a) = .ok a) (place : List Step)
    (es : List (CodeText × α)) :
    shapePairs place shape (es.map fun e => (.ofCodes e.1, f e.2)) = .ok es := by
  induction es with
  | nil => rfl
  | cons e es ih => simp [shapePairs, shapeText_ofCodes, hf, ih, both]

theorem shapeSection_sectionItem (hf : ∀ place a, shape place (f a) = .ok a) (name : String)
    (m : OrderedMap CodeText α) : shapeSection name shape (sectionItem f m) = .ok m := by
  rw [sectionItem, shapeSection, shapePairs_written hf]
  exact congrArg Except.ok (OrderedMap.ofList_entries m)

/-! ### Documents -/

theorem entries_sections (d : Declaration) :
    d.sections.entries = [("privileges", sectionItem Designation.toItem d.privileges),
      ("aliases", sectionItem (fun ts => .list (ts.map .ofCodes)) d.aliases),
      ("grant_privileges", sectionItem Grantable.toItem d.grants)] := by
  rw [sections, OrderedMap.ofList_of_nodup (by simp)]

theorem WellFormed.shapePrivileges_written {d : Declaration} (h : d.WellFormed) :
    shapePrivileges (sectionItem Designation.toItem d.privileges) = .ok d.privileges := by
  have hsection := shapeSection_sectionItem shapeDesignation_toItem "privileges" d.privileges
  simp [shapePrivileges, hsection, bind, Except.bind, h.privileges_ok]

theorem shapeAliases_written (d : Declaration) :
    shapeSection "aliases" shapeList (sectionItem (fun ts => .list (ts.map .ofCodes)) d.aliases) = .ok d.aliases :=
  shapeSection_sectionItem shapeList_ofCodes _ _

theorem shapeGrants_written (d : Declaration) :
    shapeSection "grant_privileges" shapeGrantable (sectionItem Grantable.toItem d.grants) = .ok d.grants :=
  shapeSection_sectionItem shapeGrantable_toItem _ _

/-- The document of a declaration that breaks no rule declares it. -/
theorem WellFormed.isRead_sections {d : Declaration} (h : d.WellFormed) :
    IsRead (d.sections.entries.map fun e => (.text e.1, e.2)) d := by
  rw [entries_sections]
  exact ⟨rfl, rfl, h.shapePrivileges_written, d.shapeAliases_written, d.shapeGrants_written, h.references_ok⟩

theorem WellFormed.ofItem_toItem {d : Declaration} (h : d.WellFormed) (hs : d.isSpelled = true)
    (origin : Option String) : Scheme.ofItem d.toItem origin = .ok d.toScheme :=
  Scheme.ofItem_map_eq_ok_iff.2 ⟨d, h.isRead_sections, hs, rfl⟩

end PathAccess.Declaration
