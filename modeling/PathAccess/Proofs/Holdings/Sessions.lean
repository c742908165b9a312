import PathAccess.Proofs.Holdings.Delegation
import PathAccess.Proofs.Permission.Making
import PathAccess.Proofs.Scheme.Validation

/-!
# Sessions

Whoever uses the library gets permissions only from its operations.  All operations that return permissions are the
`Making`s, and what a session has returned so far is what they can be given as permissions (`Session.Reaches`).  What
an operation returns is well formed if its arguments are (`Session.Making.wellFormed_of_mem_returned`), and so, by
induction on the session, is everything that is ever returned.

Only `construct` reads privileges without checking that there are any, which is why the active scheme has to be
validated.
-/

namespace PathAccess.Session

/-- An operation that returns permissions, with its arguments. -/
inductive Making where
  | construct (path attributes privileges : Item)
  | parse (value : Item) (explicit : Option Scheme)
  | coerce (value : Item) (explicit : Option Scheme)
  /-- A text that is read or a permission that is copied. -/
  | ofItem (value : Item)
  | clone (p : Permission)
  | withPath (p : Permission) (path : Item)
  | withAttributes (p : Permission) (attributes : Item)
  | withPrivileges (p : Permission) (privileges : Item)
  | unwind (value : Item) (explicit : Option Scheme)
  /-- The members of a new collection. -/
  | collect (items : List Item) (explicit : Option Scheme)
  /-- The members of a collection that is read like another. -/
  | replace (h : Holdings) (items : List Item)
  | member (h : Holdings) (index : Int)

/-- The permissions among some items. -/
def permissionsOf (items : List Item) : List Permission :=
  items.filterMap fun
    | .object (.permission p) => some p
    | _ => none

namespace Making

def perform : Making → Ambient (List Permission)
  | construct path attributes privileges => return [← Permission.construct path attributes privileges]
  | parse value explicit => return [← Permission.parse value explicit]
  | coerce value explicit => return [← Permission.coerce value explicit]
  | ofItem value => return [← Permission.ofItem value]
  | clone p => return [← Ambient.ofExcept p.clone]
  | withPath p path => return [← Ambient.ofExcept (p.withPath path)]
  | withAttributes p attributes => return [← Ambient.ofExcept (p.withAttributes attributes)]
  | withPrivileges p privileges => return [← Ambient.ofExcept (p.withPrivileges privileges)]
  | unwind value explicit => Permission.unwindItem value explicit
  | collect items explicit => return (← Holdings.ofItems items explicit).members
  | replace h items => return (← h.withMembers items).members
  | member h index => return [← Ambient.ofExcept (h.get index)]

/-- What an operation returns under a scheme: nothing if it fails. -/
def returned (making : Making) (active : Scheme) : List Permission := (making.perform active).toOption.getD []

/-- The permissions that an operation is given. -/
def given : Making → List Permission
  | construct .. => []
  | parse value _ | coerce value _ | ofItem value | unwind value _ => permissionsOf [value]
  | clone p | withPath p _ | withAttributes p _ | withPrivileges p _ => [p]
  | collect items _ | replace _ items => permissionsOf (Item.flatten items)
  | member h _ => h.members

/-- The permission whose privileges an operation keeps. -/
def source? : Making → Option (Ambient Permission)
  | clone p | withPath p _ | withAttributes p _ => some (pure p)
  | unwind value explicit => some (Permission.coerce value explicit)
  | _ => none

end Making

/-- The permissions that a session has returned.  Every step is under a validated scheme, and only permissions that were
returned before are given to it. -/
inductive Reaches : List Permission → Prop
  | start : Reaches []
  | step {made : List Permission} {making : Making} {active : Scheme} (h : Reaches made) (hactive : active.IsValidated)
      (hgiven : ∀ p ∈ making.given, p ∈ made) : Reaches (made ++ making.returned active)

variable {making : Making} {active : Scheme}

namespace Making

theorem mem_returned {q : Permission} : q ∈ making.returned active ↔ ∃ qs, making.perform active = .ok qs ∧ q ∈ qs := by
  unfold returned
  cases making.perform active <;> simp [Except.toOption]

/-- An operation that returns one permission. -/
theorem eq_of_perform_one {x : Ambient Permission} {qs : List Permission} {q : Permission}
    (h : (do return [← x] : Ambient (List Permission)) active = .ok qs) (hq : q ∈ qs) : x active = .ok q := by
  obtain ⟨q', hq', h⟩ := Ambient.bind_eq_ok h
  obtain rfl : [q'] = qs := Except.ok.inj h
  rwa [List.mem_singleton.1 hq]

/-- What stands for a permission is one that was given, or else it is read. -/
theorem wellFormed_of_coerce {value : Item} {explicit : Option Scheme} {p : Permission}
    (hgiven : ∀ q ∈ permissionsOf [value], q.WellFormed) (h : Permission.coerce value explicit active = .ok p) :
    p.WellFormed := by
  unfold Permission.coerce at h
  split at h
  · obtain rfl := Except.ok.inj h
    exact hgiven _ (by simp [permissionsOf])
  · exact Permission.wellFormed_of_parse h

theorem wellFormed_of_ofItems {items : List Item} {explicit : Option Scheme} {h : Holdings}
    (hof : Holdings.ofItems items explicit active = .ok h) : ∀ p ∈ h.members, p.WellFormed := by
  obtain ⟨members, hmembers, hof⟩ := Ambient.bind_eq_ok hof
  obtain rfl : (⟨members, explicit⟩ : Holdings) = h := Except.ok.inj hof
  intro p hp
  obtain ⟨item, -, hitem⟩ := Ambient.exists_of_mem_mapM hmembers hp
  obtain ⟨_, -, hclone⟩ := Ambient.bind_eq_ok hitem
  exact Permission.wellFormed_of_make hclone

theorem mem_of_get {h : Holdings} {index : Int} {p : Permission} (hget : h.get index = .ok p) : p ∈ h.members := by
  unfold Holdings.get at hget
  dsimp only at hget
  split at hget
  · rename_i q hq
    obtain rfl := Except.ok.inj hget
    exact List.mem_of_getElem? (Option.ite_none_left_eq_some.1 hq).2
  · simp at hget

/-- One step: what is returned is well formed if the permissions that are given are. -/
theorem wellFormed_of_mem_returned (hactive : active.IsValidated) (hgiven : ∀ p ∈ making.given, p.WellFormed) :
    ∀ q ∈ making.returned active, q.WellFormed := by
  intro q hq
  obtain ⟨qs, hqs, hmem⟩ := mem_returned.1 hq
  cases making with
  | construct path attributes privileges =>
    -- only here nothing checks that there is a privilege: that none is empty is known of the active scheme
    exact Permission.wellFormed_of_construct (eq_of_perform_one hqs hmem) fun _ => hactive.wellFormed
  | parse value explicit => exact Permission.wellFormed_of_parse (eq_of_perform_one hqs hmem)
  | coerce value explicit => exact wellFormed_of_coerce hgiven (eq_of_perform_one hqs hmem)
  | ofItem value =>
    have hone := eq_of_perform_one hqs hmem
    unfold Permission.ofItem at hone
    split at hone
    · exact Permission.wellFormed_of_make hone
    · exact Permission.wellFormed_of_parse hone
  | clone p => exact Permission.wellFormed_of_make (eq_of_perform_one hqs hmem)
  | withPath p path =>
    obtain ⟨_, -, hmake⟩ := exists_of_bind_ok (eq_of_perform_one hqs hmem)
    exact Permission.wellFormed_of_make hmake
  | withAttributes p attributes => exact Permission.wellFormed_of_withAttributes (eq_of_perform_one hqs hmem)
  | withPrivileges p privileges =>
    obtain ⟨_, -, hmake⟩ := exists_of_bind_ok (eq_of_perform_one hqs hmem)
    exact Permission.wellFormed_of_make hmake
  | unwind value explicit =>
    obtain ⟨p, -, hunwind⟩ := Ambient.bind_eq_ok hqs
    exact Permission.wellFormed_of_unwind hunwind hmem
  | collect items explicit =>
    obtain ⟨h, hof, hqs⟩ := Ambient.bind_eq_ok hqs
    obtain rfl := Except.ok.inj hqs
    exact wellFormed_of_ofItems hof q hmem
  | replace h items =>
    obtain ⟨h', hof, hqs⟩ := Ambient.bind_eq_ok hqs
    obtain rfl := Except.ok.inj hqs
    exact wellFormed_of_ofItems hof q hmem
  | member h index => exact hgiven q (mem_of_get (eq_of_perform_one hqs hmem))

/-- An operation with a source returns only permissions that have its mask and its scheme. -/
theorem privileges_of_mem_returned (hgiven : ∀ p ∈ making.given, p.WellFormed) {source : Ambient Permission}
    (hsource : making.source? = some source) {q : Permission} (hq : q ∈ making.returned active) :
    ∃ p, source active = .ok p ∧ q.privileges = p.privileges := by
  obtain ⟨qs, hqs, hmem⟩ := mem_returned.1 hq
  cases making with
  | construct _ _ _ | parse _ _ | coerce _ _ | ofItem _ | withPrivileges _ _ | collect _ _ | replace _ _ | member _ _ =>
    simp [source?] at hsource
  | clone p =>
    obtain rfl := Option.some.inj hsource
    exact ⟨p, rfl, Permission.privileges_of_make (eq_of_perform_one hqs hmem)⟩
  | withPath p path =>
    obtain rfl := Option.some.inj hsource
    obtain ⟨_, -, hmake⟩ := exists_of_bind_ok (eq_of_perform_one hqs hmem)
    exact ⟨p, rfl, Permission.privileges_of_make hmake⟩
  | withAttributes p attributes =>
    obtain rfl := Option.some.inj hsource
    obtain ⟨_, -, hmake⟩ := exists_of_bind_ok (eq_of_perform_one hqs hmem)
    exact ⟨p, rfl, Permission.privileges_of_make hmake⟩
  | unwind value explicit =>
    obtain rfl := Option.some.inj hsource
    obtain ⟨p, hp, hunwind⟩ := Ambient.bind_eq_ok hqs
    -- a permission without constraints is its own part, so the source has to be well formed
    have hwf := wellFormed_of_coerce hgiven hp
    obtain rfl := Except.ok.inj ((Permission.unwind_eq hwf).symm.trans hunwind)
    exact ⟨p, hp, (Permission.of_mem_parts hwf hmem).2.1⟩

end Making

theorem wellFormed_of_reaches {made : List Permission} (h : Reaches made) : ∀ p ∈ made, p.WellFormed := by
  induction h with
  | start => simp
  | step _ hactive hgiven ih =>
    intro p hp
    rcases List.mem_append.1 hp with hp | hp
    · exact ih p hp
    · exact Making.wellFormed_of_mem_returned hactive (fun q hq => ih q (hgiven q hq)) p hp

/-- **No permission is degenerate.**  All that a session ever returns has a path, constraints with a value for every key
or none at all, and a privilege; and so has what any further operation returns, which also keeps the mask and the scheme
of its source. -/
theorem not_degenerate {made : List Permission} (h : Reaches made) :
    (∀ p ∈ made, p.WellFormed) ∧
    ∀ (making : Making) (active : Scheme), active.IsValidated → (∀ p ∈ making.given, p ∈ made) →
      ∀ q ∈ making.returned active, q.WellFormed ∧
        ∀ source, making.source? = some source → ∃ p, source active = .ok p ∧
          q.privileges.mask = p.privileges.mask ∧ q.scheme = p.scheme := by
  have hmade := wellFormed_of_reaches h
  refine ⟨hmade, fun making active hactive hgiven q hq => ?_⟩
  have hgiven' : ∀ p ∈ making.given, p.WellFormed := fun p hp => hmade p (hgiven p hp)
  refine ⟨Making.wellFormed_of_mem_returned hactive hgiven' q hq, fun source hsource => ?_⟩
  obtain ⟨p, hp, hprivileges⟩ := Making.privileges_of_mem_returned hgiven' hsource hq
  exact ⟨p, hp, congrArg Privileges.mask hprivileges, congrArg Privileges.scheme hprivileges⟩

/-- A permission with a mask that no privilege of the scheme has is made from its parts, unwound and collected. -/
theorem not_degenerate_beyond_scheme :
    let s : Privileges := ⟨128, .standard⟩
    let constructed : Making := .construct (.text "/a") (.text "?k=v,w") (.object (.privileges s))
    let p : Permission := ⟨"/a", some (.ofList [("k", ["v", "w"])]), s⟩
    let unwound : Making := .unwind (.ofPermission p) none
    let parts : List Permission := [⟨"/a", some (.ofList [("k", ["v"])]), s⟩, ⟨"/a", some (.ofList [("k", ["w"])]), s⟩]
    let collected : Making := .collect [.list (parts.map Item.ofPermission), .text "/b:r"] none
    constructed.returned .standard = [p] ∧ unwound.returned .standard = parts ∧
      (∀ q ∈ unwound.returned .standard, q.WellFormed ∧ q.privileges.mask = 128) ∧
      (collected.returned .standard).length = 3 ∧ ∀ q ∈ collected.returned .standard, q.WellFormed := by
  intro s constructed p unwound parts collected
  have hstandard := Scheme.standard_isValidated
  have hp : constructed.returned .standard = [p] := by decide +kernel
  have hparts : unwound.returned .standard = parts := by decide +kernel
  have hfirst : Reaches ([] ++ constructed.returned .standard) :=
    .step .start hstandard (by simp [constructed, Making.given])
  rw [hp] at hfirst
  have hsecond : Reaches ([p] ++ unwound.returned .standard) := .step hfirst hstandard (by decide +kernel)
  rw [hparts] at hsecond
  refine ⟨hp, hparts, fun q hq => ?_, by decide +kernel, fun q hq => ?_⟩
  · obtain ⟨hq, hsource⟩ := (not_degenerate hfirst).2 unwound .standard hstandard (by decide +kernel) q hq
    obtain ⟨p', hp', hmask, -⟩ := hsource _ rfl
    obtain rfl := Except.ok.inj hp'
    exact ⟨hq, hmask⟩
  · exact ((not_degenerate hsecond).2 collected .standard hstandard (by decide +kernel) q hq).1

end PathAccess.Session
