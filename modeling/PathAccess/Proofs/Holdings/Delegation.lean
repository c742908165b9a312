import PathAccess.Proofs.Holdings.Unwinding
import PathAccess.Proofs.Permission.Delegation

/-!
# Delegation by a collection

A collection is judged part by part, and every part needs a single member that may hand it out alone.  All parts have
the privileges of the whole, and there is at least one part; so whatever a collection may hand out is within the power
of one of its members (`Holdings.exists_power_of_mayDelegate`).
-/

namespace PathAccess

/-- Permissions in a list are taken as they are. -/
theorem Item.flatten_map_ofPermission (ps : List Permission) :
    Item.flatten (ps.map Item.ofPermission) = ps.map Item.ofPermission := by
  induction ps with
  | nil => rfl
  | cons p ps ih => exact congrArg (Item.ofPermission p :: ·) ih

/-- Texts in a list are taken as they are. -/
theorem Item.flatten_map_text (texts : List String) : Item.flatten (texts.map .text) = texts.map .text := by
  induction texts with
  | nil => rfl
  | cons t texts ih => exact congrArg (Value.text t :: ·) ih

namespace Holdings

/-- One of the permissions that are collected. -/
def collect (scheme? : Option Scheme) (item : Item) : Ambient Permission := do
  Ambient.ofExcept (← Permission.coerce item scheme?).clone

variable {items : List Item} {scheme? : Option Scheme} {active : Scheme}

theorem ofItems_of_collected {members : List Permission}
    (h : List.Forall₂ (fun item p => collect scheme? item active = .ok p) (Item.flatten items) members) :
    ofItems items scheme? active = .ok ⟨members, scheme?⟩ :=
  Ambient.bind_of_ok (Ambient.mapM_of_ok h) _

theorem ofItems_of_fault {before after : List Item} {item : Item} {e : Fault}
    (hitems : Item.flatten items = before ++ item :: after)
    (hbefore : ∀ i ∈ before, ∃ p, collect scheme? i active = .ok p) (hitem : collect scheme? item active = .error e) :
    ofItems items scheme? active = .error e := by
  have hall : (Item.flatten items).mapM (collect scheme?) active = .error e :=
    hitems ▸ Ambient.mapM_of_error hbefore hitem
  exact Ambient.bind_of_error hall _

/-- Well-formed permissions are collected as they are. -/
theorem ofItems_map_ofPermission {ps : List Permission} (h : ∀ p ∈ ps, p.WellFormed) (scheme? : Option Scheme)
    (active : Scheme) : ofItems (ps.map Item.ofPermission) scheme? active = .ok ⟨ps, scheme?⟩ := by
  apply ofItems_of_collected
  rw [Item.flatten_map_ofPermission]
  induction ps with
  | nil => exact .nil
  | cons p ps ih => exact .cons (Permission.clone_eq (h p (by simp))) (ih fun q hq => h q (by simp [hq]))

/-- Whatever a collection may hand out or take away is within the power of one of its members. -/
theorem exists_power_of_mayDelegate {h : Holdings} {new : Permission} (hnew : new.WellFormed) {rivals : Item}
    {active : Scheme} (hd : h.mayDelegate (Item.ofPermission new) rivals active = .ok true) :
    ∃ held ∈ h.members, held.power.covers new.privileges.mask = true := by
  unfold mayDelegate at hd
  cases he : rivals.elements? with
  | none =>
    rw [he] at hd
    exact absurd hd (by simp [throw, throwThe, MonadExceptOf.throw])
  | some items =>
    rw [he] at hd
    obtain ⟨parts, hparts, hall⟩ := Ambient.bind_eq_ok hd
    obtain rfl : new.parts = parts := Except.ok.inj ((Permission.unwind_eq hnew).symm.trans hparts)
    obtain ⟨part, rest, hcons⟩ := List.exists_cons_of_ne_nil (Permission.parts_ne_nil hnew)
    obtain ⟨-, hprivileges, hpart⟩ := Permission.of_mem_parts hnew (hcons ▸ List.mem_cons_self : part ∈ new.parts)
    rw [hcons] at hall
    have hany := Ambient.allM_cons_eq_true hall
    obtain ⟨held, hheld, hmay⟩ := Ambient.anyM_eq_true hany
    refine ⟨held, hheld, ?_⟩
    rw [← hprivileges]
    exact Permission.power_covers_of_mayDelegate rfl hpart.mask_ne_zero hmay

end Holdings

end PathAccess
