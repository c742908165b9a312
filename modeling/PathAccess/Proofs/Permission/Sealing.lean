import PathAccess.Permission.Operation
import PathAccess.Proofs.Agreement
import PathAccess.Proofs.Permission.Making

/-!
# Permissions do not depend on the active scheme

A permission brings the scheme that its privileges are read under, and reads texts among the arguments of an operation
under that scheme.  So whether a text is read at all, which one, and what comes of it are the same whatever scheme is
active: one lemma for each operation that reads arguments, from `agree_read` up to `agree_mayDelegate`.  An operation
that makes a permission calls the constructor, which reads privileges under the active scheme unless they were read
before; here they were (`perform_of_made`).  What any `Operation` gives, a value or a fault, is the same under any two
active schemes; a permission that it gives has the scheme of the first (`perform_sealed`).
-/

namespace PathAccess.Permission

variable (held : Permission) (A B : Scheme)

/-! ### Decisions -/

theorem agree_read (value : Item) : Agree (· = ·) (held.read value A) (held.read value B) := by
  have hread : held.read value A = held.read value B := by
    unfold read coerce
    split
    · rfl
    · unfold parse
      split <;> rfl
  rw [hread]
  exact .refl (fun _ => rfl) _

theorem agree_matchTarget (other : Item) :
    Agree (· = ·) (held.matchTarget other A) (held.matchTarget other B) :=
  Ambient.agree_bind_eq (agree_read held A B other) fun _ => .ok rfl

/-- All requests are read before any is judged, so it is the readings that have to agree. -/
theorem agree_allows (requests : List Item) : Agree (· = ·) (held.allows requests A) (held.allows requests B) := by
  have hread : Agree (List.Forall₂ (· = ·)) ((Item.flatten requests).mapM held.read A)
      ((Item.flatten requests).mapM held.read B) :=
    Ambient.agree_mapM (List.forall₂_same.2 fun value _ => agree_read held A B value)
  refine Ambient.agree_bind hread ?_
  intro ps qs h
  obtain rfl : ps = qs := List.forall₂_eq_eq_eq ▸ h
  exact .ok rfl

theorem agree_rivalPower (value : Item) : Agree (· = ·) (held.rivalPower value A) (held.rivalPower value B) :=
  Ambient.agree_bind_eq (agree_read held A B value) fun _ => .ok rfl

theorem agree_rivalPowers (values : List Item) (power : Mask) :
    Agree (· = ·) (held.rivalPowers values power A) (held.rivalPowers values power B) := by
  induction values generalizing power with
  | nil => exact .ok rfl
  | cons value values ih =>
    rw [rivalPowers]
    exact Ambient.agree_bind_eq (agree_rivalPower held A B value) fun added => ih (power ||| added)

theorem agree_mayDelegate (value rivals : Item) :
    Agree (· = ·) (held.mayDelegate value rivals A) (held.mayDelegate value rivals B) := by
  refine Ambient.agree_bind_eq (agree_read held A B value) fun new => ?_
  -- what the other side holds is read after three checks that read nothing
  dsimp only
  split
  · exact .ok rfl
  split
  · exact .ok rfl
  split
  · exact .ok rfl
  cases rivals.elements? with
  | none => exact .error .wrongType
  | some rivals =>
    exact Ambient.agree_bind_eq (agree_rivalPowers held A B rivals 0) fun _ => .ok rfl

/-! ### All operations -/

/-- What an operation makes, if it makes a permission. -/
def Operation.made? (p : Permission) : Operation → Option (Except Fault Permission)
  | withPath path => some (p.withPath path)
  | withAttributes attributes => some (p.withAttributes attributes)
  | withPrivileges privileges => some (p.withPrivileges privileges)
  | clone => some p.clone
  | _ => none

/-- The constructor and the privileges that it is given ask for no scheme. -/
theorem perform_of_made {p : Permission} {operation : Operation} {x : Except Fault Permission}
    (h : operation.made? p = some x) (active : Scheme) : p.perform operation active = x.map Item.ofPermission := by
  have hmake : ∀ path attributes privileges,
      (do return Item.ofPermission (← reconstruct path attributes privileges) : Ambient Item) active =
        (make path attributes privileges).map Item.ofPermission := by
    intro path attributes privileges
    rw [Ambient.map_apply, reconstruct, construct_toItem]
  cases operation with
  | allows _ | mayGrant _ _ | mayRevoke _ _ | matchTarget _ | hasNamed _ | text | parts => cases h
  | withPath path =>
    obtain rfl := Option.some.inj h
    rw [perform, withPath]
    cases checkPath path with
    | error e => rfl
    | ok path => exact hmake path p.attributes p.privileges
  | withAttributes attributes =>
    obtain rfl := Option.some.inj h
    rw [perform, withAttributes]
    cases Attributes.ofItem attributes with
    | error e => rfl
    | ok attributes => exact hmake p.path attributes p.privileges
  | withPrivileges privileges =>
    obtain rfl := Option.some.inj h
    have hresolve := Scheme.resolve_some p.scheme privileges active
    rw [perform, withPrivileges]
    cases hs : p.scheme.readPrivileges privileges with
    | error e => exact Ambient.bind_of_error (hresolve.trans hs) _
    | ok s => exact (Ambient.bind_of_ok (hresolve.trans hs) _).trans (hmake p.path p.attributes s)
  | clone =>
    obtain rfl := Option.some.inj h
    exact hmake p.path p.attributes p.privileges

theorem perform_hasNamed (p : Permission) (privileges : Item) (active : Scheme) :
    p.perform (.hasNamed privileges) active = (p.privileges.hasNamed privileges).map .bool := by
  have hresolve := Scheme.resolve_some p.scheme privileges active
  rw [perform, Privileges.hasNamed, ← scheme]
  cases hs : p.scheme.readPrivileges privileges with
  | error e => exact Ambient.bind_of_error (hresolve.trans hs) _
  | ok s => exact Ambient.bind_of_ok (hresolve.trans hs) _

theorem perform_eq (p : Permission) (operation : Operation) : p.perform operation A = p.perform operation B := by
  -- the last step of a decision wraps the answer
  have hanswer : ∀ {x : Ambient Bool}, Agree (· = ·) (x A) (x B) →
      (do return Value.bool (← x) : Ambient Item) A = (do return Value.bool (← x) : Ambient Item) B := by
    intro x h
    apply Agree.eq
    exact Ambient.agree_bind_eq h fun _ => .ok rfl
  cases operation with
  | allows requests => exact hanswer (agree_allows p A B requests)
  | mayGrant value rivals => exact hanswer (agree_mayDelegate p A B value rivals)
  | mayRevoke value rivals => exact hanswer (agree_mayDelegate p A B value rivals)
  | matchTarget other => exact hanswer (agree_matchTarget p A B other)
  | hasNamed privileges => rw [perform_hasNamed, perform_hasNamed]
  | withPath _ | withAttributes _ | withPrivileges _ | clone => rw [perform_of_made rfl, perform_of_made rfl]
  | text | parts => rfl

/-- What an operation makes has the privileges of the first permission, or others of its scheme. -/
theorem scheme_of_made {p q : Permission} {operation : Operation} (h : operation.made? p = some (.ok q)) :
    q.scheme = p.scheme := by
  cases operation with
  | allows _ | mayGrant _ _ | mayRevoke _ _ | matchTarget _ | hasNamed _ | text | parts => cases h
  | withPath path =>
    obtain ⟨_, -, hmake⟩ := exists_of_bind_ok (Option.some.inj h)
    exact congrArg Privileges.scheme (privileges_of_make hmake)
  | withAttributes attributes =>
    obtain ⟨_, -, hmake⟩ := exists_of_bind_ok (Option.some.inj h)
    exact congrArg Privileges.scheme (privileges_of_make hmake)
  | withPrivileges privileges =>
    obtain ⟨s, hs, hmake⟩ := exists_of_bind_ok (Option.some.inj h)
    rw [scheme, privileges_of_make hmake]
    exact Scheme.scheme_of_readPrivileges hs
  | clone => exact congrArg Privileges.scheme (privileges_of_make (Option.some.inj h))

theorem scheme_of_perform {p q : Permission} {operation : Operation}
    (h : p.perform operation A = .ok (Item.ofPermission q)) : q.scheme = p.scheme := by
  have hanswer : ∀ {x : Ambient Bool}, (do return Value.bool (← x) : Ambient Item) A ≠ .ok (Item.ofPermission q) := by
    intro x h
    obtain ⟨_, -, h⟩ := Ambient.bind_eq_ok h
    cases h
  have hmade : ∀ x, operation.made? p = some x → q.scheme = p.scheme := by
    intro x hx
    rw [perform_of_made hx] at h
    cases x with
    | error e => cases h
    | ok q' =>
      cases h
      exact scheme_of_made hx
  cases operation with
  | allows _ | mayGrant _ _ | mayRevoke _ _ | matchTarget _ => exact absurd h hanswer
  | hasNamed privileges =>
    obtain ⟨_, -, h⟩ := Ambient.bind_eq_ok h
    cases h
  | withPath _ | withAttributes _ | withPrivileges _ | clone => exact hmade _ rfl
  | text | parts => cases h

/-- **A permission does not depend on the active scheme.**  Whatever scheme is active, an operation gives the same value
or fails with the same fault, and a permission that it gives has the scheme of the first. -/
theorem perform_sealed (p : Permission) (operation : Operation) (A B : Scheme) :
    p.perform operation A = p.perform operation B ∧
      ∀ q, p.perform operation A = .ok (Item.ofPermission q) → q.scheme = p.scheme :=
  ⟨perform_eq A B p operation, fun _ => scheme_of_perform A⟩

end PathAccess.Permission
