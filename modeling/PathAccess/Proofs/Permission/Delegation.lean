import PathAccess.Proofs.Ambient
import PathAccess.Proofs.Mask
import PathAccess.Proofs.Permission.Given
import PathAccess.Scheme.Document

/-!
# The rule of delegation

What the holder of a permission may hand out or take away.  The decision has four checks, one after the other, and
reads what the other side holds only between the third and the last.  `DelegationRule` states it without that order:
the new permission has to be read and to lie within the holder's target and power, then everything that the other
side holds has to be read, and then no grant-enabling privilege among it, over the same target, may exceed the
holder's power.

The first check is a special case of the third, since no mask is empty that a permission has, and the grant-enabling
privileges of the new permission itself need no look, since they are among its privileges.
-/

namespace PathAccess.Permission

/-- What the holder may hand out. -/
def power (held : Permission) : Mask := held.privileges.grantable.mask

/-- The privileges of a permission that let its holder hand out others. -/
def grantEnabling (p : Permission) : Mask := p.privileges.mask &&& p.scheme.grantEnabling

/-- What is answered to whether the holder of a permission may hand out or take away a new one, given what the other
side holds. -/
inductive DelegationRule (held : Permission) (new : Given) (rivals : List Given) : Except Fault Bool → Prop
  /-- The new permission cannot be read. -/
  | unreadable {e : Fault} (read : new.under held.scheme = .error e) : DelegationRule held new rivals (.error e)
  /-- The new permission exceeds the holder's target or power, whatever the other side holds. -/
  | beyond {p : Permission} (read : new.under held.scheme = .ok p)
      (exceeds : held.coversTarget p = false ∨ held.power.covers p.privileges.mask = false) :
      DelegationRule held new rivals (.ok false)
  /-- The first permission of the other side that cannot be read. -/
  | unreadableRival {p : Permission} {before after : List Given} {rival : Given} {e : Fault}
      (read : new.under held.scheme = .ok p) (target : held.coversTarget p = true)
      (within : held.power.covers p.privileges.mask = true) (split : rivals = before ++ rival :: after)
      (readBefore : ∀ r ∈ before, ∃ q, r.under held.scheme = .ok q) (readRival : rival.under held.scheme = .error e) :
      DelegationRule held new rivals (.error e)
  /-- The other side holds no grant-enabling privileges over the holder's target that exceed the holder's power. -/
  | judged {p : Permission} {existing : List Permission} {answer : Bool}
      (read : new.under held.scheme = .ok p) (target : held.coversTarget p = true)
      (within : held.power.covers p.privileges.mask = true)
      (readRivals : List.Forall₂ (fun r q => r.under held.scheme = .ok q) rivals existing)
      (verdict : answer = true ↔
        ∀ q ∈ existing, held.coversTarget q = true → held.power.covers q.grantEnabling = true) :
      DelegationRule held new rivals (.ok answer)

/-! ### What the other side holds -/

theorem rivalPower_toItem (held : Permission) {g : Given} {q : Permission} (h : g.under held.scheme = .ok q)
    (active : Scheme) :
    held.rivalPower g.toItem active = .ok (if held.coversTarget q then q.grantEnabling else 0) :=
  Ambient.bind_of_ok ((Given.read_toItem held g active).trans h) _

theorem rivalPower_error (held : Permission) {g : Given} {e : Fault} (h : g.under held.scheme = .error e)
    (active : Scheme) : held.rivalPower g.toItem active = .error e :=
  Ambient.bind_of_error ((Given.read_toItem held g active).trans h) _

/-- The power of the other side stays within a mask if what was collected before does and what each permission adds
does. -/
theorem rivalPowers_ok (held : Permission) {rivals : List Given} {existing : List Permission}
    (h : List.Forall₂ (fun r q => r.under held.scheme = .ok q) rivals existing) (collected : Mask) (active : Scheme) :
    ∃ m, held.rivalPowers (rivals.map Given.toItem) collected active = .ok m ∧
      ∀ a : Mask, a.covers m = true ↔ a.covers collected = true ∧
        ∀ q ∈ existing, held.coversTarget q = true → a.covers q.grantEnabling = true := by
  induction h generalizing collected with
  | nil => exact ⟨collected, rfl, by simp⟩
  | @cons r q rivals existing hr _ ih =>
    obtain ⟨m, hm, hcov⟩ := ih (collected ||| if held.coversTarget q then q.grantEnabling else 0)
    refine ⟨m, ?_, fun a => ?_⟩
    · rw [List.map_cons, rivalPowers, Ambient.bind_of_ok (rivalPower_toItem held hr active)]
      exact hm
    · rw [hcov a, Mask.covers_or, List.forall_mem_cons, and_assoc]
      cases held.coversTarget q <;> simp

/-- Permissions that were made before need no reading. -/
theorem rivalPowers_of_permissions (held : Permission) (rivals : List Permission) (active : Scheme) :
    ∃ m, held.rivalPowers (rivals.map Item.ofPermission) 0 active = .ok m ∧
      ∀ a : Mask, a.covers m = true ↔
        ∀ q ∈ rivals, held.coversTarget q = true → a.covers q.grantEnabling = true := by
  have hread : List.Forall₂ (fun r q => r.under held.scheme = .ok q) (rivals.map Given.made) rivals := by
    rw [List.forall₂_map_left_iff, List.forall₂_same]
    exact fun _ _ => rfl
  have hitems : (rivals.map Given.made).map Given.toItem = rivals.map Item.ofPermission := by
    rw [List.map_map]
    rfl
  obtain ⟨m, hm, hcov⟩ := rivalPowers_ok held hread 0 active
  rw [hitems] at hm
  exact ⟨m, hm, fun a => by rw [hcov a, and_iff_right (Mask.covers_zero a)]⟩

/-- The first permission of the other side that cannot be read decides. -/
theorem rivalPowers_error (held : Permission) {before after : List Given} {rival : Given} {e : Fault}
    (hb : ∀ r ∈ before, ∃ q, r.under held.scheme = .ok q) (hr : rival.under held.scheme = .error e)
    (collected : Mask) (active : Scheme) :
    held.rivalPowers ((before ++ rival :: after).map Given.toItem) collected active = .error e := by
  induction before generalizing collected with
  | nil => exact Ambient.bind_of_error (rivalPower_error held hr active) _
  | cons r before ih =>
    obtain ⟨q, hq⟩ := hb r (by simp)
    rw [List.cons_append, List.map_cons, rivalPowers, Ambient.bind_of_ok (rivalPower_toItem held hq active)]
    exact ih (fun s hs => hb s (by simp [hs])) _

/-! ### The decision -/

theorem has_iff_covers {s : Privileges} {m : Mask} (hm : m ≠ 0) : s.has m = s.mask.covers m := by
  simp [Privileges.has, hm]

/-- Who has no power may hand out nothing, so the first check needs no case of its own. -/
theorem covers_eq_false_of_power {held : Permission} (h : held.power = 0) {m : Mask} (hm : m ≠ 0) :
    held.power.covers m = false := by
  by_contra hc
  rw [Bool.not_eq_false] at hc
  apply hm
  exact Mask.covers_antisymm (Mask.covers_zero m) (h ▸ hc)

/-- The last check takes the empty mask for contained, as inclusion does. -/
private theorem eq_zero_or_has (s : Privileges) (m : Mask) : (decide (m = 0) || s.has m) = s.mask.covers m := by
  by_cases hm : m = 0
  · simp [hm]
  · simp [hm, has_iff_covers hm]

/-- The grant-enabling privileges of a permission are among its privileges. -/
theorem covers_grantEnabling {a : Mask} {p : Permission} (h : a.covers p.privileges.mask = true) :
    a.covers p.grantEnabling = true :=
  Mask.covers_trans h (Mask.covers_and_left _ _)

variable {held p : Permission} {value : Item} {active : Scheme}

theorem mayDelegate_of_error {e : Fault} (h : held.read value active = .error e) (rivals : Item) :
    held.mayDelegate value rivals active = .error e :=
  Ambient.bind_of_error h _

theorem mayDelegate_of_refused (h : held.read value active = .ok p)
    (hb : held.coversTarget p = false ∨ held.privileges.grantable.has p.privileges.mask = false) (rivals : Item) :
    held.mayDelegate value rivals active = .ok false := by
  rw [mayDelegate, Ambient.bind_of_ok h]
  dsimp only
  split
  · rfl
  split
  · rfl
  rename_i ht
  have hm : held.privileges.grantable.has p.privileges.mask = false := hb.resolve_left (by simpa using ht)
  rw [hm]
  rfl

/-- A new permission beyond the holder's target or power settles the question. -/
theorem mayDelegate_of_beyond (h : held.read value active = .ok p) (hp : p.privileges.mask ≠ 0)
    (hb : held.coversTarget p = false ∨ held.power.covers p.privileges.mask = false) (rivals : Item) :
    held.mayDelegate value rivals active = .ok false :=
  mayDelegate_of_refused h (hb.imp_right (has_iff_covers hp).trans) rivals

/-- A new permission within the holder's target and power leaves the question to what the other side holds. -/
theorem mayDelegate_of_within (h : held.read value active = .ok p) (hp : p.privileges.mask ≠ 0)
    (ht : held.coversTarget p = true) (hm : held.power.covers p.privileges.mask = true) (rivals : List Item) :
    held.mayDelegate value (.list rivals) active =
      (held.rivalPowers rivals 0 active).map held.power.covers := by
  have hne : held.power ≠ 0 := by
    intro h0
    rw [covers_eq_false_of_power h0 hp] at hm
    simp at hm
  have hhas : held.privileges.grantable.has p.privileges.mask = true := (has_iff_covers hp).trans hm
  have hne' : held.privileges.grantable.mask ≠ 0 := hne
  rw [mayDelegate, Ambient.bind_of_ok h]
  simp only [hne', ht, hhas, ↓reduceIte, Bool.not_true, Bool.false_eq_true, Item.elements?, eq_zero_or_has]
  cases hr : held.rivalPowers rivals 0 active with
  | error e => exact Ambient.bind_of_error hr _
  | ok m =>
    rw [Ambient.bind_of_ok hr]
    have hg : held.power.covers p.grantEnabling = true := covers_grantEnabling hm
    have : held.power.covers (m ||| p.grantEnabling) = held.power.covers m := by
      rw [Bool.eq_iff_iff, Mask.covers_or]
      simp [hg]
    exact congrArg Except.ok this

/-- A new permission is refused whatever the other side holds, or it is non-empty and within target and power. -/
theorem refused_or_within (held p : Permission) :
    (held.coversTarget p = false ∨ held.privileges.grantable.has p.privileges.mask = false) ∨
      p.privileges.mask ≠ 0 ∧ held.coversTarget p = true ∧ held.power.covers p.privileges.mask = true := by
  cases ht : held.coversTarget p with
  | false => exact Or.inl (Or.inl rfl)
  | true =>
    cases hm : held.privileges.grantable.has p.privileges.mask with
    | false => exact Or.inl (Or.inr rfl)
    | true =>
      have hp : p.privileges.mask ≠ 0 := by
        intro hz
        simp [Privileges.has, hz] at hm
      exact Or.inr ⟨hp, rfl, (has_iff_covers hp).symm.trans hm⟩

/-- What may be handed out or taken away is within the holder's power. -/
theorem power_covers_of_mayDelegate (h : held.read value active = .ok p) (hp : p.privileges.mask ≠ 0) {rivals : Item}
    (hd : held.mayDelegate value rivals active = .ok true) : held.power.covers p.privileges.mask = true := by
  by_contra hc
  rw [Bool.not_eq_true] at hc
  rw [mayDelegate_of_beyond h hp (Or.inr hc)] at hd
  simp at hd

/-! ### The rule -/

/-- The decision follows the rule. -/
theorem mayDelegate_of_rule {held : Permission} {new : Given} {rivals : List Given} {answer : Except Fault Bool}
    (hnew : new.WellFormed) (h : DelegationRule held new rivals answer) (active : Scheme) :
    held.mayDelegate new.toItem (.list (rivals.map Given.toItem)) active = answer := by
  have hread : ∀ r, new.under held.scheme = r → held.read new.toItem active = r :=
    fun r hr => (Given.read_toItem held new active).trans hr
  cases h with
  | unreadable read => exact mayDelegate_of_error (hread _ read) _
  | beyond read exceeds =>
    exact mayDelegate_of_beyond (hread _ read) (Given.wellFormed_of_under hnew read).mask_ne_zero exceeds _
  | unreadableRival read target within split readBefore readRival =>
    rw [mayDelegate_of_within (hread _ read) (Given.wellFormed_of_under hnew read).mask_ne_zero target within,
      split, rivalPowers_error held readBefore readRival]
    rfl
  | judged read target within readRivals verdict =>
    obtain ⟨m, hm, hcov⟩ := rivalPowers_ok held readRivals 0 active
    rw [mayDelegate_of_within (hread _ read) (Given.wellFormed_of_under hnew read).mask_ne_zero target within, hm]
    refine congrArg Except.ok ?_
    rw [Bool.eq_iff_iff, hcov, verdict]
    simp

/-- The rule gives some answer to every question. -/
theorem exists_rule (held : Permission) (new : Given) (rivals : List Given) :
    ∃ answer, DelegationRule held new rivals answer := by
  cases hread : new.under held.scheme with
  | error e => exact ⟨_, .unreadable hread⟩
  | ok p =>
    cases ht : held.coversTarget p with
    | false => exact ⟨_, .beyond hread (Or.inl ht)⟩
    | true =>
      cases hm : held.power.covers p.privileges.mask with
      | false => exact ⟨_, .beyond hread (Or.inr hm)⟩
      | true =>
        rcases Ambient.all_ok_or_first (Given.under held.scheme) rivals with hall | ⟨_, _, _, _, hs, hb, he⟩
        · obtain ⟨existing, h⟩ := Ambient.exists_values hall
          exact ⟨_, .judged hread ht hm h decide_eq_true_iff⟩
        · exact ⟨_, .unreadableRival hread ht hm hs hb he⟩

/-- **The rule of delegation.**  Handing out and taking away are decided by the rule and by nothing else: an answer
or a fault is given exactly where the rule gives it. -/
theorem mayGrant_and_mayRevoke_iff_rule (held : Permission) (new : Given) (rivals : List Given) (active : Scheme)
    (hnew : new.WellFormed) (answer : Except Fault Bool) :
    (held.mayGrant new.toItem (.list (rivals.map Given.toItem)) active = answer ↔
      DelegationRule held new rivals answer) ∧
    (held.mayRevoke new.toItem (.list (rivals.map Given.toItem)) active = answer ↔
      DelegationRule held new rivals answer) := by
  have key : held.mayDelegate new.toItem (.list (rivals.map Given.toItem)) active = answer ↔
      DelegationRule held new rivals answer := by
    constructor
    · intro h
      obtain ⟨answer', hrule⟩ := exists_rule held new rivals
      rw [mayDelegate_of_rule hnew hrule] at h
      exact h ▸ hrule
    · intro h
      exact mayDelegate_of_rule hnew h active
  exact ⟨key, key⟩

/-- A single privilege of the standard scheme over a path. -/
def ofBit (path : String) (position : Nat) : Permission := ⟨path, none, ⟨Mask.bit position, Scheme.standard⟩⟩

theorem ofBit_wellFormed {path : String} (h : path ≠ "") (position : Nat) : (ofBit path position).WellFormed :=
  ⟨h, by simp [ofBit], by simp [ofBit], Mask.bit_ne_zero position⟩

/-- The holder of `m` may not hand out `r` to somebody who holds `s` over the same path. -/
theorem rule_for_manager_against_super :
    (Given.made (ofBit "/a/b" 1)).WellFormed ∧
      (ofBit "/a" 5).mayGrant (Given.made (ofBit "/a/b" 1)).toItem (.list [.text "/a:s"]) Scheme.standard =
        .ok false ∧
      DelegationRule (ofBit "/a" 5) (.made (ofBit "/a/b" 1)) [.written "/a:s"] (.ok false) := by
  have hnew : (Given.made (ofBit "/a/b" 1)).WellFormed := ofBit_wellFormed (by decide) 1
  have hmay : (ofBit "/a" 5).mayGrant (Given.made (ofBit "/a/b" 1)).toItem (.list [.text "/a:s"]) Scheme.standard =
      .ok false := by rfl
  exact ⟨hnew, hmay, (mayGrant_and_mayRevoke_iff_rule _ _ [.written "/a:s"] Scheme.standard hnew _).1.1 hmay⟩

end PathAccess.Permission
