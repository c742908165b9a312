import PathAccess.Proofs.Glob.Containment
import PathAccess.Proofs.Permission.Delegation

/-!
# What the rule of delegation keeps safe

The rule asks whether the holder covers the target of the new permission, and whether the holder covers the targets of
what the other side holds.  Both are asked of the texts of the paths, in either direction, and this leaves two gaps.

A permission may be handed out whose path covers more than the holder's path: one that covers the holder's path in
turn, or one whose text is covered while what it matches is not.  Nobody hands out more paths than they have where the
first is not so, and where the shape of both paths rules out the second (`Glob.TextSuffices`, `covers_of_mayGrant`).

Power beyond the holder's own protects the other side only if the holder covers the target that it is held over; over
any other target it makes no difference, even where it reaches the new permission itself (`rival_decides`).
-/

namespace PathAccess.Permission

variable {held new e : Permission} {active : Scheme}

/-! ### Paths -/

theorem coversTarget_of_mayDelegate {p : Permission} {value rivals : Item} (h : held.read value active = .ok p)
    (hd : held.mayDelegate value rivals active = .ok true) : held.coversTarget p = true := by
  cases ht : held.coversTarget p with
  | true => rfl
  | false =>
    rw [mayDelegate_of_refused h (Or.inl ht)] at hd
    simp at hd

/-- Nobody hands out a permission that covers a path which their own path does not cover, unless the new path covers
theirs in turn, or its text may say less than its stars. -/
theorem covers_of_mayGrant {rivals : Item} (hmay : held.mayGrant (Item.ofPermission new) rivals active = .ok true)
    (hup : Glob.covers new.path held.path = true → Glob.covers held.path new.path = true)
    (htext : Glob.TextSuffices held.path new.path) {path : String} (hpath : '*' ∉ path.toList)
    (hnew : Glob.covers new.path path = true) : Glob.covers held.path path = true := by
  have htarget : held.coversTarget new = true := coversTarget_of_mayDelegate rfl hmay
  simp only [coversTarget, Bool.and_eq_true, Glob.overlap, Bool.or_eq_true] at htarget
  exact htext.covers_trans hpath (htarget.1.elim id hup) hnew

/-- The holder of `s` over everything below a path hands out a wildcard path, and with it what lies below that. -/
theorem covers_of_mayGrant_below_globstar :
    (ofBit "/a/**" 4).mayGrant (Item.ofPermission (ofBit "/a/*/c" 1)) (.list []) Scheme.standard = .ok true ∧
      Glob.TextSuffices "/a/**" "/a/*/c" ∧ Glob.covers "/a/*/c" "/a/b/c/d" = true ∧
      Glob.covers "/a/**" "/a/b/c/d" = true := by
  have hmay : (ofBit "/a/**" 4).mayGrant (Item.ofPermission (ofBit "/a/*/c" 1)) (.list []) Scheme.standard =
      .ok true := by rfl
  have htext : Glob.TextSuffices "/a/**" "/a/*/c" :=
    ⟨Or.inl (by decide), Or.inr (Or.inl (Glob.endsOpenly_of_getLast? (p := ['*', '*']) (by decide) (by decide))),
      by decide⟩
  have hnew : Glob.covers "/a/*/c" "/a/b/c/d" = true := by decide
  exact ⟨hmay, htext, hnew, covers_of_mayGrant hmay (fun _ => by decide) htext (by decide) hnew⟩

/-- The holder of `s` over a single path hands out a pattern that covers its siblings. -/
theorem not_covers_of_mayGrant :
    (ofBit "/a/b" 4).mayGrant (Item.ofPermission (ofBit "/a/*" 1)) (.list []) Scheme.standard = .ok true ∧
      Glob.covers "/a/*" "/a/c" = true ∧ Glob.covers "/a/b" "/a/c" = false :=
  ⟨by rfl, by decide, by decide⟩

/-! ### Power of the other side -/

/-- Only the power that is collected from the other side counts. -/
private theorem mayDelegate_congr {rivals rivals' : List Item} (value : Item)
    (h : held.rivalPowers rivals 0 active = held.rivalPowers rivals' 0 active) :
    held.mayDelegate value (.list rivals) active = held.mayDelegate value (.list rivals') active := by
  cases hr : held.read value active with
  | error fault => rw [mayDelegate_of_error hr, mayDelegate_of_error hr]
  | ok p =>
    rcases refused_or_within held p with hb | ⟨hp, ht, hm⟩
    · rw [mayDelegate_of_refused hr hb, mayDelegate_of_refused hr hb]
    · rw [mayDelegate_of_within hr hp ht hm, mayDelegate_of_within hr hp ht hm, h]

private theorem rivalPowers_skip {rival : Item} (h : held.read rival active = .ok e) (he : held.coversTarget e = false)
    (before after : List Item) (collected : Mask) :
    held.rivalPowers (before ++ rival :: after) collected active =
      held.rivalPowers (before ++ after) collected active := by
  induction before generalizing collected with
  | nil =>
    have hnone : held.rivalPower rival active = .ok 0 := by
      rw [rivalPower, Ambient.bind_of_ok h, he]
      rfl
    rw [List.nil_append, rivalPowers, Ambient.bind_of_ok hnone, Mask.or_zero]
    rfl
  | cons r before ih =>
    rw [List.cons_append, List.cons_append, rivalPowers, rivalPowers]
    cases hr : held.rivalPower r active with
    | error fault => rw [Ambient.bind_of_error hr, Ambient.bind_of_error hr]
    | ok m =>
      rw [Ambient.bind_of_ok hr, Ambient.bind_of_ok hr]
      exact ih _

/-- What the other side holds over other targets makes no difference. -/
theorem mayDelegate_skip {rival : Item} (h : held.read rival active = .ok e) (he : held.coversTarget e = false)
    (value : Item) (before after : List Item) :
    held.mayDelegate value (.list (before ++ rival :: after)) active =
      held.mayDelegate value (.list (before ++ after)) active :=
  mayDelegate_congr value (rivalPowers_skip h he before after 0)

/-- Power beyond the holder's own, over a target that the holder covers, settles the question. -/
theorem mayDelegate_of_rival {p : Permission} {value : Item} (h : held.read value active = .ok p)
    {rivals : List Permission} (he : e ∈ rivals) (hcovers : held.coversTarget e = true)
    (hpower : held.power.covers e.grantEnabling = false) :
    held.mayDelegate value (.list (rivals.map Item.ofPermission)) active = .ok false := by
  rcases refused_or_within held p with hb | ⟨hp, ht, hm⟩
  · exact mayDelegate_of_refused h hb _
  · obtain ⟨m, hcollected, hwithin⟩ := rivalPowers_of_permissions held rivals active
    have hexceeds : held.power.covers m = false := by
      by_contra hc
      rw [Bool.not_eq_false] at hc
      rw [(hwithin held.power).1 hc e he hcovers] at hpower
      simp at hpower
    rw [mayDelegate_of_within h hp ht hm, hcollected, ← hexceeds]
    rfl

/-- No path is a pattern, the holder's constraints cover those of `e`, and the new path lies below the holder's path or
below that of `e`.  Then the holder covers the target of `e` wherever both cover the new one. -/
structure Oversees (held e new : Permission) : Prop where
  attributes : Attributes.cover held.attributes e.attributes = true
  held_literal : '*' ∉ held.path.toList
  literal : '*' ∉ e.path.toList
  new_literal : '*' ∉ new.path.toList
  no_line_break : new.path.toList.getLast? ≠ some '\n'
  below : Glob.covers held.path new.path = true ∨ Glob.covers e.path new.path = true

theorem Oversees.coversTarget (h : Oversees held e new) (hheld : held.coversTarget new = true)
    (he : e.coversTarget new = true) : held.coversTarget e = true := by
  simp only [Permission.coversTarget, Bool.and_eq_true] at hheld he ⊢
  refine ⟨?_, h.attributes⟩
  rcases h.below with hbelow | hbelow
  · exact Glob.overlap_of_covers h.held_literal h.literal h.new_literal h.no_line_break hbelow he.1
  · have hswap := Glob.overlap_of_covers h.literal h.held_literal h.new_literal h.no_line_break hbelow hheld.1
    rwa [Glob.overlap, Bool.or_comm] at hswap

/-- Power of the other side beyond the holder's own makes a difference only where the holder covers the target that it
is held over. -/
theorem rival_decides (held new e : Permission) (before after : List Permission) (active : Scheme)
    (hpower : held.power.covers e.grantEnabling = false) :
    (held.coversTarget e = true ∨ Oversees held e new ∧ e.coversTarget new = true →
      held.mayGrant (Item.ofPermission new) (.list ((before ++ e :: after).map Item.ofPermission)) active =
          .ok false ∧
        held.mayRevoke (Item.ofPermission new) (.list ((before ++ e :: after).map Item.ofPermission)) active =
          .ok false) ∧
      (held.coversTarget e = false →
        held.mayGrant (Item.ofPermission new) (.list ((before ++ e :: after).map Item.ofPermission)) active =
            held.mayGrant (Item.ofPermission new) (.list ((before ++ after).map Item.ofPermission)) active ∧
          held.mayRevoke (Item.ofPermission new) (.list ((before ++ e :: after).map Item.ofPermission)) active =
            held.mayRevoke (Item.ofPermission new) (.list ((before ++ after).map Item.ofPermission)) active) := by
  have hread : held.read (Item.ofPermission new) active = .ok new := rfl
  have he : e ∈ before ++ e :: after := by simp
  constructor
  · intro h
    have hdenied : held.mayDelegate (Item.ofPermission new)
        (.list ((before ++ e :: after).map Item.ofPermission)) active = .ok false := by
      rcases h with hcovers | ⟨hover, hreach⟩
      · exact mayDelegate_of_rival hread he hcovers hpower
      · cases ht : held.coversTarget new with
        | false => exact mayDelegate_of_refused hread (Or.inl ht) _
        | true => exact mayDelegate_of_rival hread he (hover.coversTarget ht hreach) hpower
    exact ⟨hdenied, hdenied⟩
  · intro h
    have hrival : held.read (Item.ofPermission e) active = .ok e := rfl
    have hskip := mayDelegate_skip hrival h (Item.ofPermission new) (before.map Item.ofPermission)
      (after.map Item.ofPermission)
    rw [List.map_append, List.map_cons, List.map_append]
    exact ⟨hskip, hskip⟩

/-- The holder of `m` is refused over a path where somebody holds `s` from a path in between. -/
theorem rival_decides_in_between :
    (ofBit "/a" 5).power.covers (ofBit "/a/b" 4).grantEnabling = false ∧
      (ofBit "/a/b" 4).coversTarget (ofBit "/a/b/c" 1) = true ∧
      (ofBit "/a" 5).mayGrant (Item.ofPermission (ofBit "/a/b/c" 1)) (.list [Item.ofPermission (ofBit "/a/b" 4)])
        Scheme.standard = .ok false ∧
      (ofBit "/a" 5).mayRevoke (Item.ofPermission (ofBit "/a/b/c" 1)) (.list [Item.ofPermission (ofBit "/a/b" 4)])
        Scheme.standard = .ok false := by
  have hpower : (ofBit "/a" 5).power.covers (ofBit "/a/b" 4).grantEnabling = false := by decide
  have hreach : (ofBit "/a/b" 4).coversTarget (ofBit "/a/b/c" 1) = true := by decide
  have hover : Oversees (ofBit "/a" 5) (ofBit "/a/b" 4) (ofBit "/a/b/c" 1) :=
    ⟨by decide, by decide, by decide, by decide, by decide, Or.inl (by decide)⟩
  have hdecides := rival_decides (ofBit "/a" 5) (ofBit "/a/b/c" 1) (ofBit "/a/b" 4) [] [] Scheme.standard hpower
  exact ⟨hpower, hreach, hdecides.1 (Or.inr ⟨hover, hreach⟩)⟩

/-- The holder of `m` under a constraint hands out and takes away under the same constraint, although the other side
holds `s` over the whole path without any. -/
theorem not_rival_decides_under_constraint :
    let held : Permission := ⟨"/a", some (.ofList [("k", ["1"])]), ⟨Mask.bit 5, .standard⟩⟩
    let new : Permission := ⟨"/a", some (.ofList [("k", ["1"])]), ⟨Mask.bit 1, .standard⟩⟩
    (ofBit "/a" 4).coversTarget new = true ∧ (ofBit "/a" 4).grantEnabling ≠ 0 ∧
      held.power.covers (ofBit "/a" 4).grantEnabling = false ∧
      held.mayGrant (Item.ofPermission new) (.list [Item.ofPermission (ofBit "/a" 4)]) Scheme.standard = .ok true ∧
      held.mayRevoke (Item.ofPermission new) (.list [Item.ofPermission (ofBit "/a" 4)]) Scheme.standard =
        .ok true :=
  ⟨by decide, by decide, by decide, by rfl, by rfl⟩

end PathAccess.Permission
