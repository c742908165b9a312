import PathAccess.Proofs.Glob.Containment
import PathAccess.Proofs.Holdings.Single
import PathAccess.Proofs.Permission.Equality
import PathAccess.Proofs.Permission.Making

/-!
# Everything covers itself

A pattern covers its own text, so a permission covers the target of an equal one, as a whole and part by part
(`Permission.coversTarget_part_of_same`).  Therefore a permission allows itself, and a collection allows every
permission that it contains.
-/

namespace PathAccess

namespace Permission

variable {p q : Permission}

/-- A permission covers the target of every part of an equal one. -/
theorem coversTarget_part_of_same (h : p.same q = true) (hq : q.WellFormed) :
    ∀ part ∈ q.parts, p.coversTarget part = true := by
  rw [forall_parts_coversTarget_iff hq]
  obtain ⟨hpath, -⟩ := eq_of_same h
  refine ⟨by rw [hpath, Glob.overlap, Glob.covers_self, Bool.true_or], fun own hown => ?_⟩
  obtain ⟨m, hm, hvalues⟩ := get?_of_same h hown
  exact ⟨m, hm, fun e he => ⟨e.2, hvalues e he, fun _ => Or.inr⟩⟩

theorem allows_self (hp : p.WellFormed) (active : Scheme) : p.allows [Item.ofPermission p] active = .ok true := by
  have htarget := coversTarget_of_parts hp (coversTarget_part_of_same p.same_refl hp)
  rw [allows_singleton hp, htarget, Mask.covers_refl]
  rfl

end Permission

namespace Holdings

/-- Whether a permission is equal to some member. -/
def Contains (h : Holdings) (p : Permission) : Prop := ∃ held ∈ h.members, held.same p = true

theorem contains_of_mem {h : Holdings} {p : Permission} (hp : p ∈ h.members) : h.Contains p := ⟨p, hp, p.same_refl⟩

theorem allows_of_contains {h : Holdings} {p : Permission} (hp : p.WellFormed) (hc : h.Contains p)
    (active : Scheme) : h.allows [Item.ofPermission p] active = .ok true := by
  obtain ⟨held, hheld, hsame⟩ := hc
  have hcovers : ∀ part ∈ p.parts, h.covers part = true := by
    intro part hpart
    rw [covers_iff_held]
    intro k hk
    obtain ⟨-, hprivileges, -⟩ := Permission.of_mem_parts hp hpart
    obtain ⟨-, hmask⟩ := Permission.eq_of_same hsame
    rw [hprivileges, ← hmask] at hk
    exact ⟨held, hheld, hk, Permission.coversTarget_part_of_same hsame hp part hpart⟩
  rw [← List.map_singleton, allows_map_ofPermission (by simpa using hp), List.map_singleton, List.flatten_singleton,
    List.all_eq_true.2 hcovers]

end Holdings

/-- **Everything covers itself.**  A pattern covers its own text, a permission that was made under a validated scheme
allows itself, and a collection allows every such permission that it contains. -/
theorem everything_covers_itself :
    (∀ pattern, Glob.covers pattern pattern = true) ∧
      ∀ p : Permission, p.IsMade → p.scheme.IsValidated → ∀ active,
        p.allows [Item.ofPermission p] active = .ok true ∧
          ∀ h : Holdings, h.Contains p → h.allows [Item.ofPermission p] active = .ok true := by
  refine ⟨Glob.covers_self, fun p hmade hscheme active => ?_⟩
  have hp := hmade.wellFormed hscheme.wellFormed
  exact ⟨Permission.allows_self hp active, fun h hc => Holdings.allows_of_contains hp hc active⟩

/-- Also with a wildcard between equal values, and in whatever company. -/
theorem everything_covers_itself_with_repeated_values :
    let p : Permission := ⟨"/**/a*.\n", some (.ofList [("k", ["1", "*", "1"])]), ⟨Mask.bit 1, .standard⟩⟩
    p.IsMade ∧ p.allows [Item.ofPermission p] .standard = .ok true ∧
      ∀ others, (⟨others ++ [p], none⟩ : Holdings).allows [Item.ofPermission p] .standard = .ok true := by
  intro p
  have hparse : Permission.parse (.text "/**/a*.\n?k=1,*,1:r") none .standard = .ok p :=
    eq_ok_of_toOption (by decide +kernel)
  have hmade : p.IsMade := .read hparse
  obtain ⟨-, hself⟩ := everything_covers_itself
  obtain ⟨hallows, hcontains⟩ := hself p hmade Scheme.standard_isValidated .standard
  exact ⟨hmade, hallows, fun others => hcontains _ (Holdings.contains_of_mem (by simp))⟩

end PathAccess
