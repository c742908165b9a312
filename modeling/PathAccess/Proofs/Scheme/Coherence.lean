import PathAccess.Proofs.Scheme.Restoration

/-!
# Coherent schemes

A scheme that was read from a document is coherent (`Scheme.IsValidated.coherent`): its privileges have different
single bits, every name and identifier is that of one privilege only, no alias takes the name of a privilege, and its
aliases and grants are about its own privileges.

Grants are about them less strictly than aliases.  The mask of an alias is a set of privileges, whereas that of a
grant is a number that is no larger than the mask of all privileges.
-/

namespace PathAccess

/-- A scheme in which all names are resolved without ambiguity. -/
structure Scheme.Coherent (c : Scheme) : Prop where
  privileges_ne_nil : c.privileges ≠ []
  exists_bit : ∀ p ∈ c.privileges, ∃ position, p.bit = Mask.bit position
  nodup_bits : (c.privileges.map Privilege.bit).Nodup
  bitFor_eq : ∀ p ∈ c.privileges, ∀ token, p.answersTo token = true → c.bitFor token = some p.bit
  alias_fresh : ∀ e ∈ c.aliases.entries, ∀ p ∈ c.privileges, p.answersTo e.1 = false
  alias_part : ∀ e ∈ c.aliases.entries, e.2 ≠ 0 ∧ c.fullMask.covers e.2 = true
  grant_privilege : ∀ e ∈ c.grants.entries, ∃ p ∈ c.privileges, p.bit = e.1
  grant_range : ∀ e ∈ c.grants.entries, 1 ≤ e.2.value ∧ e.2.value ≤ c.fullMask.value

namespace Declaration

variable {d : Declaration}

theorem WellFormed.definitions_ne_nil (h : d.WellFormed) : d.definitions ≠ [] := by
  cases h.form with
  | numeric bits hne _ hdefs _ _ => simpa [hdefs] using hne
  | identified names hne _ hdefs _ _ => simpa [hdefs] using hne

private theorem WellFormed.alias_fresh (h : d.WellFormed) (hs : d.isSpelled = true) {e : String × Mask}
    (he : e ∈ d.toScheme.aliases.entries) {p : Privilege} (hp : p ∈ d.base.privileges) :
    p.answersTo e.1 = false := by
  rw [Bool.eq_false_iff]
  intro ht
  obtain ⟨hown, -, -⟩ := h.alias_ok hs he
  rw [h.declares_of_answersTo hs hp ht] at hown
  exact Bool.noConfusion hown

private theorem WellFormed.grant_range (h : d.WellFormed) (hs : d.isSpelled = true) {e : Mask × Mask}
    (he : e ∈ d.toScheme.grants.entries) : 1 ≤ e.2.value ∧ e.2.value ≤ d.base.fullMask.value := by
  have hgrant := h.isGrant hs e he
  cases hi : d.base.isIdentified with
  | true =>
    obtain ⟨hne, hcov⟩ := hgrant.known hi
    exact (h.labelled hs).range_of_covers hne hcov
  | false => exact hgrant.range hi

theorem WellFormed.coherent (h : d.WellFormed) (hs : d.isSpelled = true) : d.toScheme.Coherent where
  privileges_ne_nil := h.definitions_ne_nil
  exists_bit := (h.labelled hs).exists_bit
  nodup_bits := h.nodup_map_bit
  bitFor_eq := fun _ hp _ ht => h.bitFor_of_answersTo hs hp ht
  alias_fresh := fun _ he _ hp => h.alias_fresh hs he hp
  alias_part := fun _ he => (h.alias_ok hs he).2
  grant_privilege := fun e he => (h.isGrant hs e he).exists_privilege
  grant_range := fun _ he => h.grant_range hs he

end Declaration

theorem Scheme.IsValidated.coherent {c : Scheme} (h : c.IsValidated) : c.Coherent := by
  obtain ⟨document, origin, h⟩ := h
  obtain ⟨d, hd, hs, rfl⟩ := exists_of_ofItem h
  exact hd.coherent hs

end PathAccess
