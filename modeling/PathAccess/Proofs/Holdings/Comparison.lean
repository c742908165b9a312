import PathAccess.Proofs.Holdings.Single

/-!
# Comparing permissions

Constraints are kept (`Attributes.KeptBy`) if every key is still constrained, to the same values; new keys, the order
of the keys, and the order and the number of a key's values do not count.  From this come three relations between
permissions over the same path:

* `q` asks for less than `p` if it keeps the constraints of `p`, maybe with further ones, and has no other privileges;
* `q` extends `p` if it has the same constraints and at least the privileges;
* `p` and `q` are alike if they have the same constraints and the same privileges.

The key fact is `coversTarget_mono`: who covers a target covers every target that keeps its constraints, and goes on
doing so with fewer constraints.  The same holds part by part, since a choice for the new constraints is a choice for
the old ones (`exists_part_kept`).
-/

namespace PathAccess

namespace Attributes

/-- Every key of `m` is constrained by `n` as well, to the same values. -/
def KeptBy (m n : Attributes) : Prop :=
  ∀ e ∈ m.entries, ∃ values, n.get? e.1 = some values ∧ ∀ v, v ∈ values ↔ v ∈ e.2

instance (m n : Attributes) : Decidable (m.KeptBy n) :=
  decidable_of_iff (∀ e ∈ m.entries, ∃ values ∈ n.get? e.1, values ⊆ e.2 ∧ e.2 ⊆ values)
    (forall₂_congr fun _ _ => exists_congr fun _ => and_congr_right fun _ => by
      simp only [List.subset_def, iff_iff_implies_and_implies, forall_and])

private theorem valuesPass_mono {allowed allowed' requested requested' : List String}
    (ha : ∀ v ∈ allowed, v ∈ allowed') (hr : ∀ v, v ∈ requested' ↔ v ∈ requested)
    (h : valuesPass allowed requested = true) : valuesPass allowed' requested' = true := by
  rw [valuesPass_iff] at h ⊢
  obtain ⟨hne, hpass⟩ := h
  constructor
  · obtain ⟨v, hv⟩ := List.exists_mem_of_ne_nil _ hne
    exact List.ne_nil_of_mem ((hr v).2 hv)
  · rcases hpass with hw | hall
    · exact Or.inl ((hr _).2 hw)
    · exact Or.inr fun v hv => ha v (hall v ((hr v).1 hv))

private theorem cover_mono_some {own own' requested requested' : Attributes} (ho : own'.KeptBy own)
    (hr : requested.KeptBy requested') (h : cover (some own) (some requested) = true) :
    cover (some own') (some requested') = true := by
  rw [cover_iff] at h ⊢
  obtain ⟨hne, hall⟩ := h
  constructor
  · obtain ⟨e, he⟩ := List.exists_mem_of_ne_nil _ hne
    obtain ⟨values, hvalues, -⟩ := hr e he
    exact List.ne_nil_of_mem (OrderedMap.mem_entries.2 hvalues)
  · intro e' he'
    obtain ⟨allowed, hallowed, hsame⟩ := ho e' he'
    obtain ⟨values, hvalues, hpass⟩ := hall (e'.1, allowed) (OrderedMap.mem_entries.2 hallowed)
    obtain ⟨values', hvalues', hsame'⟩ := hr (e'.1, values) (OrderedMap.mem_entries.2 hvalues)
    exact ⟨values', hvalues', valuesPass_mono (fun v hv => (hsame v).1 hv) hsame' hpass⟩

end Attributes

namespace Permission

/-- Whether `q` has the path of `p` and keeps its constraints. -/
structure Keeps (q p : Permission) : Prop where
  path_eq : q.path = p.path
  attributes : ∀ m, p.attributes = some m → ∃ n, q.attributes = some n ∧ m.KeptBy n

instance (q p : Permission) : Decidable (q.Keeps p) :=
  decidable_of_iff (q.path = p.path ∧ ∀ m ∈ p.attributes, ∃ n ∈ q.attributes, Attributes.KeptBy m n)
    ⟨fun ⟨hpath, ha⟩ => ⟨hpath, ha⟩, fun h => ⟨h.path_eq, h.attributes⟩⟩

/-- Whether `q` is within the target of `p` and has no privileges that `p` does not have. -/
structure AsksLess (q p : Permission) : Prop extends Keeps q p where
  mask : p.privileges.mask.covers q.privileges.mask = true

instance (q p : Permission) : Decidable (q.AsksLess p) :=
  decidable_of_iff (q.Keeps p ∧ p.privileges.mask.covers q.privileges.mask = true)
    ⟨fun ⟨hkeeps, hmask⟩ => ⟨hkeeps, hmask⟩, fun h => ⟨h.toKeeps, h.mask⟩⟩

/-- Whether `q` has the target of `p`, and at least its privileges. -/
structure Extends (q p : Permission) : Prop extends Keeps q p where
  kept : Keeps p q
  scheme_eq : q.scheme = p.scheme
  mask : q.privileges.mask.covers p.privileges.mask = true

instance (q p : Permission) : Decidable (q.Extends p) :=
  decidable_of_iff (q.Keeps p ∧ p.Keeps q ∧ q.scheme = p.scheme ∧ q.privileges.mask.covers p.privileges.mask = true)
    ⟨fun ⟨hkeeps, hkept, hscheme, hmask⟩ => ⟨hkeeps, hkept, hscheme, hmask⟩,
      fun h => ⟨h.toKeeps, h.kept, h.scheme_eq, h.mask⟩⟩

/-- Whether permissions differ at most in the order of the keys, and in the order and the number of a key's values. -/
structure Alike (p q : Permission) : Prop extends Keeps p q where
  kept : Keeps q p
  privileges_eq : p.privileges = q.privileges

instance (p q : Permission) : Decidable (p.Alike q) :=
  decidable_of_iff (p.Keeps q ∧ q.Keeps p ∧ p.privileges = q.privileges)
    ⟨fun ⟨hkeeps, hkept, hprivileges⟩ => ⟨hkeeps, hkept, hprivileges⟩,
      fun h => ⟨h.toKeeps, h.kept, h.privileges_eq⟩⟩

variable {held held' p q : Permission}

theorem Alike.symm (h : p.Alike q) : q.Alike p := ⟨h.kept, h.toKeeps, h.privileges_eq.symm⟩

theorem Alike.extends (h : p.Alike q) : p.Extends q where
  toKeeps := h.toKeeps
  kept := h.kept
  scheme_eq := congrArg Privileges.scheme h.privileges_eq
  mask := h.privileges_eq ▸ Mask.covers_refl _

theorem Alike.asksLess (h : p.Alike q) : p.AsksLess q := ⟨h.toKeeps, h.privileges_eq ▸ Mask.covers_refl _⟩

/-! ### Targets -/

/-- Who covers a target covers what keeps its constraints, and does so with fewer constraints. -/
theorem coversTarget_mono (hheld : held.Keeps held') (hq : q.Keeps p) (h : held.coversTarget p = true) :
    held'.coversTarget q = true := by
  simp only [coversTarget, Bool.and_eq_true] at h ⊢
  obtain ⟨hpath, hcover⟩ := h
  refine ⟨by rwa [← hheld.path_eq, hq.path_eq], ?_⟩
  cases ha' : held'.attributes with
  | none => rfl
  | some own' =>
    obtain ⟨own, ha, hown⟩ := hheld.attributes own' ha'
    rw [ha] at hcover
    cases hp : p.attributes with
    | none => simp [hp, Attributes.cover] at hcover
    | some m =>
      obtain ⟨n, hn, hkept⟩ := hq.attributes m hp
      rw [hp] at hcover
      rw [hn]
      exact Attributes.cover_mono_some hown hkept hcover

/-! ### Parts -/

private theorem entries_ofChoice_pick (m : Attributes) (pick : String → String) :
    (Attributes.ofChoice (m.entries.map fun e => (e.1, pick e.1))).entries =
      m.entries.map fun e => (e.1, [pick e.1]) := by
  have hnodup : ((m.entries.map fun e => (e.1, pick e.1)).map Prod.fst).Nodup := by
    rw [List.map_map]
    exact m.nodup
  rw [Attributes.entries_ofChoice hnodup, List.map_map]
  rfl

/-- Whoever picks values for more constraints picks values for the old ones, the same for each of them. -/
theorem Keeps.picked (h : q.Keeps p) (pick : String → String) : (q.picked pick).Keeps (p.picked pick) where
  path_eq := h.path_eq
  attributes := by
    intro m' hm'
    obtain ⟨m, hm, rfl⟩ := Option.map_eq_some_iff.1 hm'
    obtain ⟨n, hn, hkept⟩ := h.attributes m hm
    refine ⟨.ofChoice (n.entries.map fun e => (e.1, pick e.1)), by simp [Permission.picked, hn], ?_⟩
    intro f hf
    rw [entries_ofChoice_pick] at hf
    obtain ⟨e, he, rfl⟩ := List.mem_map.1 hf
    obtain ⟨values, hvalues, -⟩ := hkept e he
    refine ⟨[pick e.1], ?_, fun _ => Iff.rfl⟩
    rw [← OrderedMap.mem_entries, entries_ofChoice_pick]
    exact List.mem_map.2 ⟨_, OrderedMap.mem_entries.2 hvalues, rfl⟩

theorem Keeps.picks (h : q.Keeps p) {pick : String → String} (hpick : q.Picks pick) : p.Picks pick := by
  intro m hm e he
  obtain ⟨n, hn, hkept⟩ := h.attributes m hm
  obtain ⟨values, hvalues, hsame⟩ := hkept e he
  exact (hsame _).1 (hpick n hn _ (OrderedMap.mem_entries.2 hvalues))

/-- Every part of a permission that keeps the constraints of another keeps those of a part of the other. -/
theorem exists_part_kept (h : q.Keeps p) {part : Permission} (hpart : part ∈ q.parts) :
    ∃ part' ∈ p.parts, part.Keeps part' := by
  obtain ⟨pick, hpick, rfl⟩ := mem_parts_iff.1 hpart
  exact ⟨p.picked pick, mem_parts_iff.2 ⟨pick, h.picks hpick, rfl⟩, h.picked pick⟩

end Permission

end PathAccess
