import PathAccess.Permission.Basic

/-!
# Equal permissions

Permissions are compared by path, constraints and mask (`Permission.same`).  Constraints are the same if they have the
same values for the same keys, in whatever order (`Permission.get?_of_same`), and the scheme does not count.
-/

namespace PathAccess

theorem Attributes.same_refl (m : Attributes) : m.same m = true := by
  simp only [same, Bool.and_eq_true, decide_eq_true_eq, List.all_eq_true]
  exact ⟨trivial, fun e he => OrderedMap.mem_entries.1 he⟩

namespace Permission

variable {p q : Permission}

theorem same_refl (p : Permission) : p.same p = true := by
  cases hm : p.attributes <;> simp [same, hm, Attributes.same_refl]

theorem eq_of_same (h : p.same q = true) : p.path = q.path ∧ p.privileges.mask = q.privileges.mask := by
  simp only [same, Bool.and_eq_true, decide_eq_true_eq] at h
  exact h.1

/-- Equal constraints have the same values for the same keys. -/
theorem get?_of_same (h : p.same q = true) {m : Attributes} (hm : p.attributes = some m) :
    ∃ n, q.attributes = some n ∧ ∀ e ∈ m.entries, n.get? e.1 = some e.2 := by
  simp only [same, hm, Bool.and_eq_true] at h
  cases hn : q.attributes with
  | none => simp [hn] at h
  | some n =>
    simp only [hn, Attributes.same, Bool.and_eq_true, List.all_eq_true, decide_eq_true_eq] at h
    exact ⟨n, rfl, h.2.2⟩

end Permission

end PathAccess
