import Mathlib.Data.List.Basic
import PathAccess.Proofs.Mask
import PathAccess.Scheme.Basic

/-!
# What can be handed out in the end

The privileges of a mask may hand out others, these may hand out others again, and so on.  `Scheme.closure` collects
everything that can come of it: it adds what the mask may hand out, once for every grant of the scheme and once more.
A round that adds no new grant-enabling privilege is the last that can add anything (`spread_closed`), so the result
is the least mask with the given one in it that may hand out only parts of itself (`isGrantClosure_closure`).
-/

namespace PathAccess.Scheme

/-- `K` is the least mask that contains `initial` and may hand out only parts of itself. -/
structure IsGrantClosure (c : Scheme) (initial K : Mask) : Prop where
  initial_le : K.covers initial = true
  closed : K.covers (c.grantMask K) = true
  least : ∀ L : Mask, L.covers initial = true → L.covers (c.grantMask L) = true → L.covers K = true

/-- The grants whose privileges a mask has. -/
def enabled (c : Scheme) (m : Mask) : List (Mask × Mask) := c.grants.entries.filter (m.meets ·.1)

/-- A mask with what it may hand out, a number of times over. -/
def spread (c : Scheme) : Nat → Mask → Mask
  | 0, m => m
  | n + 1, m => c.spread n (m ||| c.grantMask m)

/-- Everything that can come of a mask by handing out. -/
def closure (c : Scheme) (initial : Mask) : Mask := c.spread (c.grants.size + 1) initial

/-! ### Handing out is monotone -/

theorem covers_grantMask {c : Scheme} {a m : Mask} :
    a.covers (c.grantMask m) = true ↔ ∀ e ∈ c.grants.entries, m.meets e.1 = true → a.covers e.2 = true := by
  simp only [grantMask, Mask.covers_unions, List.forall_mem_map, List.mem_filter]
  exact ⟨fun h e he hm => h e ⟨he, hm⟩, fun h e he => h e he.1 he.2⟩

theorem meets_grantMask {c : Scheme} {m b : Mask} :
    (c.grantMask m).meets b = true ↔ ∃ e ∈ c.grants.entries, m.meets e.1 = true ∧ e.2.meets b = true := by
  simp only [grantMask, Mask.meets_unions, List.mem_map, List.mem_filter]
  constructor
  · rintro ⟨_, ⟨e, ⟨he, hm⟩, rfl⟩, hb⟩
    exact ⟨e, he, hm, hb⟩
  · rintro ⟨e, he, hm, hb⟩
    exact ⟨e.2, ⟨e, ⟨he, hm⟩, rfl⟩, hb⟩

/-- A larger mask may hand out no less. -/
theorem grantMask_mono (c : Scheme) {a b : Mask} (h : a.covers b = true) :
    (c.grantMask a).covers (c.grantMask b) = true := by
  rw [covers_grantMask]
  intro e he hm
  exact covers_grantMask.1 (Mask.covers_refl (c.grantMask a)) e he (Mask.meets_of_covers h hm)

private theorem enabled_sublist (c : Scheme) {a b : Mask} (h : a.covers b = true) :
    (c.enabled b).Sublist (c.enabled a) :=
  List.monotone_filter_right _ fun _ he => Mask.meets_of_covers h he

private theorem grantMask_eq_of_length (c : Scheme) {a b : Mask} (h : a.covers b = true)
    (hl : (c.enabled a).length ≤ (c.enabled b).length) : c.grantMask a = c.grantMask b := by
  have : c.enabled b = c.enabled a := (enabled_sublist c h).eq_of_length_le hl
  change Mask.unions ((c.enabled a).map Prod.snd) = Mask.unions ((c.enabled b).map Prod.snd)
  rw [this]

/-! ### The closure -/

private theorem spread_of_closed (c : Scheme) {m : Mask} (h : m.covers (c.grantMask m) = true) (n : Nat) :
    c.spread n m = m := by
  have hm : m ||| c.grantMask m = m :=
    Mask.covers_antisymm (Mask.or_covers_left _ _) (Mask.covers_or.2 ⟨Mask.covers_refl m, h⟩)
  induction n with
  | zero => rfl
  | succ n ih => rw [spread, hm, ih]

private theorem closed_of_enabled_le (c : Scheme) {m : Mask}
    (h : (c.enabled (m ||| c.grantMask m)).length ≤ (c.enabled m).length) :
    (m ||| c.grantMask m).covers (c.grantMask (m ||| c.grantMask m)) = true := by
  rw [grantMask_eq_of_length c (Mask.or_covers_left _ _) h]
  exact Mask.or_covers_right _ _

/-- After as many rounds as there are grants still to be enabled, and one more, nothing can be added. -/
private theorem spread_closed (c : Scheme) (n : Nat) (m : Mask)
    (h : c.grants.entries.length ≤ (c.enabled m).length + n) :
    (c.spread (n + 1) m).covers (c.grantMask (c.spread (n + 1) m)) = true := by
  induction n generalizing m with
  | zero =>
    have : (c.enabled (m ||| c.grantMask m)).length ≤ c.grants.entries.length := List.length_filter_le _ _
    exact closed_of_enabled_le c (by omega)
  | succ n ih =>
    -- either this round enables a new grant, or it is the last that adds anything
    by_cases hl : (c.enabled (m ||| c.grantMask m)).length ≤ (c.enabled m).length
    · have hc := closed_of_enabled_le c hl
      rw [spread, spread_of_closed c hc]
      exact hc
    · exact ih _ (by omega)

private theorem spread_covers (c : Scheme) (n : Nat) (m : Mask) : (c.spread n m).covers m = true := by
  induction n generalizing m with
  | zero => exact Mask.covers_refl m
  | succ n ih => exact Mask.covers_trans (ih _) (Mask.or_covers_left _ _)

private theorem covers_spread (c : Scheme) {L : Mask} (hL : L.covers (c.grantMask L) = true) (n : Nat) {m : Mask}
    (hm : L.covers m = true) : L.covers (c.spread n m) = true := by
  induction n generalizing m with
  | zero => exact hm
  | succ n ih => exact ih (Mask.covers_or.2 ⟨hm, Mask.covers_trans hL (grantMask_mono c hm)⟩)

/-- The closure is the least mask that contains the given one and may hand out only parts of itself. -/
theorem isGrantClosure_closure (c : Scheme) (initial : Mask) : c.IsGrantClosure initial (c.closure initial) where
  initial_le := spread_covers c _ initial
  closed := spread_closed c c.grants.size initial (by simp only [OrderedMap.size]; omega)
  least := fun _ hi hL => covers_spread c hL _ hi

end PathAccess.Scheme
