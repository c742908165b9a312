import PathAccess.Privileges.Basic
import PathAccess.Proofs.Scheme.Coherence
import PathAccess.Proofs.Scheme.GrantClosure

/-!
# What a mask may hand out

Every grant of a scheme counts by itself: it adds its mask if some position of its key is held.  So what two masks may
hand out together is what they may hand out one by one (`Scheme.grantMask_or`), for any scheme and for masks with
infinitely many positions as well.

A mask that meets no key of a grant hands out nothing.  The converse needs grants that are about something
(`Scheme.grantMask_eq_zero_iff`).  They are in a validated scheme, where every grant lists a privilege or has a positive
mask, and several grants of one privilege are taken together (`Scheme.Coherent.grant_ne_zero`).
-/

namespace PathAccess.Scheme

variable {c : Scheme} {a b m : Mask}

theorem grantMask_covers {e : Mask × Mask} (he : e ∈ c.grants.entries) (hm : m.meets e.1 = true) :
    (c.grantMask m).covers e.2 = true :=
  covers_grantMask.1 (Mask.covers_refl (c.grantMask m)) e he hm

/-- What two masks may hand out together. -/
theorem grantMask_or (c : Scheme) (a b : Mask) : c.grantMask (a ||| b) = c.grantMask a ||| c.grantMask b := by
  apply Mask.covers_antisymm
  · rw [Mask.covers_or]
    exact ⟨grantMask_mono c (Mask.or_covers_left a b), grantMask_mono c (Mask.or_covers_right a b)⟩
  · rw [covers_grantMask]
    intro e he hm
    rcases Mask.or_meets.1 hm with ha | hb
    · exact Mask.covers_trans (Mask.or_covers_left _ _) (grantMask_covers he ha)
    · exact Mask.covers_trans (Mask.or_covers_right _ _) (grantMask_covers he hb)

theorem and_grantEnabling_eq_zero_iff :
    m &&& c.grantEnabling = 0 ↔ ∀ e ∈ c.grants.entries, m.meets e.1 = false := by
  rw [Mask.and_eq_zero_iff, Mask.meets_comm, grantEnabling, ← Bool.not_eq_true, Mask.meets_unions]
  constructor
  · intro h e he
    rw [← Bool.not_eq_true, Mask.meets_comm]
    exact fun hm => h ⟨e.1, List.mem_map_of_mem he, hm⟩
  · rintro h ⟨key, hkey, hm⟩
    obtain ⟨e, he, rfl⟩ := List.mem_map.1 hkey
    rw [Mask.meets_comm, h e he] at hm
    exact Bool.noConfusion hm

theorem grantMask_eq_zero_iff (h : ∀ e ∈ c.grants.entries, e.2 ≠ 0) :
    c.grantMask m = 0 ↔ m &&& c.grantEnabling = 0 := by
  rw [and_grantEnabling_eq_zero_iff, grantMask, Mask.unions_eq_zero_iff, List.forall_mem_map]
  simp only [List.mem_filter, and_imp]
  refine forall₂_congr fun e he => ?_
  rw [← Bool.not_eq_true]
  exact imp_congr_right fun _ => iff_false_intro (h e he)

theorem Coherent.grant_ne_zero (hc : c.Coherent) : ∀ e ∈ c.grants.entries, e.2 ≠ 0 := by
  intro e he hzero
  obtain ⟨hpos, -⟩ := hc.grant_range e he
  have hvalue : e.2.value = 0 := congrArg Mask.value hzero
  omega

/-- **What may be handed out, mask by mask.**  Under a validated scheme the union of two masks may hand out what both
may, a part of a mask may hand out no more than the mask, and to hand out nothing is to hold no grant-enabling
privilege. -/
theorem grantMask_distributes (hc : c.IsValidated) (a b : Mask) :
    c.grantMask (a ||| b) = c.grantMask a ||| c.grantMask b ∧
      (b.covers a = true → (c.grantMask b).covers (c.grantMask a) = true) ∧
      (c.grantMask a = 0 ↔ a &&& c.grantEnabling = 0) ∧
      ((Privileges.grantable ⟨a, c⟩).mask = 0 ↔ (Privileges.grantEnabling ⟨a, c⟩).mask = 0) := by
  have hzero : c.grantMask a = 0 ↔ a &&& c.grantEnabling = 0 := grantMask_eq_zero_iff hc.coherent.grant_ne_zero
  exact ⟨grantMask_or c a b, fun h => grantMask_mono c h, hzero, hzero⟩

/-- Masks with all positions but one or two, where one privilege has two grants. -/
theorem grantMask_distributes_of_complements :
    let c : Scheme := ⟨[⟨"read", Mask.bit 0, some "r"⟩, ⟨"write", Mask.bit 1, some "w"⟩, ⟨"share", Mask.bit 2, some "s"⟩],
      ∅, .ofList [(Mask.bit 1, ⟨5⟩), (Mask.bit 2, ⟨4⟩)]⟩
    c.IsValidated ∧ c.grantMask (⟨-7⟩ ||| ⟨4⟩) = c.grantMask ⟨-7⟩ ||| c.grantMask ⟨4⟩ ∧
      (⟨-5⟩ : Mask).covers ⟨-7⟩ = true ∧ (c.grantMask ⟨-5⟩).covers (c.grantMask ⟨-7⟩) = true ∧
      c.grantMask ⟨-7⟩ = 0 ∧ c.grantMask ⟨-5⟩ = ⟨5⟩ := by
  intro c
  have hc : c.IsValidated :=
    ⟨.map
      [(.text "privileges", .map [(.text "r", .text "read"), (.text "w", .text "write"), (.text "s", .text "share")]),
       (.text "grant_privileges", .map [(.text "w", .list [.text "r"]), (.text "share", .int 4),
        (.text "write", .list [.text "s"])])], none, by rfl⟩
  have hpart : (⟨-5⟩ : Mask).covers ⟨-7⟩ = true := by decide
  obtain ⟨hunion, -, hzero, -⟩ := grantMask_distributes hc ⟨-7⟩ ⟨4⟩
  obtain ⟨-, hmono, -, -⟩ := grantMask_distributes hc ⟨-7⟩ ⟨-5⟩
  exact ⟨hc, hunion, hpart, hmono hpart, hzero.2 (by decide), by decide⟩

end PathAccess.Scheme
