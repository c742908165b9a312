import Mathlib.Algebra.BigOperators.Group.Finset.Basic
import Mathlib.Algebra.Order.BigOperators.Group.Finset
import Mathlib.Data.Fin.VecNotation
import Mathlib.Data.Fintype.Basic
import Mathlib.Tactic.FinCases
import PathAccess.Proofs.Holdings.Delegation
import PathAccess.Proofs.Scheme.GrantClosure
import PathAccess.Scheme.Document

/-!
# Delegation among subjects

Subjects hand out permissions to each other and take them away, in any order.  A step is admitted if the collection of
everything that somebody holds allows it, or a single permission of theirs does.

Every permission that is handed out lies within the power of a single permission that its giver holds
(`Grants.exists_power`), and `Step.inversion` says what that makes of a step: the list of one subject grows by such a
permission or shrinks.  So a mask that may hand out only parts of itself and contains what everybody holds keeps
containing it, and no run leads out of the least such mask.  Under the standard scheme only the privilege `s` hands
out `s` and `m`; while nobody holds it, the permissions with either of them only become fewer.
-/

namespace PathAccess

namespace Permission

/-- A permission that the library makes under a scheme. -/
structure MadeUnder (c : Scheme) (p : Permission) : Prop where
  scheme_eq : p.scheme = c
  wellFormed : p.WellFormed

/-- Whether some privilege of a permission is the one that a token names. -/
def carries (p : Permission) (token : String) : Bool := (p.scheme.bitFor token).any (p.privileges.mask.meets ·)

end Permission

/-- What every subject holds. -/
abbrev Community (σ : Type) := σ → List Permission

namespace Community

/-- Whether who holds `own` may hand out a permission to somebody who holds `rivals`: all together, or by a single
permission. -/
def Grants (own : List Permission) (new : Permission) (rivals : List Permission) (active : Scheme) : Prop :=
  (∃ h, Holdings.ofItems (own.map Item.ofPermission) none active = .ok h ∧
    h.mayGrant (Item.ofPermission new) (.list (rivals.map Item.ofPermission)) active = .ok true) ∨
  ∃ p ∈ own, p.mayGrant (Item.ofPermission new) (.list (rivals.map Item.ofPermission)) active = .ok true

/-- Whether who holds `own` may take a permission away from somebody who holds `rivals`. -/
def Revokes (own : List Permission) (old : Permission) (rivals : List Permission) (active : Scheme) : Prop :=
  (∃ h, Holdings.ofItems (own.map Item.ofPermission) none active = .ok h ∧
    h.mayRevoke (Item.ofPermission old) (.list (rivals.map Item.ofPermission)) active = .ok true) ∨
  ∃ p ∈ own, p.mayRevoke (Item.ofPermission old) (.list (rivals.map Item.ofPermission)) active = .ok true

variable {σ : Type}

/-- Whether everybody holds permissions made under a scheme. -/
def MadeUnder (c : Scheme) (s : Community σ) : Prop := ∀ x, ∀ p ∈ s x, p.MadeUnder c

/-- All privileges that somebody holds. -/
noncomputable def union [Fintype σ] (s : Community σ) : Mask :=
  Mask.unions ((Finset.univ.toList.flatMap s).map fun p => p.privileges.mask)

theorem union_covers [Fintype σ] {s : Community σ} {x : σ} {p : Permission} (hp : p ∈ s x) :
    s.union.covers p.privileges.mask = true :=
  Mask.unions_covers (List.mem_map.2 ⟨p, List.mem_flatMap.2 ⟨x, by simp, hp⟩, rfl⟩)

variable [DecidableEq σ]

/-- One step: subject `giver` hands out a permission to subject `taker`, or takes one away. -/
inductive Step (c : Scheme) (s : Community σ) : Community σ → Prop
  | grant {giver taker : σ} {new : Permission} {active : Scheme} (made : new.MadeUnder c)
      (admitted : Grants (s giver) new (s taker) active) : Step c s (Function.update s taker (s taker ++ [new]))
  | revoke {giver taker : σ} {before after : List Permission} {old : Permission} {active : Scheme}
      (held : s taker = before ++ old :: after) (admitted : Revokes (s giver) old (s taker) active) :
      Step c s (Function.update s taker (before ++ after))

/-- Any number of steps. -/
def Run (c : Scheme) : Community σ → Community σ → Prop := Relation.ReflTransGen (Step c)

/-! ### Steps -/

/-- What is handed out lies within the power of a single permission of the giver. -/
theorem Grants.exists_power {own rivals : List Permission} {new : Permission} {active : Scheme}
    (h : Grants own new rivals active) (hown : ∀ p ∈ own, p.WellFormed) (hnew : new.WellFormed) :
    ∃ p ∈ own, p.power.covers new.privileges.mask = true := by
  rcases h with ⟨h, hof, hmay⟩ | ⟨p, hp, hmay⟩
  · rw [Holdings.ofItems_map_ofPermission hown none active] at hof
    obtain rfl := Except.ok.inj hof
    exact Holdings.exists_power_of_mayDelegate hnew hmay
  · exact ⟨p, hp, Permission.power_covers_of_mayDelegate rfl hnew.mask_ne_zero hmay⟩

theorem Grants.exists_grantMask {c : Scheme} {own rivals : List Permission} {new : Permission} {active : Scheme}
    (h : Grants own new rivals active) (hown : ∀ p ∈ own, p.MadeUnder c) (hnew : new.WellFormed) :
    ∃ p ∈ own, (c.grantMask p.privileges.mask).covers new.privileges.mask = true := by
  obtain ⟨p, hp, hpower⟩ := h.exists_power (fun q hq => (hown q hq).wellFormed) hnew
  refine ⟨p, hp, ?_⟩
  rw [← (hown p hp).scheme_eq]
  exact hpower

/-- What a step does: the list of one subject grows by a permission within the power of a single permission that
somebody holds, or shrinks. -/
theorem Step.inversion {c : Scheme} {s s' : Community σ} (h : Step c s s') (hs : s.MadeUnder c) :
    (∃ giver taker new, ∃ p ∈ s giver, new.MadeUnder c ∧
      (c.grantMask p.privileges.mask).covers new.privileges.mask = true ∧
      s' = Function.update s taker (s taker ++ [new])) ∨
    ∃ taker rest, rest.Sublist (s taker) ∧ s' = Function.update s taker rest := by
  cases h with
  | @grant giver taker new active made admitted =>
    obtain ⟨p, hp, hpower⟩ := admitted.exists_grantMask (hs giver) made.wellFormed
    exact Or.inl ⟨giver, taker, new, p, hp, made, hpower, rfl⟩
  | @revoke giver taker before after old active held admitted =>
    refine Or.inr ⟨taker, before ++ after, ?_, rfl⟩
    rw [held]
    exact List.Sublist.append_left (List.sublist_cons_self old after) before

/-- Whatever is held after a step was held before, or lies within the power of a permission that was. -/
theorem Step.mem {c : Scheme} {s s' : Community σ} (h : Step c s s') (hs : s.MadeUnder c) {x : σ} {q : Permission}
    (hq : q ∈ s' x) :
    q ∈ s x ∨ q.MadeUnder c ∧
      ∃ giver, ∃ p ∈ s giver, (c.grantMask p.privileges.mask).covers q.privileges.mask = true := by
  rcases h.inversion hs with ⟨giver, taker, new, p, hp, made, hpower, rfl⟩ | ⟨taker, rest, hrest, rfl⟩
  · rw [Function.update_apply] at hq
    split at hq
    · rename_i hx
      subst hx
      rcases List.mem_append.1 hq with hq | hq
      · exact Or.inl hq
      · rw [List.mem_singleton.1 hq]
        exact Or.inr ⟨made, giver, p, hp, hpower⟩
    · exact Or.inl hq
  · rw [Function.update_apply] at hq
    split at hq
    · rename_i hx
      subst hx
      exact Or.inl (hrest.subset hq)
    · exact Or.inl hq

theorem Step.madeUnder {c : Scheme} {s s' : Community σ} (h : Step c s s') (hs : s.MadeUnder c) :
    s'.MadeUnder c := by
  intro x q hq
  rcases h.mem hs hq with hq | ⟨made, -⟩
  · exact hs x q hq
  · exact made

/-- A step stays within a mask that may hand out only parts of itself. -/
theorem Step.within {c : Scheme} {s s' : Community σ} {K : Mask} (h : Step c s s') (hs : s.MadeUnder c)
    (hK : K.covers (c.grantMask K) = true) (hin : ∀ x, ∀ p ∈ s x, K.covers p.privileges.mask = true) :
    ∀ x, ∀ p ∈ s' x, K.covers p.privileges.mask = true := by
  intro x q hq
  rcases h.mem hs hq with hq | ⟨-, giver, p, hp, hpower⟩
  · exact hin x q hq
  · have hgrant : (c.grantMask K).covers (c.grantMask p.privileges.mask) = true :=
      Scheme.grantMask_mono c (hin giver p hp)
    exact Mask.covers_trans hK (Mask.covers_trans hgrant hpower)

/-- A step adds no permission of a kind that nobody may hand out. -/
theorem Step.countP_le {c : Scheme} {s s' : Community σ} {kind : Permission → Bool} (h : Step c s s')
    (hs : s.MadeUnder c)
    (hkind : ∀ giver, ∀ p ∈ s giver, ∀ new : Permission, new.MadeUnder c →
      (c.grantMask p.privileges.mask).covers new.privileges.mask = true → kind new = false) (x : σ) :
    (s' x).countP kind ≤ (s x).countP kind := by
  rcases h.inversion hs with ⟨giver, taker, new, p, hp, made, hpower, rfl⟩ | ⟨taker, rest, hrest, rfl⟩
  · rw [Function.update_apply]
    split
    · rename_i hx
      subst hx
      simp [List.countP_append, hkind giver p hp new made hpower]
    · exact Nat.le_refl _
  · rw [Function.update_apply]
    split
    · rename_i hx
      subst hx
      exact hrest.countP_le
    · exact Nat.le_refl _

/-! ### Runs -/

theorem Run.madeUnder {c : Scheme} {s s' : Community σ} (h : Run c s s') (hs : s.MadeUnder c) :
    s'.MadeUnder c := by
  induction h with
  | refl => exact hs
  | tail _ hstep ih => exact hstep.madeUnder ih

theorem Run.within {c : Scheme} {s s' : Community σ} {K : Mask} (h : Run c s s') (hs : s.MadeUnder c)
    (hK : K.covers (c.grantMask K) = true) (hin : ∀ x, ∀ p ∈ s x, K.covers p.privileges.mask = true) :
    ∀ x, ∀ p ∈ s' x, K.covers p.privileges.mask = true := by
  induction h with
  | refl => exact hin
  | tail hrun hstep ih => exact hstep.within (Run.madeUnder hrun hs) hK ih

/-! ### The standard scheme -/

private theorem entries_grants_standard :
    Scheme.standard.grants.entries = [(Mask.bit 5, ⟨15⟩), (Mask.bit 4, ⟨63⟩)] := by decide

private theorem meets_grantMask_standard {m b : Mask} (hb : b = Mask.bit 4 ∨ b = Mask.bit 5)
    (h : (Scheme.standard.grantMask m).meets b = true) : m.meets (Mask.bit 4) = true := by
  rw [Scheme.meets_grantMask, entries_grants_standard] at h
  obtain ⟨e, he, hm, hmeets⟩ := h
  rcases List.mem_pair.1 he with rfl | rfl
  · rcases hb with rfl | rfl <;> exact absurd hmeets (by decide)
  · exact hm

/-- Under the standard scheme only the privilege `s` hands out `s` and `m`. -/
theorem carries_of_power {p new : Permission} (hp : p.MadeUnder Scheme.standard)
    (hnew : new.MadeUnder Scheme.standard)
    (hpower : (Scheme.standard.grantMask p.privileges.mask).covers new.privileges.mask = true)
    (h : new.carries "s" = true ∨ new.carries "m" = true) : p.carries "s" = true := by
  have hs : Scheme.standard.bitFor "s" = some (Mask.bit 4) := by decide
  have hm : Scheme.standard.bitFor "m" = some (Mask.bit 5) := by decide
  simp only [Permission.carries, hp.scheme_eq, hnew.scheme_eq, hs, hm, Option.any_some] at h ⊢
  rcases h with h | h
  · exact meets_grantMask_standard (Or.inl rfl) (Mask.meets_of_covers hpower h)
  · exact meets_grantMask_standard (Or.inr rfl) (Mask.meets_of_covers hpower h)

/-- While nobody holds the privilege `s`, nobody comes to hold it. -/
theorem Run.not_carries {s s' : Community σ} (h : Run Scheme.standard s s') (hs : s.MadeUnder Scheme.standard)
    (hnone : ∀ x, ∀ p ∈ s x, p.carries "s" = false) : ∀ x, ∀ p ∈ s' x, p.carries "s" = false := by
  induction h with
  | refl => exact hnone
  | @tail s₁ s₂ hrun hstep ih =>
    intro x q hq
    have hmade := Run.madeUnder hrun hs
    rcases hstep.mem hmade hq with hq | ⟨made, giver, p, hp, hpower⟩
    · exact ih x q hq
    · by_contra hc
      rw [Bool.not_eq_false] at hc
      have := carries_of_power (hmade giver p hp) made hpower (Or.inl hc)
      rw [ih giver p hp] at this
      simp at this

/-- While nobody holds the privilege `s`, the permissions of each subject that carry `s` or `m` become no more. -/
theorem Run.countP_le {s s' : Community σ} (h : Run Scheme.standard s s') (hs : s.MadeUnder Scheme.standard)
    (hnone : ∀ x, ∀ p ∈ s x, p.carries "s" = false) (x : σ) :
    (s' x).countP (fun p => p.carries "s" || p.carries "m") ≤
      (s x).countP (fun p => p.carries "s" || p.carries "m") := by
  induction h with
  | refl => exact Nat.le_refl _
  | @tail s₁ s₂ hrun hstep ih =>
    have hmade := Run.madeUnder hrun hs
    refine Nat.le_trans (hstep.countP_le hmade ?_ x) ih
    intro giver p hp new made hpower
    by_contra hc
    rw [Bool.not_eq_false, Bool.or_eq_true] at hc
    have := carries_of_power (hmade giver p hp) made hpower hc
    rw [Run.not_carries hrun hs hnone giver p hp] at this
    simp at this

/-- **Delegation never escalates.**  After any number of steps everything that somebody holds is contained in the
least mask that contains what everybody held at first and may hand out only parts of itself; what somebody may then
hand out is contained in what a single permission of theirs may hand out; and under the standard scheme, if nobody
held the privilege `s`, no more permissions carry `s` or `m` than at first. -/
theorem run_never_escalates [Fintype σ] {c : Scheme} {s s' : Community σ} (hs : s.MadeUnder c) (hrun : Run c s s') :
    (∃ K, c.IsGrantClosure s.union K ∧ ∀ x, ∀ p ∈ s' x, K.covers p.privileges.mask = true) ∧
    (∀ giver taker new active, new.MadeUnder c → Grants (s' giver) new (s' taker) active →
      ∃ p ∈ s' giver, (c.grantMask p.privileges.mask).covers new.privileges.mask = true) ∧
    (c = Scheme.standard → (∀ x, ∀ p ∈ s x, p.carries "s" = false) →
      ∑ x, (s' x).countP (fun p => p.carries "s" || p.carries "m") ≤
        ∑ x, (s x).countP (fun p => p.carries "s" || p.carries "m")) := by
  refine ⟨⟨c.closure s.union, c.isGrantClosure_closure s.union, ?_⟩, ?_, ?_⟩
  · have hclosure := c.isGrantClosure_closure s.union
    exact hrun.within hs hclosure.closed fun x p hp => Mask.covers_trans hclosure.initial_le (union_covers hp)
  · intro giver taker new active hnew hgrants
    exact hgrants.exists_grantMask (hrun.madeUnder hs giver) hnew.wellFormed
  · rintro rfl hnone
    exact Finset.sum_le_sum fun x _ => hrun.countP_le hs hnone x

/-- Of two subjects the first, who holds `m`, hands out `r` to the second. -/
theorem run_of_manager_never_escalates :
    let start : Community (Fin 2) := ![[.ofBit "/a" 5], []]
    let after := Function.update start 1 [.ofBit "/a/b" 1]
    start.MadeUnder Scheme.standard ∧ Run Scheme.standard start after ∧
      (∀ x, ∀ p ∈ start x, p.carries "s" = false) ∧
      (∃ K, Scheme.standard.IsGrantClosure start.union K ∧ ∀ x, ∀ p ∈ after x, K.covers p.privileges.mask = true) ∧
      ∑ x, (after x).countP (fun p => p.carries "s" || p.carries "m") ≤
        ∑ x, (start x).countP (fun p => p.carries "s" || p.carries "m") := by
  intro start after
  have hmade : start.MadeUnder Scheme.standard := by
    intro x p hp
    fin_cases x
    · rw [List.mem_singleton.1 hp]
      exact ⟨rfl, Permission.ofBit_wellFormed (by decide) 5⟩
    · simp [start] at hp
  have hnone : ∀ x, ∀ p ∈ start x, p.carries "s" = false := by
    intro x p hp
    fin_cases x
    · rw [List.mem_singleton.1 hp]
      decide
    · simp [start] at hp
  have hgrants : Grants (start 0) (.ofBit "/a/b" 1) (start 1) Scheme.standard :=
    Or.inr ⟨.ofBit "/a" 5, by simp [start], by rfl⟩
  have hrun : Run Scheme.standard start after :=
    .single (.grant ⟨rfl, Permission.ofBit_wellFormed (by decide) 1⟩ hgrants)
  obtain ⟨hK, -, hcount⟩ := run_never_escalates hmade hrun
  exact ⟨hmade, hrun, hnone, hK, hcount rfl hnone⟩

end Community

end PathAccess
