import PathAccess.Proofs.Ambient

/-!
# Two runs of a computation

The same computation can be run under different active schemes, and on different arguments.  The runs agree if they
fail with the same fault or give related values.  Runs that agree go on to runs that agree (`Ambient.agree_bind`), and
so does what is computed over two lists whose members give runs that agree (`Ambient.agree_mapM`, `agree_allM`,
`agree_anyM`).  Agreement up to equality is equality (`Agree.eq`).
-/

namespace PathAccess

variable {α β γ δ : Type}

/-- Whether results are the same fault, or values that are related. -/
inductive Agree (R : α → β → Prop) : Except Fault α → Except Fault β → Prop
  | ok {a : α} {b : β} (related : R a b) : Agree R (.ok a) (.ok b)
  | error (fault : Fault) : Agree R (.error fault) (.error fault)

namespace Agree

variable {R : α → β → Prop} {S : γ → δ → Prop}

theorem eq {x y : Except Fault α} (h : Agree (· = ·) x y) : x = y := by
  cases h with
  | ok related => rw [related]
  | error fault => rfl

theorem refl {R : α → α → Prop} (hR : ∀ a, R a a) (x : Except Fault α) : Agree R x x := by
  cases x with
  | ok a => exact .ok (hR a)
  | error fault => exact .error fault

theorem bind {x : Except Fault α} {y : Except Fault β} {f : α → Except Fault γ} {g : β → Except Fault δ}
    (h : Agree R x y) (hfg : ∀ a b, R a b → Agree S (f a) (g b)) : Agree S (x >>= f) (y >>= g) := by
  cases h with
  | ok related => exact hfg _ _ related
  | error fault => exact .error fault

/-- Runs that agree up to equality go on from one and the same value. -/
theorem bind_eq {x y : Except Fault α} {f : α → Except Fault γ} {g : α → Except Fault δ} (h : Agree (· = ·) x y)
    (hfg : ∀ a, Agree S (f a) (g a)) : Agree S (x >>= f) (y >>= g) := by
  refine h.bind ?_
  rintro a _ rfl
  exact hfg a

theorem map {x : Except Fault α} {y : Except Fault β} {f : α → γ} {g : β → δ} (h : Agree R x y)
    (hfg : ∀ a b, R a b → S (f a) (g b)) : Agree S (x.map f) (y.map g) := by
  cases h with
  | ok related => exact .ok (hfg _ _ related)
  | error fault => exact .error fault

theorem mapM {as : List α} {bs : List β} {f : α → Except Fault γ} {g : β → Except Fault δ}
    (h : List.Forall₂ (fun a b => Agree S (f a) (g b)) as bs) : Agree (List.Forall₂ S) (as.mapM f) (bs.mapM g) := by
  induction h with
  | nil => exact .ok .nil
  | cons hab _ ih =>
    rw [List.mapM_cons, List.mapM_cons]
    refine hab.bind fun c d hcd => ih.bind fun cs ds hcds => ?_
    exact .ok (.cons hcd hcds)

end Agree

namespace Ambient

variable {A B : Scheme} {R : α → β → Prop} {S : γ → δ → Prop}

theorem agree_bind {x : Ambient α} {y : Ambient β} {f : α → Ambient γ} {g : β → Ambient δ} (h : Agree R (x A) (y B))
    (hfg : ∀ a b, R a b → Agree S (f a A) (g b B)) : Agree S ((x >>= f) A) ((y >>= g) B) := by
  change Agree S (x A >>= fun a => f a A) (y B >>= fun b => g b B)
  exact h.bind hfg

theorem agree_bind_eq {x y : Ambient α} {f : α → Ambient γ} {g : α → Ambient δ} (h : Agree (· = ·) (x A) (y B))
    (hfg : ∀ a, Agree S (f a A) (g a B)) : Agree S ((x >>= f) A) ((y >>= g) B) := by
  change Agree S (x A >>= fun a => f a A) (y B >>= fun a => g a B)
  exact h.bind_eq hfg

private theorem mapM_apply (f : α → Ambient β) (as : List α) (A : Scheme) : as.mapM f A = as.mapM fun a => f a A := by
  induction as with
  | nil => rfl
  | cons a as ih =>
    rw [List.mapM_cons, List.mapM_cons, ← ih]
    rfl

theorem agree_mapM {as : List α} {bs : List β} {f : α → Ambient γ} {g : β → Ambient δ}
    (h : List.Forall₂ (fun a b => Agree S (f a A) (g b B)) as bs) :
    Agree (List.Forall₂ S) (as.mapM f A) (bs.mapM g B) := by
  rw [mapM_apply, mapM_apply]
  exact Agree.mapM h

theorem agree_allM {as : List α} {bs : List β} {f : α → Ambient Bool} {g : β → Ambient Bool}
    (h : List.Forall₂ (fun a b => Agree (· = ·) (f a A) (g b B)) as bs) :
    Agree (· = ·) (as.allM f A) (bs.allM g B) := by
  induction h with
  | nil => exact .ok rfl
  | cons hab _ ih =>
    rw [List.allM, List.allM]
    refine agree_bind_eq hab fun answer => ?_
    cases answer with
    | true => exact ih
    | false => exact .ok rfl

theorem agree_anyM {as : List α} {f g : α → Ambient Bool} (h : ∀ a ∈ as, Agree (· = ·) (f a A) (g a B)) :
    Agree (· = ·) (as.anyM f A) (as.anyM g B) := by
  induction as with
  | nil => exact .ok rfl
  | cons a as ih =>
    rw [List.forall_mem_cons] at h
    rw [List.anyM, List.anyM]
    refine agree_bind_eq h.1 fun answer => ?_
    cases answer with
    | true => exact .ok rfl
    | false => exact ih h.2

end Ambient

end PathAccess
