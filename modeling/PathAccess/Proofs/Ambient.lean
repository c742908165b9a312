import Mathlib.Data.List.Forall2
import PathAccess.Ambient

/-!
# Computations under the active scheme

A computation that may ask for the active scheme goes on with the value of its first part, or fails with the fault of
it (`bind_of_ok`, `bind_of_error`).  From this follows what a computation over a list gives: `mapM` the values of all
parts, or else the fault of the first part that fails (`mapM_of_ok`, `mapM_eq_error_iff`), `allM` and `anyM` an answer
that some or all of the parts gave, and if all of them give one, the answer that `all` and `any` make of these
(`allM_of_ok`, `anyM_of_ok`).
-/

namespace PathAccess.Ambient

variable {α β γ : Type} {active : Scheme}

theorem bind_of_ok {x : Ambient α} {a : α} (h : x active = .ok a) (f : α → Ambient β) :
    (x >>= f) active = f a active := by
  change (x active >>= fun a => f a active) = _
  rw [h]
  rfl

theorem bind_of_error {x : Ambient α} {e : Fault} (h : x active = .error e) (f : α → Ambient β) :
    (x >>= f) active = .error e := by
  change (x active >>= fun a => f a active) = _
  rw [h]
  rfl

theorem bind_ofExcept_of_ok {x : Except Fault α} {a : α} (h : x = .ok a) (f : α → Ambient β) :
    (ofExcept x >>= f) active = f a active := bind_of_ok h f

theorem bind_ofExcept_of_error {x : Except Fault α} {e : Fault} (h : x = .error e) (f : α → Ambient β) :
    (ofExcept x >>= f) active = .error e := bind_of_error h f

/-- A computation whose value is only worked on. -/
theorem map_apply (x : Ambient α) (f : α → β) (active : Scheme) :
    (do return f (← x) : Ambient β) active = (x active).map f := by
  cases hx : x active with
  | error e => exact bind_of_error hx _
  | ok a => exact bind_of_ok hx _

/-- A computation that gives a value gave one in its first part. -/
theorem bind_eq_ok {x : Ambient α} {f : α → Ambient β} {b : β} (h : (x >>= f) active = .ok b) :
    ∃ a, x active = .ok a ∧ f a active = .ok b := by
  cases hx : x active with
  | error e =>
    rw [bind_of_error hx] at h
    simp at h
  | ok a => exact ⟨a, rfl, (bind_of_ok hx f).symm.trans h⟩

theorem mapM_of_ok {f : α → Ambient β} {as : List α} {bs : List β}
    (h : List.Forall₂ (fun a b => f a active = .ok b) as bs) : as.mapM f active = .ok bs := by
  induction h with
  | nil => rfl
  | cons hab _ ih =>
    rw [List.mapM_cons, bind_of_ok hab, bind_of_ok ih]
    rfl

/-- The first part that fails decides. -/
theorem mapM_of_error {f : α → Ambient β} {before after : List α} {a : α} {e : Fault}
    (hbefore : ∀ x ∈ before, ∃ b, f x active = .ok b) (ha : f a active = .error e) :
    (before ++ a :: after).mapM f active = .error e := by
  induction before with
  | nil =>
    rw [List.nil_append, List.mapM_cons]
    exact bind_of_error ha _
  | cons x before ih =>
    obtain ⟨b, hb⟩ := hbefore x (by simp)
    rw [List.cons_append, List.mapM_cons, bind_of_ok hb]
    exact bind_of_error (ih fun y hy => hbefore y (by simp [hy])) _

/-- If every part of a list gives a value, the list of these is at hand. -/
theorem exists_values {f : α → Except Fault β} {as : List α} (h : ∀ a ∈ as, ∃ b, f a = .ok b) :
    ∃ bs, List.Forall₂ (fun a b => f a = .ok b) as bs := by
  induction as with
  | nil => exact ⟨[], .nil⟩
  | cons a as ih =>
    rw [List.forall_mem_cons] at h
    obtain ⟨⟨b, hb⟩, has⟩ := h
    obtain ⟨bs, hbs⟩ := ih has
    exact ⟨b :: bs, .cons hb hbs⟩

/-- Either every part of a list gives a value, or there is a first one that fails. -/
theorem all_ok_or_first (f : α → Except Fault β) (as : List α) :
    (∀ a ∈ as, ∃ b, f a = .ok b) ∨
      ∃ before a after e, as = before ++ a :: after ∧ (∀ x ∈ before, ∃ b, f x = .ok b) ∧ f a = .error e := by
  induction as with
  | nil => exact Or.inl (by simp)
  | cons a as ih =>
    cases ha : f a with
    | error e => exact Or.inr ⟨[], a, as, e, rfl, by simp, ha⟩
    | ok b =>
      refine ih.imp (fun has => List.forall_mem_cons.2 ⟨⟨b, ha⟩, has⟩) ?_
      rintro ⟨before, x, after, e, rfl, hbefore, hx⟩
      exact ⟨a :: before, x, after, e, rfl, List.forall_mem_cons.2 ⟨⟨b, ha⟩, hbefore⟩, hx⟩

theorem mapM_eq_error_iff {f : α → Ambient β} {as : List α} {e : Fault} :
    as.mapM f active = .error e ↔ ∃ before a after, as = before ++ a :: after ∧
      (∀ x ∈ before, ∃ b, f x active = .ok b) ∧ f a active = .error e := by
  constructor
  · intro h
    rcases all_ok_or_first (f · active) as with hall | ⟨before, a, after, e', rfl, hbefore, ha⟩
    · obtain ⟨bs, hbs⟩ := exists_values hall
      rw [mapM_of_ok hbs] at h
      exact absurd h nofun
    · obtain rfl := Except.error.inj ((mapM_of_error hbefore ha).symm.trans h)
      exact ⟨before, a, after, rfl, hbefore, ha⟩
  · rintro ⟨before, a, after, rfl, hbefore, ha⟩
    exact mapM_of_error hbefore ha

/-- Every value that `mapM` gives may be worked on where it is computed. -/
theorem mapM_map_apply (f : α → Ambient β) (g : β → γ) (as : List α) (active : Scheme) :
    as.mapM (fun a => do return g (← f a) : α → Ambient γ) active = (as.mapM f active).map (List.map g) := by
  induction as with
  | nil => rfl
  | cons a as ih =>
    rw [List.mapM_cons, List.mapM_cons]
    cases ha : f a active with
    | error e =>
      rw [bind_of_error ha, bind_of_error (bind_of_error ha _)]
      rfl
    | ok b =>
      rw [bind_of_ok ha, bind_of_ok (bind_of_ok ha _), map_apply _ (List.cons b)]
      refine (map_apply _ (List.cons (g b)) active).trans ?_
      rw [ih]
      cases as.mapM f active <;> rfl

theorem mapM_ofExcept (active : Scheme) (f : α → Except Fault β) (as : List α) :
    as.mapM (fun a => ofExcept (f a)) active = as.mapM f := by
  induction as with
  | nil => rfl
  | cons a as ih =>
    rw [List.mapM_cons, List.mapM_cons, ← ih]
    rfl

/-- Every value that `mapM` gives is that of some part. -/
theorem exists_of_mem_mapM {f : α → Ambient β} {as : List α} {bs : List β} (h : as.mapM f active = .ok bs) {b : β}
    (hb : b ∈ bs) : ∃ a ∈ as, f a active = .ok b := by
  induction as generalizing bs with
  | nil =>
    obtain rfl : [] = bs := Except.ok.inj h
    simp at hb
  | cons a as ih =>
    rw [List.mapM_cons] at h
    obtain ⟨b', hb', h⟩ := bind_eq_ok h
    obtain ⟨bs', hbs', h⟩ := bind_eq_ok h
    obtain rfl : b' :: bs' = bs := Except.ok.inj h
    rcases List.mem_cons.1 hb with rfl | hb
    · exact ⟨a, by simp, hb'⟩
    · obtain ⟨a', ha', h'⟩ := ih hbs' hb
      exact ⟨a', by simp [ha'], h'⟩

theorem allM_cons_eq_true {f : α → Ambient Bool} {a : α} {as : List α}
    (h : (a :: as).allM f active = .ok true) : f a active = .ok true := by
  obtain ⟨b, hb, hr⟩ := bind_eq_ok h
  cases b with
  | true => exact hb
  | false => exact absurd hr (by simp [pure, ReaderT.pure, Except.pure])

theorem allM_of_ok {f : α → Ambient Bool} {g : α → Bool} {as : List α} (h : ∀ a ∈ as, f a active = .ok (g a)) :
    as.allM f active = .ok (as.all g) := by
  induction as with
  | nil => rfl
  | cons a as ih =>
    rw [List.forall_mem_cons] at h
    rw [List.allM, bind_of_ok h.1, List.all_cons]
    cases g a with
    | true => exact ih h.2
    | false => rfl

theorem anyM_of_ok {f : α → Ambient Bool} {g : α → Bool} {as : List α} (h : ∀ a ∈ as, f a active = .ok (g a)) :
    as.anyM f active = .ok (as.any g) := by
  induction as with
  | nil => rfl
  | cons a as ih =>
    rw [List.forall_mem_cons] at h
    rw [List.anyM, bind_of_ok h.1, List.any_cons]
    cases g a with
    | true => rfl
    | false => exact ih h.2

theorem anyM_eq_true {f : α → Ambient Bool} {as : List α} (h : as.anyM f active = .ok true) :
    ∃ a ∈ as, f a active = .ok true := by
  induction as with
  | nil => exact absurd h (by simp [List.anyM, pure, ReaderT.pure, Except.pure])
  | cons a as ih =>
    obtain ⟨b, hb, hr⟩ := bind_eq_ok h
    cases b with
    | true => exact ⟨a, by simp, hb⟩
    | false =>
      obtain ⟨a', ha', h'⟩ := ih hr
      exact ⟨a', by simp [ha'], h'⟩

end PathAccess.Ambient
