import PathAccess.Permission.Decision
import PathAccess.Proofs.Item
import PathAccess.Proofs.Permission.WellFormed

/-!
# Coverage of constraints

Constraints cover others if every key of the first is constrained by the second, to values that pass
(`Attributes.cover_iff`).  Every value passes if the wildcard is among those requested; otherwise each of them has to be
allowed (`Attributes.valuesPass_iff`).

Constraints cover themselves, and coverage goes through constraints in the middle as long as these have no wildcard
where the first ones have a key (`Attributes.cover_trans`): only a wildcard in the middle would have let a value pass
that the first ones do not allow.  The same question may be put about constraints that are given as an argument, with
the same answer (`Attributes.coverItem_toItem`).
-/

namespace PathAccess.Attributes

/-! ### Values -/

theorem valuesPass_iff {allowed requested : List String} :
    valuesPass allowed requested = true ↔
      requested ≠ [] ∧ (wildcard ∈ requested ∨ ∀ v ∈ requested, v ∈ allowed) := by
  simp [valuesPass]

theorem valuesPass_singleton {allowed : List String} {v : String} :
    valuesPass allowed [v] = true ↔ v = wildcard ∨ v ∈ allowed := by
  rw [valuesPass_iff]
  simp only [List.mem_singleton, eq_comm (a := wildcard), forall_eq]
  exact and_iff_right (List.cons_ne_nil v [])

/-- Values that pass one by one pass together. -/
theorem valuesPass_of_each {allowed requested : List String} (hne : requested ≠ [])
    (h : ∀ v ∈ requested, v = wildcard ∨ v ∈ allowed) : valuesPass allowed requested = true := by
  rw [valuesPass_iff]
  refine ⟨hne, ?_⟩
  by_cases hw : wildcard ∈ requested
  · exact Or.inl hw
  · exact Or.inr fun v hv => (h v hv).resolve_left fun heq => hw (heq ▸ hv)

/-- Values that pass together pass one by one, if the wildcard is not beside another one. -/
theorem each_of_valuesPass {allowed requested : List String}
    (hunmixed : wildcard ∈ requested → ∀ v ∈ requested, v = wildcard) (h : valuesPass allowed requested = true) :
    ∀ v ∈ requested, v = wildcard ∨ v ∈ allowed := by
  intro v hv
  rcases (valuesPass_iff.1 h).2 with hw | hall
  · exact Or.inl (hunmixed hw v hv)
  · exact Or.inr (hall v hv)

theorem valuesPass_self {values : List String} (hne : values ≠ []) : valuesPass values values = true :=
  valuesPass_iff.2 ⟨hne, Or.inr fun _ => id⟩

theorem valuesPass_trans {allowed middle requested : List String} (hmiddle : valuesPass allowed middle = true)
    (hw : wildcard ∉ middle) (hrequested : valuesPass middle requested = true) :
    valuesPass allowed requested = true := by
  rw [valuesPass_iff] at *
  have hallowed : ∀ v ∈ middle, v ∈ allowed := hmiddle.2.resolve_left hw
  rcases hrequested with ⟨hne, hpass | hall⟩
  · exact ⟨hne, Or.inl hpass⟩
  · exact ⟨hne, Or.inr fun v hv => hallowed v (hall v hv)⟩

/-! ### Constraints -/

theorem cover_iff {own requested : Attributes} :
    cover (some own) (some requested) = true ↔ requested.entries ≠ [] ∧
      ∀ e ∈ own.entries, ∃ values, requested.get? e.1 = some values ∧ valuesPass e.2 values = true := by
  simp only [cover, OrderedMap.isEmpty, Bool.and_eq_true, Bool.not_eq_true', List.isEmpty_eq_false_iff,
    List.all_eq_true]
  refine and_congr_right fun _ => forall₂_congr fun e _ => ?_
  cases requested.get? e.1 <;> simp

theorem cover_some_iff {own requested : Attributes} (h : requested.Complete) :
    cover (some own) (some requested) = true ↔
      ∀ e ∈ own.entries, ∃ values, requested.get? e.1 = some values ∧ valuesPass e.2 values = true :=
  cover_iff.trans (and_iff_right h.entries_ne_nil)

theorem cover_refl {a : Option Attributes} (ha : ∀ m, a = some m → m.Complete) : cover a a = true := by
  cases a with
  | none => rfl
  | some m =>
    have hm := ha m rfl
    rw [cover_some_iff hm]
    intro e he
    exact ⟨e.2, OrderedMap.mem_entries.1 he, valuesPass_self (hm.values_ne_nil e he)⟩

/-- Whether no key of the first constraints has the wildcard in the second ones. -/
def NoWildcardAt (own requested : Option Attributes) : Prop :=
  ∀ m ∈ own, ∀ key ∈ m.keys, ∀ n ∈ requested, ∀ values ∈ n.get? key, wildcard ∉ values

instance (own requested : Option Attributes) : Decidable (NoWildcardAt own requested) :=
  inferInstanceAs (Decidable (∀ m ∈ own, ∀ key ∈ m.keys, ∀ n ∈ requested, ∀ values ∈ n.get? key, wildcard ∉ values))

theorem cover_trans {a b c : Option Attributes} (hab : cover a b = true) (hw : NoWildcardAt a b)
    (hbc : cover b c = true) : cover a c = true := by
  rcases a with _ | own
  · rfl
  rcases b with _ | middle
  · simp [cover] at hab
  rcases c with _ | requested
  · simp [cover] at hbc
  rw [cover_iff] at hab hbc ⊢
  refine ⟨hbc.1, fun e he => ?_⟩
  obtain ⟨values, hvalues, hpass⟩ := hab.2 e he
  have hfree : wildcard ∉ values := hw own rfl e.1 (List.mem_map_of_mem he) middle rfl values hvalues
  obtain ⟨values', hvalues', hpass'⟩ := hbc.2 (e.1, values) (OrderedMap.mem_entries.2 hvalues)
  exact ⟨values', hvalues', valuesPass_trans hpass hfree hpass'⟩

/-! ### Constraints as an argument -/

private theorem itemPasses_texts (allowed requested : List String) :
    itemPasses allowed (.tuple (requested.map .text)) = .ok (valuesPass allowed requested) := by
  cases requested with
  | nil => rfl
  | cons v values =>
    have hwildcard : ((v :: values).map (Value.text (ω := Object))).any (Value.same (.text wildcard)) =
        (v :: values).contains wildcard := by
      rw [List.any_map, List.contains_eq_any_beq]
      refine congrArg _ (funext fun w => ?_)
      simp [Value.same, Bool.beq_eq_decide_eq]
    change Except.ok (((v :: values).map (Value.text (ω := Object))).any (Value.same (.text wildcard)) ||
      ((v :: values).map (Value.text (ω := Object))).all _) = _
    rw [hwildcard, List.all_map]
    rfl

private theorem allM_eq_ok {α : Type} {f : α → Except Fault Bool} {g : α → Bool} {as : List α}
    (h : ∀ a ∈ as, f a = .ok (g a)) : as.allM f = .ok (as.all g) := by
  induction as with
  | nil => rfl
  | cons a as ih =>
    rw [List.forall_mem_cons] at h
    rw [List.allM, h.1, List.all_cons]
    cases g a with
    | true => exact ih h.2
    | false => rfl

/-- Constraints that are given as an argument are covered if they are covered as such. -/
theorem coverItem_toItem (own requested : Option Attributes) :
    coverItem own (toItem requested) = .ok (cover own requested) := by
  rcases own with _ | own
  · rfl
  rcases requested with _ | requested
  · rfl
  by_cases hempty : requested.entries = []
  · simp [coverItem, toItem, Value.isTrue, cover, OrderedMap.isEmpty, hempty]
  · simp only [coverItem, toItem, Value.isTrue, cover, OrderedMap.isEmpty, List.isEmpty_eq_false_iff.2 hempty,
      List.isEmpty_map, Bool.not_false, Bool.not_true, Bool.true_and, Bool.false_eq_true, ↓reduceIte]
    -- each key is looked up in both, with the same answer
    apply allM_eq_ok
    intro e _
    rw [Value.lookup?_entries requested fun values => .tuple (values.map .text)]
    cases requested.get? e.1 with
    | none => rfl
    | some values => exact itemPasses_texts e.2 values

/-- **Coverage is a preorder where the middle has no wildcard.**  Constraints cover themselves; and if they cover others
that cover third ones, and none of their keys has the wildcard in the middle, then they cover the third ones.  The answer
is the same for constraints that are given as an argument. -/
theorem cover_preorder {a b c : Option Attributes} (ha : ∀ m, a = some m → m.Complete) :
    cover a a = true ∧
      (cover a b = true → NoWildcardAt a b → cover b c = true → cover a c = true) ∧
      ∀ own requested, coverItem own (toItem requested) = .ok (cover own requested) :=
  ⟨cover_refl ha, cover_trans, coverItem_toItem⟩

/-- Through a middle with a further key, whose own wildcard does not matter, to a wildcard beside a value that is not
allowed. -/
theorem cover_preorder_through_further_key :
    let a : Attributes := .ofList [("k", ["1", "2"])]
    let b : Attributes := .ofList [("j", ["*"]), ("k", ["2", "1", "1"])]
    let c : Attributes := .ofList [("k", ["3", "*"]), ("j", ["*"])]
    a.Complete ∧ cover (some a) (some b) = true ∧ NoWildcardAt (some a) (some b) ∧
      cover (some b) (some c) = true ∧ cover (some a) (some c) = true := by
  intro a b c
  have ha : a.Complete := ⟨by decide, by decide⟩
  have hab : cover (some a) (some b) = true := by decide +kernel
  have hw : NoWildcardAt (some a) (some b) := by decide +kernel
  have hbc : cover (some b) (some c) = true := by decide +kernel
  obtain ⟨-, htrans, -⟩ := cover_preorder (a := some a) (b := some b) (c := some c) (by rintro m ⟨⟩; exact ha)
  exact ⟨ha, hab, hw, hbc, htrans hab hw hbc⟩

/-- With the wildcard in the middle, coverage does not go through. -/
example :
    let a : Attributes := .ofList [("k", ["1"])]
    let b : Attributes := .ofList [("k", ["*", "2"])]
    let c : Attributes := .ofList [("k", ["2"])]
    cover (some a) (some b) = true ∧ cover (some b) (some c) = true ∧ cover (some a) (some c) = false := by
  decide +kernel

end PathAccess.Attributes
