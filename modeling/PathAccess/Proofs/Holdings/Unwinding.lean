import PathAccess.Holdings.Basic
import PathAccess.Proofs.OrderedMap
import PathAccess.Proofs.Permission.WellFormed

/-!
# Unwinding

A well-formed permission always unwinds (`unwind_eq`): without constraints into itself, and with constraints into one
part for every choice of a value for each key.  There is at least one part, because every key has a value, and every
part is well formed and has the path and the privileges of the whole.  The values in the choices are those of the keys
(`mem_of_mem_choices`, `exists_choice`).
-/

namespace PathAccess

namespace Attributes

/-- The constraints that a choice of values makes. -/
def ofChoice (choice : List (String × String)) : Attributes := .ofList (choice.map fun e => (e.1, [e.2]))

private theorem readPairs_choice (choice : List (String × String)) (m : Attributes) :
    readPairs (choice.map fun e => (.text e.1, .tuple [.text e.2])) m =
      .ok ((choice.map fun e => (e.1, [e.2])).foldl (fun m e => m.put e.1 e.2) m) := by
  induction choice generalizing m with
  | nil => rfl
  | cons e choice ih => exact ih (m.put e.1 [e.2])

private theorem complete_foldl_put (choice : List (String × String)) {m : Attributes}
    (hm : ∀ e ∈ m.entries, e.2 ≠ []) (hne : choice ≠ [] ∨ m.entries ≠ []) :
    Complete ((choice.map fun e => (e.1, [e.2])).foldl (fun m e => m.put e.1 e.2) m) := by
  induction choice generalizing m with
  | nil => exact ⟨hne.resolve_left (by simp), hm⟩
  | cons e choice ih => exact ih (values_put_ne_nil hm (by simp)) (Or.inr (entries_put_ne_nil m e.1 [e.2]))

theorem ofChoice_complete {choice : List (String × String)} (h : choice ≠ []) : (ofChoice choice).Complete :=
  complete_foldl_put choice (by simp [OrderedMap.empty, EmptyCollection.emptyCollection]) (Or.inl h)

/-- A choice for different keys constrains each of them to one value. -/
theorem entries_ofChoice {choice : List (String × String)} (h : (choice.map Prod.fst).Nodup) :
    (ofChoice choice).entries = choice.map fun e => (e.1, [e.2]) := by
  have hnodup : ((choice.map fun e => (e.1, [e.2])).map Prod.fst).Nodup := by
    rw [List.map_map]
    exact h
  exact congrArg OrderedMap.entries (OrderedMap.ofList_of_nodup hnodup)

/-- A choice, given as an argument, is read as the constraints that it makes. -/
theorem ofItem_choiceItem {choice : List (String × String)} (h : choice ≠ []) :
    ofItem (Permission.choiceItem choice) = .ok (some (ofChoice choice)) := by
  rw [Permission.choiceItem, ofItem, readPairs_choice]
  exact congrArg Except.ok (nonEmpty_eq (ofChoice_complete h).entries_ne_nil)

end Attributes

namespace Permission

/-- The permission for a single choice of values. -/
def narrowed (p : Permission) (choice : List (String × String)) : Permission :=
  { p with attributes := some (.ofChoice choice) }

/-- What a permission unwinds into. -/
def parts (p : Permission) : List Permission :=
  match p.attributes with
  | none => [p]
  | some m => (choices m.entries).map p.narrowed

/-- There is a choice of values if every key has one. -/
theorem choices_ne_nil {entries : List (String × List String)} (h : ∀ e ∈ entries, e.2 ≠ []) :
    choices entries ≠ [] := by
  induction entries with
  | nil => simp [choices]
  | cons e entries ih =>
    obtain ⟨key, values⟩ := e
    obtain ⟨v, vs, rfl⟩ : ∃ v vs, values = v :: vs := List.exists_cons_of_ne_nil (h (key, values) (by simp))
    have hrest := ih fun e he => h e (by simp [he])
    simp [choices, hrest]

/-- A choice has a value for every key. -/
theorem map_fst_of_mem_choices {entries : List (String × List String)} {choice : List (String × String)}
    (h : choice ∈ choices entries) : choice.map Prod.fst = entries.map Prod.fst := by
  induction entries generalizing choice with
  | nil =>
    simp only [choices, List.mem_singleton] at h
    simp [h]
  | cons e entries ih =>
    obtain ⟨key, values⟩ := e
    simp only [choices, List.mem_flatMap, List.mem_map] at h
    obtain ⟨_, -, rest, hrest, rfl⟩ := h
    simp [ih hrest]

theorem nodup_of_mem_choices {m : Attributes} {choice : List (String × String)} (h : choice ∈ choices m.entries) :
    (choice.map Prod.fst).Nodup :=
  map_fst_of_mem_choices h ▸ m.nodup

theorem mem_of_mem_choices {entries : List (String × List String)} {choice : List (String × String)}
    (h : choice ∈ choices entries) {key v : String} (hv : (key, v) ∈ choice) :
    ∃ values, (key, values) ∈ entries ∧ v ∈ values := by
  induction entries generalizing choice with
  | nil =>
    simp only [choices, List.mem_singleton] at h
    simp [h] at hv
  | cons e entries ih =>
    obtain ⟨key', values⟩ := e
    simp only [choices, List.mem_flatMap, List.mem_map] at h
    obtain ⟨v', hv', rest, hrest, rfl⟩ := h
    rcases List.mem_cons.1 hv with heq | hv
    · obtain ⟨rfl, rfl⟩ := Prod.mk.inj heq
      exact ⟨values, by simp, hv'⟩
    · obtain ⟨values', hmem, hv⟩ := ih hrest hv
      exact ⟨values', by simp [hmem], hv⟩

/-- Every value of a key is in some choice, if every other key has a value. -/
theorem exists_choice {entries : List (String × List String)} (hne : ∀ e ∈ entries, e.2 ≠ []) {key v : String}
    {values : List String} (he : (key, values) ∈ entries) (hv : v ∈ values) :
    ∃ choice ∈ choices entries, (key, v) ∈ choice := by
  induction entries with
  | nil => simp at he
  | cons e entries ih =>
    obtain ⟨key', values'⟩ := e
    rw [List.forall_mem_cons] at hne
    simp only [choices, List.mem_flatMap, List.mem_map]
    rcases List.mem_cons.1 he with heq | he
    · obtain ⟨rfl, rfl⟩ := Prod.mk.inj heq
      obtain ⟨rest, hrest⟩ := List.exists_mem_of_ne_nil _ (choices_ne_nil hne.2)
      exact ⟨_, ⟨v, hv, rest, hrest, rfl⟩, by simp⟩
    · obtain ⟨v', hv'⟩ := List.exists_mem_of_ne_nil _ hne.1
      obtain ⟨rest, hrest, hmem⟩ := ih hne.2 he
      exact ⟨_, ⟨v', hv', rest, hrest, rfl⟩, by simp [hmem]⟩

theorem ne_nil_of_mem_choices {m : Attributes} (hm : m.Complete) {choice : List (String × String)}
    (h : choice ∈ choices m.entries) : choice ≠ [] := by
  rintro rfl
  have := map_fst_of_mem_choices h
  exact hm.entries_ne_nil (by simpa using this.symm)

theorem narrowed_wellFormed {p : Permission} (hp : p.WellFormed) {choice : List (String × String)}
    (h : choice ≠ []) : (p.narrowed choice).WellFormed := by
  have hc := Attributes.ofChoice_complete h
  refine ⟨hp.path_ne_empty, ?_, ?_, hp.mask_ne_zero⟩
  · intro m hm
    rw [← Option.some.inj hm]
    exact hc.entries_ne_nil
  · intro m hm
    rw [← Option.some.inj hm]
    exact hc.values_ne_nil

private theorem withAttributes_choiceItem {p : Permission} (hp : p.WellFormed) {choice : List (String × String)}
    (h : choice ≠ []) : p.withAttributes (choiceItem choice) = .ok (p.narrowed choice) := by
  have hw := narrowed_wellFormed hp h
  rw [withAttributes, Attributes.ofItem_choiceItem h]
  exact clone_eq hw

private theorem mapM_withAttributes {p : Permission} (hp : p.WellFormed) {cs : List (List (String × String))}
    (h : ∀ choice ∈ cs, choice ≠ []) :
    cs.mapM (fun choice => p.withAttributes (choiceItem choice)) = .ok (cs.map p.narrowed) := by
  induction cs with
  | nil => rfl
  | cons choice cs ih =>
    rw [List.mapM_cons, withAttributes_choiceItem hp (h choice (by simp)), ih fun c hc => h c (by simp [hc])]
    rfl

/-- A well-formed permission unwinds into its parts. -/
theorem unwind_eq {p : Permission} (hp : p.WellFormed) : p.unwind = .ok p.parts := by
  unfold unwind parts
  cases ha : p.attributes with
  | none =>
    rw [clone_eq hp]
    rfl
  | some m =>
    have hm := hp.complete m ha
    have hne : m.isEmpty = false := by simp [OrderedMap.isEmpty, hm.entries_ne_nil]
    simp only [hne, Bool.false_eq_true, ↓reduceIte]
    exact mapM_withAttributes hp fun choice => ne_nil_of_mem_choices hm

theorem parts_ne_nil {p : Permission} (hp : p.WellFormed) : p.parts ≠ [] := by
  unfold parts
  cases ha : p.attributes with
  | none => simp
  | some m => simpa using choices_ne_nil (hp.complete m ha).values_ne_nil

/-- Every part is well formed and has the path and the privileges of the whole. -/
theorem of_mem_parts {p q : Permission} (hp : p.WellFormed) (hq : q ∈ p.parts) :
    q.path = p.path ∧ q.privileges = p.privileges ∧ q.WellFormed := by
  unfold parts at hq
  cases ha : p.attributes with
  | none =>
    simp only [ha, List.mem_singleton] at hq
    subst hq
    exact ⟨rfl, rfl, hp⟩
  | some m =>
    simp only [ha, List.mem_map] at hq
    obtain ⟨choice, hchoice, rfl⟩ := hq
    exact ⟨rfl, rfl, narrowed_wellFormed hp (ne_nil_of_mem_choices (hp.complete m ha) hchoice)⟩

end Permission

end PathAccess
