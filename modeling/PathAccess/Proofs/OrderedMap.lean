import Mathlib.Data.List.Induction
import PathAccess.OrderedMap

/-!
# Insertion-ordered maps by their content

A map is determined by its keys, in order, and by the value at each of them (`ext_get?`).  The map written from a list
of pairs has every key once, where it first appears (`keys_ofList`), with the value that was written last
(`get?_ofList`); pairs with different keys are the map as they are (`ofList_of_nodup`).
-/

namespace PathAccess.OrderedMap

variable {α β : Type} [DecidableEq α]

theorem get?_isSome_iff {m : OrderedMap α β} {k : α} : (m.get? k).isSome = true ↔ k ∈ m.keys := by
  rw [Option.isSome_iff_exists]
  constructor
  · rintro ⟨v, hv⟩
    exact List.mem_map.2 ⟨(k, v), mem_entries.2 hv, rfl⟩
  · intro hk
    obtain ⟨e, he, rfl⟩ := List.mem_map.1 hk
    exact ⟨e.2, mem_entries.1 he⟩

theorem get?_eq_none_iff {m : OrderedMap α β} {k : α} : m.get? k = none ↔ k ∉ m.keys := by
  rw [← get?_isSome_iff]
  simp

/-- Maps are equal if they have the same keys in the same order, and the same value at each. -/
theorem ext_get? {m n : OrderedMap α β} (hk : m.keys = n.keys) (h : ∀ k, m.get? k = n.get? k) : m = n := by
  have hlen : m.entries.length = n.entries.length := by
    simpa [keys] using congrArg List.length hk
  apply ext_entries
  apply List.ext_getElem hlen
  intro i hm hn
  have hfst : m.entries[i].1 = n.entries[i].1 := by
    have := congrArg (·[i]?) hk
    simpa [keys, hm, hn] using this
  have hsnd : m.get? m.entries[i].1 = some m.entries[i].2 := mem_entries.1 (List.getElem_mem hm)
  have hsnd' : n.get? n.entries[i].1 = some n.entries[i].2 := mem_entries.1 (List.getElem_mem hn)
  rw [h, hfst, hsnd', Option.some.injEq] at hsnd
  exact Prod.ext hfst hsnd.symm

theorem ofList_concat (ps : List (α × β)) (p : α × β) : ofList (ps ++ [p]) = (ofList ps).put p.1 p.2 := by
  simp [ofList]

/-- Keys that are written one after the other are there each where it first appears. -/
theorem keys_put_of_eraseDups {m : OrderedMap α β} {ks : List α} (h : m.keys = ks.eraseDups) (k : α) (v : β) :
    (m.put k v).keys = (ks ++ [k]).eraseDups := by
  rw [keys_put, h, List.eraseDups_append]
  simp only [List.mem_eraseDups, List.removeAll, List.elem_eq_mem]
  by_cases hk : k ∈ ks <;> simp [hk, List.eraseDups_cons]

/-- The keys are those of the pairs, each where it first appears. -/
theorem keys_ofList (ps : List (α × β)) : (ofList ps).keys = (ps.map Prod.fst).eraseDups := by
  induction ps using List.reverseRecOn with
  | nil => rfl
  | append_singleton ps p ih =>
    rw [ofList_concat, List.map_append]
    exact keys_put_of_eraseDups ih _ _

/-- A value of the map is among the pairs. -/
theorem mem_of_get?_ofList {ps : List (α × β)} {k : α} {v : β} (h : (ofList ps).get? k = some v) : (k, v) ∈ ps := by
  induction ps using List.reverseRecOn with
  | nil => simp [ofList] at h
  | append_singleton ps p ih =>
    rw [ofList_concat, get?_put] at h
    split at h
    · rename_i hk
      rw [← Option.some.inj h, ← hk]
      simp
    · simp [ih h]

/-- The value at a key is the one that was written last. -/
theorem get?_ofList (before after : List (α × β)) {k : α} (v : β) (h : k ∉ after.map Prod.fst) :
    (ofList (before ++ (k, v) :: after)).get? k = some v := by
  induction after using List.reverseRecOn with
  | nil => simp [ofList_concat]
  | append_singleton after p ih =>
    simp only [List.map_append, List.mem_append, not_or] at h
    have hp : p.1 ≠ k := by
      rintro rfl
      simp at h
    rw [← List.cons_append, ← List.append_assoc, ofList_concat, get?_put, if_neg hp]
    exact ih h.1

/-- Of every key that is written there is a last pair. -/
theorem exists_last {ps : List (α × β)} {k : α} (h : k ∈ ps.map Prod.fst) :
    ∃ before v after, ps = before ++ (k, v) :: after ∧ k ∉ after.map Prod.fst := by
  induction ps with
  | nil => simp at h
  | cons p ps ih =>
    by_cases hk : k ∈ ps.map Prod.fst
    · obtain ⟨before, v, after, rfl, hafter⟩ := ih hk
      exact ⟨p :: before, v, after, rfl, hafter⟩
    · have hp : k = p.1 := by simpa [hk] using h
      exact ⟨[], p.2, ps, by simp [hp], hk⟩

private theorem eraseDups_eq_self {l : List α} (h : l.Nodup) : l.eraseDups = l := by
  induction l with
  | nil => rfl
  | cons a l ih =>
    rw [List.nodup_cons] at h
    have hfilter : l.filter (fun b => !b == a) = l := by
      rw [List.filter_eq_self]
      intro b hb
      simpa using fun e : b = a => h.1 (e ▸ hb)
    rw [List.eraseDups_cons, hfilter, ih h.2]

/-- Pairs with pairwise different keys are written as they are. -/
theorem ofList_of_nodup {ps : List (α × β)} (h : (ps.map Prod.fst).Nodup) : ofList ps = ⟨ps, h⟩ := by
  apply ext_get?
  · rw [keys_ofList]
    exact eraseDups_eq_self h
  · intro k
    by_cases hk : k ∈ ps.map Prod.fst
    · obtain ⟨before, v, after, hps, hafter⟩ := exists_last hk
      have hmem : (k, v) ∈ (⟨ps, h⟩ : OrderedMap α β).entries := by simp [hps]
      rw [mem_entries.1 hmem]
      subst hps
      exact get?_ofList before after v hafter
    · have hnone : (⟨ps, h⟩ : OrderedMap α β).get? k = none := get?_eq_none_iff.2 hk
      rw [hnone, get?_eq_none_iff, keys_ofList, List.mem_eraseDups]
      exact hk

@[simp] theorem ofList_entries (m : OrderedMap α β) : ofList m.entries = m := ofList_of_nodup m.nodup

/-- A pair is written at the first place, or behind it. -/
theorem entries_put_cons {p : α × β} {ps : List (α × β)} (h : ((p :: ps).map Prod.fst).Nodup) (k : α) (v : β) :
    (put ⟨p :: ps, h⟩ k v).entries =
      if p.1 = k then (k, v) :: ps else p :: (put ⟨ps, (List.nodup_cons.1 h).2⟩ k v).entries := rfl

/-- Pairs written over a map take the place of its values at their keys. -/
theorem get?_foldl_put (ps : List (α × β)) (m : OrderedMap α β) (k : α) :
    (ps.foldl (fun m p => m.put p.1 p.2) m).get? k = ((ofList ps).get? k).or (m.get? k) := by
  induction ps using List.reverseRecOn with
  | nil => simp [ofList]
  | append_singleton ps p ih =>
    rw [List.foldl_append, List.foldl_cons, List.foldl_nil, ofList_concat, get?_put, get?_put, ih]
    split <;> rfl

end PathAccess.OrderedMap
