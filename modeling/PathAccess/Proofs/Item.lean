import PathAccess.Item
import PathAccess.Proofs.OrderedMap

/-!
# Maps among arguments

A map with texts as keys, given as an argument, has at every key the value that was given for it (`lookup?_entries`).
Written one pair after the other, it has every key where it first came and the value that came last, as every map does
(`ofPairs_texts`).
-/

namespace PathAccess.Value

variable {ω β : Type} {f : β → Value ω} {key : String}

private theorem lookup?_map_eq_some_iff {es : List (String × β)} (h : (es.map Prod.fst).Nodup) {v : Value ω} :
    lookup? key (es.map fun e => (.text e.1, f e.2)) = some v ↔ ∃ b, (key, b) ∈ es ∧ f b = v := by
  induction es with
  | nil => simp [lookup?]
  | cons e es ih =>
    rw [List.map_cons, List.nodup_cons] at h
    rw [List.map_cons, lookup?]
    split
    · rename_i hkey
      subst hkey
      have hnot : ∀ b, (e.1, b) ∉ es := fun b hmem => h.1 (List.mem_map.2 ⟨_, hmem, rfl⟩)
      simp [hnot, Prod.ext_iff]
    · rename_i hkey
      rw [ih h.2]
      simp [Prod.ext_iff, Ne.symm hkey]

theorem lookup?_entries (m : OrderedMap String β) (f : β → Value ω) (key : String) :
    lookup? key (m.entries.map fun e => (.text e.1, f e.2)) = (m.get? key).map f := by
  ext v
  rw [lookup?_map_eq_some_iff m.nodup, Option.map_eq_some_iff]
  simp only [OrderedMap.mem_entries]

/-! ### Maps written pair by pair -/

variable [Leaf ω]

private theorem writePair_map {es : List (String × β)} (h : (es.map Prod.fst).Nodup) (v : β) :
    writePair (.text key) (f v) (es.map fun e => (.text e.1, f e.2)) =
      ((⟨es, h⟩ : OrderedMap String β).put key v).entries.map fun e => (.text e.1, f e.2) := by
  induction es with
  | nil => rfl
  | cons e es ih =>
    have hsame : same (.text e.1 : Value ω) (.text key) = decide (e.1 = key) := by simp [same]
    rw [List.map_cons, writePair, hsame, OrderedMap.entries_put_cons, ih (List.nodup_cons.1 h).2]
    by_cases hkey : e.1 = key
    · simp [hkey]
    · simp [hkey]

/-- The pairs of an argument, one after the other, make the map that they make otherwise. -/
theorem ofPairs_texts (ps : List (String × β)) (f : β → Value ω) :
    ofPairs (ps.map fun e => (.text e.1, f e.2)) =
      .map ((OrderedMap.ofList ps).entries.map fun e => (.text e.1, f e.2)) := by
  rw [ofPairs, distinctPairs]
  congr 1
  induction ps using List.reverseRecOn with
  | nil => rfl
  | append_singleton ps p ih =>
    rw [List.map_append, List.foldl_append, ih, OrderedMap.ofList_concat]
    exact writePair_map (OrderedMap.ofList ps).nodup p.2

end PathAccess.Value
