/-!
# Insertion-ordered maps

A finite map that remembers the order in which its keys first arrived.  Writing to a key that is present replaces its
value and keeps its place (`get?_put`, `keys_put`).
-/

namespace PathAccess

/-- A finite map from `α` to `β` in the order of first insertion. -/
structure OrderedMap (α β : Type) where
  /-- The pairs in order. -/
  entries : List (α × β)
  nodup : (entries.map Prod.fst).Nodup

namespace OrderedMap

variable {α β : Type}

instance [DecidableEq α] [DecidableEq β] : DecidableEq (OrderedMap α β) := fun m n =>
  if h : m.entries = n.entries then
    isTrue (by cases m; cases n; simp_all)
  else
    isFalse fun e => h (e ▸ rfl)

def empty : OrderedMap α β := ⟨[], .nil⟩

instance : EmptyCollection (OrderedMap α β) := ⟨empty⟩
instance : Inhabited (OrderedMap α β) := ⟨empty⟩

/-- The keys in order. -/
def keys (m : OrderedMap α β) : List α := m.entries.map Prod.fst

def isEmpty (m : OrderedMap α β) : Bool := m.entries.isEmpty

def size (m : OrderedMap α β) : Nat := m.entries.length

/-- The value of the first pair with key `k`. -/
private def find [DecidableEq α] (k : α) : List (α × β) → Option β
  | [] => none
  | p :: ps => if p.1 = k then some p.2 else find k ps

/-- Replaces the value of `k` where it stands, or adds the pair at the end. -/
private def write [DecidableEq α] (k : α) (v : β) : List (α × β) → List (α × β)
  | [] => [(k, v)]
  | p :: ps => if p.1 = k then (k, v) :: ps else p :: write k v ps

def get? [DecidableEq α] (m : OrderedMap α β) (k : α) : Option β := find k m.entries

def contains [DecidableEq α] (m : OrderedMap α β) (k : α) : Bool := (m.get? k).isSome

private theorem map_fst_write [DecidableEq α] (k : α) (v : β) (ps : List (α × β)) :
    (write k v ps).map Prod.fst =
      if k ∈ ps.map Prod.fst then ps.map Prod.fst else ps.map Prod.fst ++ [k] := by
  induction ps with
  | nil => simp [write]
  | cons p ps ih =>
    unfold write
    by_cases h : p.1 = k
    · simp [h]
    · have h' : ¬k = p.1 := fun e => h e.symm
      simp only [h, ↓reduceIte, List.map_cons, ih, List.mem_cons, h', false_or]
      split <;> simp

private theorem nodup_write [DecidableEq α] (k : α) (v : β) {ps : List (α × β)}
    (h : (ps.map Prod.fst).Nodup) : ((write k v ps).map Prod.fst).Nodup := by
  rw [map_fst_write]
  split
  · exact h
  · rename_i hk
    rw [List.nodup_append]
    refine ⟨h, by simp, ?_⟩
    intro a ha b hb
    simp at hb
    rintro rfl
    exact hk (hb ▸ ha)

/-- Sets the value of a key. -/
def put [DecidableEq α] (m : OrderedMap α β) (k : α) (v : β) : OrderedMap α β :=
  ⟨write k v m.entries, nodup_write k v m.nodup⟩

/-- The map that results from writing the pairs one after the other. -/
def ofList [DecidableEq α] (ps : List (α × β)) : OrderedMap α β :=
  ps.foldl (fun m p => m.put p.1 p.2) ∅

theorem keys_put [DecidableEq α] (m : OrderedMap α β) (k : α) (v : β) :
    (m.put k v).keys = if k ∈ m.keys then m.keys else m.keys ++ [k] :=
  map_fst_write k v m.entries

private theorem find_write [DecidableEq α] (k l : α) (v : β) (ps : List (α × β)) :
    find l (write k v ps) = if k = l then some v else find l ps := by
  induction ps with
  | nil => simp [write, find]
  | cons p ps ih =>
    unfold write
    by_cases h : p.1 = k
    · subst h
      by_cases hl : p.1 = l <;> simp [find, hl]
    · by_cases hl : p.1 = l
      · subst hl
        have h' : ¬k = p.1 := fun e => h e.symm
        simp [find, h, h']
      · simp [find, h, hl, ih]

@[simp] theorem get?_put [DecidableEq α] (m : OrderedMap α β) (k l : α) (v : β) :
    (m.put k v).get? l = if k = l then some v else m.get? l :=
  find_write k l v m.entries

@[simp] theorem get?_empty [DecidableEq α] (k : α) : (∅ : OrderedMap α β).get? k = none := rfl

theorem ext_entries {m n : OrderedMap α β} (h : m.entries = n.entries) : m = n := by
  cases m
  cases n
  simp_all

private theorem mem_iff_find [DecidableEq α] {k : α} {v : β} {ps : List (α × β)} (h : (ps.map Prod.fst).Nodup) :
    (k, v) ∈ ps ↔ find k ps = some v := by
  induction ps with
  | nil => simp [find]
  | cons p ps ih =>
    rw [List.map_cons, List.nodup_cons] at h
    simp only [List.mem_cons, find]
    split
    · rename_i hk
      subst hk
      have : (p.1, v) ∉ ps := fun hm => h.1 (List.mem_map.2 ⟨_, hm, rfl⟩)
      simp [this, Prod.ext_iff, eq_comm]
    · rename_i hk
      rw [ih h.2]
      constructor
      · rintro (rfl | hm)
        · exact absurd rfl hk
        · exact hm
      · exact Or.inr

/-- A pair is in the map if its value is the one at its key. -/
theorem mem_entries [DecidableEq α] {m : OrderedMap α β} {k : α} {v : β} :
    (k, v) ∈ m.entries ↔ m.get? k = some v :=
  mem_iff_find m.nodup

end OrderedMap

end PathAccess
