import PathAccess.Text.Pieces

/-!
# Cuts and pieces, said of texts

What cutting and splitting give, without saying how: a cut at the first separator leaves none before it
(`cutFirst_eq_some`), a cut at the last one leaves none behind it (`cutLast_eq_some`), and the pieces of a text are
the only list of texts without a separator that make it up (`isSplit_iff`).
-/

namespace PathAccess.Text

/-- The pieces, none of which has a separator in it, make up the text with separators between them. -/
structure IsSplit (sep : Char) (s : String) (pieces : List String) : Prop where
  ne_nil : pieces ≠ []
  join_eq : join (String.singleton sep) pieces = s
  not_mem : ∀ piece ∈ pieces, sep ∉ piece.toList

private theorem eq_append_iff {sep : Char} {s l r : String} :
    s = l ++ String.singleton sep ++ r ↔ s.toList = l.toList ++ sep :: r.toList := by
  rw [← String.toList_inj]
  simp

private theorem map_eq_some_iff {o : Option (List Char × List Char)} {l r : String} :
    (o.map fun p => (String.ofList p.1, String.ofList p.2)) = some (l, r) ↔ o = some (l.toList, r.toList) := by
  constructor
  · intro h
    obtain ⟨p, rfl, hp⟩ := Option.map_eq_some_iff.1 h
    obtain ⟨rfl, rfl⟩ := Prod.mk.inj hp
    simp
  · rintro rfl
    simp

theorem cutFirst_eq_some {sep : Char} {s l r : String} :
    cutFirst sep s = some (l, r) ↔ s = l ++ String.singleton sep ++ r ∧ sep ∉ l.toList := by
  rw [cutFirst, map_eq_some_iff, cutAtFirst_eq_some, eq_append_iff]

theorem cutFirst_eq_none {sep : Char} {s : String} : cutFirst sep s = none ↔ sep ∉ s.toList := by
  rw [cutFirst, Option.map_eq_none_iff, cutAtFirst_eq_none]

theorem cutLast_eq_some {sep : Char} {s l r : String} :
    cutLast sep s = some (l, r) ↔ s = l ++ String.singleton sep ++ r ∧ sep ∉ r.toList := by
  rw [cutLast, map_eq_some_iff, cutAtLast_eq_some, eq_append_iff]

theorem cutLast_eq_none {sep : Char} {s : String} : cutLast sep s = none ↔ sep ∉ s.toList := by
  rw [cutLast, Option.map_eq_none_iff, cutAtLast_eq_none]

private theorem not_mem_of_mem_splitOn {sep : Char} {s l : List Char} (h : l ∈ s.splitOn sep) : sep ∉ l := by
  induction s generalizing l with
  | nil => simp_all [List.splitOn_nil]
  | cons c s ih =>
    rw [List.splitOn_cons_eq_if_modifyHead] at h
    split at h
    · rcases List.mem_cons.1 h with rfl | h
      · simp
      · exact ih h
    · rename_i hc
      have hne := List.splitOn_ne_nil sep s
      cases hs : s.splitOn sep with
      | nil => exact absurd hs hne
      | cons l' ls =>
        rw [hs, List.modifyHead_cons] at h
        rcases List.mem_cons.1 h with rfl | h
        · have hl' : sep ∉ l' := ih (by simp [hs])
          have hne : sep ≠ c := fun e => hc (by simp [e])
          simp [hl', hne]
        · exact ih (by simp [hs, h])

/-- The pieces of a text are the one list of pieces that make it up. -/
theorem isSplit_iff {sep : Char} {s : String} {pieces : List String} :
    IsSplit sep s pieces ↔ pieces = split sep s := by
  constructor
  · rintro ⟨hne, rfl, hsep⟩
    have hsplit : ([sep].intercalate (pieces.map String.toList)).splitOn sep = pieces.map String.toList :=
      List.splitOn_intercalate sep (by simpa using hsep) (by simpa using hne)
    simp [split, join, hsplit, Function.comp_def]
  · rintro rfl
    refine ⟨split_ne_nil sep s, join_split sep s, ?_⟩
    intro piece hp
    obtain ⟨l, hl, rfl⟩ := List.mem_map.1 hp
    simpa using not_mem_of_mem_splitOn hl

/-- A separator between two texts is one between their pieces. -/
theorem split_append (sep : Char) (s t : String) :
    split sep (s ++ String.singleton sep ++ t) = split sep s ++ split sep t := by
  simp [split, List.splitOn_append_cons_self]

/-! ### Joined pieces -/

theorem join_cons_cons (sep s t : String) (pieces : List String) :
    join sep (s :: t :: pieces) = s ++ sep ++ join sep (t :: pieces) := by
  simp [join, ← String.toList_inj]

theorem join_append_cons (sep s t : String) (pieces : List String) :
    join sep ((s ++ t) :: pieces) = s ++ join sep (t :: pieces) := by
  cases pieces <;> simp [join]

/-- A character of joined pieces is one of the separator or of a piece. -/
theorem mem_toList_join {sep : String} {pieces : List String} {c : Char} (h : c ∈ (join sep pieces).toList) :
    c ∈ sep.toList ∨ ∃ piece ∈ pieces, c ∈ piece.toList := by
  simp only [join, String.toList_ofList] at h
  induction pieces with
  | nil => simp at h
  | cons p pieces ih =>
    cases pieces with
    | nil => exact Or.inr ⟨p, by simp, by simpa using h⟩
    | cons q pieces =>
      simp only [List.map_cons, List.intercalate_cons_cons, List.append_assoc, List.mem_append] at h ih
      rcases h with h | h | h
      · exact Or.inr ⟨p, by simp, h⟩
      · exact Or.inl h
      · rcases ih h with h | ⟨piece, hp, h⟩
        · exact Or.inl h
        · exact Or.inr ⟨piece, by simp [hp], h⟩

/-- A character of a piece is one of the joined pieces. -/
theorem mem_toList_join_of_mem {sep piece : String} {pieces : List String} {c : Char} (hp : piece ∈ pieces)
    (hc : c ∈ piece.toList) : c ∈ (join sep pieces).toList := by
  simp only [join, String.toList_ofList]
  induction pieces with
  | nil => simp at hp
  | cons p pieces ih =>
    cases pieces with
    | nil =>
      obtain rfl := List.mem_singleton.1 hp
      simpa using hc
    | cons q pieces =>
      simp only [List.map_cons, List.intercalate_cons_cons, List.append_assoc, List.mem_append] at ih ⊢
      rcases List.mem_cons.1 hp with rfl | hp
      · exact Or.inl hc
      · exact Or.inr (Or.inr (ih hp))

/-- Dropping one `c` leaves what comes after it, or a text that does not begin with `c`. -/
theorem dropOne_eq_iff {c : Char} {s r : String} :
    dropOne c s = r ↔ s = String.singleton c ++ r ∨ (s = r ∧ s.toList.head? ≠ some c) := by
  have hcons : s = String.singleton c ++ r ↔ s.toList = c :: r.toList := by
    rw [← String.toList_inj]
    simp
  rw [hcons]
  unfold dropOne
  cases hs : s.toList with
  | nil => simp
  | cons d l =>
    by_cases hd : d = c
    · subst hd
      simp [← String.toList_inj]
    · simp [hd]

end PathAccess.Text
