import PathAccess.Proofs.Glob.Openness

/-!
# Overlap with a path

A path without a star is covered by another one segment by segment: it is the same path, or the other one goes on at a
slash, a line break at its end apart (`covers_iff_isWithin`).  The text of a pattern with a star is never covered by
a path, because every character of a path stands for itself.  So two paths overlap if one is within the other, and a
pattern overlaps the paths that it covers and no others (`overlap_with_path`).
-/

namespace PathAccess.Glob

/-- A path is another one or lies below it. -/
inductive IsWithin (outer path : String) : Prop
  | same (h : path = outer)
  /-- A line break at the end does not count. -/
  | line (h : path = outer ++ "\n")
  | below (h : (outer ++ "/").toList <+: path.toList)
  /-- The slash is the last character of the other path. -/
  | behind (hslash : outer.toList.getLast? = some '/') (h : outer.toList <+: path.toList)

instance (outer path : String) : Decidable (IsWithin outer path) :=
  decidable_of_iff
    (path = outer ∨ path = outer ++ "\n" ∨ (outer ++ "/").toList <+: path.toList ∨
      (outer.toList.getLast? = some '/' ∧ outer.toList <+: path.toList))
    ⟨fun h => h.elim .same fun h => h.elim .line fun h => h.elim .below fun h => .behind h.1 h.2,
      fun h => match h with
        | .same h => Or.inl h
        | .line h => Or.inr (Or.inl h)
        | .below h => Or.inr (Or.inr (Or.inl h))
        | .behind hslash h => Or.inr (Or.inr (Or.inr ⟨hslash, h⟩))⟩

variable {outer path pattern : String}

/-- Without stars, a path is covered if it lies within the other one. -/
theorem covers_iff_isWithin (houter : '*' ∉ outer.toList) (hpath : '*' ∉ path.toList) :
    covers outer path = true ↔ IsWithin outer path := by
  rw [covers_literal_iff houter hpath]
  constructor
  · rintro ⟨t, ht, (rfl | hslash | hslash) | rfl⟩
    · exact .same (String.toList_inj.1 (by simpa using ht))
    · obtain ⟨u, rfl⟩ := List.head?_eq_some_iff.1 hslash
      exact .below ⟨u, by simp [ht]⟩
    · exact .behind hslash ⟨t, ht.symm⟩
    · exact .line (String.toList_inj.1 (by simpa using ht))
  · rintro (rfl | rfl | ⟨u, hu⟩ | ⟨hslash, ⟨t, ht⟩⟩)
    · exact ⟨[], by simp, Or.inl (Or.inl rfl)⟩
    · exact ⟨['\n'], by simp, Or.inr rfl⟩
    · exact ⟨'/' :: u, by simp [← hu], Or.inl (Or.inr (Or.inl rfl))⟩
    · exact ⟨t, ht.symm, Or.inl (Or.inr (Or.inr hslash))⟩

/-- No path has the text of a pattern with a star. -/
theorem not_covers_of_star (hpath : '*' ∉ path.toList) (hpattern : '*' ∈ pattern.toList) :
    covers path pattern = false := by
  have hexact : (!pattern.toList.contains '*') = false := by simpa using hpattern
  rw [Bool.eq_false_iff, ne_eq, covers_iff, hexact, fits_literal_text_iff hpath]
  rintro ⟨t, ht, hend⟩
  rcases fits_end_iff.1 hend with (rfl | rfl) | ⟨ho, -⟩
  · rw [ht, List.append_nil] at hpattern
    exact hpath hpattern
  · rw [ht, List.mem_append, List.mem_singleton] at hpattern
    exact hpattern.elim hpath (by decide)
  · exact Bool.noConfusion ho

theorem covers_iff_expressionAccepts :
    covers pattern path = true ↔ ExpressionAccepts pattern (!path.toList.contains '*') path := by
  rw [covers, matchesText_eq, expressionAccepts_iff]
  rfl

/-- **Overlap with a path.**  A pattern covers a path without a star if its written expression, the open one, accepts
it.  If the pattern has no star either, it covers what lies within it, and the two overlap if one lies within the other.
If it has one, it overlaps the path on either side exactly if it covers it. -/
theorem overlap_with_path (pattern path : String) (hpath : '*' ∉ path.toList) :
    (covers pattern path = true ↔ ExpressionAccepts pattern true path) ∧
    ('*' ∉ pattern.toList → (covers pattern path = true ↔ IsWithin pattern path) ∧
      (overlap pattern path = true ↔ IsWithin pattern path ∨ IsWithin path pattern)) ∧
    ('*' ∈ pattern.toList →
      overlap pattern path = covers pattern path ∧ overlap path pattern = covers pattern path) := by
  refine ⟨?_, fun hpattern => ?_, fun hpattern => ?_⟩
  · have hopen : (!path.toList.contains '*') = true := by simpa using hpath
    rw [covers_iff_expressionAccepts, hopen]
  · rw [overlap, Bool.or_eq_true, covers_iff_isWithin hpattern hpath, covers_iff_isWithin hpath hpattern]
    exact ⟨Iff.rfl, Iff.rfl⟩
  · rw [overlap, overlap, not_covers_of_star hpath hpattern, Bool.or_false, Bool.false_or]
    exact ⟨rfl, rfl⟩

/-- Signs of regular expressions stand for themselves, and a segment ends at a slash; a pattern on either side. -/
theorem overlap_with_path_of_signs :
    '*' ∉ "/a.(b|c)/x".toList ∧ overlap "/a.(b|c)" "/a.(b|c)/x" = true ∧
      '*' ∉ "/a.(b|c)x".toList ∧ overlap "/a.(b|c)" "/a.(b|c)x" = false ∧
      '*' ∈ "/a.*/x".toList ∧ overlap "/a.(b|c)/x" "/a.*/x" = true := by
  have hpath : '*' ∉ "/a.(b|c)/x".toList := by decide
  have hother : '*' ∉ "/a.(b|c)x".toList := by decide
  have hstar : '*' ∈ "/a.*/x".toList := by decide
  have hbelow := ((overlap_with_path "/a.(b|c)" "/a.(b|c)/x" hpath).2.1 (by decide)).2
  have hbeside := ((overlap_with_path "/a.(b|c)" "/a.(b|c)x" hother).2.1 (by decide)).2
  have hreversed := ((overlap_with_path "/a.*/x" "/a.(b|c)/x" hpath).2.2 hstar).2
  refine ⟨hpath, hbelow.2 (by decide), hother, ?_, hstar, hreversed.trans (by decide)⟩
  rw [Bool.eq_false_iff, ne_eq, hbeside]
  decide

end PathAccess.Glob
