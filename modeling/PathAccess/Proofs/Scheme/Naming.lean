import PathAccess.Proofs.Scheme.Forms
import PathAccess.Proofs.Text.CodeText

/-!
# Names and identifiers of a validated scheme

The rules of a declaration, said of the scheme that was read.  In the identifier form every privilege has a single
character that is neither the separator nor a digit, and a longer name (`Scheme.IsValidated.identified`).  In the numeric
form it has a name alone, without the separator, that is no number (`Scheme.IsValidated.named`).

Nothing else is asked of them.  A name of the identifier form may be a number or a run of identifiers, and in both forms
a name or an identifier may be blank, or have blanks at its ends.
-/

namespace PathAccess

namespace Declaration

variable {d : Declaration} {p : Privilege}

private theorem WellFormed.identified (h : d.WellFormed) (hs : d.isSpelled = true) (hi : d.base.isIdentified = true)
    (hp : p ∈ d.base.privileges) :
    ∃ i : Char, p.identifier = some (String.singleton i) ∧ i ≠ ',' ∧ Text.isDigitLike i = false ∧
      2 ≤ p.name.length := by
  cases h.form with
  | numeric bits hne _ hdefs _ _ => exact absurd hi (by simp [isIdentified_of_bits hne hdefs])
  | identified names _ hentries hdefs _ _ =>
    obtain ⟨e, he, rfl⟩ := (mem_base_iff hdefs).1 hp
    have hmem := List.fst_mem_of_mem_zipIdx he
    obtain ⟨hidentifier, hlong⟩ := (h.allNew_names hentries).1 e.1 hmem
    obtain ⟨hkey, hname⟩ := isSpelled_of_mem hs (mem_entries_of_map hentries hmem)
    simp only [Designation.text] at hname
    rw [← CodeText.ofString_text hkey] at hidentifier
    rw [← CodeText.ofString_text hname] at hlong
    simp only [isIdentifier, CodeText.length_ofString, CodeText.isDigitRun_ofString, Bool.and_eq_true,
      CodeText.contains_ofString_eq_false, Bool.not_eq_true', decide_eq_true_eq] at hidentifier
    obtain ⟨⟨hlength, hdigits⟩, hcomma⟩ := hidentifier
    obtain ⟨i, hchars⟩ := List.length_eq_one_iff.1 (String.length_toList.trans hlength)
    have htext : e.1.1.text = String.singleton i := by rw [← String.toList_inj, hchars, String.toList_singleton]
    rw [htext] at hdigits hcomma
    refine ⟨i, congrArg some htext, ?_, ?_, by simpa using hlong⟩
    · rintro rfl
      simp at hcomma
    · simpa [Text.isDigitRun] using hdigits

private theorem WellFormed.named (h : d.WellFormed) (hs : d.isSpelled = true) (hi : d.base.isIdentified = false)
    (hp : p ∈ d.base.privileges) :
    p.identifier = none ∧ p.name ≠ "" ∧ ',' ∉ p.name.toList ∧ Text.isDigitRun p.name = false := by
  cases h.form with
  | identified names _ _ hdefs _ _ => exact absurd hi (by simp [isIdentified_of_zipIdx hdefs])
  | numeric bits hne hentries hdefs _ _ =>
    obtain ⟨e, he, rfl⟩ := (mem_base_iff hdefs).1 hp
    obtain ⟨hname, -⟩ := (h.allNew_bits hne hentries).1 e he
    rw [← CodeText.ofString_text (isSpelled_of_mem hs (mem_entries_of_map hentries he)).1] at hname
    simp only [Bool.or_eq_false_iff, CodeText.isEmpty_ofString, CodeText.isDigitRun_ofString,
      CodeText.contains_ofString_eq_false] at hname
    obtain ⟨⟨hempty, hcomma⟩, hdigits⟩ := hname
    exact ⟨rfl, by simpa using hempty, hcomma, hdigits⟩

end Declaration

namespace Scheme

variable {c : Scheme} {p : Privilege}

/-- In the identifier form a privilege has an identifier of one character, and its name is longer. -/
theorem IsValidated.identified (hc : c.IsValidated) (hi : c.isIdentified = true) (hp : p ∈ c.privileges) :
    ∃ i : Char, p.identifier = some (String.singleton i) ∧ i ≠ ',' ∧ Text.isDigitLike i = false ∧
      2 ≤ p.name.length := by
  obtain ⟨document, origin, h⟩ := hc
  obtain ⟨d, hd, hs, rfl⟩ := exists_of_ofItem h
  exact hd.identified hs hi hp

/-- In the numeric form a privilege has a name alone. -/
theorem IsValidated.named (hc : c.IsValidated) (hi : c.isIdentified = false) (hp : p ∈ c.privileges) :
    p.identifier = none ∧ p.name ≠ "" ∧ ',' ∉ p.name.toList ∧ Text.isDigitRun p.name = false := by
  obtain ⟨document, origin, h⟩ := hc
  obtain ⟨d, hd, hs, rfl⟩ := exists_of_ofItem h
  exact hd.named hs hi hp

end Scheme

end PathAccess
