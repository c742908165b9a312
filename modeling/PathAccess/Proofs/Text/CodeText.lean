import PathAccess.Text.CodeText

/-!
# Texts as lists of code points

The questions that rules ask of a list of code points have the same answers for a text.
-/

namespace PathAccess.CodeText

variable {s : String}

@[simp] theorem ofString_inj {t : String} : ofString s = ofString t ↔ s = t :=
  ⟨ofString_injective, congrArg ofString⟩

@[simp] theorem length_ofString (s : String) : (ofString s).length = s.length := by
  simp [length, ofString, ofChars, String.length_toList]

@[simp] theorem isEmpty_ofString (s : String) : (ofString s).isEmpty = s.isEmpty := by
  rw [Bool.eq_iff_iff]
  simp [isEmpty, ofString, ofChars]

theorem contains_ofString {c : Char} : (ofString s).contains c = true ↔ c ∈ s.toList := by
  simp only [contains, ofString, ofChars, List.contains_eq_mem, decide_eq_true_eq, List.mem_map]
  constructor
  · rintro ⟨d, hd, hcode⟩
    obtain rfl : d = c := Option.some.inj (by rw [← char?_toNat d, hcode, char?_toNat])
    exact hd
  · exact fun hc => ⟨c, hc, rfl⟩

theorem contains_ofString_eq_false {c : Char} : (ofString s).contains c = false ↔ c ∉ s.toList := by
  rw [Bool.eq_false_iff, Ne, contains_ofString]

@[simp] theorem isDigitRun_ofString (s : String) : (ofString s).isDigitRun = Text.isDigitRun s := by
  have hall : (ofString s).codes.all isDigitLike = s.toList.all Text.isDigitLike := by
    simp [ofString, ofChars, List.all_map, Function.comp_def, isDigitLike, char?_toNat]
  rw [isDigitRun, hall, isEmpty_ofString, Text.isDigitRun]

end PathAccess.CodeText
