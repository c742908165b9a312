import PathAccess.Proofs.Scheme.History
import PathAccess.Scheme.Loading

/-!
# Ways to read a document

A scheme is read from a YAML text, from a file that holds the text, or from a value as it is.  The three read the same
document, except that a value that counts as absent is replaced by the empty map where it comes from YAML
(`Scheme.ofYaml_eq`).  An empty map declares the standard scheme, and so does then every such value, although none of
them but the empty map itself is a scheme (`Scheme.sameReading_ofContent_iff`).
-/

namespace PathAccess

namespace Scheme

/-- Two readings of a document: the same scheme, or the same cause why there is none, whatever origin is named. -/
inductive SameReading : Except Fault Scheme → Except Fault Scheme → Prop
  | ok (c : Scheme) : SameReading (.ok c) (.ok c)
  | error (cause : SchemeFault) (origin origin' : Option String) :
    SameReading (.error (.scheme cause origin)) (.error (.scheme cause origin'))

variable {v : Item} {text path : String} {find : String → FileTree.Target}

/-! ### Values -/

/-- The origin of a document is only named in the fault. -/
theorem sameReading_ofItem (v : Item) (origin origin' : Option String) :
    SameReading (ofItem v origin) (ofItem v origin') := by
  cases v with
  | map ps =>
    rw [ofItem, ofItem]
    cases Declaration.ofSections ps with
    | error faults => exact .error _ _ _
    | ok d =>
      dsimp only
      split
      · exact .ok _
      · exact .error _ _ _
  | _ => exact .error _ _ _

theorem ofItem_of_not_map (h : ∀ ps, v ≠ .map ps) (origin : Option String) :
    ofItem v origin = .error (.scheme .notMap origin) := by
  cases v with
  | map ps => exact absurd rfl (h ps)
  | _ => rfl

/-- What is not declared is as it is in the standard scheme. -/
theorem ofItem_empty (origin : Option String) : ofItem (.map []) origin = .ok standard := rfl

theorem eq_empty_of_not_isTrue {ps : List (Item × Item)} (h : (Value.map ps : Item).isTrue = false) : ps = [] := by
  simpa [Value.isTrue] using h

/-! ### Documents -/

theorem ofContent_of_isTrue (h : v.isTrue = true) (origin : Option String) : ofContent v origin = ofItem v origin := by
  rw [ofContent, if_pos h]

/-- A value that counts as absent declares the standard scheme, of whatever kind it is. -/
theorem ofContent_of_not_isTrue (h : v.isTrue = false) (origin : Option String) :
    ofContent v origin = .ok standard := by
  rw [ofContent, if_neg (by simp [h]), ofItem_empty]

theorem ofYaml_eq (h : Yaml.load text = .ok v) (fromFile : Bool) (origin : Option String) :
    ofYaml text fromFile origin = ofContent v origin := by
  rw [ofYaml, h]

/-- A file is read as the text that it holds. -/
theorem ofFile_eq (h : find path = .file text.toUTF8.data.toList) :
    ofFile find path = ofYaml text true (some (FileTree.normalized path)) := by
  have hdecode : String.fromUTF8? ⟨text.toUTF8.data.toList.toArray⟩ = some text := by
    rw [Array.toArray_toList, String.fromUTF8?]
    exact dif_pos text.isValidUTF8
  rw [ofFile, h]
  dsimp only
  rw [hdecode]

theorem sameReading_ofContent (v : Item) (origin origin' : Option String) :
    SameReading (ofContent v origin) (ofContent v origin') := sameReading_ofItem _ origin origin'

/-- A document is read as its value is, unless the value is absent and replaced by the empty map. -/
theorem sameReading_ofContent_iff (origin origin' : Option String) :
    SameReading (ofContent v origin) (ofItem v origin') ↔ v.isTrue = true ∨ v = .map [] := by
  cases htrue : v.isTrue with
  | true =>
    rw [ofContent_of_isTrue htrue]
    exact iff_of_true (sameReading_ofItem v origin origin') (Or.inl rfl)
  | false =>
    rw [ofContent_of_not_isTrue htrue]
    constructor
    · intro h
      by_cases hmap : ∃ ps, v = .map ps
      · obtain ⟨ps, rfl⟩ := hmap
        exact Or.inr (congrArg _ (eq_empty_of_not_isTrue htrue))
      · rw [ofItem_of_not_map (not_exists.1 hmap)] at h
        exact absurd h nofun
    · rintro (h | rfl)
      · exact absurd h nofun
      · exact .ok standard

/-- **Three ways to read a document.**  A text and a file that holds it are always read alike.  They are read as the
value of the document is if and only if this counts as present or is the empty map.  Any other value declares the
standard scheme, so that a value that is no map is only rejected if it counts as present, and always if it is given as
such. -/
theorem entryPoints_agree_iff (hload : Yaml.load text = .ok v) (hfile : find path = .file text.toUTF8.data.toList)
    (origin origin' : Option String) :
    SameReading (ofYaml text false origin) (ofFile find path) ∧
      (SameReading (ofYaml text false origin) (ofItem v origin') ↔ v.isTrue = true ∨ v = .map []) ∧
      (v.isTrue = false → ofYaml text false origin = .ok standard) ∧
      ((∀ ps, v ≠ .map ps) → ofItem v origin' = .error (.scheme .notMap origin') ∧
        (ofYaml text false origin = .error (.scheme .notMap origin) ↔ v.isTrue = true)) := by
  rw [ofFile_eq hfile, ofYaml_eq hload, ofYaml_eq hload]
  refine ⟨sameReading_ofContent v _ _, sameReading_ofContent_iff origin origin',
    fun h => ofContent_of_not_isTrue h origin, fun h => ⟨ofItem_of_not_map h origin', ?_⟩⟩
  cases htrue : v.isTrue with
  | true => exact iff_of_true ((ofContent_of_isTrue htrue origin).trans (ofItem_of_not_map h origin)) rfl
  | false => simp [ofContent_of_not_isTrue htrue]

/-- A list that is not empty is rejected wherever it comes from. -/
theorem entryPoints_agree_on_nested_list :
    let files := FileTree.ofList [("schemes/a.yaml", "[[]]".toUTF8.data.toList)]
    Yaml.load "[[]]" = .ok (.list [.list []] : Item) ∧
      files.find "schemes/a.yaml" = .file "[[]]".toUTF8.data.toList ∧
      ofYaml "[[]]" false none = .error (.scheme .notMap none) ∧
      SameReading (ofYaml "[[]]" false none) (ofFile files.find "schemes/a.yaml") ∧
      SameReading (ofYaml "[[]]" false none) (ofItem (.list [.list []]) none) := by
  intro files
  have hload : Yaml.load "[[]]" = .ok (.list [.list []] : Item) := by rfl
  have hfile : files.find "schemes/a.yaml" = .file "[[]]".toUTF8.data.toList := by rfl
  obtain ⟨hloaders, hvalue, -, hrejected⟩ := entryPoints_agree_iff hload hfile none none
  exact ⟨hload, hfile, (hrejected nofun).2.2 rfl, hloaders, hvalue.2 (Or.inl rfl)⟩

/-- An empty list declares the standard scheme in YAML, although it is no scheme if it is given as such. -/
theorem not_entryPoints_agree_on_empty_list :
    let files := FileTree.ofList [("schemes/a.yaml", "[]".toUTF8.data.toList)]
    Yaml.load "[]" = .ok (.list [] : Item) ∧
      files.find "schemes/a.yaml" = .file "[]".toUTF8.data.toList ∧
      ofYaml "[]" false none = .ok standard ∧
      ofFile files.find "schemes/a.yaml" = .ok standard ∧
      ofItem (.list []) none = .error (.scheme .notMap none) ∧
      ¬ SameReading (ofYaml "[]" false none) (ofItem (.list []) none) := by
  intro files
  have hload : Yaml.load "[]" = .ok (.list [] : Item) := by rfl
  have hfile : files.find "schemes/a.yaml" = .file "[]".toUTF8.data.toList := by rfl
  have hread : ∀ fromFile origin, ofYaml "[]" fromFile origin = .ok standard := fun fromFile origin => by
    rw [ofYaml_eq hload, ofContent_of_not_isTrue rfl]
  have hgiven : ofItem (.list []) none = .error (.scheme .notMap none) := rfl
  refine ⟨hload, hfile, hread _ _, (ofFile_eq hfile).trans (hread _ _), hgiven, ?_⟩
  rw [hread, hgiven]
  exact nofun

end Scheme

end PathAccess
