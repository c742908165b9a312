import PathAccess.Proofs.Privileges.Numbers
import PathAccess.Proofs.Privileges.Tokens

/-!
# Privileges read back from their written form

Under a scheme that addresses its privileges by identifiers, privileges are written as a run of identifiers.  If no
identifier is a separator, a blank or a digit, and no name and no alias is made of identifiers alone
(`Scheme.WritesRuns`), then such a run is a single token, and it is read identifier by identifier: what was written is
read back, if it is a set of privileges of the scheme (`Scheme.WritesRuns.readTexts_text`).

Nothing else is read back, because in the identifier form texts stand for privileges of the scheme only
(`Scheme.KnowsAliases.covers_of_readTexts`).  Under the standard scheme these are the masks from 1 to 63
(`Scheme.range_of_readTexts_standard`).
-/

namespace PathAccess

namespace Scheme

def identifiers (c : Scheme) : List Char := c.privileges.flatMap (·.label.toList)

/-- Whether a text is made of identifiers alone. -/
def isRun (c : Scheme) (s : String) : Bool := s.toList.all c.identifiers.contains

/-- A run of labels can be told from everything else that a token may be. -/
structure WritesRuns (c : Scheme) : Prop where
  labelled : c.Labelled
  identified : c.isIdentified = true
  single : ∀ p ∈ c.privileges, p.label.toList.length = 1
  separators_apart : ',' ∉ c.identifiers ∧ ':' ∉ c.identifiers
  blanks_apart : c.identifiers.any Text.isBlank = false
  digits_apart : c.identifiers.any Text.isDigitLike = false
  names_apart : ∀ p ∈ c.privileges, c.isRun p.name = false
  aliases_apart : ∀ name ∈ c.aliases.keys, c.isRun name = false

variable {c : Scheme}

theorem isRun_iff {s : String} : c.isRun s = true ↔ ∀ i ∈ s.toList, i ∈ c.identifiers := by
  simp [isRun]

/-! ### Runs of identifiers -/

private theorem WritesRuns.readToken_eq (hc : c.WritesRuns) {s : String} (hne : s ≠ "") (h : c.isRun s = true) :
    c.readToken s = c.readIdentifiers s.toList 0 := by
  refine readToken_run hc.identified hc.single ?_ ?_ ?_
  · obtain ⟨i, l, hs⟩ := List.exists_cons_of_ne_nil (l := s.toList) (by simpa using hne)
    have hi := List.any_eq_false.1 hc.digits_apart i (isRun_iff.1 h i (by simp [hs]))
    simp [Text.isDigitRun, hs, hi]
  · rintro p hp rfl
    exact absurd h (by simp [hc.names_apart p hp])
  · rw [aliasMask, OrderedMap.get?_eq_none_iff]
    exact fun hmem => absurd h (by simp [hc.aliases_apart s hmem])

/-! ### Reading what was written -/

private theorem WritesRuns.isRun_text (hc : c.WritesRuns) (m : Mask) : c.isRun (Privileges.text ⟨m, c⟩) = true := by
  rw [isRun_iff]
  intro i hi
  rw [toList_text hc.identified, List.mem_flatMap] at hi
  obtain ⟨p, hp, hi⟩ := hi
  exact List.mem_flatMap.2 ⟨p, List.mem_of_mem_filter hp, hi⟩

theorem WritesRuns.colon_not_mem_text (hc : c.WritesRuns) (m : Mask) :
    ':' ∉ (Privileges.text ⟨m, c⟩).toList :=
  fun h => hc.separators_apart.2 (isRun_iff.1 (hc.isRun_text m) _ h)

/-- Privileges of the scheme are read back from what they are written as. -/
theorem WritesRuns.readTexts_text (hc : c.WritesRuns) {m : Mask} (hm : m ≠ 0) (hcov : c.fullMask.covers m = true) :
    c.readTexts [Privileges.text ⟨m, c⟩] = .ok ⟨m, c⟩ := by
  have hwithin : ∀ p ∈ c.within m, p ∈ c.privileges := fun p hp => List.mem_of_mem_filter hp
  have hne : Privileges.text ⟨m, c⟩ ≠ "" := by
    intro hempty
    obtain ⟨p, ps, hps⟩ : ∃ p ps, c.within m = p :: ps := by
      apply List.exists_cons_of_ne_nil
      intro hnil
      exact hc.labelled.labels_ne_nil hm hcov (by rw [labels, hnil, List.map_nil])
    have htext := toList_text hc.identified m
    have hlen := hc.single p (hwithin p (by simp [hps]))
    rw [hempty, hps, List.flatMap_cons] at htext
    have := congrArg List.length htext
    simp only [String.toList_empty, List.length_nil, List.length_append] at this
    omega
  have htoken : c.readToken (Privileges.text ⟨m, c⟩) = .ok m := by
    rw [hc.readToken_eq hne (hc.isRun_text m), hc.labelled.readIdentifiers_text hc.identified hc.single hcov]
  have hrun := isRun_iff.1 (hc.isRun_text m)
  have htrim : Text.trim (Privileges.text ⟨m, c⟩) = Privileges.text ⟨m, c⟩ :=
    Text.trim_eq_self fun i hi => by simpa using List.any_eq_false.1 hc.blanks_apart i (hrun i hi)
  rw [readTexts_singleton_eq_ok_iff fun hcomma => hc.separators_apart.1 (hrun _ hcomma), htrim]
  exact ⟨hne, htoken⟩

end Scheme

/-! ### The standard scheme -/

theorem Declaration.standard_wellFormed : standard.WellFormed := ⟨by decide, by decide⟩

namespace Scheme

theorem standard_writesRuns : standard.WritesRuns where
  labelled :=
    have h := Declaration.standard_wellFormed.labelled (by decide)
    ⟨h.exists_bit, h.bitFor_label⟩
  identified := by decide
  single := by decide
  separators_apart := by decide
  blanks_apart := by decide
  digits_apart := by decide
  names_apart := by decide
  aliases_apart := by decide

theorem fullMask_standard : standard.fullMask = ⟨63⟩ := by decide

theorem range_of_readTexts_standard {texts : List String} {s : Privileges} (h : standard.readTexts texts = .ok s) :
    1 ≤ s.mask.value ∧ s.mask.value ≤ 63 := by
  have hcov := (Declaration.knowsAliases_toScheme _).covers_of_readTexts
    (Declaration.standard_wellFormed.isGapless (by decide)) h
  have hne := standard_isValidated.wellFormed.readTexts_ne_zero h
  have := standard_writesRuns.labelled.range_of_covers hne hcov
  rwa [fullMask_standard] at this

theorem readTexts_text_standard {m : Mask} (hlow : 1 ≤ m.value) (hhigh : m.value ≤ 63) :
    standard.readTexts [Privileges.text ⟨m, standard⟩] = .ok ⟨m, standard⟩ := by
  apply standard_writesRuns.readTexts_text
  · rintro rfl
    exact absurd hlow (by decide)
  · exact Declaration.standard_wellFormed.covers_of_range (by decide) hlow (fullMask_standard ▸ hhigh)

end Scheme

end PathAccess
