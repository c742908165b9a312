import Mathlib.Data.List.Basic
import PathAccess.Proofs.Scheme.Forms

/-!
# Masks by their labels

The labels of a mask stand for the part of it that the scheme knows (`Scheme.unions_within`, `Scheme.maskOf_labels`),
so a mask of known privileges can be had back from its labels, whereas tokens never stand for a mask of others
(`Scheme.covers_maskOf`).
-/

namespace PathAccess.Scheme

variable {c : Scheme}

/-- The privileges in a mask make up the part of it that the scheme knows. -/
theorem Labelled.unions_within (hc : c.Labelled) (m : Mask) :
    Mask.unions ((c.within m).map Privilege.bit) = m &&& c.fullMask := by
  apply Mask.ext_testBit
  intro k
  rw [Bool.eq_iff_iff, Mask.testBit_and, Bool.and_eq_true, fullMask, Mask.testBit_unions, Mask.testBit_unions]
  simp only [within, List.mem_map, List.mem_filter]
  constructor
  · -- a mask that meets a single bit has it
    rintro ⟨_, ⟨p, ⟨hp, hmeets⟩, rfl⟩, hk⟩
    obtain ⟨j, hj⟩ := hc.exists_bit p hp
    rw [hj, Mask.meets_bit] at hmeets
    obtain rfl : j = k := by simpa [hj] using hk
    exact ⟨hmeets, p.bit, ⟨p, hp, rfl⟩, hk⟩
  · rintro ⟨hm, _, ⟨p, hp, rfl⟩, hk⟩
    exact ⟨p.bit, ⟨p, ⟨hp, Mask.meets_iff.2 ⟨k, hm, hk⟩⟩, rfl⟩, hk⟩

theorem Labelled.filterMap_bitFor_labels (hc : c.Labelled) (m : Mask) :
    (c.labels m).filterMap c.bitFor = (c.within m).map Privilege.bit := by
  rw [labels, List.filterMap_map, List.filterMap_eq_map_iff_forall_eq_some]
  exact fun p hp => hc.bitFor_label p (List.mem_of_mem_filter hp)

theorem Labelled.maskOf_labels (hc : c.Labelled) (m : Mask) :
    Declaration.maskOf c ((c.labels m).map CodeText.ofString) = m &&& c.fullMask := by
  rw [Declaration.maskOf, List.filterMap_map]
  simp only [Function.comp_def, CodeText.text_ofString]
  rw [hc.filterMap_bitFor_labels, hc.unions_within]

theorem covers_maskOf (c : Scheme) (tokens : List CodeText) :
    c.fullMask.covers (Declaration.maskOf c tokens) = true := by
  rw [Declaration.maskOf, Mask.covers_unions]
  intro bit hbit
  obtain ⟨t, -, ht⟩ := List.mem_filterMap.1 hbit
  obtain ⟨p, hp, -, rfl⟩ := exists_of_bitFor ht
  exact Mask.unions_covers (List.mem_map_of_mem hp)

theorem Labelled.labels_ne_nil (hc : c.Labelled) {m : Mask} (hm : m ≠ 0) (h : c.fullMask.covers m = true) :
    c.labels m ≠ [] := by
  intro hnil
  have hunion := hc.unions_within m
  rw [List.map_eq_nil_iff.1 hnil, Mask.and_eq_left_of_covers h] at hunion
  exact hm hunion.symm

theorem Labelled.value_fullMask_nonneg (hc : c.Labelled) : 0 ≤ c.fullMask.value := by
  apply Mask.value_unions_nonneg
  intro m hm
  obtain ⟨p, hp, rfl⟩ := List.mem_map.1 hm
  obtain ⟨k, hk⟩ := hc.exists_bit p hp
  rw [hk]
  exact Int.natCast_nonneg _

/-- A mask of known privileges is a number within the range of masks. -/
theorem Labelled.range_of_covers (hc : c.Labelled) {m : Mask} (hm : m ≠ 0) (h : c.fullMask.covers m = true) :
    1 ≤ m.value ∧ m.value ≤ c.fullMask.value := by
  obtain ⟨h0, hle⟩ := Mask.value_of_covers hc.value_fullMask_nonneg h
  have hne : m.value ≠ 0 := fun hz => hm (by cases m; exact congrArg Mask.mk hz)
  exact ⟨by omega, hle⟩

end PathAccess.Scheme
