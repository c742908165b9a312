import Mathlib.Data.Finset.Card
import Mathlib.Data.Set.List
import PathAccess.Privileges.Basic
import PathAccess.Proofs.Scheme.Coherence

/-!
# The part of a mask that a scheme knows

A mask may have positions without a privilege, even infinitely many.  A scheme shows its own privileges in it and
nothing else, so masks that differ only in other positions look alike (`Scheme.within_and_fullMask`).

The privileges of a validated scheme have different single positions.  Those in a mask are therefore as many as the
known positions of it (`Scheme.Coherent.exists_positions`), and since they are found by their labels, the labels tell
masks with different known parts apart (`Scheme.Labelled.labels_eq_iff`).
-/

namespace PathAccess.Scheme

variable {c : Scheme} {m n : Mask}

/-- Only the known part of a mask is looked at. -/
theorem within_and_fullMask (c : Scheme) (m : Mask) : c.within (m &&& c.fullMask) = c.within m := by
  apply List.filter_congr
  intro p hp
  have hknown : ∀ k, p.bit.testBit k = true → c.fullMask.testBit k = true :=
    Mask.covers_iff.1 (Mask.unions_covers (List.mem_map_of_mem hp))
  rw [Bool.eq_iff_iff, Mask.meets_iff, Mask.meets_iff]
  refine exists_congr fun k => and_congr_left fun hk => ?_
  rw [Mask.testBit_and, hknown k hk, Bool.and_true]

theorem Labelled.labels_eq_iff (hc : c.Labelled) :
    c.labels m = c.labels n ↔ m &&& c.fullMask = n &&& c.fullMask := by
  constructor
  · intro h
    have hbits := congrArg (List.filterMap c.bitFor) h
    rw [hc.filterMap_bitFor_labels, hc.filterMap_bitFor_labels] at hbits
    rw [← hc.unions_within, ← hc.unions_within, hbits]
  · intro h
    rw [labels, labels, ← within_and_fullMask c m, h, within_and_fullMask]

theorem Coherent.labelled (hc : c.Coherent) : c.Labelled :=
  ⟨hc.exists_bit, fun p hp => hc.bitFor_eq p hp _ p.answersTo_label⟩

/-- The privileges in a mask have one known position of it each. -/
theorem Coherent.exists_positions (hc : c.Coherent) (m : Mask) :
    ∃ positions : List Nat, positions.Nodup ∧ positions.map Mask.bit = (c.within m).map Privilege.bit := by
  have hsingle : ∀ bit ∈ (c.within m).map Privilege.bit, bit ∈ Set.range Mask.bit := by
    rw [List.forall_mem_map]
    intro p hp
    obtain ⟨k, hk⟩ := hc.exists_bit p (List.mem_of_mem_filter hp)
    exact ⟨k, hk.symm⟩
  have hrange : (c.within m).map Privilege.bit ∈ Set.range (List.map Mask.bit) := by
    rw [Set.range_list_map]
    exact hsingle
  obtain ⟨positions, hpositions⟩ := hrange
  refine ⟨positions, List.Nodup.of_map Mask.bit ?_, hpositions⟩
  rw [hpositions]
  exact hc.nodup_bits.sublist (List.filter_sublist.map Privilege.bit)

/-- There are as many privileges in a mask as known positions. -/
theorem Coherent.exists_finset (hc : c.Coherent) (m : Mask) :
    ∃ positions : Finset Nat, (∀ k, k ∈ positions ↔ (m &&& c.fullMask).testBit k = true) ∧
      (c.labels m).length = positions.card := by
  obtain ⟨positions, hnodup, hbits⟩ := hc.exists_positions m
  refine ⟨positions.toFinset, fun k => ?_, ?_⟩
  · rw [← hc.labelled.unions_within, ← hbits, Mask.testBit_unions, List.mem_toFinset]
    simp
  · have hlength := congrArg List.length hbits
    rw [List.length_map, List.length_map] at hlength
    rw [List.toFinset_card_of_nodup hnodup, hlength, labels, List.length_map]

/-- **What a scheme shows of a mask.**  The privileges in a mask, whatever its positions, come in the order of the
scheme and make up the part of the mask that the scheme knows.  Masks have the same labels if and only if they have the
same known part, and as many labels as known positions.  The bit of a grant has the label of a privilege, by which it
is found. -/
theorem shows_known_part (hc : c.IsValidated) (m : Mask) :
    (c.within m).Sublist c.privileges ∧ Mask.unions ((c.within m).map Privilege.bit) = m &&& c.fullMask ∧
      (∀ n, Privileges.labels ⟨m, c⟩ = Privileges.labels ⟨n, c⟩ ↔ m &&& c.fullMask = n &&& c.fullMask) ∧
      (∃ positions : Finset Nat, (∀ k, k ∈ positions ↔ (m &&& c.fullMask).testBit k = true) ∧
        (Privileges.labels ⟨m, c⟩).length = positions.card) ∧
      ∀ bit ∈ c.grants.keys, ∃ p ∈ c.privileges, c.labelOf? bit = some p.label ∧ c.bitFor p.label = some bit := by
  have hl := hc.coherent.labelled
  refine ⟨List.filter_sublist, hl.unions_within m, fun n => hl.labels_eq_iff, hc.coherent.exists_finset m, ?_⟩
  intro bit hbit
  obtain ⟨e, he, rfl⟩ := List.mem_map.1 hbit
  exact hl.labelOf?_eq (hc.coherent.grant_privilege e he)

/-- A mask with all positions but two, under a scheme with a gap. -/
theorem shows_known_part_of_complement :
    let c : Scheme := ⟨[⟨"read", Mask.bit 3, none⟩, ⟨"write", Mask.bit 0, none⟩, ⟨"admin", Mask.bit 1, none⟩], ∅,
      .ofList [(Mask.bit 1, ⟨9⟩)]⟩
    c.IsValidated ∧ Mask.unions ((c.within ⟨-6⟩).map Privilege.bit) = ⟨10⟩ ∧
      Privileges.labels ⟨⟨-6⟩, c⟩ = Privileges.labels ⟨⟨14⟩, c⟩ ∧
      Privileges.labels ⟨⟨-6⟩, c⟩ ≠ Privileges.labels ⟨⟨-5⟩, c⟩ ∧
      ∃ p ∈ c.privileges, c.labelOf? (Mask.bit 1) = some p.label ∧ c.bitFor p.label = some (Mask.bit 1) := by
  intro c
  have hc : c.IsValidated :=
    ⟨.map
      [(.text "privileges", .map [(.text "read", .int 8), (.text "write", .int 1), (.text "admin", .int 2)]),
       (.text "grant_privileges", .map [(.text "admin", .int 9)])], none, by rfl⟩
  obtain ⟨-, hunion, hlabels, -, hgrants⟩ := shows_known_part hc ⟨-6⟩
  refine ⟨hc, hunion.trans (by decide), (hlabels _).2 (by decide), fun h => ?_, hgrants _ (by decide)⟩
  exact absurd ((hlabels _).1 h) (by decide)

end PathAccess.Scheme
