import Mathlib.Data.List.Nodup
import PathAccess.Proofs.Scheme.Validation

/-!
# The two forms of a declaration

The privileges of a declaration that breaks no rule are all declared by bits, or all by names (`Declaration.Form`).
In both forms the bits are different single positions, in the identifier form the first ones in order.  If the names
are texts, a privilege is found by its name and by its identifier (`WellFormed.bitFor_of_answersTo`): the keys are
different, the names are too, and no name is a key.

So a number between one and the mask of all privileges is a set of privileges in the identifier form
(`WellFormed.covers_of_range`), where that mask has no gaps (`Scheme.IsGapless`); in the numeric form it may have some.
-/

namespace PathAccess

/-- Every privilege has a single bit, and is found by its label. -/
structure Scheme.Labelled (c : Scheme) : Prop where
  exists_bit : ∀ p ∈ c.privileges, ∃ position, p.bit = Mask.bit position
  bitFor_label : ∀ p ∈ c.privileges, c.bitFor p.label = some p.bit

theorem Privilege.answersTo_iff {p : Privilege} {token : String} :
    p.answersTo token = true ↔ p.name = token ∨ p.identifier = some token := by
  rw [answersTo, Bool.or_eq_true, decide_eq_true_iff, decide_eq_true_iff]

theorem Privilege.answersTo_label (p : Privilege) : p.answersTo p.label = true := by
  rw [answersTo_iff, label]
  cases p.identifier <;> simp

namespace Scheme

/-- The privileges have the first positions, and no others. -/
def IsGapless (c : Scheme) : Prop := ∃ n : Nat, c.fullMask = ⟨(2 ^ n - 1 : Nat)⟩

theorem IsGapless.covers_of_range {c : Scheme} (hc : c.IsGapless) {m : Mask} (h1 : 1 ≤ m.value)
    (h2 : m.value ≤ c.fullMask.value) : c.fullMask.covers m = true := by
  obtain ⟨n, hn⟩ := hc
  rw [hn] at h2 ⊢
  rw [Mask.covers_first_iff]
  have := Nat.two_pow_pos n
  have h2 : m.value ≤ (2 ^ n - 1 : Nat) := h2
  omega

end Scheme

namespace Declaration

/-- What a declaration that breaks no rule looks like. -/
inductive Form (d : Declaration) : Prop
  | numeric (bits : List (CodeText × Int)) (ne_nil : bits ≠ [])
      (entries_eq : d.privileges.entries = bits.map fun e => (e.1, .bit e.2))
      (definitions_eq : d.definitions = bits.map fun e => ⟨e.1.text, ⟨e.2⟩, none⟩)
      (single : ∀ e ∈ bits, ∃ position, (⟨e.2⟩ : Mask) = Mask.bit position)
      (nodup : (bits.map Prod.snd).Nodup)
  | identified (names : List (CodeText × CodeText)) (ne_nil : names ≠ [])
      (entries_eq : d.privileges.entries = names.map fun e => (e.1, .name e.2))
      (definitions_eq : d.definitions =
        names.zipIdx.map fun e => ⟨e.1.2.text, Mask.bit e.2, some e.1.1.text⟩)
      (single : ∀ e ∈ names, e.1.length = 1) (long : ∀ e ∈ names, 2 ≤ e.2.length)

private theorem eq_map_of_bits {entries : List (CodeText × Designation)}
    (h : (entries.filterMap fun e => e.2.bit?.map fun n => (e.1, n)).length = entries.length) :
    entries = (entries.filterMap fun e => e.2.bit?.map fun n => (e.1, n)).map fun e => (e.1, .bit e.2) := by
  induction entries with
  | nil => rfl
  | cons e entries ih =>
    obtain ⟨key, designation⟩ := e
    cases designation with
    | name s =>
      have hle := List.length_filterMap_le (fun e : CodeText × Designation => e.2.bit?.map fun n => (e.1, n)) entries
      have hlt : (entries.filterMap fun e => e.2.bit?.map fun n => (e.1, n)).length = entries.length + 1 := h
      omega
    | bit n => simpa [Designation.bit?] using ih (by simpa [Designation.bit?] using h)

private theorem eq_map_of_names {entries : List (CodeText × Designation)}
    (h : (entries.filterMap fun e => e.2.bit?.map fun n => (e.1, n)) = []) :
    entries = (entries.map fun e => (e.1, e.2.text)).map fun e => (e.1, .name e.2) := by
  induction entries with
  | nil => rfl
  | cons e entries ih =>
    obtain ⟨key, designation⟩ := e
    cases designation with
    | name s => simpa [Designation.text] using ih (by simpa [Designation.bit?] using h)
    | bit n => simp [Designation.bit?] at h

theorem identified_map_name (position : Nat) (names : List (CodeText × CodeText)) :
    identified position (names.map fun e => (e.1, .name e.2)) =
      (names.zipIdx position).map fun e => ⟨e.1.2.text, Mask.bit e.2, some e.1.1.text⟩ := by
  induction names generalizing position with
  | nil => rfl
  | cons e names ih => simp [identified, Designation.text, ih]

theorem WellFormed.form {d : Declaration} (h : d.WellFormed) : d.Form := by
  have hv := h.privileges_ok
  rw [privilegeViolation_eq] at hv
  split at hv
  · simp at hv
  rename_i hne
  split at hv
  · rename_i hbits
    have hnames := eq_map_of_names (List.isEmpty_iff.1 hbits)
    have hchecks := (violationOfNames_eq_none_iff.1 hv).1
    have hlengths : ∀ e ∈ d.privileges.entries.map (fun e => (e.1, e.2.text)), e.1.length = 1 ∧ 2 ≤ e.2.length := by
      intro e he
      obtain ⟨hidentifier, hlong⟩ := hchecks e he
      simp only [isIdentifier, Bool.and_eq_true, decide_eq_true_eq] at hidentifier
      exact ⟨hidentifier.1.1, hlong⟩
    have hsize : d.bits.length ≠ d.privileges.size := by
      rw [List.isEmpty_iff.1 hbits]
      intro h0
      exact hne (List.isEmpty_iff.2 (List.eq_nil_of_length_eq_zero h0.symm))
    refine .identified (d.privileges.entries.map fun e => (e.1, e.2.text)) ?_ hnames ?_
      (fun e he => (hlengths e he).1) fun e he => (hlengths e he).2
    · simpa [OrderedMap.isEmpty] using hne
    · rw [definitions_eq, if_neg hsize, ← identified_map_name, ← hnames]
  · rename_i hbits
    split at hv
    · simp at hv
    · rename_i hsize
      have hsize : d.bits.length = d.privileges.size := by simpa using hsize
      refine .numeric d.bits (by simpa using hbits) (eq_map_of_bits hsize) ?_ ?_ (violationOfBits_eq_none_iff.1 hv).2.1
      · rw [definitions_eq, if_pos hsize]
      · exact fun e he => Mask.isSingle_iff.1 (h.isSingle_of_mem_bits he hsize)

theorem isIdentified_of_bits {d : Declaration} {bits : List (CodeText × Int)} (hne : bits ≠ [])
    (h : d.definitions = bits.map fun e => ⟨e.1.text, ⟨e.2⟩, none⟩) : d.base.isIdentified = false := by
  obtain ⟨e, rest, rfl⟩ := List.exists_cons_of_ne_nil hne
  simp [Scheme.isIdentified, base, h]

theorem isIdentified_of_zipIdx {d : Declaration} {names : List (CodeText × CodeText)}
    (h : d.definitions = names.zipIdx.map fun e => ⟨e.1.2.text, Mask.bit e.2, some e.1.1.text⟩) :
    d.base.isIdentified = true := by
  simp [Scheme.isIdentified, base, h]

/-! ### Names -/

theorem eq_of_text_eq {s t : CodeText} (hs : s.isSpelled = true) (ht : t.isSpelled = true) (h : s.text = t.text) :
    s = t := by
  rw [← CodeText.ofString_text hs, h, CodeText.ofString_text ht]

theorem isSpelled_of_mem {d : Declaration} (h : d.isSpelled = true) {e : CodeText × Designation}
    (he : e ∈ d.privileges.entries) : e.1.isSpelled = true ∧ e.2.text.isSpelled = true := by
  simp only [isSpelled, Bool.and_eq_true, List.all_eq_true] at h
  exact h.1 e he

theorem mem_base_iff {α : Type} {d : Declaration} {l : List α} {f : α → Privilege}
    (h : d.definitions = l.map f) {p : Privilege} : p ∈ d.base.privileges ↔ ∃ e ∈ l, f e = p := by
  rw [← List.mem_map, ← h]
  rfl

theorem mem_entries_of_map {α : Type} {d : Declaration} {l : List α} {f : α → CodeText × Designation}
    (h : d.privileges.entries = l.map f) {e : α} (he : e ∈ l) : f e ∈ d.privileges.entries := by
  rw [h]
  exact List.mem_map_of_mem he

/-- Names that are declared by bits have passed the checks of the numeric form. -/
theorem WellFormed.allNew_bits {d : Declaration} (h : d.WellFormed) {bits : List (CodeText × Int)} (hne : bits ≠ [])
    (hentries : d.privileges.entries = bits.map fun e => (e.1, .bit e.2)) :
    AllNew (fun e => (e.1.isEmpty || e.1.contains ',' || e.1.isDigitRun) = false ∧ Mask.isSingle ⟨e.2⟩ = true)
      [] bits := by
  have hbits : d.bits = bits := by
    simp [Declaration.bits, hentries, List.filterMap_map, Designation.bit?]
  have hsize : bits.length = d.privileges.size := by simp [OrderedMap.size, hentries]
  have hv := h.privileges_ok
  rw [privilegeViolation_eq, hbits] at hv
  split at hv
  · simp at hv
  · simpa [hne, hsize, violationOfBits_eq_none_iff] using hv

/-- Names that are declared by identifiers have passed the checks of the identifier form. -/
theorem WellFormed.allNew_names {d : Declaration} (h : d.WellFormed) {names : List (CodeText × CodeText)}
    (hentries : d.privileges.entries = names.map fun e => (e.1, .name e.2)) :
    AllNew (fun e => isIdentifier e.1 = true ∧ 2 ≤ e.2.length) [] names := by
  have hbits : d.bits = [] := by simp [bits, hentries, Designation.bit?]
  have hnames : (d.privileges.entries.map fun e => (e.1, e.2.text)) = names := by
    rw [hentries, List.map_map]
    exact List.map_id names
  have hv := h.privileges_ok
  rw [privilegeViolation_eq, hbits, hnames] at hv
  split at hv
  · simp at hv
  · exact violationOfNames_eq_none_iff.1 hv

/-- Where the parts of a list are different, a part has one position. -/
private theorem position_eq {α β : Type} {l : List α} {part : α → β} (hl : (l.map part).Nodup) {e f : α × Nat}
    (he : e ∈ l.zipIdx) (hf : f ∈ l.zipIdx) (h : part e.1 = part f.1) : e.2 = f.2 := by
  have hlt : e.2 < (l.map part).length := by simpa using List.snd_lt_of_mem_zipIdx he
  rw [← List.getElem?_inj hlt hl, List.getElem?_map, List.getElem?_map, List.mem_zipIdx_iff_getElem?.1 he,
    List.mem_zipIdx_iff_getElem?.1 hf, Option.map_some, Option.map_some, h]

/-- Privileges that answer to the same token have the same bit. -/
private theorem WellFormed.bit_eq_of_answersTo {d : Declaration} (h : d.WellFormed) (hs : d.isSpelled = true)
    {p q : Privilege} (hp : p ∈ d.base.privileges) (hq : q ∈ d.base.privileges) {token : String}
    (hpt : p.answersTo token = true) (hqt : q.answersTo token = true) : p.bit = q.bit := by
  cases h.form with
  | numeric bits _ hentries hdefs _ _ =>
    have hmem : ∀ e ∈ bits, (e.1, Designation.bit e.2) ∈ d.privileges.entries :=
      fun _ => mem_entries_of_map hentries
    obtain ⟨e, he, rfl⟩ := (mem_base_iff hdefs).1 hp
    obtain ⟨f, hf, rfl⟩ := (mem_base_iff hdefs).1 hq
    have het : e.1.text = token := (Privilege.answersTo_iff.1 hpt).resolve_right (by simp)
    have hft : f.1.text = token := (Privilege.answersTo_iff.1 hqt).resolve_right (by simp)
    have hkey := eq_of_text_eq (isSpelled_of_mem hs (hmem f hf)).1 (isSpelled_of_mem hs (hmem e he)).1
      (hft.trans het.symm)
    have hf' := OrderedMap.mem_entries.1 (hmem f hf)
    rw [hkey, OrderedMap.mem_entries.1 (hmem e he)] at hf'
    simpa using hf'
  | identified names _ hentries hdefs hsingle hlong =>
    have hmem : ∀ e ∈ names.zipIdx, (e.1.1, Designation.name e.1.2) ∈ d.privileges.entries :=
      fun _ he => mem_entries_of_map hentries (List.fst_mem_of_mem_zipIdx he)
    have hspelled := fun e he => isSpelled_of_mem hs (hmem e he)
    have hkeys : (names.map Prod.fst).Nodup := by
      have := d.privileges.nodup
      rwa [hentries, List.map_map] at this
    -- a name has more characters than an identifier
    have hapart : ∀ e ∈ names.zipIdx, ∀ f ∈ names.zipIdx, e.1.2.text ≠ f.1.1.text := by
      intro e he f hf heq
      have hname := eq_of_text_eq (hspelled e he).2 (hspelled f hf).1 heq
      have h1 := hsingle f.1 (List.fst_mem_of_mem_zipIdx hf)
      have h2 := hlong e.1 (List.fst_mem_of_mem_zipIdx he)
      rw [← hname] at h1
      simp only [Designation.text] at h1
      omega
    obtain ⟨e, he, rfl⟩ := (mem_base_iff hdefs).1 hp
    obtain ⟨f, hf, rfl⟩ := (mem_base_iff hdefs).1 hq
    refine congrArg Mask.bit ?_
    rcases Privilege.answersTo_iff.1 hpt with het | het <;> rcases Privilege.answersTo_iff.1 hqt with hft | hft
    · exact position_eq (h.allNew_names hentries).2.1 he hf
        (eq_of_text_eq (hspelled e he).2 (hspelled f hf).2 (het.trans hft.symm))
    · exact absurd (het.trans (Option.some.inj hft).symm) (hapart e he f hf)
    · exact absurd (hft.trans (Option.some.inj het).symm) (hapart f hf e he)
    · have htext := (Option.some.inj het).trans (Option.some.inj hft).symm
      exact position_eq hkeys he hf (eq_of_text_eq (hspelled e he).1 (hspelled f hf).1 htext)

/-- A privilege is found by every token that it answers to. -/
theorem WellFormed.bitFor_of_answersTo {d : Declaration} (h : d.WellFormed) (hs : d.isSpelled = true) {p : Privilege}
    (hp : p ∈ d.base.privileges) {token : String} (ht : p.answersTo token = true) :
    d.base.bitFor token = some p.bit := by
  obtain ⟨bit, hbit⟩ := Scheme.bitFor_isSome hp ht
  obtain ⟨q, hq, hqt, rfl⟩ := Scheme.exists_of_bitFor hbit
  rw [hbit, h.bit_eq_of_answersTo hs hq hp hqt ht]

/-- A token that a privilege answers to is declared. -/
theorem WellFormed.declares_of_answersTo {d : Declaration} (h : d.WellFormed) (hs : d.isSpelled = true)
    {p : Privilege} (hp : p ∈ d.base.privileges) {token : String} (ht : p.answersTo token = true) :
    d.declares (.ofString token) = true := by
  rw [Privilege.answersTo_iff] at ht
  rw [declares, List.any_eq_true]
  cases h.form with
  | numeric bits _ hentries hdefs _ _ =>
    obtain ⟨e, he, rfl⟩ := (mem_base_iff hdefs).1 hp
    have hmem : (e.1, Designation.bit e.2) ∈ d.privileges.entries := mem_entries_of_map hentries he
    obtain rfl : e.1.text = token := ht.resolve_right (by simp)
    exact ⟨_, hmem, by simp [CodeText.ofString_text (isSpelled_of_mem hs hmem).1]⟩
  | identified names _ hentries hdefs _ _ =>
    obtain ⟨e, he, rfl⟩ := (mem_base_iff hdefs).1 hp
    have hmem : (e.1.1, Designation.name e.1.2) ∈ d.privileges.entries :=
      mem_entries_of_map hentries (List.fst_mem_of_mem_zipIdx he)
    obtain ⟨hkey, hname⟩ := isSpelled_of_mem hs hmem
    simp only [Designation.text] at hname
    refine ⟨_, hmem, ?_⟩
    rcases ht with rfl | ht
    · simp [CodeText.ofString_text hname]
    · obtain rfl := Option.some.inj ht
      simp [CodeText.ofString_text hkey]

theorem WellFormed.labelled {d : Declaration} (h : d.WellFormed) (hs : d.isSpelled = true) : d.base.Labelled where
  exists_bit := by
    intro p hp
    cases h.form with
    | numeric bits _ _ hdefs hsingle _ =>
      obtain ⟨e, he, rfl⟩ := (mem_base_iff hdefs).1 hp
      exact hsingle e he
    | identified names _ _ hdefs _ _ =>
      obtain ⟨e, he, rfl⟩ := (mem_base_iff hdefs).1 hp
      exact ⟨e.2, rfl⟩
  bitFor_label := fun p hp => h.bitFor_of_answersTo hs hp p.answersTo_label

/-! ### The bits of the privileges -/

/-- In the identifier form the privileges have the first positions. -/
theorem map_bit_of_zipIdx {d : Declaration} {names : List (CodeText × CodeText)}
    (h : d.definitions = names.zipIdx.map fun e => ⟨e.1.2.text, Mask.bit e.2, some e.1.1.text⟩) :
    d.base.privileges.map Privilege.bit = (List.range names.length).map Mask.bit := by
  have hsnd : names.zipIdx.map Prod.snd = List.range names.length := by
    rw [List.zipIdx_map_snd, List.range_eq_range']
  rw [← hsnd, base, h, List.map_map, List.map_map]
  rfl

theorem WellFormed.nodup_map_bit {d : Declaration} (h : d.WellFormed) :
    (d.base.privileges.map Privilege.bit).Nodup := by
  cases h.form with
  | numeric bits _ _ hdefs _ hnodup =>
    have hbits : d.base.privileges.map Privilege.bit = (bits.map Prod.snd).map Mask.mk := by
      rw [base, hdefs, List.map_map, List.map_map]
      rfl
    rw [hbits]
    exact hnodup.map fun _ _ h => Mask.mk.inj h
  | identified names _ _ hdefs _ _ =>
    rw [map_bit_of_zipIdx hdefs]
    exact List.nodup_range.map Mask.bit_injective

theorem fullMask_of_zipIdx {d : Declaration} {names : List (CodeText × CodeText)}
    (h : d.definitions = names.zipIdx.map fun e => ⟨e.1.2.text, Mask.bit e.2, some e.1.1.text⟩) :
    d.base.fullMask = ⟨(2 ^ names.length - 1 : Nat)⟩ := by
  apply Mask.ext_testBit
  intro k
  have hfirst : (⟨(2 ^ names.length - 1 : Nat)⟩ : Mask).testBit k = decide (k < names.length) :=
    Nat.testBit_two_pow_sub_one _ _
  rw [Scheme.fullMask, map_bit_of_zipIdx h, Bool.eq_iff_iff, Mask.testBit_unions, hfirst, decide_eq_true_iff]
  simp

theorem WellFormed.isGapless {d : Declaration} (h : d.WellFormed) (hi : d.base.isIdentified = true) :
    d.base.IsGapless := by
  cases h.form with
  | numeric bits hne _ hdefs _ _ => exact absurd hi (by simp [isIdentified_of_bits hne hdefs])
  | identified names _ _ hdefs _ _ => exact ⟨names.length, fullMask_of_zipIdx hdefs⟩

/-- In the identifier form every number within the range of masks is a set of privileges. -/
theorem WellFormed.covers_of_range {d : Declaration} (h : d.WellFormed) (hi : d.base.isIdentified = true) {m : Mask}
    (h1 : 1 ≤ m.value) (h2 : m.value ≤ d.base.fullMask.value) : d.base.fullMask.covers m = true :=
  (h.isGapless hi).covers_of_range h1 h2

end Declaration

end PathAccess
