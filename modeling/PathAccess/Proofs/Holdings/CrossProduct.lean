import Mathlib.Algebra.BigOperators.Group.List.Basic
import PathAccess.Proofs.Holdings.Unwinding
import PathAccess.Scheme.Document

/-!
# Unwinding as a cross product

The choices for some keys come in the order of a cross product: in the choice at position `i`, the value of a key is the
one whose position is the digit of `i` that belongs to the key, in the mixed radix of the numbers of values
(`Permission.getElem?_choices`).  The digit of the last key varies fastest.

So a permission unwinds into as many parts as the numbers of its values multiply to.  Each of these has a single value
for every key, so it unwinds into itself, and together they have the values of the whole
(`Permission.unwindItem_crossProduct`).
-/

namespace PathAccess

/-! ### Digits in a mixed radix -/

/-- The digit at a position of the number `i`, whose last digit varies fastest and each of which stays below its base. -/
def digit (bases : List Nat) (position i : Nat) : Nat :=
  i / (bases.drop (position + 1)).prod % bases.getD position 1

private theorem digit_zero {base i : Nat} {bases : List Nat} (hi : i < base * bases.prod) :
    digit (base :: bases) 0 i = i / bases.prod := by
  have hpos : 0 < bases.prod := Nat.pos_of_ne_zero fun h => by simp [h] at hi
  have hlt : i / bases.prod < base := (Nat.div_lt_iff_lt_mul hpos).2 hi
  exact Nat.mod_eq_of_lt hlt

/-- The digits after the first one are those of the remainder. -/
private theorem digit_succ (base : Nat) {bases : List Nat} {position : Nat} (h : position < bases.length) (i : Nat) :
    digit (base :: bases) (position + 1) i = digit bases position (i % bases.prod) := by
  obtain ⟨rest, hrest⟩ : (bases.drop position).prod ∣ bases.prod :=
    Dvd.intro_left _ (List.prod_take_mul_prod_drop bases position)
  have hbase : bases.getD position 1 = bases[position] := by simp [h]
  have hdrop : (bases.drop position).prod = (bases.drop (position + 1)).prod * bases[position] := by
    rw [List.drop_eq_getElem_cons h, List.prod_cons, Nat.mul_comm]
  simp only [digit, List.drop_succ_cons, List.getD_cons_succ, hbase]
  rw [hrest, hdrop, Nat.mul_assoc, Nat.mod_mul_right_div_self, Nat.mod_mul_right_mod]

namespace Permission

/-! ### Choices in order -/

/-- How many values there are for each key. -/
def widths (entries : List (String × List String)) : List Nat := entries.map (·.2.length)

@[simp] theorem widths_cons (e : String × List String) (entries : List (String × List String)) :
    widths (e :: entries) = e.2.length :: widths entries := rfl

private theorem getElem?_flatMap_map {α β γ : Type} (xs : List α) (ys : List β) (f : α → β → γ) {j : Nat}
    (hj : j < ys.length) (k : Nat) :
    (xs.flatMap fun x => ys.map (f x))[ys.length * k + j]? = xs[k]?.bind fun x => ys[j]?.map (f x) := by
  induction xs generalizing k with
  | nil => simp
  | cons x xs ih =>
    rw [List.flatMap_cons]
    cases k with
    | zero =>
      rw [Nat.mul_zero, Nat.zero_add, List.getElem?_append_left (by simpa using hj)]
      simp
    | succ k =>
      have hle : (ys.map (f x)).length ≤ ys.length * (k + 1) + j := by
        rw [List.length_map, Nat.mul_succ]
        omega
      have hsub : ys.length * (k + 1) + j - (ys.map (f x)).length = ys.length * k + j := by
        rw [List.length_map, Nat.mul_succ]
        omega
      rw [List.getElem?_append_right hle, hsub, ih, List.getElem?_cons_succ]

theorem length_choices (entries : List (String × List String)) : (choices entries).length = (widths entries).prod := by
  induction entries with
  | nil => rfl
  | cons e entries ih =>
    simp [choices, List.length_flatMap, List.map_const', ih]

/-- In the choice at a position every key has the value at its digit of the position. -/
theorem getElem?_choices {entries : List (String × List String)} {i : Nat} {choice : List (String × String)}
    (h : (choices entries)[i]? = some choice) {j : Nat} {key : String} {values : List String}
    (hj : entries[j]? = some (key, values)) :
    ∃ v, values[digit (widths entries) j i]? = some v ∧ choice[j]? = some (key, v) := by
  induction entries generalizing i j choice with
  | nil => simp at hj
  | cons e entries ih =>
    obtain ⟨hi, -⟩ := List.getElem?_eq_some_iff.1 h
    rw [length_choices, widths_cons, List.prod_cons] at hi
    have hpos : 0 < (choices entries).length := by
      rw [length_choices]
      apply Nat.pos_of_ne_zero
      intro hz
      rw [hz, Nat.mul_zero] at hi
      exact Nat.not_lt_zero i hi
    -- the first key takes the quotient, and the remainder is the position of a choice for the other keys
    rw [choices, ← Nat.div_add_mod i (choices entries).length,
      getElem?_flatMap_map _ _ (fun v rest => (e.1, v) :: rest) (Nat.mod_lt i hpos), length_choices] at h
    obtain ⟨v, hv, h⟩ := Option.bind_eq_some_iff.1 h
    obtain ⟨rest, hrest, rfl⟩ := Option.map_eq_some_iff.1 h
    cases j with
    | zero =>
      obtain rfl : e = (key, values) := by simpa using hj
      exact ⟨v, by rwa [widths_cons, digit_zero hi], rfl⟩
    | succ j =>
      rw [List.getElem?_cons_succ] at hj ⊢
      obtain ⟨hlt, -⟩ := List.getElem?_eq_some_iff.1 hj
      obtain ⟨w, hw, hchoice⟩ := ih hrest hj
      refine ⟨w, ?_, hchoice⟩
      rwa [widths_cons, digit_succ _ (by simpa [widths] using hlt)]

/-! ### Parts in order -/

/-- The values of a key, none if it is not constrained. -/
def valuesOf (p : Permission) (key : String) : List String := (p.attributes.bind fun m => m.get? key).getD []

variable {p : Permission} {m : Attributes} {choice : List (String × String)}

theorem mem_valuesOf_iff (hm : p.attributes = some m) {key v : String} :
    v ∈ p.valuesOf key ↔ ∃ values, (key, values) ∈ m.entries ∧ v ∈ values := by
  simp only [valuesOf, hm, Option.bind_some, OrderedMap.mem_entries]
  cases m.get? key <;> simp

private theorem mem_valuesOf_narrowed (h : choice ∈ choices m.entries) {key v : String} :
    v ∈ (p.narrowed choice).valuesOf key ↔ (key, v) ∈ choice := by
  rw [mem_valuesOf_iff rfl, Attributes.entries_ofChoice (nodup_of_mem_choices h)]
  constructor
  · rintro ⟨values, hvalues, hv⟩
    obtain ⟨e, he, heq⟩ := List.mem_map.1 hvalues
    obtain ⟨rfl, rfl⟩ := Prod.mk.inj heq
    obtain rfl := List.mem_singleton.1 hv
    exact he
  · intro hv
    exact ⟨[v], List.mem_map_of_mem hv, List.mem_singleton_self v⟩

private theorem choices_single (choice : List (String × String)) :
    choices (choice.map fun e => (e.1, [e.2])) = [choice] := by
  induction choice with
  | nil => rfl
  | cons e choice ih => simp [choices, ih]

/-- A part has a single value for every key, so it is its own only part. -/
theorem parts_of_mem_parts {part : Permission} (h : part ∈ p.parts) : part.parts = [part] := by
  unfold parts at h
  split at h
  · rename_i hnone
    obtain rfl := List.mem_singleton.1 h
    simp [parts, hnone]
  · obtain ⟨choice, hchoice, rfl⟩ := List.mem_map.1 h
    change (choices (Attributes.ofChoice choice).entries).map (p.narrowed choice).narrowed = _
    rw [Attributes.entries_ofChoice (nodup_of_mem_choices hchoice), choices_single]
    rfl

/-- The parts together have the values of the whole. -/
theorem mem_valuesOf_parts (hp : p.WellFormed) {key v : String} :
    v ∈ p.valuesOf key ↔ ∃ part ∈ p.parts, v ∈ part.valuesOf key := by
  cases hm : p.attributes with
  | none => simp [parts, hm]
  | some m =>
    rw [mem_valuesOf_iff hm]
    simp only [parts, hm, List.mem_map, exists_exists_and_eq_and]
    constructor
    · rintro ⟨values, hvalues, hv⟩
      obtain ⟨choice, hchoice, hmem⟩ := exists_choice (hp.complete m hm).values_ne_nil hvalues hv
      exact ⟨choice, hchoice, (mem_valuesOf_narrowed hchoice).2 hmem⟩
    · rintro ⟨choice, hchoice, hv⟩
      exact mem_of_mem_choices hchoice ((mem_valuesOf_narrowed hchoice).1 hv)

/-- The part at a position has the values at the digits of the position. -/
theorem getElem?_parts (hm : p.attributes = some m) {i : Nat} {part : Permission} (h : p.parts[i]? = some part) :
    part.path = p.path ∧ part.privileges = p.privileges ∧ ∃ n, part.attributes = some n ∧ n.keys = m.keys ∧
      ∀ j key values, m.entries[j]? = some (key, values) →
        ∃ v, values[digit (widths m.entries) j i]? = some v ∧ n.entries[j]? = some (key, [v]) := by
  simp only [parts, hm, List.getElem?_map] at h
  obtain ⟨choice, hchoice, rfl⟩ := Option.map_eq_some_iff.1 h
  have hmem : choice ∈ choices m.entries := List.mem_of_getElem? hchoice
  have hentries := Attributes.entries_ofChoice (nodup_of_mem_choices hmem)
  refine ⟨rfl, rfl, .ofChoice choice, rfl, ?_, fun j key values hj => ?_⟩
  · rw [OrderedMap.keys, hentries, List.map_map]
    exact map_fst_of_mem_choices hmem
  · obtain ⟨v, hv, hpair⟩ := getElem?_choices hchoice hj
    refine ⟨v, hv, ?_⟩
    rw [hentries, List.getElem?_map, hpair]
    rfl

/-- **Unwinding is the cross product in order.**  A well-formed permission unwinds: without constraints into itself, and
otherwise into as many parts as the numbers of its values multiply to.  The part at a position has the path, the
privileges and the keys of the whole, and for every key the value at the digit of the position.  Every part unwinds into
itself, and the values of the parts for a key are those of the whole. -/
theorem unwindItem_crossProduct (hp : p.WellFormed) (explicit : Option Scheme) (active : Scheme) :
    ∃ atoms, unwindItem (Item.ofPermission p) explicit active = .ok atoms ∧
      (p.attributes = none → atoms = [p]) ∧
      (∀ m, p.attributes = some m → atoms.length = (widths m.entries).prod ∧
        ∀ (i : Nat) (atom : Permission), atoms[i]? = some atom →
          atom.path = p.path ∧ atom.privileges = p.privileges ∧ ∃ n, atom.attributes = some n ∧ n.keys = m.keys ∧
            ∀ j key values, m.entries[j]? = some (key, values) →
              ∃ v, values[digit (widths m.entries) j i]? = some v ∧ n.entries[j]? = some (key, [v])) ∧
      (∀ atom ∈ atoms, unwindItem (Item.ofPermission atom) explicit active = .ok [atom]) ∧
      ∀ key v, v ∈ p.valuesOf key ↔ ∃ atom ∈ atoms, v ∈ atom.valuesOf key := by
  refine ⟨p.parts, unwind_eq hp, ?_, ?_, ?_, fun key v => mem_valuesOf_parts hp⟩
  · intro hnone
    simp [parts, hnone]
  · intro m hm
    refine ⟨?_, fun i atom => getElem?_parts hm⟩
    simp only [parts, hm, List.length_map]
    exact length_choices m.entries
  · intro atom hatom
    obtain ⟨-, -, hwf⟩ := of_mem_parts hp hatom
    exact parts_of_mem_parts hatom ▸ unwind_eq hwf

/-- Repeated values and values with a comma: the fourth of six parts. -/
theorem unwindItem_crossProduct_repeated :
    let p : Permission := ⟨"/a", some (.ofList [("k", ["1,2", "1,2", "3"]), ("j", ["x", "y"])]), ⟨⟨1⟩, .standard⟩⟩
    p.WellFormed ∧ ∃ atoms, unwindItem (Item.ofPermission p) none .standard = .ok atoms ∧ atoms.length = 6 ∧
      ∀ atom, atoms[3]? = some atom → ∃ n, atom.attributes = some n ∧
        n.entries[0]? = some ("k", ["1,2"]) ∧ n.entries[1]? = some ("j", ["y"]) := by
  intro p
  have hp : p.WellFormed := by decide +kernel
  obtain ⟨atoms, hatoms, -, hsome, -⟩ := unwindItem_crossProduct hp none .standard
  obtain ⟨hlength, hvalues⟩ := hsome _ rfl
  refine ⟨hp, atoms, hatoms, hlength, fun atom hatom => ?_⟩
  obtain ⟨-, -, n, hn, -, hdigits⟩ := hvalues 3 atom hatom
  obtain ⟨v, hv, hk⟩ := hdigits 0 "k" ["1,2", "1,2", "3"] (by decide +kernel)
  obtain ⟨w, hw, hj⟩ := hdigits 1 "j" ["x", "y"] (by decide +kernel)
  have hfirst : v = "1,2" := Option.some.inj (hv.symm.trans (by decide +kernel))
  have hsecond : w = "y" := Option.some.inj (hw.symm.trans (by decide +kernel))
  exact ⟨n, hn, hfirst ▸ hk, hsecond ▸ hj⟩

end Permission

end PathAccess
