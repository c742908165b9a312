import PathAccess.Proofs.Holdings.Coverage
import PathAccess.Proofs.OrderedMap
import PathAccess.Proofs.Permission.Constraints

/-!
# A collection of one permission

The same question can be put to a permission and to the collection that holds nothing else.  The collection judges
the request part by part, and the parts have the privileges of the whole, so that the two differ in the constraints at
most: a request with several values for a key passes as a whole if one of them is the wildcard, and part by part only
if each of the others is allowed as well.

So the collection never permits what the permission does not, and the answers are the same unless a key of the
request has the wildcard beside another value (`Holdings.single_refines`).
-/

namespace PathAccess

namespace Attributes

variable {requested : Attributes} {choice : List (String × String)}

private theorem get?_ofChoice (hchoice : choice ∈ Permission.choices requested.entries) {key v : String}
    (hv : (key, v) ∈ choice) : (ofChoice choice).get? key = some [v] := by
  rw [← OrderedMap.mem_entries, entries_ofChoice (Permission.nodup_of_mem_choices hchoice)]
  exact List.mem_map.2 ⟨(key, v), hv, rfl⟩

private theorem cover_ofChoice_iff {own : Attributes} (h : requested.Complete)
    (hchoice : choice ∈ Permission.choices requested.entries) :
    cover (some own) (some (ofChoice choice)) = true ↔
      ∀ e ∈ own.entries, ∃ v, (e.1, v) ∈ choice ∧ (v = wildcard ∨ v ∈ e.2) := by
  rw [cover_some_iff (ofChoice_complete (Permission.ne_nil_of_mem_choices h hchoice))]
  refine forall₂_congr fun e _ => ?_
  constructor
  · rintro ⟨values, hvalues, hpass⟩
    obtain ⟨f, hf, heq⟩ := List.mem_map.1 (OrderedMap.mem_of_get?_ofList hvalues)
    obtain ⟨hkey, rfl⟩ := Prod.mk.inj heq
    exact ⟨f.2, hkey ▸ hf, valuesPass_singleton.1 hpass⟩
  · rintro ⟨v, hv, hpass⟩
    exact ⟨[v], get?_ofChoice hchoice hv, valuesPass_singleton.2 hpass⟩

/-- All choices are covered if every value of every constrained key passes by itself. -/
theorem forall_cover_ofChoice_iff {own : Attributes} (h : requested.Complete) :
    (∀ choice ∈ Permission.choices requested.entries, cover (some own) (some (ofChoice choice)) = true) ↔
      ∀ e ∈ own.entries, ∃ values, requested.get? e.1 = some values ∧ ∀ v ∈ values, v = wildcard ∨ v ∈ e.2 := by
  constructor
  · intro hall e he
    -- some choice has the key, and there is a choice for every value of the key
    obtain ⟨choice, hchoice⟩ := List.exists_mem_of_ne_nil _ (Permission.choices_ne_nil h.values_ne_nil)
    obtain ⟨v, hv, -⟩ := (cover_ofChoice_iff h hchoice).1 (hall choice hchoice) e he
    obtain ⟨values, hvalues, -⟩ := Permission.mem_of_mem_choices hchoice hv
    refine ⟨values, OrderedMap.mem_entries.1 hvalues, fun v hv => ?_⟩
    obtain ⟨choice, hchoice, hmem⟩ := Permission.exists_choice h.values_ne_nil hvalues hv
    obtain ⟨v', hv', hpass⟩ := (cover_ofChoice_iff h hchoice).1 (hall choice hchoice) e he
    have hsame := get?_ofChoice hchoice hv'
    rw [get?_ofChoice hchoice hmem] at hsame
    obtain rfl : v = v' := by simpa using hsame
    exact hpass
  · intro hall choice hchoice
    rw [cover_ofChoice_iff h hchoice]
    intro e he
    obtain ⟨values, hvalues, hpass⟩ := hall e he
    have hkey : e.1 ∈ choice.map Prod.fst := by
      rw [Permission.map_fst_of_mem_choices hchoice]
      exact List.mem_map.2 ⟨_, OrderedMap.mem_entries.2 hvalues, rfl⟩
    obtain ⟨⟨key, v⟩, hv, rfl⟩ := List.mem_map.1 hkey
    obtain ⟨values', hvalues', hmem⟩ := Permission.mem_of_mem_choices hchoice hv
    rw [OrderedMap.mem_entries, hvalues, Option.some.injEq] at hvalues'
    exact ⟨v, hv, hpass v (hvalues' ▸ hmem)⟩

end Attributes

namespace Permission

/-- Whether no key has the wildcard beside another value. -/
def Unmixed (p : Permission) : Prop :=
  ∀ m, p.attributes = some m → ∀ e ∈ m.entries, Attributes.wildcard ∈ e.2 → ∀ v ∈ e.2, v = Attributes.wildcard

variable {held q : Permission}

theorem coversTarget_iff (hq : q.WellFormed) :
    held.coversTarget q = true ↔ Glob.overlap held.path q.path = true ∧
      ∀ own, held.attributes = some own → ∃ m, q.attributes = some m ∧
        ∀ e ∈ own.entries, ∃ values, m.get? e.1 = some values ∧ Attributes.valuesPass e.2 values = true := by
  rw [coversTarget, Bool.and_eq_true]
  refine and_congr_right fun _ => ?_
  cases held.attributes with
  | none => simp [Attributes.cover]
  | some own =>
    cases hm : q.attributes with
    | none => simp [Attributes.cover]
    | some m => simpa using Attributes.cover_some_iff (hq.complete m hm)

theorem forall_parts_coversTarget_iff (hq : q.WellFormed) :
    (∀ part ∈ q.parts, held.coversTarget part = true) ↔ Glob.overlap held.path q.path = true ∧
      ∀ own, held.attributes = some own → ∃ m, q.attributes = some m ∧
        ∀ e ∈ own.entries, ∃ values, m.get? e.1 = some values ∧
          ∀ v ∈ values, v = Attributes.wildcard ∨ v ∈ e.2 := by
  unfold parts
  cases hm : q.attributes with
  | none =>
    have hone : held.coversTarget q = true ↔ _ := coversTarget_iff hq
    simp only [hm] at hone
    simpa using hone
  | some m =>
    have hcomplete := hq.complete m hm
    obtain ⟨first, hfirst⟩ := List.exists_mem_of_ne_nil _ (choices_ne_nil hcomplete.values_ne_nil)
    have hsplit : (∀ part ∈ (choices m.entries).map q.narrowed, held.coversTarget part = true) ↔
        Glob.overlap held.path q.path = true ∧ ∀ choice ∈ choices m.entries,
          Attributes.cover held.attributes (some (.ofChoice choice)) = true := by
      simp only [List.forall_mem_map, coversTarget, narrowed, Bool.and_eq_true]
      exact ⟨fun h => ⟨(h _ hfirst).1, fun choice hc => (h choice hc).2⟩, fun h choice hc => ⟨h.1, h.2 choice hc⟩⟩
    rw [hsplit]
    refine and_congr_right fun _ => ?_
    cases held.attributes with
    | none => simp [Attributes.cover]
    | some own => simpa using Attributes.forall_cover_ofChoice_iff hcomplete

/-- Whoever covers the target of all parts covers that of the whole. -/
theorem coversTarget_of_parts (hq : q.WellFormed) (h : ∀ part ∈ q.parts, held.coversTarget part = true) :
    held.coversTarget q = true := by
  obtain ⟨hpath, hown⟩ := (forall_parts_coversTarget_iff hq).1 h
  refine (coversTarget_iff hq).2 ⟨hpath, fun own ho => ?_⟩
  obtain ⟨m, hm, hpass⟩ := hown own ho
  refine ⟨m, hm, fun e he => ?_⟩
  obtain ⟨values, hvalues, heach⟩ := hpass e he
  have hne := (hq.complete m hm).values_ne_nil _ (OrderedMap.mem_entries.2 hvalues)
  exact ⟨values, hvalues, Attributes.valuesPass_of_each hne heach⟩

/-- Without the wildcard beside another value, whoever covers the target of the whole covers that of all parts. -/
theorem parts_of_coversTarget (hq : q.WellFormed) (hu : q.Unmixed) (h : held.coversTarget q = true) :
    ∀ part ∈ q.parts, held.coversTarget part = true := by
  obtain ⟨hpath, hown⟩ := (coversTarget_iff hq).1 h
  refine (forall_parts_coversTarget_iff hq).2 ⟨hpath, fun own ho => ?_⟩
  obtain ⟨m, hm, hpass⟩ := hown own ho
  refine ⟨m, hm, fun e he => ?_⟩
  obtain ⟨values, hvalues, hvp⟩ := hpass e he
  exact ⟨values, hvalues, Attributes.each_of_valuesPass (hu m hm _ (OrderedMap.mem_entries.2 hvalues)) hvp⟩

/-! ### The decisions of a permission -/

variable {active : Scheme}

theorem allows_singleton (hq : q.WellFormed) :
    held.allows [Item.ofPermission q] active =
      .ok (held.coversTarget q && held.privileges.mask.covers q.privileges.mask) := by
  have hread : held.read (Item.ofPermission q) active = .ok q := rfl
  have hmap : [Item.ofPermission q].mapM held.read active = .ok [q] := Ambient.mapM_of_ok (.cons hread .nil)
  rw [allows, ← List.map_singleton, Item.flatten_map_ofPermission, List.map_singleton, Ambient.bind_of_ok hmap]
  simp only [List.all_cons, List.all_nil, Bool.and_true, covers, has_iff_covers hq.mask_ne_zero]
  rfl

/-- Given what the other side holds, the answer depends on the new permission by its target and its privileges. -/
theorem exists_mayDelegate_eq (held : Permission) (s : Privileges) (hs : s.mask ≠ 0) (rivals : List Permission)
    (active : Scheme) :
    ∃ r, ∀ new : Permission, new.privileges = s →
      held.mayDelegate (Item.ofPermission new) (.list (rivals.map Item.ofPermission)) active =
        .ok (held.coversTarget new && r) := by
  have hread : ∀ new, held.read (Item.ofPermission new) active = .ok new := fun _ => rfl
  have hmask : ∀ new : Permission, new.privileges = s → new.privileges.mask ≠ 0 := fun new h => h ▸ hs
  cases hpower : held.power.covers s.mask with
  | false =>
    refine ⟨false, fun new hnew => ?_⟩
    rw [mayDelegate_of_beyond (hread new) (hmask new hnew) (Or.inr (hnew ▸ hpower)), Bool.and_false]
  | true =>
    obtain ⟨m, hm, -⟩ := rivalPowers_of_permissions held rivals active
    refine ⟨held.power.covers m, fun new hnew => ?_⟩
    cases htarget : held.coversTarget new with
    | false => exact mayDelegate_of_beyond (hread new) (hmask new hnew) (Or.inl htarget) _
    | true =>
      rw [mayDelegate_of_within (hread new) (hmask new hnew) htarget (hnew ▸ hpower), hm]
      rfl

end Permission

namespace Holdings

variable {p q : Permission} (scheme? : Option Scheme) (active : Scheme)

private theorem unwindItem_eq (hq : q.WellFormed) :
    Permission.unwindItem (Item.ofPermission q) scheme? active = .ok q.parts :=
  Permission.unwind_eq hq

private theorem covers_eq (hq : q.WellFormed) :
    (⟨[p], scheme?⟩ : Holdings).covers q = (p.coversTarget q && p.privileges.mask.covers q.privileges.mask) := by
  have hdiff : decide (q.privileges.mask &&& ~~~p.privileges.mask = 0) =
      p.privileges.mask.covers q.privileges.mask := by
    rw [Bool.eq_iff_iff, decide_eq_true_iff, Mask.eq_zero_iff, Mask.covers_iff]
    simp
  have hne := hq.mask_ne_zero
  cases ht : p.coversTarget q <;> simp [covers, missing, hne, ht, hdiff]

private theorem all_parts_and (hq : q.WellFormed) {f : Permission → Bool} {r : Bool}
    (hf : ∀ part ∈ q.parts, f part = (p.coversTarget part && r)) :
    q.parts.all f = (q.parts.all p.coversTarget && r) := by
  -- there is a part, so that the second condition is not lost
  obtain ⟨first, hfirst⟩ := List.exists_mem_of_ne_nil _ (Permission.parts_ne_nil hq)
  rw [Bool.eq_iff_iff, Bool.and_eq_true, List.all_eq_true, List.all_eq_true]
  constructor
  · intro h
    have hboth : ∀ part ∈ q.parts, p.coversTarget part = true ∧ r = true := fun part hpart => by
      rw [← Bool.and_eq_true, ← hf part hpart]
      exact h part hpart
    exact ⟨fun part hpart => (hboth part hpart).1, (hboth first hfirst).2⟩
  · rintro ⟨hall, rfl⟩ part hpart
    rw [hf part hpart, hall part hpart]
    rfl

private theorem allows_eq (hq : q.WellFormed) :
    (⟨[p], scheme?⟩ : Holdings).allows [Item.ofPermission q] active =
      .ok (q.parts.all p.coversTarget && p.privileges.mask.covers q.privileges.mask) := by
  have hall := all_parts_and (p := p) hq (f := (⟨[p], scheme?⟩ : Holdings).covers)
    (r := p.privileges.mask.covers q.privileges.mask) fun part hpart => by
      obtain ⟨-, hprivileges, hwf⟩ := Permission.of_mem_parts hq hpart
      rw [covers_eq scheme? hwf, hprivileges]
  rw [← List.map_singleton, allows_map_ofPermission (by simpa using hq), List.map_singleton, List.flatten_singleton,
    hall]

/-- Both decisions on handing out and taking away, with the same verdict on what the other side holds. -/
private theorem exists_mayDelegate_eq (hq : q.WellFormed) (rivals : List Permission) :
    ∃ r, p.mayDelegate (Item.ofPermission q) (.list (rivals.map Item.ofPermission)) active =
        .ok (p.coversTarget q && r) ∧
      (⟨[p], scheme?⟩ : Holdings).mayDelegate (Item.ofPermission q) (.list (rivals.map Item.ofPermission)) active =
        .ok (q.parts.all p.coversTarget && r) := by
  obtain ⟨r, hr⟩ := Permission.exists_mayDelegate_eq p q.privileges hq.mask_ne_zero rivals active
  refine ⟨r, hr q rfl, ?_⟩
  have hany : ∀ part ∈ q.parts, [p].anyM (fun held => held.mayDelegate (Item.ofPermission part)
      (.list (rivals.map Item.ofPermission))) active = .ok (p.coversTarget part && r) := by
    intro part hpart
    obtain ⟨-, hprivileges, -⟩ := Permission.of_mem_parts hq hpart
    have hmembers : ∀ held ∈ [p], held.mayDelegate (Item.ofPermission part)
        (.list (rivals.map Item.ofPermission)) active = .ok (p.coversTarget part && r) := by
      simpa using hr part hprivileges
    refine (Ambient.anyM_of_ok hmembers).trans ?_
    simp
  rw [mayDelegate]
  simp only [Item.elements?]
  rw [Ambient.bind_of_ok (unwindItem_eq scheme? active hq), Ambient.allM_of_ok hany, all_parts_and hq fun _ _ => rfl]

/-- One answer is as strict as another on a request, and the same if the request does not mix the wildcard with other
values. -/
def Refines (q : Permission) (strict loose : Except Fault Bool) : Prop :=
  ∃ a b, strict = .ok a ∧ loose = .ok b ∧ (a = true → b = true) ∧ (q.Unmixed → a = b)

private theorem refines_of_eq (hq : q.WellFormed) {r : Bool} {strict loose : Except Fault Bool}
    (hs : strict = .ok (q.parts.all p.coversTarget && r)) (hl : loose = .ok (p.coversTarget q && r)) :
    Refines q strict loose := by
  have himp : q.parts.all p.coversTarget = true → p.coversTarget q = true := fun h =>
    Permission.coversTarget_of_parts hq (List.all_eq_true.1 h)
  refine ⟨_, _, hs, hl, fun h => ?_, fun hu => congrArg (· && r) ?_⟩
  · rw [Bool.and_eq_true] at h ⊢
    exact ⟨himp h.1, h.2⟩
  · rw [Bool.eq_iff_iff]
    exact ⟨himp, fun h => List.all_eq_true.2 (Permission.parts_of_coversTarget hq hu h)⟩

/-- **A collection of one permission.**  It gives an answer to every question that its permission does, never permits
what its permission does not, and gives the same answer if no key of the request has the wildcard beside another
value. -/
theorem single_refines (hp : p.WellFormed) (hq : q.WellFormed) (rivals : List Permission) :
    ∃ h, ofItems [Item.ofPermission p] scheme? active = .ok h ∧
      Refines q (h.allows [Item.ofPermission q] active) (p.allows [Item.ofPermission q] active) ∧
      Refines q (h.mayGrant (Item.ofPermission q) (.list (rivals.map Item.ofPermission)) active)
        (p.mayGrant (Item.ofPermission q) (.list (rivals.map Item.ofPermission)) active) ∧
      Refines q (h.mayRevoke (Item.ofPermission q) (.list (rivals.map Item.ofPermission)) active)
        (p.mayRevoke (Item.ofPermission q) (.list (rivals.map Item.ofPermission)) active) := by
  have hof : ofItems ([p].map Item.ofPermission) scheme? active = .ok ⟨[p], scheme?⟩ :=
    ofItems_map_ofPermission (by simpa using hp) scheme? active
  obtain ⟨r, hone, hset⟩ := exists_mayDelegate_eq (p := p) scheme? active hq rivals
  have hdelegate := refines_of_eq hq hset hone
  exact ⟨_, hof, refines_of_eq hq (allows_eq scheme? active hq) (Permission.allows_singleton hq), hdelegate, hdelegate⟩

private def withValues (values : List String) (mask : Mask) : Permission :=
  ⟨"/a", some (.ofList [("x", values)]), ⟨mask, Scheme.standard⟩⟩

private theorem withValues_wellFormed {values : List String} (hv : values ≠ []) {mask : Mask} (hm : mask ≠ 0) :
    (withValues values mask).WellFormed := by
  have hentries : (OrderedMap.ofList [("x", values)]).entries = [("x", values)] := rfl
  refine ⟨(by decide : "/a" ≠ ""), ?_, ?_, hm⟩
  · rintro m hm
    obtain rfl := Option.some.inj hm
    simp [hentries]
  · rintro m hm
    obtain rfl := Option.some.inj hm
    simpa [hentries] using hv

/-- Beside the wildcard a value that is not allowed passes for the permission and not for the collection. -/
theorem single_refines_mixed_request :
    let p := withValues ["1"] ⟨18⟩
    let q := withValues ["*", "2"] (Mask.bit 1)
    p.WellFormed ∧ q.WellFormed ∧
      ∃ h, ofItems [Item.ofPermission p] none Scheme.standard = .ok h ∧
        Refines q (h.allows [Item.ofPermission q] Scheme.standard) (p.allows [Item.ofPermission q] Scheme.standard) ∧
        h.allows [Item.ofPermission q] Scheme.standard = .ok false ∧
        p.allows [Item.ofPermission q] Scheme.standard = .ok true := by
  intro p q
  have hp : p.WellFormed := withValues_wellFormed (by decide) (by decide)
  have hq : q.WellFormed := withValues_wellFormed (by decide) (by decide)
  obtain ⟨h, hof, hallows, -⟩ := single_refines none Scheme.standard hp hq []
  obtain rfl : (⟨[p], none⟩ : Holdings) = h := by
    rw [← Except.ok.injEq (ε := Fault), ← hof]
    rfl
  refine ⟨hp, hq, _, hof, hallows, ?_, ?_⟩
  · rw [allows_eq none Scheme.standard hq]
    exact congrArg Except.ok (by decide +kernel)
  · rw [Permission.allows_singleton hq]
    exact congrArg Except.ok (by decide +kernel)

end Holdings

end PathAccess
