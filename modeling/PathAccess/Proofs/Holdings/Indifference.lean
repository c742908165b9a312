import PathAccess.Proofs.Holdings.Monotonicity

/-!
# Order and repetition

Permissions that are alike are comparable in both directions, and decisions are monotone.  So no decision depends on
the order and the number of members, requests and rivals, nor on the order of keys, nor on the order and the number of
the values of a key (`Holdings.decisions_of_alike`), although all of these change the list of the parts that are
judged.
-/

namespace PathAccess

/-- Whether both are the same answer. -/
def SameAnswer (x y : Except Fault Bool) : Prop := ∃ a, x = .ok a ∧ y = .ok a

theorem Entails.antisymm {x y : Except Fault Bool} (h : Entails x y) (h' : Entails y x) : SameAnswer x y := by
  obtain ⟨a, b, rfl, rfl, hab⟩ := h
  obtain ⟨b', a', hb, ha, hba⟩ := h'
  obtain rfl := Except.ok.inj hb
  obtain rfl := Except.ok.inj ha
  exact ⟨a, rfl, congrArg Except.ok (Bool.eq_iff_iff.2 ⟨hba, hab⟩)⟩

namespace Permission

variable {p q : Permission} {ps qs : List Permission}

/-- What is alike to a permission made by the library is well formed as well. -/
theorem Alike.wellFormed (h : p.Alike q) (hp : p.WellFormed) : q.WellFormed where
  path_ne_empty := h.path_eq ▸ hp.path_ne_empty
  attributes_ne_empty := by
    intro n hn
    obtain ⟨m, hm, -⟩ := h.attributes n hn
    obtain ⟨n', hn', hkept⟩ := h.kept.attributes m hm
    obtain rfl : n = n' := Option.some.inj (hn.symm.trans hn')
    obtain ⟨e, he⟩ := List.exists_mem_of_ne_nil _ (hp.attributes_ne_empty m hm)
    obtain ⟨values, hvalues, -⟩ := hkept e he
    exact List.ne_nil_of_mem (OrderedMap.mem_entries.2 hvalues)
  values_ne_empty := by
    intro n hn e he
    obtain ⟨m, hm, hkept⟩ := h.attributes n hn
    obtain ⟨values, hvalues, hsame⟩ := hkept e he
    have hne : values ≠ [] := hp.values_ne_empty m hm _ (OrderedMap.mem_entries.2 hvalues)
    obtain ⟨v, hv⟩ := List.exists_mem_of_ne_nil _ hne
    exact List.ne_nil_of_mem ((hsame v).1 hv)
  mask_ne_zero := h.privileges_eq ▸ hp.mask_ne_zero

/-- Whether lists have alike members, in whatever order and number. -/
structure AlikeAll (ps qs : List Permission) : Prop where
  left : ∀ p ∈ ps, ∃ q ∈ qs, p.Alike q
  right : ∀ q ∈ qs, ∃ p ∈ ps, p.Alike q

theorem AlikeAll.symm (h : AlikeAll ps qs) : AlikeAll qs ps where
  left := by
    intro q hq
    obtain ⟨p, hp, halike⟩ := h.right q hq
    exact ⟨p, hp, halike.symm⟩
  right := by
    intro p hp
    obtain ⟨q, hq, halike⟩ := h.left p hp
    exact ⟨q, hq, halike.symm⟩

theorem AlikeAll.extends (h : AlikeAll ps qs) : ∀ q ∈ qs, ∃ p ∈ ps, p.Extends q := by
  intro q hq
  obtain ⟨p, hp, halike⟩ := h.right q hq
  exact ⟨p, hp, halike.extends⟩

theorem AlikeAll.asksLess (h : AlikeAll ps qs) : ∀ q ∈ qs, ∃ p ∈ ps, q.AsksLess p := by
  intro q hq
  obtain ⟨p, hp, halike⟩ := h.right q hq
  exact ⟨p, hp, halike.symm.asksLess⟩

theorem AlikeAll.wellFormed (h : AlikeAll ps qs) (hps : ∀ p ∈ ps, p.WellFormed) : ∀ q ∈ qs, q.WellFormed := by
  intro q hq
  obtain ⟨p, hp, halike⟩ := h.right q hq
  exact halike.wellFormed (hps p hp)

end Permission

namespace Holdings

open Permission (AlikeAll)

variable {h h' : Holdings} {held held' new new' : Permission} {requests requests' rivals rivals' : List Permission}
  (active active' : Scheme)

private theorem sameAnswer_mayDelegate_of_alike (hheld : held.Alike held') (hnew : new.Alike new')
    (hrivals : AlikeAll rivals rivals') (hwf : new.WellFormed) :
    SameAnswer (held.mayDelegate (Item.ofPermission new) (.list (rivals.map Item.ofPermission)) active)
      (held'.mayDelegate (Item.ofPermission new') (.list (rivals'.map Item.ofPermission)) active') := by
  have hwf' := hnew.wellFormed hwf
  refine (Permission.entails_mayDelegate active active' hheld.symm.extends hnew.symm.asksLess hrivals.extends hwf
    hwf').antisymm ?_
  exact Permission.entails_mayDelegate active' active hheld.extends hnew.asksLess hrivals.symm.extends hwf' hwf

private theorem mayDelegate_of_alike (hmembers : AlikeAll h.members h'.members) (hnew : new.Alike new')
    (hrivals : AlikeAll rivals rivals') (hwf : new.WellFormed) :
    SameAnswer (h.mayDelegate (Item.ofPermission new) (.list (rivals.map Item.ofPermission)) active)
      (h'.mayDelegate (Item.ofPermission new') (.list (rivals'.map Item.ofPermission)) active') := by
  have hwf' := hnew.wellFormed hwf
  refine (entails_mayDelegate active active' hmembers.symm.extends hnew.symm.asksLess hrivals.extends hwf
    hwf').antisymm ?_
  exact entails_mayDelegate active' active hmembers.extends hnew.asksLess hrivals.symm.extends hwf' hwf

/-- **Order and repetition make no difference.**  A permission and a collection give an answer to every question about
well-formed permissions, and the same answer if the members, the requests and what the other side holds are replaced
by alike ones, in whatever order and number. -/
theorem decisions_of_alike (hheld : held.Alike held') (hmembers : AlikeAll h.members h'.members)
    (hrequests : AlikeAll requests requests') (hnew : new.Alike new') (hrivals : AlikeAll rivals rivals')
    (hwf : ∀ r ∈ new :: requests, r.WellFormed) :
    SameAnswer (held.allows (requests.map Item.ofPermission) active)
        (held'.allows (requests'.map Item.ofPermission) active') ∧
      SameAnswer (held.mayGrant (Item.ofPermission new) (.list (rivals.map Item.ofPermission)) active)
        (held'.mayGrant (Item.ofPermission new') (.list (rivals'.map Item.ofPermission)) active') ∧
      SameAnswer (held.mayRevoke (Item.ofPermission new) (.list (rivals.map Item.ofPermission)) active)
        (held'.mayRevoke (Item.ofPermission new') (.list (rivals'.map Item.ofPermission)) active') ∧
      SameAnswer (h.allows (requests.map Item.ofPermission) active)
        (h'.allows (requests'.map Item.ofPermission) active') ∧
      SameAnswer (h.mayGrant (Item.ofPermission new) (.list (rivals.map Item.ofPermission)) active)
        (h'.mayGrant (Item.ofPermission new') (.list (rivals'.map Item.ofPermission)) active') ∧
      SameAnswer (h.mayRevoke (Item.ofPermission new) (.list (rivals.map Item.ofPermission)) active)
        (h'.mayRevoke (Item.ofPermission new') (.list (rivals'.map Item.ofPermission)) active') := by
  rw [List.forall_mem_cons] at hwf
  obtain ⟨hnewwf, hwf⟩ := hwf
  have hwf' := hrequests.wellFormed hwf
  have hone := sameAnswer_mayDelegate_of_alike active active' hheld hnew hrivals hnewwf
  have hall := mayDelegate_of_alike active active' hmembers hnew hrivals hnewwf
  refine ⟨?_, hone, hone, ?_, hall, hall⟩
  · exact (Permission.entails_allows active active' hheld.symm.extends hrequests.asksLess hwf').antisymm
      (Permission.entails_allows active' active hheld.extends hrequests.symm.asksLess hwf)
  · exact (entails_allows active active' hmembers.symm.extends hrequests.asksLess hwf hwf').antisymm
      (entails_allows active' active hmembers.extends hrequests.symm.asksLess hwf' hwf)

/-- Keys in another order, a repeated value beside the wildcard, members and rivals in another order and number. -/
theorem decisions_of_alike_with_repeated_values :
    let entries : List (String × List String) := [("k", ["1", "*"]), ("j", ["x"])]
    let entries' : List (String × List String) := [("j", ["x", "x"]), ("k", ["*", "1", "*"])]
    let manager (entries : List (String × List String)) : Permission :=
      ⟨"/a", some (.ofList entries), ⟨⟨35⟩, .standard⟩⟩
    let request (entries : List (String × List String)) : Permission :=
      ⟨"/a/b", some (.ofList entries), ⟨⟨3⟩, .standard⟩⟩
    let other : Permission := .ofBit "/b" 4
    let h : Holdings := ⟨[manager entries, other], none⟩
    let h' : Holdings := ⟨[other, manager entries', other, manager entries], none⟩
    entries ≠ entries' ∧ (request entries).WellFormed ∧ (request entries).Alike (request entries') ∧
      h.mayGrant (Item.ofPermission (request entries)) (.list ([other].map Item.ofPermission)) .standard = .ok true ∧
      h'.mayGrant (Item.ofPermission (request entries')) (.list ([other, other].map Item.ofPermission)) .standard =
        .ok true ∧
      h'.allows ([request entries', request entries].map Item.ofPermission) .standard = .ok true := by
  intro entries entries' manager request other h h'
  have hwf : ∀ r ∈ [request entries, request entries], r.WellFormed := by decide
  have hheld : (manager entries).Alike (manager entries') := by decide
  have hnew : (request entries).Alike (request entries') := by decide
  have hmembers : AlikeAll h.members h'.members := ⟨by decide, by decide⟩
  have hrequests : AlikeAll [request entries] [request entries', request entries] := ⟨by decide, by decide⟩
  have hrivals : AlikeAll [other] [other, other] := ⟨by decide, by decide⟩
  obtain ⟨-, -, -, ⟨a, ha, hallows⟩, ⟨b, hb, hgrant⟩, -⟩ :=
    decisions_of_alike .standard .standard hheld hmembers hrequests hnew hrivals hwf
  obtain rfl : true = a := by
    rw [allows_map_ofPermission (by decide)] at ha
    rw [← Except.ok.inj ha]
    decide +kernel
  obtain rfl : true = b := by
    rw [mayGrant, mayDelegate_eq _ _ (by decide)] at hb
    rw [← Except.ok.inj hb]
    decide +kernel
  exact ⟨by decide, hwf _ (by simp), hnew, hb, hgrant, hallows⟩

end Holdings

end PathAccess
