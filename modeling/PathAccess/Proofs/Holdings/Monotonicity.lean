import PathAccess.Proofs.Holdings.Comparison
import PathAccess.Proofs.Scheme.GrantClosure

/-!
# Decisions are monotone

More privileges or more members on the side of the holder, a request for less, and less on the other side never turn a
yes into a no (`Holdings.decisions_mono`).  The one sign that is not obvious is that of the holder's own privileges in
a delegation: they bound the new permission and what the other side holds from above, and do not enter below
(`Permission.delegates`).
-/

namespace PathAccess

/-- Whether both are answers, and the second is yes where the first is. -/
def Entails (x y : Except Fault Bool) : Prop := ∃ a b, x = .ok a ∧ y = .ok b ∧ (a = true → b = true)

namespace Permission

variable {held held' new new' : Permission} {requests requests' rivals rivals' : List Permission}
  (active active' : Scheme)

/-! ### Requests -/

theorem allows_map_ofPermission (held : Permission) (requests : List Permission) (active : Scheme) :
    held.allows (requests.map Item.ofPermission) active = .ok (requests.all held.covers) := by
  have hread : List.Forall₂ (fun item q => held.read item active = .ok q) (requests.map Item.ofPermission)
      requests := by
    rw [List.forall₂_map_left_iff, List.forall₂_same]
    exact fun _ _ => rfl
  rw [allows, Item.flatten_map_ofPermission, Ambient.bind_of_ok (Ambient.mapM_of_ok hread)]
  rfl

private theorem covers_mono (hheld : held'.Extends held) (hnew : new'.AsksLess new) (hne : new'.privileges.mask ≠ 0)
    (h : held.covers new = true) : held'.covers new' = true := by
  simp only [covers, Privileges.has, Bool.and_eq_true, bne_iff_ne] at h ⊢
  obtain ⟨htarget, -, hmask⟩ := h
  have hless : held.privileges.mask.covers new'.privileges.mask = true := Mask.covers_trans hmask hnew.mask
  exact ⟨coversTarget_mono hheld.kept hnew.toKeeps htarget, hne, Mask.covers_trans hheld.mask hless⟩

theorem entails_allows (hheld : held'.Extends held) (hrequests : ∀ r' ∈ requests', ∃ r ∈ requests, r'.AsksLess r)
    (hwf : ∀ r' ∈ requests', r'.WellFormed) :
    Entails (held.allows (requests.map Item.ofPermission) active)
      (held'.allows (requests'.map Item.ofPermission) active') := by
  refine ⟨_, _, allows_map_ofPermission held requests active, allows_map_ofPermission held' requests' active', ?_⟩
  simp only [List.all_eq_true]
  intro h r' hr'
  obtain ⟨r, hr, hless⟩ := hrequests r' hr'
  exact covers_mono hheld hless (hwf r' hr').mask_ne_zero (h r hr)

/-! ### Delegation -/

/-- Whether the new permission is within the holder's target and power, and no rival over the holder's target has
power beyond it. -/
def delegates (held new : Permission) (rivals : List Permission) : Bool :=
  held.coversTarget new && held.power.covers new.privileges.mask &&
    rivals.all fun e => !held.coversTarget e || held.power.covers e.grantEnabling

theorem delegates_iff :
    held.delegates new rivals = true ↔ held.coversTarget new = true ∧ held.power.covers new.privileges.mask = true ∧
      ∀ e ∈ rivals, held.coversTarget e = true → held.power.covers e.grantEnabling = true := by
  simp only [delegates, Bool.and_eq_true, List.all_eq_true, Bool.or_eq_true, Bool.not_eq_true', and_assoc]
  refine and_congr_right fun _ => and_congr_right fun _ => forall₂_congr fun e _ => ?_
  cases held.coversTarget e <;> simp

theorem mayDelegate_eq (hne : new.privileges.mask ≠ 0) :
    held.mayDelegate (Item.ofPermission new) (.list (rivals.map Item.ofPermission)) active =
      .ok (held.delegates new rivals) := by
  have hread : held.read (Item.ofPermission new) active = .ok new := rfl
  cases ht : held.coversTarget new with
  | false =>
    rw [mayDelegate_of_beyond hread hne (Or.inl ht)]
    simp [delegates, ht]
  | true =>
    cases hm : held.power.covers new.privileges.mask with
    | false =>
      rw [mayDelegate_of_beyond hread hne (Or.inr hm)]
      simp [delegates, hm]
    | true =>
      obtain ⟨m, hpowers, hcovers⟩ := rivalPowers_of_permissions held rivals active
      rw [mayDelegate_of_within hread hne ht hm, hpowers]
      refine congrArg Except.ok ?_
      rw [Bool.eq_iff_iff, hcovers, delegates_iff]
      simp [ht, hm]

theorem Extends.power (h : held'.Extends held) : held'.power.covers held.power = true := by
  have hpower : held.power = held'.scheme.grantMask held.privileges.mask := by
    rw [h.scheme_eq]
    rfl
  rw [hpower]
  exact Scheme.grantMask_mono held'.scheme h.mask

theorem Extends.grantEnabling (h : held'.Extends held) : held'.grantEnabling.covers held.grantEnabling = true := by
  have hmask := Mask.covers_iff.1 h.mask
  rw [Mask.covers_iff]
  intro k hk
  rw [Permission.grantEnabling, Mask.testBit_and, Bool.and_eq_true] at hk ⊢
  exact ⟨hmask k hk.1, h.scheme_eq ▸ hk.2⟩

theorem delegates_mono (hheld : held'.Extends held) (hnew : new'.AsksLess new)
    (hrivals : ∀ e' ∈ rivals', ∃ e ∈ rivals, e.Extends e') (h : held.delegates new rivals = true) :
    held'.delegates new' rivals' = true := by
  rw [delegates_iff] at h ⊢
  obtain ⟨htarget, hmask, hwithin⟩ := h
  refine ⟨coversTarget_mono hheld.kept hnew.toKeeps htarget, ?_, ?_⟩
  · exact Mask.covers_trans hheld.power (Mask.covers_trans hmask hnew.mask)
  · intro e' he' htarget'
    obtain ⟨e, he, hextends⟩ := hrivals e' he'
    have hcovered : held.coversTarget e = true := coversTarget_mono hheld.toKeeps hextends.toKeeps htarget'
    have hpower : held.power.covers e.grantEnabling = true := hwithin e he hcovered
    exact Mask.covers_trans hheld.power (Mask.covers_trans hpower hextends.grantEnabling)

theorem entails_mayDelegate (hheld : held'.Extends held) (hnew : new'.AsksLess new)
    (hrivals : ∀ e' ∈ rivals', ∃ e ∈ rivals, e.Extends e') (hwf : new.WellFormed) (hwf' : new'.WellFormed) :
    Entails (held.mayDelegate (Item.ofPermission new) (.list (rivals.map Item.ofPermission)) active)
      (held'.mayDelegate (Item.ofPermission new') (.list (rivals'.map Item.ofPermission)) active') :=
  ⟨_, _, mayDelegate_eq active hwf.mask_ne_zero, mayDelegate_eq active' hwf'.mask_ne_zero,
    delegates_mono hheld hnew hrivals⟩

end Permission

namespace Holdings

variable {h h' : Holdings} {held held' new new' : Permission} {requests requests' rivals rivals' : List Permission}
  (active active' : Scheme)

/-! ### Collections -/

private theorem covers_mono (hmembers : ∀ m ∈ h.members, ∃ m' ∈ h'.members, m'.Extends m) {part part' : Permission}
    (hpart : part'.AsksLess part) (hcovers : h.covers part = true) : h'.covers part' = true := by
  rw [covers_iff_held] at hcovers ⊢
  intro k hk
  obtain ⟨m, hm, hbit, htarget⟩ := hcovers k (Mask.covers_iff.1 hpart.mask k hk)
  obtain ⟨m', hm', hextends⟩ := hmembers m hm
  have hbit' : m'.privileges.mask.testBit k = true := Mask.covers_iff.1 hextends.mask k hbit
  exact ⟨m', hm', hbit', Permission.coversTarget_mono hextends.kept hpart.toKeeps htarget⟩

/-- Every part of a request for less asks for less than a part of the request. -/
private theorem exists_part_asksLess (hnew : new'.AsksLess new) (hwf : new.WellFormed) (hwf' : new'.WellFormed)
    {part' : Permission} (hpart' : part' ∈ new'.parts) : ∃ part ∈ new.parts, part'.AsksLess part := by
  obtain ⟨part, hpart, hkeeps⟩ := Permission.exists_part_kept hnew.toKeeps hpart'
  obtain ⟨-, hprivileges, -⟩ := Permission.of_mem_parts hwf hpart
  obtain ⟨-, hprivileges', -⟩ := Permission.of_mem_parts hwf' hpart'
  exact ⟨part, hpart, hkeeps, by rw [hprivileges, hprivileges']; exact hnew.mask⟩

theorem entails_allows (hmembers : ∀ m ∈ h.members, ∃ m' ∈ h'.members, m'.Extends m)
    (hrequests : ∀ r' ∈ requests', ∃ r ∈ requests, r'.AsksLess r) (hwf : ∀ r ∈ requests, r.WellFormed)
    (hwf' : ∀ r' ∈ requests', r'.WellFormed) :
    Entails (h.allows (requests.map Item.ofPermission) active)
      (h'.allows (requests'.map Item.ofPermission) active') := by
  refine ⟨_, _, allows_map_ofPermission hwf h active, allows_map_ofPermission hwf' h' active', ?_⟩
  simp only [List.all_eq_true, List.mem_flatten, List.mem_map]
  rintro hall part' ⟨_, ⟨r', hr', rfl⟩, hpart'⟩
  obtain ⟨r, hr, hless⟩ := hrequests r' hr'
  obtain ⟨part, hpart, hpartless⟩ := exists_part_asksLess hless (hwf r hr) (hwf' r' hr') hpart'
  exact covers_mono hmembers hpartless (hall part ⟨_, ⟨r, hr, rfl⟩, hpart⟩)

theorem mayDelegate_eq (h : Holdings) (hwf : new.WellFormed) :
    h.mayDelegate (Item.ofPermission new) (.list (rivals.map Item.ofPermission)) active =
      .ok (new.parts.all fun part => h.members.any fun held => held.delegates part rivals) := by
  have hunwind : Permission.unwindItem (Item.ofPermission new) h.scheme? active = .ok new.parts :=
    Permission.unwind_eq hwf
  have hany : ∀ part ∈ new.parts, h.members.anyM (fun held => held.mayDelegate (Item.ofPermission part)
      (.list (rivals.map Item.ofPermission))) active =
        .ok (h.members.any fun held => held.delegates part rivals) := by
    intro part hpart
    obtain ⟨-, -, hpartwf⟩ := Permission.of_mem_parts hwf hpart
    exact Ambient.anyM_of_ok fun held _ => Permission.mayDelegate_eq active hpartwf.mask_ne_zero
  rw [mayDelegate]
  simp only [Item.elements?]
  rw [Ambient.bind_of_ok hunwind, Ambient.allM_of_ok hany]

theorem entails_mayDelegate (hmembers : ∀ m ∈ h.members, ∃ m' ∈ h'.members, m'.Extends m)
    (hnew : new'.AsksLess new) (hrivals : ∀ e' ∈ rivals', ∃ e ∈ rivals, e.Extends e') (hwf : new.WellFormed)
    (hwf' : new'.WellFormed) :
    Entails (h.mayDelegate (Item.ofPermission new) (.list (rivals.map Item.ofPermission)) active)
      (h'.mayDelegate (Item.ofPermission new') (.list (rivals'.map Item.ofPermission)) active') := by
  refine ⟨_, _, mayDelegate_eq active h hwf, mayDelegate_eq active' h' hwf', ?_⟩
  simp only [List.all_eq_true, List.any_eq_true]
  intro hall part' hpart'
  obtain ⟨part, hpart, hless⟩ := exists_part_asksLess hnew hwf hwf' hpart'
  obtain ⟨m, hm, hdelegates⟩ := hall part hpart
  obtain ⟨m', hm', hextends⟩ := hmembers m hm
  exact ⟨m', hm', Permission.delegates_mono hextends hless hrivals hdelegates⟩

/-- **Decisions are monotone.**  A yes stays a yes if the holder gains privileges or members, if less is asked for, in
privileges or under further constraints, and if the other side holds less. -/
theorem decisions_mono (hheld : held'.Extends held) (hmembers : ∀ m ∈ h.members, ∃ m' ∈ h'.members, m'.Extends m)
    (hrequests : ∀ r' ∈ requests', ∃ r ∈ requests, r'.AsksLess r) (hnew : new'.AsksLess new)
    (hrivals : ∀ e' ∈ rivals', ∃ e ∈ rivals, e.Extends e') (hwf : ∀ r ∈ new :: requests, r.WellFormed)
    (hwf' : ∀ r' ∈ new' :: requests', r'.WellFormed) :
    Entails (held.allows (requests.map Item.ofPermission) active)
        (held'.allows (requests'.map Item.ofPermission) active') ∧
      Entails (held.mayGrant (Item.ofPermission new) (.list (rivals.map Item.ofPermission)) active)
        (held'.mayGrant (Item.ofPermission new') (.list (rivals'.map Item.ofPermission)) active') ∧
      Entails (held.mayRevoke (Item.ofPermission new) (.list (rivals.map Item.ofPermission)) active)
        (held'.mayRevoke (Item.ofPermission new') (.list (rivals'.map Item.ofPermission)) active') ∧
      Entails (h.allows (requests.map Item.ofPermission) active)
        (h'.allows (requests'.map Item.ofPermission) active') ∧
      Entails (h.mayGrant (Item.ofPermission new) (.list (rivals.map Item.ofPermission)) active)
        (h'.mayGrant (Item.ofPermission new') (.list (rivals'.map Item.ofPermission)) active') ∧
      Entails (h.mayRevoke (Item.ofPermission new) (.list (rivals.map Item.ofPermission)) active)
        (h'.mayRevoke (Item.ofPermission new') (.list (rivals'.map Item.ofPermission)) active') := by
  rw [List.forall_mem_cons] at hwf hwf'
  have hone := Permission.entails_mayDelegate active active' hheld hnew hrivals hwf.1 hwf'.1
  have hall := entails_mayDelegate active active' hmembers hnew hrivals hwf.1 hwf'.1
  refine ⟨?_, hone, hone, ?_, hall, hall⟩
  · exact Permission.entails_allows active active' hheld hrequests hwf'.2
  · exact entails_allows active active' hmembers hrequests hwf.2 hwf'.2

/-- A further constraint and a further member, privileges gained by the holder and lost by the other side: what could be
handed out still can. -/
theorem decisions_mono_under_further_constraint :
    let manager (mask : Mask) : Permission := ⟨"/a", none, ⟨mask, .standard⟩⟩
    let entries : List (String × List String) := [("k", ["1", "*"])]
    let request : Permission := ⟨"/a/b", some (.ofList entries), ⟨⟨3⟩, .standard⟩⟩
    let request' : Permission := ⟨"/a/b", some (.ofList (("j", ["x"]) :: entries)), ⟨⟨2⟩, .standard⟩⟩
    let h : Holdings := ⟨[manager ⟨35⟩], none⟩
    let h' : Holdings := ⟨[.ofBit "/b" 1, manager ⟨47⟩], none⟩
    (manager ⟨47⟩).Extends (manager ⟨35⟩) ∧ request'.AsksLess request ∧
      h.mayGrant (Item.ofPermission request) (.list ([manager ⟨7⟩, .ofBit "/b" 4].map Item.ofPermission)) .standard =
        .ok true ∧
      h'.mayGrant (Item.ofPermission request') (.list ([manager ⟨1⟩].map Item.ofPermission)) .standard = .ok true ∧
      h'.allows ([request', request'].map Item.ofPermission) .standard = .ok true := by
  intro manager entries request request' h h'
  have hheld : (manager ⟨47⟩).Extends (manager ⟨35⟩) := by decide
  have hless : request'.AsksLess request := by decide
  have hmembers : ∀ m ∈ h.members, ∃ m' ∈ h'.members, m'.Extends m := by decide
  have hrequests : ∀ r' ∈ [request', request'], ∃ r ∈ [request], r'.AsksLess r := by decide
  have hrivals : ∀ e' ∈ [manager ⟨1⟩], ∃ e ∈ [manager ⟨7⟩, .ofBit "/b" 4], e.Extends e' := by decide
  have hwf : ∀ r ∈ [request, request], r.WellFormed := by decide
  have hwf' : ∀ r' ∈ [request', request', request'], r'.WellFormed := by decide
  obtain ⟨-, -, -, ⟨a, b, ha, hb, hallows⟩, ⟨c, d, hc, hd, hgrant⟩, -⟩ :=
    decisions_mono .standard .standard hheld hmembers hrequests hless hrivals hwf hwf'
  obtain rfl : true = a := by
    rw [allows_map_ofPermission (by decide)] at ha
    rw [← Except.ok.inj ha]
    decide +kernel
  obtain rfl : true = c := by
    rw [mayGrant, mayDelegate_eq _ _ (by decide)] at hc
    rw [← Except.ok.inj hc]
    decide +kernel
  rw [hgrant rfl] at hd
  rw [hallows rfl] at hb
  exact ⟨hheld, hless, hc, hd, hb⟩

end Holdings

end PathAccess
