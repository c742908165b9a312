import Mathlib.Logic.Function.Basic
import PathAccess.Proofs.Holdings.Delegation

/-!
# What a collection covers

A request is covered if, for every choice of one value per key, every privilege of it is held by some member whose
path and constraints cover the choice (`Holdings.allows_iff_held`).  Different privileges may be held by different
members.

A choice is a function here, which picks a value of its own for every key (`Permission.Picks`); the parts that a
permission unwinds into are those that some function picks (`Permission.mem_parts_iff`).  What the members leave of a
mask is determined by its bits (`Holdings.testBit_foldl_leave`), so it matters neither in which order they come nor
that the search stops when nothing is left.
-/

namespace PathAccess

namespace Permission

/-- Whether a function picks a value of its own for every constrained key. -/
def Picks (p : Permission) (pick : String → String) : Prop :=
  ∀ m, p.attributes = some m → ∀ e ∈ m.entries, pick e.1 ∈ e.2

/-- The permission with the picked value alone for every key. -/
def picked (p : Permission) (pick : String → String) : Permission :=
  { p with attributes := p.attributes.map fun m => .ofChoice (m.entries.map fun e => (e.1, pick e.1)) }

/-- Where no key stands twice, a choice is what a function picks. -/
theorem mem_choices_iff {entries : List (String × List String)} (hnodup : (entries.map Prod.fst).Nodup)
    {choice : List (String × String)} :
    choice ∈ choices entries ↔
      ∃ pick : String → String, (∀ e ∈ entries, pick e.1 ∈ e.2) ∧
        entries.map (fun e => (e.1, pick e.1)) = choice := by
  induction entries generalizing choice with
  | nil => simp [choices, eq_comm]
  | cons e entries ih =>
    obtain ⟨key, values⟩ := e
    rw [List.map_cons, List.nodup_cons] at hnodup
    simp only [choices, List.mem_flatMap, List.mem_map, List.forall_mem_cons, List.map_cons, ih hnodup.2]
    constructor
    · rintro ⟨v, hv, _, ⟨pick, hpick, rfl⟩, rfl⟩
      have hother : ∀ e ∈ entries, Function.update pick key v e.1 = pick e.1 := by
        intro e he
        apply Function.update_of_ne
        rintro rfl
        exact hnodup.1 (List.mem_map.2 ⟨e, he, rfl⟩)
      refine ⟨Function.update pick key v, ⟨by simpa using hv, fun e he => ?_⟩, ?_⟩
      · rw [hother e he]
        exact hpick e he
      · rw [Function.update_self, List.map_congr_left fun e he => by rw [hother e he]]
    · rintro ⟨pick, ⟨hv, hpick⟩, rfl⟩
      exact ⟨_, hv, _, ⟨pick, hpick, rfl⟩, rfl⟩

theorem mem_parts_iff {p q : Permission} : q ∈ p.parts ↔ ∃ pick, p.Picks pick ∧ p.picked pick = q := by
  obtain ⟨path, attributes, privileges⟩ := p
  cases attributes with
  | none => simp [parts, Picks, picked, eq_comm]
  | some m =>
    simp only [parts, Picks, picked, List.mem_map, mem_choices_iff m.nodup, Option.some.injEq, forall_eq',
      Option.map_some]
    constructor
    · rintro ⟨_, ⟨pick, hpick, rfl⟩, rfl⟩
      exact ⟨pick, hpick, rfl⟩
    · rintro ⟨pick, hpick, rfl⟩
      exact ⟨_, ⟨pick, hpick, rfl⟩, rfl⟩

end Permission

namespace Holdings

/-! ### Single-valued requests -/

/-- What a member leaves of the privileges in a request. -/
def leave (request : Permission) (rest : Mask) (held : Permission) : Mask :=
  if held.coversTarget request then rest &&& ~~~held.privileges.mask else rest

variable {h : Holdings} {request : Permission} {members : List Permission} {rest : Mask} {k : Nat}

theorem testBit_leave {held : Permission} :
    (leave request rest held).testBit k = true ↔
      rest.testBit k = true ∧ (held.coversTarget request = true → held.privileges.mask.testBit k = false) := by
  unfold leave
  cases held.coversTarget request <;> simp

/-- The members leave the privileges that none of them takes. -/
theorem testBit_foldl_leave :
    (members.foldl (leave request) rest).testBit k = true ↔
      rest.testBit k = true ∧
        ∀ held ∈ members, held.coversTarget request = true → held.privileges.mask.testBit k = false := by
  induction members generalizing rest with
  | nil => simp
  | cons held members ih => rw [List.foldl_cons, ih, testBit_leave, List.forall_mem_cons, and_assoc]

/-- When nothing is left, the members after that leave nothing either. -/
theorem missing_eq_foldl (request : Permission) (members : List Permission) (rest : Mask) :
    missing request members rest = members.foldl (leave request) rest := by
  induction members generalizing rest with
  | nil => rfl
  | cons held members ih =>
    rw [missing]
    split
    · rename_i hrest
      rw [hrest, eq_comm, Mask.eq_zero_iff]
      intro k
      rw [Bool.eq_false_iff]
      intro hk
      simpa using (testBit_foldl_leave.1 hk).1
    · exact ih _

/-- A single-valued request is covered if each of its privileges is held by a member that covers its target. -/
theorem covers_iff_held :
    h.covers request = true ↔
      ∀ k, request.privileges.mask.testBit k = true →
        ∃ held ∈ h.members, held.privileges.mask.testBit k = true ∧ held.coversTarget request = true := by
  rw [covers, decide_eq_true_iff, missing_eq_foldl, Mask.eq_zero_iff]
  refine forall_congr' fun k => ?_
  rw [Bool.eq_false_iff, ne_eq, testBit_foldl_leave]
  constructor
  · intro hleft hk
    by_contra hnone
    refine hleft ⟨hk, fun held hheld htarget => Bool.eq_false_iff.2 fun hbit => ?_⟩
    exact hnone ⟨held, hheld, hbit, htarget⟩
  · rintro hheld ⟨hk, hleft⟩
    obtain ⟨held, hmem, hbit, htarget⟩ := hheld hk
    rw [hleft held hmem htarget] at hbit
    exact Bool.noConfusion hbit

theorem covers_perm {members' : List Permission} (hperm : members.Perm members') (scheme? : Option Scheme) :
    (⟨members, scheme?⟩ : Holdings).covers request = (⟨members', scheme?⟩ : Holdings).covers request := by
  rw [Bool.eq_iff_iff, covers_iff_held, covers_iff_held]
  simp only [hperm.mem_iff]

/-! ### Lists of requests -/

/-- All parts of all requests are judged. -/
theorem allows_map_ofPermission {requests : List Permission} (hrequests : ∀ r ∈ requests, r.WellFormed)
    (h : Holdings) (active : Scheme) :
    h.allows (requests.map Item.ofPermission) active =
      .ok ((requests.map Permission.parts).flatten.all h.covers) := by
  have hmap : List.Forall₂ (fun item parts => Permission.unwindItem item h.scheme? active = .ok parts)
      (requests.map Item.ofPermission) (requests.map Permission.parts) := by
    induction requests with
    | nil => exact .nil
    | cons r requests ih =>
      rw [List.forall_mem_cons] at hrequests
      exact .cons (Permission.unwind_eq hrequests.1) (ih hrequests.2)
  rw [allows, Item.flatten_map_ofPermission, Ambient.bind_of_ok (Ambient.mapM_of_ok hmap)]
  rfl

/-- **What a collection covers.**  It gives an answer to every list of well-formed requests, and permits them if, for
every choice of one value per key, every privilege is held by a member that covers the path with that choice.  The
order of the members does not matter, nor that the search stops when nothing is left. -/
theorem allows_iff_held (h : Holdings) {requests : List Permission} (hrequests : ∀ r ∈ requests, r.WellFormed)
    (active : Scheme) :
    ∃ answer, h.allows (requests.map Item.ofPermission) active = .ok answer ∧
      (answer = true ↔ ∀ r ∈ requests, ∀ pick, r.Picks pick → ∀ k, r.privileges.mask.testBit k = true →
        ∃ held ∈ h.members, held.privileges.mask.testBit k = true ∧ held.coversTarget (r.picked pick) = true) ∧
      (∀ members, members.Perm h.members →
        (⟨members, h.scheme?⟩ : Holdings).allows (requests.map Item.ofPermission) active = .ok answer) ∧
      ∀ request rest, missing request h.members rest = h.members.foldl (leave request) rest := by
  refine ⟨_, allows_map_ofPermission hrequests h active, ?_, fun members hperm => ?_, fun request rest => ?_⟩
  · simp only [List.all_eq_true, List.mem_flatten, List.mem_map]
    constructor
    · intro hall r hr pick hpick
      have hpart : r.picked pick ∈ r.parts := Permission.mem_parts_iff.2 ⟨pick, hpick, rfl⟩
      exact covers_iff_held.1 (hall _ ⟨_, ⟨r, hr, rfl⟩, hpart⟩)
    · rintro hheld part ⟨_, ⟨r, hr, rfl⟩, hpart⟩
      obtain ⟨pick, hpick, rfl⟩ := Permission.mem_parts_iff.1 hpart
      exact covers_iff_held.2 (hheld r hr pick hpick)
  · rw [allows_map_ofPermission hrequests]
    exact congrArg (fun f => Except.ok (List.all _ f)) (funext fun _ => covers_perm hperm h.scheme?)
  · exact missing_eq_foldl request h.members rest

/-- Two members that hold one privilege each cover both, also for the wildcard beside the value that one of them asks
for. -/
theorem allows_iff_held_by_two_members :
    let reader : Permission := ⟨"/a/*", none, ⟨Mask.bit 1, .standard⟩⟩
    let writer : Permission := ⟨"/a/b", some (.ofList [("x", ["1"])]), ⟨Mask.bit 2, .standard⟩⟩
    let request : Permission := ⟨"/a/b", some (.ofList [("x", ["1", "*"])]), ⟨⟨6⟩, .standard⟩⟩
    request.WellFormed ∧
      (⟨[reader, writer], none⟩ : Holdings).allows [Item.ofPermission request] .standard = .ok true ∧
      (⟨[writer, reader], none⟩ : Holdings).allows [Item.ofPermission request] .standard = .ok true ∧
      ∀ pick, request.Picks pick → ∀ k, request.privileges.mask.testBit k = true →
        ∃ held ∈ [reader, writer], held.privileges.mask.testBit k = true ∧
          held.coversTarget (request.picked pick) = true := by
  intro reader writer request
  have hentries : (OrderedMap.ofList [("x", ["1", "*"])]).entries = [("x", ["1", "*"])] := rfl
  have hrequest : ∀ r ∈ [request], r.WellFormed := by
    rw [List.forall_mem_singleton]
    refine ⟨by decide, ?_, ?_, by decide⟩ <;> rintro m hm <;> obtain rfl := Option.some.inj hm <;> simp [hentries]
  obtain ⟨answer, hallows, hiff, hperm, -⟩ := allows_iff_held ⟨[reader, writer], none⟩ hrequest .standard
  obtain rfl : true = answer := by
    rw [allows_map_ofPermission hrequest] at hallows
    rw [← Except.ok.inj hallows]
    decide +kernel
  exact ⟨by simpa using hrequest, hallows, hperm _ (.swap _ _ _), by simpa using hiff.1 rfl⟩

end Holdings

end PathAccess
