import PathAccess.Proofs.Ambient
import PathAccess.Proofs.Holdings.Unwinding
import PathAccess.Proofs.Permission.Delegation
import PathAccess.Proofs.Scheme.Validation

/-!
# Batches of requests

A single permission and a collection are asked alike: all requests are read, and then each of them is judged.  Whether
one is permitted depends on that request alone (`Holder.judge_toItem`), and a batch is answered as its requests are,
one after the other (`Holder.allows_eq`).  So the answer to a batch is yes if it is for every request, and the first
request that cannot be read is a fault even behind one that is denied.
-/

namespace PathAccess

open Permission (Given)

/-- What a question is put to: a single permission or a collection. -/
inductive Holder where
  | permission (p : Permission)
  | collection (h : Holdings)

/-- A request, or several of them in a list or a tuple. -/
inductive Request where
  | one (g : Given)
  | list (gs : List Given)
  | tuple (gs : List Given)

namespace Request

def toItem : Request → Item
  | one g => g.toItem
  | list gs => .list (gs.map Given.toItem)
  | tuple gs => .tuple (gs.map Given.toItem)

/-- The single requests, in their order. -/
def given : Request → List Given
  | one g => [g]
  | list gs | tuple gs => gs

/-- The single requests in a batch are what is left of it when one level of nesting is opened. -/
theorem flatten_map_toItem (rs : List Request) :
    Item.flatten (rs.map toItem) = (rs.flatMap given).map Given.toItem := by
  have hone : ∀ r : Request, Item.flatten [r.toItem] = r.given.map Given.toItem := by
    rintro (g | gs | gs)
    · cases g <;> rfl
    · simp [Item.flatten, toItem, given, Item.elements?]
    · simp [Item.flatten, toItem, given, Item.elements?]
  induction rs with
  | nil => rfl
  | cons r rs ih =>
    rw [List.flatMap_cons, List.map_append, ← ih, ← hone]
    simp [Item.flatten]

end Request

namespace Holder

variable {x : Holder} {active : Scheme}

/-- The scheme under which requests are read. -/
def scheme (active : Scheme) : Holder → Scheme
  | permission p => p.scheme
  | collection h => h.scheme?.getD active

/-- Whether every request of a batch is permitted. -/
def allows : Holder → List Item → Ambient Bool
  | permission p => p.allows
  | collection h => h.allows

/-- Whether a permission is permitted; a collection is asked for its parts one by one. -/
def permits : Holder → Permission → Bool
  | permission p => p.covers
  | collection h => fun q => q.parts.all h.covers

/-- Reads a request and judges it. -/
def judge : Holder → Item → Ambient Bool
  | permission p => fun request => do return p.covers (← p.read request)
  | collection h => fun request => do return (← Permission.unwindItem request h.scheme?).all h.covers

/-- Whether a request is permitted depends on the permission that is meant, and on nothing else. -/
theorem judge_toItem {g : Given} (hg : g.WellFormed) :
    x.judge g.toItem active = (g.under (x.scheme active)).map x.permits := by
  cases x with
  | permission p =>
    have hread : p.read g.toItem active = g.under p.scheme := Given.read_toItem p g active
    refine (Ambient.map_apply _ _ active).trans ?_
    rw [hread]
    rfl
  | collection h =>
    have hread : Permission.coerce g.toItem h.scheme? active = g.under (h.scheme?.getD active) := by
      cases g <;> rfl
    refine (Ambient.map_apply _ _ active).trans ?_
    rw [scheme]
    cases hunder : g.under (h.scheme?.getD active) with
    | error e =>
      have hparts : Permission.unwindItem g.toItem h.scheme? active = .error e :=
        Ambient.bind_of_error (hread.trans hunder) _
      rw [hparts]
      rfl
    | ok p =>
      have hparts : Permission.unwindItem g.toItem h.scheme? active = .ok p.parts :=
        (Ambient.bind_of_ok (hread.trans hunder) _).trans (Permission.unwind_eq (Given.wellFormed_of_under hg hunder))
      rw [hparts]
      rfl

/-- A batch is answered as its requests are, one after the other. -/
theorem allows_eq (requests : List Item) :
    x.allows requests active = ((Item.flatten requests).mapM x.judge active).map fun answers => answers.all id := by
  cases x with
  | permission p =>
    rw [allows, Permission.allows, Ambient.map_apply, judge, Ambient.mapM_map_apply]
    cases (Item.flatten requests).mapM p.read active with
    | error e => rfl
    | ok ps => simp [Except.map]
  | collection h =>
    rw [allows, Holdings.allows, Ambient.map_apply, judge, Ambient.mapM_map_apply]
    cases (Item.flatten requests).mapM (Permission.unwindItem · h.scheme?) active with
    | error e => rfl
    | ok atoms => simp [Except.map]

variable {rs : List Request}

theorem allows_toItem (rs : List Request) : x.allows (rs.map Request.toItem) active =
    ((rs.flatMap Request.given).mapM (fun g => x.judge g.toItem) active).map fun answers => answers.all id := by
  rw [allows_eq, Request.flatten_map_toItem, List.mapM_map]
  rfl

/-- A batch is a fault if a text in it cannot be read, and then it is the fault of the first one. -/
theorem allows_eq_error_iff (hrs : ∀ g ∈ rs.flatMap Request.given, g.WellFormed) {e : Fault} :
    x.allows (rs.map Request.toItem) active = .error e ↔ ∃ before text after,
      rs.flatMap Request.given = before ++ .written text :: after ∧
        (∀ g ∈ before, ∃ p, g.under (x.scheme active) = .ok p) ∧
        Permission.parseText (x.scheme active) text = .error e := by
  have hmap : ∀ {α β : Type} {y : Except Fault α} {f : α → β}, y.map f = .error e ↔ y = .error e := by
    intro _ _ y _
    cases y <;> simp [Except.map]
  rw [allows_toItem, hmap, Ambient.mapM_eq_error_iff]
  constructor
  · rintro ⟨before, g, after, hsplit, hbefore, hg⟩
    rw [hsplit, List.forall_mem_append, List.forall_mem_cons] at hrs
    rw [judge_toItem hrs.2.1, hmap] at hg
    have hread : ∀ g ∈ before, ∃ p, g.under (x.scheme active) = .ok p := by
      intro g' hg'
      obtain ⟨b, hb⟩ := hbefore g' hg'
      rw [judge_toItem (hrs.1 g' hg')] at hb
      cases hunder : g'.under (x.scheme active) with
      | error e' => simp [hunder, Except.map] at hb
      | ok p => exact ⟨p, rfl⟩
    cases g with
    | made p => exact absurd hg nofun
    | written text => exact ⟨before, text, after, hsplit, hread, hg⟩
  · rintro ⟨before, text, after, hsplit, hread, htext⟩
    refine ⟨before, .written text, after, hsplit, fun g hg => ?_, ?_⟩
    · obtain ⟨p, hp⟩ := hread g hg
      exact ⟨x.permits p, by rw [judge_toItem (hrs g (by simp [hsplit, hg])), hp]; rfl⟩
    · rw [judge_toItem (hrs _ (by simp [hsplit]))]
      exact hmap.2 htext

/-- A batch is permitted if every request in it is, so long as all of them can be read. -/
theorem allows_of_read (hrs : ∀ g ∈ rs.flatMap Request.given, g.WellFormed) {answer : Given → Bool}
    (h : ∀ g ∈ rs.flatMap Request.given, (g.under (x.scheme active)).map x.permits = .ok (answer g)) :
    x.allows (rs.map Request.toItem) active = .ok (rs.all fun r => r.given.all answer) := by
  have hjudge : List.Forall₂ (fun g b => x.judge g.toItem active = .ok b) (rs.flatMap Request.given)
      ((rs.flatMap Request.given).map answer) := by
    rw [List.forall₂_map_right_iff, List.forall₂_same]
    intro g hg
    rw [judge_toItem (hrs g hg), h g hg]
  rw [allows_toItem, Ambient.mapM_of_ok hjudge, ← List.all_flatMap]
  simp [Except.map]

/-- Requests that can all be read have answers. -/
private theorem exists_answer {gs : List Given} (hread : ∀ g ∈ gs, ∃ p, g.under (x.scheme active) = .ok p) :
    ∃ answer : Given → Bool, ∀ g ∈ gs, (g.under (x.scheme active)).map x.permits = .ok (answer g) := by
  have hone : ∀ g : Given, ∃ b, g ∈ gs → (g.under (x.scheme active)).map x.permits = .ok b := by
    intro g
    by_cases hg : g ∈ gs
    · obtain ⟨p, hp⟩ := hread g hg
      exact ⟨x.permits p, fun _ => by rw [hp]; rfl⟩
    · exact ⟨false, fun h => absurd h hg⟩
  choose answer hanswer using hone
  exact ⟨answer, hanswer⟩

/-- **Batches of requests.**  A batch in which a text cannot be read is the fault of the first such text, whatever is
denied.  Any other batch is answered by yes if every request in it is, taken alone, and so it may be divided. -/
theorem allows_batch (x : Holder) (active : Scheme) (hrs : ∀ g ∈ rs.flatMap Request.given, g.WellFormed) :
    (∀ e, x.allows (rs.map Request.toItem) active = .error e ↔ ∃ before text after,
      rs.flatMap Request.given = before ++ .written text :: after ∧
        (∀ g ∈ before, ∃ p, g.under (x.scheme active) = .ok p) ∧
        Permission.parseText (x.scheme active) text = .error e) ∧
      ((∀ g ∈ rs.flatMap Request.given, ∃ p, g.under (x.scheme active) = .ok p) → ∃ answer : Given → Bool,
        (∀ g ∈ rs.flatMap Request.given, x.allows [g.toItem] active = .ok (answer g) ∧
          ∀ p, g.under (x.scheme active) = .ok p → answer g = x.permits p) ∧
        (∀ r ∈ rs, x.allows [r.toItem] active = .ok (r.given.all answer)) ∧
        x.allows (rs.map Request.toItem) active = .ok (rs.all fun r => r.given.all answer) ∧
        ∀ xs ys, rs = xs ++ ys → ∃ a b, x.allows (xs.map Request.toItem) active = .ok a ∧
          x.allows (ys.map Request.toItem) active = .ok b ∧
          x.allows (rs.map Request.toItem) active = .ok (a && b)) := by
  refine ⟨fun e => allows_eq_error_iff hrs, fun hread => ?_⟩
  obtain ⟨answer, hanswer⟩ := exists_answer hread
  -- every batch of these requests is answered by the same rule, in whole and in part
  have hpart : ∀ rs' : List Request, rs'.flatMap Request.given ⊆ rs.flatMap Request.given →
      x.allows (rs'.map Request.toItem) active = .ok (rs'.all fun r => r.given.all answer) := by
    intro rs' hsub
    exact allows_of_read (fun g hg => hrs g (hsub hg)) fun g hg => hanswer g (hsub hg)
  refine ⟨answer, fun g hg => ?_, fun r hr => ?_, hpart rs fun _ => id, ?_⟩
  · have hone := hpart [.one g] (by simpa [Request.given] using hg)
    refine ⟨by simpa [Request.given, Request.toItem] using hone, fun p hp => ?_⟩
    have hjudged := hanswer g hg
    rw [hp] at hjudged
    exact (Except.ok.inj hjudged).symm
  · have hone := hpart [r] (fun g hg => List.mem_flatMap.2 ⟨r, hr, by simpa using hg⟩)
    simpa using hone
  · rintro xs ys rfl
    refine ⟨_, _, hpart xs (by simp), hpart ys (by simp), ?_⟩
    rw [hpart _ fun _ => id, List.all_append]

/-- A text without privileges is a fault behind a request that is denied, for a permission and for a collection.  If
it is left out, the batch is denied, although one part of it is permitted. -/
theorem allows_batch_behind_denied :
    let reader : Permission := .ofBit "/a" 1
    let readers : Holdings := ⟨[reader], none⟩
    let faulty : List Item := [.text "/b:r", .list [Item.ofPermission reader, .text "/a", .text "?=:r"]]
    let requests : List Item := [.text "/a:r", .tuple [.text "/b:r", Item.ofPermission reader]]
    (permission reader).allows faulty .standard = .error (.malformed .noDelimiter) ∧
      (collection readers).allows faulty .standard = .error (.malformed .noDelimiter) ∧
      (collection readers).allows [.text "/a:r"] .standard = .ok true ∧
      (collection readers).allows [.tuple [.text "/b:r", Item.ofPermission reader]] .standard = .ok false ∧
      (collection readers).allows requests .standard = .ok false := by
  intro reader readers faulty requests
  have hmade : (Given.made reader).WellFormed := Permission.ofBit_wellFormed (by decide) 1
  have hwritten : ∀ text, (Given.written text).WellFormed := fun _ => trivial
  have hread : ∀ text path, Permission.parseText .standard text = .ok (.ofBit path 1) →
      ∃ p, (Given.written text).under .standard = .ok p := fun _ path h => ⟨.ofBit path 1, h⟩
  have ha : Permission.parseText .standard "/a:r" = .ok (.ofBit "/a" 1) := eq_ok_of_toOption (by decide +kernel)
  have hb : Permission.parseText .standard "/b:r" = .ok (.ofBit "/b" 1) := eq_ok_of_toOption (by decide +kernel)
  have hfault : ∀ x : Holder, x.scheme .standard = .standard →
      x.allows faulty .standard = .error (.malformed .noDelimiter) := by
    intro x hx
    have hrs : ∀ g ∈ [Request.one (.written "/b:r"), .list [.made reader, .written "/a", .written "?=:r"]].flatMap
        Request.given, g.WellFormed := by simp [Request.given, hmade, hwritten]
    refine ((allows_batch x .standard hrs).1 _).2
      ⟨[.written "/b:r", .made reader], "/a", [.written "?=:r"], rfl, ?_, hx ▸ rfl⟩
    rw [hx]
    simpa using ⟨hread _ _ hb, reader, rfl⟩
  have hrs : ∀ g ∈ [Request.one (.written "/a:r"), .tuple [.written "/b:r", .made reader]].flatMap Request.given,
      g.WellFormed := by simp [Request.given, hmade, hwritten]
  obtain ⟨-, hanswers⟩ := allows_batch (collection readers) .standard hrs
  have hall : ∀ g ∈ [Request.one (.written "/a:r"), .tuple [.written "/b:r", .made reader]].flatMap Request.given,
      ∃ p, g.under ((collection readers).scheme .standard) = .ok p := by
    simpa [Request.given] using ⟨hread _ _ ha, hread _ _ hb, reader, rfl⟩
  obtain ⟨answer, -, -, -, hdivided⟩ := hanswers hall
  obtain ⟨a, b, hleft, hright, hboth⟩ := hdivided [_] [_] rfl
  have hpermitted : (collection readers).allows [.text "/a:r"] .standard = .ok true :=
    eq_ok_of_toOption (by decide +kernel)
  have hdenied : (collection readers).allows [.tuple [.text "/b:r", Item.ofPermission reader]] .standard = .ok false :=
    eq_ok_of_toOption (by decide +kernel)
  obtain rfl : a = true := Except.ok.inj (hleft.symm.trans hpermitted)
  obtain rfl : b = false := Except.ok.inj (hright.symm.trans hdenied)
  exact ⟨hfault _ rfl, hfault _ rfl, hleft, hright, hboth⟩

end Holder

end PathAccess
