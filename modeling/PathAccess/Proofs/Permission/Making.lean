import PathAccess.Proofs.Ambient
import PathAccess.Proofs.Holdings.Unwinding
import PathAccess.Proofs.Privileges.Reading

/-!
# The ways to make a permission

`Permission.IsMade` lists them: reading a text, giving the parts, and changing one part of a permission that was made
before, or unwinding it.  Whatever its parts are, a permission that was made under a validated scheme is well formed
(`Permission.IsMade.wellFormed`).  All ways but one end in `Permission.make`, which checks the path, the constraints
and the mask (`Permission.wellFormed_of_make`); giving the parts reads the constraints and the privileges itself, and
what it reads is complete (`Attributes.complete_of_ofItem`) and not empty (`Scheme.WellFormed.readPrivileges_ne_zero`).
Parts that were read before are only checked, whatever scheme is active (`Permission.construct_toItem`).
-/

namespace PathAccess

namespace Attributes

private theorem ne_nil_of_readValues {key value : Item} {values : List String} (h : readValues key value = .ok values) :
    values ≠ [] := by
  unfold readValues at h
  dsimp only at h
  split at h
  · simp at h
  · rw [← Except.ok.inj h]
    simp
  · simp at h

private theorem values_of_readPairs {ps : List (Item × Item)} {m n : Attributes} (h : readPairs ps m = .ok n)
    (hm : ∀ e ∈ m.entries, e.2 ≠ []) : ∀ e ∈ n.entries, e.2 ≠ [] := by
  induction ps generalizing m with
  | nil =>
    obtain rfl := Except.ok.inj h
    exact hm
  | cons p ps ih =>
    unfold readPairs at h
    split at h
    · rename_i values hv
      exact ih h (values_put_ne_nil hm (ne_nil_of_readValues hv))
    · simp at h

private theorem entries_of_nonEmpty {m n : Attributes} (h : nonEmpty m = some n) : m = n ∧ n.entries ≠ [] := by
  unfold nonEmpty at h
  split at h
  · simp at h
  · rename_i hne
    obtain rfl := Option.some.inj h
    exact ⟨rfl, by simpa [OrderedMap.isEmpty] using hne⟩

theorem complete_of_ofItem {item : Item} {m : Attributes} (h : ofItem item = .ok (some m)) : m.Complete := by
  unfold ofItem at h
  split at h
  · simp at h
  · split at h
    · simp at h
    · rename_i query _
      cases hq : parse query with
      | error e => simp [hq, Except.map] at h
      | ok n =>
        obtain rfl : n = m := by simpa [hq, Except.map] using h
        exact parse_complete hq
  · rename_i ps
    cases hp : readPairs ps ∅ with
    | error e => simp [hp, Except.map] at h
    | ok n =>
      obtain ⟨rfl, hne⟩ := entries_of_nonEmpty (by simpa [hp, Except.map] using h)
      exact ⟨hne, values_of_readPairs hp (by simp [OrderedMap.empty, EmptyCollection.emptyCollection])⟩
  · simp at h

theorem complete_of_check {m n : Attributes} (h : m.check = .ok (some n)) : n.Complete := by
  unfold check at h
  split at h
  · simp at h
  · rename_i hall
    obtain ⟨rfl, hne⟩ := entries_of_nonEmpty (Except.ok.inj h)
    exact ⟨hne, fun e he => by simpa using List.find?_eq_none.1 hall e he⟩

/-! ### Constraints that were read before -/

private theorem texts?_map_text (values : List String) : texts? (values.map .text) = some values := by
  induction values with
  | nil => rfl
  | cons v values ih => simp [texts?, ih]

private theorem readValues_tuple (key : String) (values : List String) :
    readValues (.text key) (.tuple (values.map .text)) =
      if values.isEmpty then .error (.invalidAttribute (.noValue (.text key))) else .ok values := by
  simp only [readValues, texts?_map_text]
  cases values <;> rfl

/-- The first key without a value is refused. -/
private theorem readPairs_tuples (es : List (String × List String)) (m : Attributes) :
    readPairs (es.map fun e => (.text e.1, .tuple (e.2.map .text))) m =
      match es.find? fun e => e.2.isEmpty with
      | some e => .error (.invalidAttribute (.noValue (.text e.1)))
      | none => .ok (es.foldl (fun m e => m.put e.1 e.2) m) := by
  induction es generalizing m with
  | nil => rfl
  | cons e es ih =>
    rw [List.map_cons, readPairs, readValues_tuple, List.find?_cons]
    cases hempty : e.2.isEmpty with
    | true => rfl
    | false => exact ih _

/-- Reading constraints that are given as such is checking them. -/
theorem ofItem_toItem_eq_check (attributes : Option Attributes) :
    ofItem (toItem attributes) = attributes.elim (.ok none) check := by
  cases attributes with
  | none => rfl
  | some m =>
    have hself : m.entries.foldl (fun m e => m.put e.1 e.2) ∅ = m := OrderedMap.ofList_entries m
    rw [toItem, ofItem, readPairs_tuples, hself, Option.elim_some, check]
    cases m.entries.find? fun e => e.2.isEmpty <;> rfl

end Attributes

namespace Permission

private theorem ne_empty_of_checkPath {item : Item} {path : String} (h : checkPath item = .ok path) : path ≠ "" := by
  unfold checkPath at h
  split at h
  · split at h
    · simp at h
    · rename_i hne
      rw [← Except.ok.inj h]
      simpa using hne
  · simp at h

private theorem wellFormed_of_complete {path : String} {attributes : Option Attributes} {privileges : Privileges}
    (hpath : path ≠ "") (ha : ∀ m, attributes = some m → m.Complete) (hmask : privileges.mask ≠ 0) :
    (⟨path, attributes, privileges⟩ : Permission).WellFormed :=
  ⟨hpath, fun m hm => (ha m hm).entries_ne_nil, fun m hm => (ha m hm).values_ne_nil, hmask⟩

/-- The last check is the same whether there are constraints or not. -/
theorem make_eq_bind (path : String) (attributes : Option Attributes) (privileges : Privileges) :
    make path attributes privileges =
      (checkPath (.text path) >>= fun path => attributes.elim (.ok none) Attributes.check >>= fun attributes =>
        if privileges.mask = 0 then .error (.malformed .noPrivilege) else .ok ⟨path, attributes, privileges⟩) := by
  cases attributes <;> rfl

/-- On parts that are given as such the constructor reads nothing, and makes what `make` does. -/
theorem construct_toItem (path : String) (attributes : Option Attributes) (privileges : Privileges) (active : Scheme) :
    construct (.text path) (Attributes.toItem attributes) (Item.ofPrivileges privileges) active =
      make path attributes privileges := by
  rw [make_eq_bind, ← Attributes.ofItem_toItem_eq_check]
  unfold construct
  cases hpath : checkPath (.text path) with
  | error e => exact Ambient.bind_ofExcept_of_error rfl _
  | ok path =>
    refine (Ambient.bind_ofExcept_of_ok rfl _).trans ?_
    cases hattributes : Attributes.ofItem (Attributes.toItem attributes) with
    | error e => exact Ambient.bind_ofExcept_of_error rfl _
    | ok attributes =>
      refine (Ambient.bind_ofExcept_of_ok rfl _).trans ?_
      simp only [Item.ofPrivileges, bind, Except.bind]
      split <;> rfl

/-- What is made from checked parts is well formed. -/
theorem wellFormed_of_make {path : String} {attributes : Option Attributes} {privileges : Privileges} {p : Permission}
    (h : make path attributes privileges = .ok p) : p.WellFormed := by
  rw [make_eq_bind] at h
  obtain ⟨path', hpath, h⟩ := exists_of_bind_ok h
  obtain ⟨a, ha, h⟩ := exists_of_bind_ok h
  split at h
  · simp at h
  · rename_i hmask
    obtain rfl := Except.ok.inj h
    refine wellFormed_of_complete (ne_empty_of_checkPath hpath) ?_ hmask
    rintro n rfl
    cases attributes with
    | none => simp at ha
    | some m => exact Attributes.complete_of_check ha

/-- The privileges are taken as they are. -/
theorem privileges_of_make {path : String} {attributes : Option Attributes} {privileges : Privileges} {p : Permission}
    (h : make path attributes privileges = .ok p) : p.privileges = privileges := by
  rw [make_eq_bind] at h
  obtain ⟨_, -, h⟩ := exists_of_bind_ok h
  obtain ⟨_, -, h⟩ := exists_of_bind_ok h
  split at h
  · simp at h
  · rw [← Except.ok.inj h]

theorem wellFormed_of_withAttributes {p q : Permission} {item : Item} (h : q.withAttributes item = .ok p) :
    p.WellFormed := by
  obtain ⟨_, -, h⟩ := exists_of_bind_ok h
  exact wellFormed_of_make h

theorem wellFormed_of_unwind {p q : Permission} {parts : List Permission} (h : q.unwind = .ok parts)
    (hp : p ∈ parts) : p.WellFormed := by
  have hclone : (do return [← q.clone] : Except Fault (List Permission)) = .ok parts → p.WellFormed := by
    intro h
    obtain ⟨q', hq', h⟩ := exists_of_bind_ok h
    obtain rfl : [q'] = parts := Except.ok.inj h
    obtain rfl := List.mem_singleton.1 hp
    exact wellFormed_of_make hq'
  unfold unwind at h
  split at h
  · exact hclone h
  · split at h
    · exact hclone h
    · rw [← Ambient.mapM_ofExcept q.scheme] at h
      obtain ⟨choice, -, hchoice⟩ := Ambient.exists_of_mem_mapM h hp
      exact wellFormed_of_withAttributes hchoice

/-- A permission that is read is well formed, whatever it is read from. -/
theorem wellFormed_of_parse {value : Item} {explicit : Option Scheme} {active : Scheme} {p : Permission}
    (h : parse value explicit active = .ok p) : p.WellFormed := by
  unfold parse at h
  split at h
  · exact parseText_wellFormed (c := explicit.getD active) h
  · simp [throw, throwThe, MonadExceptOf.throw] at h

/-- A permission that is made from its parts is well formed if the scheme is under which privileges are read. -/
theorem wellFormed_of_construct {path attributes privileges : Item} {active : Scheme} {p : Permission}
    (h : construct path attributes privileges active = .ok p) (hc : p.scheme = active → active.WellFormed) :
    p.WellFormed := by
  unfold construct at h
  obtain ⟨path', hpath, h⟩ := Ambient.bind_eq_ok h
  obtain ⟨attributes', ha, h⟩ := Ambient.bind_eq_ok h
  have hcomplete : ∀ m, attributes' = some m → m.Complete := by
    rintro m rfl
    exact Attributes.complete_of_ofItem ha
  split at h
  · split at h
    · simp [throw, throwThe, MonadExceptOf.throw] at h
    · rename_i hmask
      obtain rfl := Except.ok.inj h
      exact wellFormed_of_complete (ne_empty_of_checkPath hpath) hcomplete hmask
  · obtain ⟨s, hs, h⟩ := Ambient.bind_eq_ok h
    obtain rfl := Except.ok.inj h
    obtain rfl : s.scheme = active := Scheme.scheme_of_readPrivileges hs
    exact wellFormed_of_complete (ne_empty_of_checkPath hpath) hcomplete ((hc rfl).readPrivileges_ne_zero hs)

/-- The ways to make a permission. -/
inductive IsMade : Permission → Prop
  /-- From its parts, of any shape. -/
  | constructed {path attributes privileges : Item} {active : Scheme} {p : Permission}
      (h : construct path attributes privileges active = .ok p) : IsMade p
  /-- From a text. -/
  | read {value : Item} {explicit : Option Scheme} {active : Scheme} {p : Permission}
      (h : parse value explicit active = .ok p) : IsMade p
  | cloned {p q : Permission} (hq : IsMade q) (h : q.clone = .ok p) : IsMade p
  | withPath {p q : Permission} {path : Item} (hq : IsMade q) (h : q.withPath path = .ok p) : IsMade p
  | withAttributes {p q : Permission} {attributes : Item} (hq : IsMade q)
      (h : q.withAttributes attributes = .ok p) : IsMade p
  | withPrivileges {p q : Permission} {privileges : Item} (hq : IsMade q)
      (h : q.withPrivileges privileges = .ok p) : IsMade p
  | unwound {p q : Permission} {parts : List Permission} (hq : IsMade q) (h : q.unwind = .ok parts)
      (hp : p ∈ parts) : IsMade p

/-- A permission that was made under a well-formed scheme is well formed, whatever it was made from. -/
theorem IsMade.wellFormed {p : Permission} (h : p.IsMade) (hc : p.scheme.WellFormed) : p.WellFormed := by
  cases h with
  | constructed h => exact wellFormed_of_construct h fun hactive => hactive ▸ hc
  | read h => exact wellFormed_of_parse h
  | cloned _ h => exact wellFormed_of_make h
  | withPath _ h =>
    obtain ⟨_, -, h⟩ := exists_of_bind_ok h
    exact wellFormed_of_make h
  | withAttributes _ h => exact wellFormed_of_withAttributes h
  | withPrivileges _ h =>
    obtain ⟨_, -, h⟩ := exists_of_bind_ok h
    exact wellFormed_of_make h
  | unwound _ h hp => exact wellFormed_of_unwind h hp

end Permission

end PathAccess
