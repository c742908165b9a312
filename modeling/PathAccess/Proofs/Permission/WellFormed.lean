import PathAccess.Permission.Decision

/-!
# What is made is well formed

Every way to make a permission checks the parts.  Here the checks are turned into facts about the result: constraints
that were read have a key, and a value for every key (`Attributes.parse_complete`); parts that pass are kept as they
are (`Permission.make_eq`), so a well-formed permission is its own copy (`Permission.clone_eq`); and a permission that
was read from a text is well formed (`Permission.parseText_wellFormed`).  `Permission.parseText_eq` is the reading of
a text without the check of the constraints, which they always pass.
-/

namespace PathAccess

namespace Attributes

/-- Constraints as a permission has them: there is a key, and every key has a value. -/
structure Complete (m : Attributes) : Prop where
  entries_ne_nil : m.entries ≠ []
  values_ne_nil : ∀ e ∈ m.entries, e.2 ≠ []

theorem nonEmpty_eq {m : Attributes} (h : m.entries ≠ []) : nonEmpty m = some m := by
  simp [nonEmpty, OrderedMap.isEmpty, h]

theorem check_eq {m : Attributes} (h : m.Complete) : m.check = .ok (some m) := by
  have hf : m.entries.find? (fun e => e.2.isEmpty) = none := by
    rw [List.find?_eq_none]
    intro e he
    simp [h.values_ne_nil e he]
  rw [check, hf]
  exact congrArg Except.ok (nonEmpty_eq h.entries_ne_nil)

theorem entries_put_ne_nil (m : Attributes) (k : String) (vs : List String) : (m.put k vs).entries ≠ [] := by
  intro h
  have hg : (m.put k vs).get? k = some vs := by simp
  rw [← OrderedMap.mem_entries, h] at hg
  simp at hg

theorem values_put_ne_nil {m : Attributes} {k : String} {vs : List String} (hm : ∀ e ∈ m.entries, e.2 ≠ [])
    (hvs : vs ≠ []) : ∀ e ∈ (m.put k vs).entries, e.2 ≠ [] := by
  intro e he
  have hg : (m.put k vs).get? e.1 = some e.2 := OrderedMap.mem_entries.1 he
  rw [OrderedMap.get?_put] at hg
  split at hg
  · rw [← Option.some.inj hg]
    exact hvs
  · exact hm e (OrderedMap.mem_entries.2 hg)

private theorem values_of_readPiece {piece key : String} {values : List String}
    (h : readPiece piece = .ok (key, values)) : values ≠ [] := by
  unfold readPiece at h
  split at h
  · split at h
    · simp at h
    · simp only [Except.ok.injEq, Prod.mk.injEq] at h
      rw [← h.2]
      exact Text.split_ne_nil ',' _
  · simp at h

/-- Reading one more part keeps a value at every key, and leaves a key behind. -/
theorem readPieces_complete {pieces : List String} {m n : Attributes} (h : readPieces pieces m = .ok n)
    (hm : ∀ e ∈ m.entries, e.2 ≠ []) (hne : pieces ≠ [] ∨ m.entries ≠ []) : n.Complete := by
  induction pieces generalizing m with
  | nil =>
    simp only [readPieces, Except.ok.injEq] at h
    subst h
    exact ⟨hne.resolve_left (by simp), hm⟩
  | cons piece pieces ih =>
    unfold readPieces at h
    split at h
    · rename_i key values hp
      exact ih h (values_put_ne_nil hm (values_of_readPiece hp)) (Or.inr (entries_put_ne_nil m key values))
    · simp at h

theorem parse_complete {query : String} {m : Attributes} (h : parse query = .ok m) : m.Complete :=
  readPieces_complete h (by simp [OrderedMap.empty, EmptyCollection.emptyCollection])
    (Or.inl (Text.split_ne_nil '&' _))

end Attributes

namespace Permission

instance (p : Permission) : Decidable p.WellFormed :=
  decidable_of_iff (p.path ≠ "" ∧ (∀ m ∈ p.attributes, m.entries ≠ [] ∧ ∀ e ∈ m.entries, e.2 ≠ []) ∧
      p.privileges.mask ≠ 0)
    ⟨fun ⟨hpath, ha, hmask⟩ => ⟨hpath, fun m hm => (ha m hm).1, fun m hm => (ha m hm).2, hmask⟩,
      fun h => ⟨h.path_ne_empty, fun m hm => ⟨h.attributes_ne_empty m hm, h.values_ne_empty m hm⟩, h.mask_ne_zero⟩⟩

theorem WellFormed.complete {p : Permission} (h : p.WellFormed) : ∀ m, p.attributes = some m → m.Complete :=
  fun m hm => ⟨h.attributes_ne_empty m hm, h.values_ne_empty m hm⟩

/-- Complete constraints are kept as they are, so only the path and the mask can be refused. -/
theorem make_eq {path : String} {attributes : Option Attributes} (privileges : Privileges)
    (ha : ∀ m, attributes = some m → m.Complete) :
    make path attributes privileges =
      if path = "" then .error (.malformed .emptyPath)
      else if privileges.mask = 0 then .error (.malformed .noPrivilege)
      else .ok ⟨path, attributes, privileges⟩ := by
  by_cases h : path = ""
  · subst h
    rfl
  · have hc : checkPath (.text path) = .ok path := by simp [checkPath, h]
    cases attributes with
    | none => simp [make, hc, h, bind, Except.bind]
    | some m => simp [make, hc, h, bind, Except.bind, Attributes.check_eq (ha m rfl)]

/-- A well-formed permission is its own copy. -/
theorem clone_eq {p : Permission} (h : p.WellFormed) : p.clone = .ok p := by
  rw [clone, make_eq _ h.complete]
  simp [h.path_ne_empty, h.mask_ne_zero]

theorem readTarget_complete {target path : String} {attributes : Option Attributes}
    (h : readTarget target = .ok (path, attributes)) : ∀ m, attributes = some m → m.Complete := by
  unfold readTarget at h
  split at h
  · rename_i query _
    cases hq : Attributes.parse query with
    | error e => simp [hq, Except.map] at h
    | ok n =>
      simp only [hq, Except.map, Except.ok.injEq, Prod.mk.injEq] at h
      intro m hm
      rw [← h.2, Option.some.injEq] at hm
      exact hm ▸ Attributes.parse_complete hq
  · simp only [Except.ok.injEq, Prod.mk.injEq] at h
    simp [← h.2]

theorem parse_eq_parseText (text : String) (explicit : Option Scheme) (active : Scheme) :
    parse (.text text) explicit active = parseText (explicit.getD active) text := rfl

/-- What reading a text gives, fault by fault in the order in which they count. -/
theorem parseText_eq (c : Scheme) (text : String) :
    parseText c text =
      match Text.cutLast ':' text with
      | none => .error (.malformed .noDelimiter)
      | some (target, tokens) =>
        match c.readTexts [tokens], readTarget target with
        | .error e, _ => .error e
        | .ok _, .error e => .error e
        | .ok privileges, .ok (path, attributes) =>
          if path = "" then .error (.malformed .emptyPath)
          else if privileges.mask = 0 then .error (.malformed .noPrivilege)
          else .ok ⟨path, attributes, privileges⟩ := by
  unfold parseText
  cases Text.cutLast ':' text with
  | none => rfl
  | some cut =>
    obtain ⟨target, tokens⟩ := cut
    dsimp only
    cases hs : c.readTexts [tokens] with
    | error e => rfl
    | ok privileges =>
      cases ht : readTarget target with
      | error e => rfl
      | ok parts =>
        obtain ⟨path, attributes⟩ := parts
        exact make_eq privileges (readTarget_complete ht)

/-- The parts of a permission that was read are read from the parts of the text. -/
theorem parts_of_parseText {c : Scheme} {text : String} {p : Permission} (h : parseText c text = .ok p) :
    ∃ target tokens, Text.cutLast ':' text = some (target, tokens) ∧ c.readTexts [tokens] = .ok p.privileges ∧
      readTarget target = .ok (p.path, p.attributes) ∧ p.path ≠ "" ∧ p.privileges.mask ≠ 0 := by
  rw [parseText_eq] at h
  split at h
  · simp at h
  rename_i target tokens hcut
  split at h
  · simp at h
  · simp at h
  · rename_i hprivileges htarget
    split at h
    · simp at h
    split at h
    · simp at h
    · rename_i hpath hmask
      obtain rfl := Except.ok.inj h
      exact ⟨target, tokens, hcut, hprivileges, htarget, hpath, hmask⟩

/-- A permission that was read from a text is well formed. -/
theorem parseText_wellFormed {c : Scheme} {text : String} {p : Permission} (h : parseText c text = .ok p) :
    p.WellFormed := by
  obtain ⟨_, _, -, -, htarget, hpath, hmask⟩ := parts_of_parseText h
  have hc := readTarget_complete htarget
  exact ⟨hpath, fun m hm => (hc m hm).entries_ne_nil, fun m hm => (hc m hm).values_ne_nil, hmask⟩

end Permission

end PathAccess
