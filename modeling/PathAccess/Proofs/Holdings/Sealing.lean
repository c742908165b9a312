import PathAccess.Proofs.Holdings.Reflexivity
import PathAccess.Proofs.Permission.Sealing
import PathAccess.Proofs.Scheme.History

/-!
# Collections and the active scheme

The members of a collection bring their schemes, and what the other side holds is read by each member under its own.
A request, or a permission to be handed out or taken away, is read under the scheme of the collection, and if it has
none, under the scheme that is active when the question is asked.  So the answer may change with the active scheme, but
only through how these texts are read, and of the permission that a text is read as only the content counts: the path,
the constraints and the mask (`agree_allows`, `agree_mayDelegate`).

Hence a collection with a scheme of its own never depends on the active one.  Without it the collection answers as
before after any commands if the texts are read alike, and this is needed: a text that is not read alike is answered
differently by some collection (`sealed_iff_readAlike`).  A new scheme may give the bit of one privilege to another, so
that a collection allows what it did not allow before (`not_sealed_without_scheme`).
-/

namespace PathAccess

namespace Permission

variable {held p q : Permission} {A B : Scheme}

/-! ### Content -/

/-- Whether paths, constraints and masks agree, whatever the schemes are. -/
structure SameContent (p q : Permission) : Prop where
  path : p.path = q.path
  attributes : p.attributes = q.attributes
  mask : p.privileges.mask = q.privileges.mask

theorem SameContent.refl (p : Permission) : SameContent p p := ⟨rfl, rfl, rfl⟩

theorem SameContent.coversTarget (h : SameContent p q) (held : Permission) :
    held.coversTarget p = held.coversTarget q := by
  rw [Permission.coversTarget, Permission.coversTarget, h.path, h.attributes]

theorem SameContent.make (path : String) (attributes : Option Attributes) {s t : Privileges} (h : s.mask = t.mask) :
    Agree SameContent (Permission.make path attributes s) (Permission.make path attributes t) := by
  rw [make_eq_bind, make_eq_bind]
  refine (Agree.refl (fun _ => rfl) _).bind_eq fun path => ?_
  refine (Agree.refl (fun _ => rfl) _).bind_eq fun attributes => ?_
  rw [h]
  split
  · exact .error _
  · exact .ok ⟨rfl, rfl, h⟩

theorem SameContent.clone (h : SameContent p q) : Agree SameContent p.clone q.clone := by
  rw [Permission.clone, Permission.clone, h.path, h.attributes]
  exact make _ _ h.mask

theorem SameContent.withAttributes (h : SameContent p q) (attributes : Item) :
    Agree SameContent (p.withAttributes attributes) (q.withAttributes attributes) := by
  refine (Agree.refl (fun _ => rfl) _).bind_eq fun attributes => ?_
  rw [h.path]
  exact make _ _ h.mask

theorem SameContent.unwind (h : SameContent p q) : Agree (List.Forall₂ SameContent) p.unwind q.unwind := by
  have hclone : Agree (List.Forall₂ SameContent) (do return [← p.clone] : Except Fault (List Permission))
      (do return [← q.clone]) := h.clone.bind fun _ _ hc => .ok (.cons hc .nil)
  unfold Permission.unwind
  rw [h.attributes]
  split
  · exact hclone
  · split
    · exact hclone
    · exact Agree.mapM (List.forall₂_same.2 fun choice _ => h.withAttributes (choiceItem choice))

/-- The grant-enabling privileges of a new permission are read off its mask under its scheme, but do not count: where
they are looked at they are within the holder's power already. -/
theorem SameContent.mayDelegate (h : SameContent p q) (held : Permission) (rivals : List Item) (A B : Scheme) :
    Agree (· = ·) (held.mayDelegate (Item.ofPermission p) (.list rivals) A)
      (held.mayDelegate (Item.ofPermission q) (.list rivals) B) := by
  have hp : held.read (Item.ofPermission p) A = .ok p := rfl
  have hq : held.read (Item.ofPermission q) B = .ok q := rfl
  rcases refused_or_within held p with hrefused | ⟨hne, htarget, hwithin⟩
  · rw [mayDelegate_of_refused hp hrefused, mayDelegate_of_refused hq (by rwa [← h.coversTarget, ← h.mask])]
    exact .ok rfl
  · rw [mayDelegate_of_within hp hne htarget hwithin, mayDelegate_of_within hq (by rwa [← h.mask])
      (by rwa [← h.coversTarget]) (by rwa [← h.mask])]
    refine (agree_rivalPowers held A B rivals 0).map ?_
    rintro power _ rfl
    rfl

/-! ### Readings -/

/-- Whether a text is read as permissions of the same content under both schemes, or fails with the same fault. -/
def ReadAlike (A B : Scheme) (text : String) : Prop := Agree SameContent (parseText A text) (parseText B text)

/-- The path and the constraints of a text are read without a scheme. -/
theorem target_of_parseText {text : String} (hp : parseText A text = .ok p) (hq : parseText B text = .ok q) :
    p.path = q.path ∧ p.attributes = q.attributes := by
  obtain ⟨target, tokens, hcut, -, htarget, -⟩ := parts_of_parseText hp
  obtain ⟨target', tokens', hcut', -, htarget', -⟩ := parts_of_parseText hq
  obtain ⟨rfl, -⟩ := Prod.mk.inj (Option.some.inj (hcut.symm.trans hcut'))
  exact Prod.mk.inj (Except.ok.inj (htarget.symm.trans htarget'))

theorem agree_unwindItem {value : Item} {explicit explicit' : Option Scheme}
    (h : ∀ text, value = .text text → ReadAlike (explicit.getD A) (explicit'.getD B) text) :
    Agree (List.Forall₂ SameContent) (unwindItem value explicit A) (unwindItem value explicit' B) := by
  have hread : Agree SameContent (coerce value explicit A) (coerce value explicit' B) := by
    unfold coerce
    split
    · exact .ok (.refl _)
    · unfold parse
      split
      · exact h _ rfl
      · exact .error _
  exact Ambient.agree_bind hread fun _ _ hc => hc.unwind

/-- A text is read alike under a scheme of its own, and under the active one if it is read alike under these. -/
theorem ReadAlike.getD {text : String} {explicit : Option Scheme} (h : explicit = none → ReadAlike A B text) :
    ReadAlike (explicit.getD A) (explicit.getD B) text := by
  cases explicit with
  | none => exact h rfl
  | some c => exact .refl .refl _

end Permission

namespace Holdings

open Permission (SameContent ReadAlike)

variable {A B : Scheme}

/-! ### Decisions -/

theorem covers_congr {p q : Permission} (h : SameContent p q) (members : List Permission)
    (explicit explicit' : Option Scheme) :
    (⟨members, explicit⟩ : Holdings).covers p = (⟨members, explicit'⟩ : Holdings).covers q := by
  have hmissing : ∀ rest, missing p members rest = missing q members rest := by
    intro rest
    induction members generalizing rest with
    | nil => rfl
    | cons held members ih => rw [missing, missing, h.coversTarget, ih]
  rw [covers, covers, hmissing, h.mask]

theorem agree_allows (members : List Permission) {explicit explicit' : Option Scheme} {requests : List Item}
    (h : ∀ text, .text text ∈ Item.flatten requests → ReadAlike (explicit.getD A) (explicit'.getD B) text) :
    Agree (· = ·) ((⟨members, explicit⟩ : Holdings).allows requests A)
      ((⟨members, explicit'⟩ : Holdings).allows requests B) := by
  have hread : Agree (List.Forall₂ (List.Forall₂ SameContent))
      ((Item.flatten requests).mapM (Permission.unwindItem · explicit) A)
      ((Item.flatten requests).mapM (Permission.unwindItem · explicit') B) := by
    refine Ambient.agree_mapM (List.forall₂_same.2 fun value hvalue => ?_)
    exact Permission.agree_unwindItem fun text htext => h text (htext ▸ hvalue)
  refine Ambient.agree_bind hread fun atoms atoms' hatoms => .ok ?_
  have hall : ∀ {ps qs : List Permission}, List.Forall₂ SameContent ps qs →
      ps.all (⟨members, explicit⟩ : Holdings).covers = qs.all (⟨members, explicit'⟩ : Holdings).covers := by
    intro ps qs h
    induction h with
    | nil => rfl
    | cons hpq _ ih => rw [List.all_cons, List.all_cons, covers_congr hpq members explicit explicit', ih]
  exact hall (List.rel_flatten hatoms)

theorem agree_mayDelegate (members : List Permission) {explicit explicit' : Option Scheme} {value : Item}
    (h : ∀ text, value = .text text → ReadAlike (explicit.getD A) (explicit'.getD B) text) (rivals : Item) :
    Agree (· = ·) ((⟨members, explicit⟩ : Holdings).mayDelegate value rivals A)
      ((⟨members, explicit'⟩ : Holdings).mayDelegate value rivals B) := by
  unfold mayDelegate
  cases rivals.elements? with
  | none => exact .error .wrongType
  | some rivals =>
    refine Ambient.agree_bind (Permission.agree_unwindItem h) fun atoms atoms' hatoms => ?_
    refine Ambient.agree_allM (hatoms.imp fun atom atom' hatom => ?_)
    exact Ambient.agree_anyM fun held _ => hatom.mayDelegate held rivals A B

/-! ### Texts that are not read alike -/

private theorem allows_singleton (h : Holdings) {item : Item} (hflat : Item.flatten [item] = [item]) :
    h.allows [item] A = (Permission.unwindItem item h.scheme? A).map fun parts => parts.all h.covers := by
  rw [allows, hflat]
  cases hparts : Permission.unwindItem item h.scheme? A with
  | error fault =>
    have hread : [item].mapM (Permission.unwindItem · h.scheme?) A = .error fault := Ambient.bind_of_error hparts _
    exact Ambient.bind_of_error hread _
  | ok parts =>
    have hread : [item].mapM (Permission.unwindItem · h.scheme?) A = .ok [parts] :=
      Ambient.mapM_of_ok (.cons hparts .nil)
    rw [Ambient.bind_of_ok hread, List.flatten_singleton]
    rfl

variable {text : String} {p q : Permission}

theorem allows_text_of_error {fault : Fault} (hread : Permission.parseText A text = .error fault)
    (members : List Permission) : (⟨members, none⟩ : Holdings).allows [.text text] A = .error fault := by
  have hparts : Permission.unwindItem (.text text) none A = .error fault := Ambient.bind_of_error hread _
  rw [allows_singleton _ rfl, hparts]
  rfl

theorem allows_text_of_ok (hread : Permission.parseText A text = .ok p) (members : List Permission) :
    (⟨members, none⟩ : Holdings).allows [.text text] A =
      .ok (p.parts.all (⟨members, none⟩ : Holdings).covers) := by
  have hparts : Permission.unwindItem (.text text) none A = .ok p.parts :=
    (Ambient.bind_of_ok hread _).trans (Permission.unwind_eq (Permission.parseText_wellFormed hread))
  rw [allows_singleton _ rfl, hparts]
  rfl

/-- What a text is read as is allowed to its own holder.  If that is so under another scheme too, the text is read there
with the same privileges at most. -/
private theorem mask_covers_of_allows (hp : Permission.parseText A text = .ok p)
    (hq : Permission.parseText B text = .ok q)
    (hsame : (⟨[p], none⟩ : Holdings).allows [.text text] A = (⟨[p], none⟩ : Holdings).allows [.text text] B) :
    p.privileges.mask.covers q.privileges.mask = true := by
  have hpwf := Permission.parseText_wellFormed hp
  have hqwf := Permission.parseText_wellFormed hq
  have hself : (⟨[p], none⟩ : Holdings).allows [.text text] A = .ok true := by
    have hitem : (⟨[p], none⟩ : Holdings).allows [Item.ofPermission p] A = .ok true :=
      allows_of_contains hpwf (contains_of_mem (by simp)) A
    have hparts : Permission.unwindItem (Item.ofPermission p) none A = .ok p.parts := Permission.unwind_eq hpwf
    rw [allows_singleton _ rfl, hparts] at hitem
    exact (allows_text_of_ok hp _).trans hitem
  rw [hsame, allows_text_of_ok hq, Except.ok.injEq, List.all_eq_true] at hself
  obtain ⟨part, hpart⟩ := List.exists_mem_of_ne_nil _ (Permission.parts_ne_nil hqwf)
  obtain ⟨-, hprivileges, -⟩ := Permission.of_mem_parts hqwf hpart
  have hheld := covers_iff_held.1 (hself part hpart)
  rw [Mask.covers_iff]
  intro k hk
  rw [← hprivileges] at hk
  obtain ⟨held, hmem, hbit, -⟩ := hheld k hk
  obtain rfl : held = p := by simpa using hmem
  exact hbit

theorem readAlike_of_allows (h : ∀ members, (⟨members, none⟩ : Holdings).allows [.text text] A =
    (⟨members, none⟩ : Holdings).allows [.text text] B) : ReadAlike A B text := by
  unfold ReadAlike
  cases hp : Permission.parseText A text with
  | error fault =>
    have hA := allows_text_of_error hp []
    rw [h] at hA
    cases hq : Permission.parseText B text with
    | error fault' =>
      rw [allows_text_of_error hq, Except.error.injEq] at hA
      exact hA ▸ .error _
    | ok q =>
      rw [allows_text_of_ok hq] at hA
      simp at hA
  | ok p =>
    cases hq : Permission.parseText B text with
    | error fault' =>
      have hB := allows_text_of_error hq []
      rw [← h, allows_text_of_ok hp] at hB
      simp at hB
    | ok q =>
      obtain ⟨hpath, hattributes⟩ := Permission.target_of_parseText hp hq
      refine .ok ⟨hpath, hattributes, Mask.covers_antisymm ?_ ?_⟩
      · exact mask_covers_of_allows hp hq (h [p])
      · exact mask_covers_of_allows hq hp (h [q]).symm

/-- **When a collection is sealed.**  Whatever commands are run, a collection answers as before, or fails as before, if
it has a scheme of its own or if the texts to be read under the active scheme are read alike.  A text that is not read
alike makes a difference to some collection. -/
theorem sealed_iff_readAlike (r : Registry) (commands : List Registry.Command) :
    (∀ (h : Holdings) (requests : List Item) (value rivals : Item),
      ((h.scheme? = none → ∀ text, .text text ∈ Item.flatten requests →
          ReadAlike r.active (r.after commands).active text) →
        h.allows requests r.active = h.allows requests (r.after commands).active) ∧
      ((h.scheme? = none → ∀ text, value = .text text → ReadAlike r.active (r.after commands).active text) →
        h.mayGrant value rivals r.active = h.mayGrant value rivals (r.after commands).active ∧
          h.mayRevoke value rivals r.active = h.mayRevoke value rivals (r.after commands).active)) ∧
    ∀ text, ¬ ReadAlike r.active (r.after commands).active text → ∃ members,
      (⟨members, none⟩ : Holdings).allows [.text text] r.active ≠
        (⟨members, none⟩ : Holdings).allows [.text text] (r.after commands).active := by
  refine ⟨fun h requests value rivals => ⟨fun hread => ?_, fun hread => ?_⟩, fun text hread => ?_⟩
  · exact (agree_allows h.members fun text htext => .getD fun hnone => hread hnone text htext).eq
  · have hsame := (agree_mayDelegate h.members (fun text htext => .getD fun hnone => hread hnone text htext) rivals).eq
    exact ⟨hsame, hsame⟩
  · by_contra hall
    exact hread (readAlike_of_allows fun members => not_not.1 (not_exists.1 hall members))

/-- The text of a privilege that keeps its bit is read alike, and a scheme of its own reads the others as before. -/
theorem sealed_iff_readAlike_for_kept_bit :
    let given : OrderedMap String Item :=
      .ofList [("privileges", .map [(.text "c", .text "create"), (.text "r", .text "read")])]
    let active := (Registry.initial.after [.configure given]).active
    let members : List Permission := [.ofBit "/a" 1, .ofBit "/a" 5]
    active ≠ .standard ∧ ReadAlike .standard active "/a/b:r" ∧
      (⟨members, none⟩ : Holdings).allows [.list [.text "/a/b:r"]] active = .ok true ∧
      (⟨members, some .standard⟩ : Holdings).mayGrant (.text "/a/b:d") (.list [.text "/a:r"]) active = .ok true := by
  intro given active members
  have hbefore : Permission.parseText .standard "/a/b:r" = .ok (.ofBit "/a/b" 1) :=
    eq_ok_of_toOption (by decide +kernel)
  have hafter : Permission.parseText active "/a/b:r" = .ok ⟨"/a/b", none, ⟨Mask.bit 1, active⟩⟩ :=
    eq_ok_of_toOption (by decide +kernel)
  have hread : ReadAlike .standard active "/a/b:r" := by
    rw [ReadAlike, hbefore, hafter]
    exact .ok ⟨rfl, rfl, rfl⟩
  have hallows : (⟨members, none⟩ : Holdings).allows [.list [.text "/a/b:r"]] .standard = .ok true :=
    eq_ok_of_toOption (by decide +kernel)
  have hgrant : (⟨members, some .standard⟩ : Holdings).mayGrant (.text "/a/b:d") (.list [.text "/a:r"]) .standard =
      .ok true := eq_ok_of_toOption (by decide +kernel)
  obtain ⟨hsealed, -⟩ := sealed_iff_readAlike .initial [.configure given]
  refine ⟨by decide +kernel, hread, ?_, ?_⟩
  · rw [← hallows]
    refine ((hsealed ⟨members, none⟩ [.list [.text "/a/b:r"]] .null .null).1 ?_).symm
    intro _ text htext
    obtain rfl : text = "/a/b:r" := by simpa [Item.flatten, Item.elements?] using htext
    exact hread
  · rw [← hgrant]
    exact ((hsealed ⟨members, some .standard⟩ [] (.text "/a/b:d") (.list [.text "/a:r"])).2 (by simp)).1.symm

/-- The new scheme gives the bit of `r` to `c`, so that a collection that holds `r` allows `c` from then on. -/
theorem not_sealed_without_scheme :
    let given : OrderedMap String Item :=
      .ofList [("privileges", .map [(.text "r", .text "read"), (.text "c", .text "create")])]
    let h : Holdings := ⟨[.ofBit "/a" 1], none⟩
    ofItems [.text "/a:r"] none Registry.initial.active = .ok h ∧
      h.allows [.text "/a:c"] Registry.initial.active = .ok false ∧
      h.allows [.text "/a:c"] (Registry.initial.after [.configure given]).active = .ok true :=
  ⟨eq_ok_of_toOption (by decide +kernel), eq_ok_of_toOption (by decide +kernel), eq_ok_of_toOption (by decide +kernel)⟩

end Holdings

end PathAccess
