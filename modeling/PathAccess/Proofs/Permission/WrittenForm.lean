import PathAccess.Proofs.Permission.Equality
import PathAccess.Proofs.Permission.Making
import PathAccess.Proofs.Permission.WrittenConstraints
import PathAccess.Proofs.Privileges.WrittenForm

/-!
# Permissions read back from their written form

Under the standard scheme a permission is read back from what it is written as if and only if nothing in its path and
its constraints is taken for a separator and its mask is one that a text may stand for
(`Permission.parse_text_iff_isWritable`).  The path may have colons in it, because the last colon of a text counts,
and the values may have question marks, because the first one counts.

A permission that was read from a text has all that but one: reading drops a question mark before the first key, and
of two of them one stays with the key.  The written form has the key as it is, so that reading it again drops the one
that was left (`Permission.parse_text_of_parse`).
-/

namespace PathAccess.Permission

/-- Whether the first key of the constraints, if any, does not start with a question mark. -/
def StartsPlain (p : Permission) : Prop := ∀ m, p.attributes = some m → m.StartsPlain

/-- Permissions whose written form means them under the standard scheme. -/
structure IsWritable (p : Permission) : Prop where
  path : '?' ∉ p.path.toList
  attributes : ∀ m, p.attributes = some m → m.IsWritable
  mask : 1 ≤ p.privileges.mask.value ∧ p.privileges.mask.value ≤ 63

/-! ### The parts of the written form -/

def targetText (p : Permission) : String :=
  p.path ++ match p.attributes with
    | some m => "?" ++ m.text
    | none => ""

theorem text_eq (p : Permission) : p.text = p.targetText ++ ":" ++ p.privileges.text := rfl

variable {p q : Permission}

private theorem cutLast_text (hs : p.scheme = Scheme.standard) :
    Text.cutLast ':' p.text = some (p.targetText, p.privileges.text) := by
  refine Text.cutLast_eq_some.2 ⟨text_eq p, ?_⟩
  have := Scheme.standard_writesRuns.colon_not_mem_text p.privileges.mask
  rwa [← hs] at this

private theorem cutFirst_targetText {m : Attributes} (hpath : '?' ∉ p.path.toList) (hm : p.attributes = some m) :
    Text.cutFirst '?' p.targetText = some (p.path, m.text) := by
  refine Text.cutFirst_eq_some.2 ⟨?_, hpath⟩
  rw [targetText, hm]
  exact (String.append_assoc ..).symm

private theorem cutFirst_targetText_of_none (hpath : '?' ∉ p.path.toList) (hm : p.attributes = none) :
    Text.cutFirst '?' p.targetText = none := by
  rw [Text.cutFirst_eq_none, targetText, hm]
  simpa using hpath

/-! ### Reading what was written -/

private theorem readTarget_targetText (hp : p.WellFormed) (hw : p.IsWritable) :
    readTarget p.targetText = .ok (p.path, p.attributes) := by
  unfold readTarget
  cases hm : p.attributes with
  | none =>
    rw [cutFirst_targetText_of_none hw.path hm]
    simp [targetText, hm]
  | some m =>
    rw [cutFirst_targetText hw.path hm]
    simp [Attributes.parse_text (hp.complete m hm) (hw.attributes m hm), Except.map]

private theorem parseText_text (hp : p.WellFormed) (hs : p.scheme = Scheme.standard) (hw : p.IsWritable) :
    parseText Scheme.standard p.text = .ok p := by
  obtain ⟨path, attributes, mask, scheme⟩ := p
  obtain rfl : scheme = Scheme.standard := hs
  have hr := Scheme.readTexts_text_standard hw.mask.1 hw.mask.2
  rw [parseText_eq, cutLast_text rfl]
  simp only [hr, readTarget_targetText hp hw, if_neg hp.path_ne_empty, if_neg hp.mask_ne_zero]

/-! ### Only writable permissions are read back -/

private theorem isTarget_of_parseText {c : Scheme} {text : String} (h : parseText c text = .ok q) :
    ∃ target tokens, Text.cutLast ':' text = some (target, tokens) ∧ c.readTexts [tokens] = .ok q.privileges ∧
      IsTarget target q.path q.attributes := by
  obtain ⟨target, tokens, hcut, hr, ht, -⟩ := parts_of_parseText h
  exact ⟨target, tokens, hcut, hr, readTarget_eq_ok.1 ht⟩

private theorem isWritable_of_parseText (hs : p.scheme = Scheme.standard)
    (h : parseText Scheme.standard p.text = .ok q) (hq : p.same q = true) : p.IsWritable := by
  obtain ⟨target, tokens, hcut, hr, ht⟩ := isTarget_of_parseText h
  rw [cutLast_text hs] at hcut
  obtain ⟨rfl, rfl⟩ := Prod.mk.inj (Option.some.inj hcut)
  simp only [same, Bool.and_eq_true, decide_eq_true_eq] at hq
  obtain ⟨⟨hpath, hmask⟩, hattributes⟩ := hq
  have hrange := Scheme.range_of_readTexts_standard hr
  rw [← hmask] at hrange
  rw [← hpath] at ht
  -- the target that was read is the one that was written, so that its first question mark tells the path
  generalize q.attributes = a at ht hattributes
  generalize htarget : p.targetText = target at ht
  cases ht with
  | plain hmem =>
    cases hm : p.attributes with
    | none => exact ⟨hmem, by simp [hm], hrange⟩
    | some m => simp [hm] at hattributes
  | @constrained _ query _ _ n hmem hquery hparts hn =>
    cases hm : p.attributes with
    | none => simp [hm] at hattributes
    | some m =>
      rw [hm] at hattributes
      have hcut : Text.cutFirst '?' (p.path ++ "?" ++ query) = some (p.path, query) :=
        Text.cutFirst_eq_some.2 ⟨rfl, hmem⟩
      rw [← htarget, cutFirst_targetText hmem hm] at hcut
      obtain ⟨-, rfl⟩ := Prod.mk.inj (Option.some.inj hcut)
      refine ⟨hmem, fun m' hm' => ?_, hrange⟩
      obtain rfl : m = m' := Option.some.inj (hm.symm.trans hm')
      exact Attributes.isWritable_of_parse (Attributes.parse_eq_ok.2 ⟨_, _, hquery, hparts, hn⟩) hattributes

/-- However a permission was made under the standard scheme, it is read back from its written form if and only if it
is writable. -/
theorem parse_text_iff_isWritable (hp : p.IsMade) (hs : p.scheme = Scheme.standard) (active : Scheme) :
    ((∃ q, parse (.text p.text) (some p.scheme) active = .ok q ∧ p.same q = true) ↔ p.IsWritable) ∧
      (p.IsWritable → parse (.text p.text) (some p.scheme) active = .ok p) := by
  have hwf : p.WellFormed := hp.wellFormed (hs ▸ Scheme.standard_isValidated.wellFormed)
  have hback : p.IsWritable → parse (.text p.text) (some p.scheme) active = .ok p := by
    intro hw
    rw [parse_eq_parseText, Option.getD_some, hs]
    exact parseText_text hwf hs hw
  refine ⟨⟨?_, fun hw => ⟨p, hback hw, same_refl p⟩⟩, hback⟩
  rintro ⟨q, hq, hsame⟩
  rw [parse_eq_parseText, Option.getD_some, hs] at hq
  exact isWritable_of_parseText hs hq hsame

/-- Of the keys only the first may not start with a question mark. -/
theorem isWritable_with_marked_second_key :
    let p : Permission := ⟨"/a:b", some (.ofList [("x", ["1:2"]), ("?k", ["", "?"])]), ⟨⟨41⟩, Scheme.standard⟩⟩
    p.IsMade ∧ p.scheme = Scheme.standard ∧ p.IsWritable := by
  intro p
  have hconstruct : construct (.text "/a:b") (.text "x=1:2&?k=,?") (.text "c,40") Scheme.standard = .ok p :=
    eq_ok_of_toOption (by decide +kernel)
  have hmade : p.IsMade := .constructed hconstruct
  have hparse : parse (.text p.text) (some p.scheme) Scheme.standard = .ok p := eq_ok_of_toOption (by decide +kernel)
  exact ⟨hmade, rfl, (parse_text_iff_isWritable hmade rfl Scheme.standard).1.1 ⟨p, hparse, same_refl p⟩⟩

/-! ### Permissions that were read -/

private theorem IsTarget.not_mem_path {target path : String} {a : Option Attributes} (h : IsTarget target path a) :
    '?' ∉ path.toList := by
  cases h with
  | plain hpath => exact hpath
  | constrained hpath => exact hpath

private theorem IsTarget.isPlain {target path : String} {m : Attributes} (h : IsTarget target path (some m)) :
    ∀ e ∈ m.entries, Attributes.IsPlain e := by
  cases h with
  | constrained _ hquery hparts hm =>
    exact Attributes.isPlain_of_parse (Attributes.parse_eq_ok.2 ⟨_, _, hquery, hparts, hm⟩)

private theorem parts_of_read {text : String} (h : parseText Scheme.standard text = .ok p) :
    p.scheme = Scheme.standard ∧ '?' ∉ p.path.toList ∧
      (∀ m, p.attributes = some m → ∀ e ∈ m.entries, Attributes.IsPlain e) ∧
      1 ≤ p.privileges.mask.value ∧ p.privileges.mask.value ≤ 63 := by
  obtain ⟨target, tokens, -, hr, ht⟩ := isTarget_of_parseText h
  exact ⟨Scheme.scheme_of_readTexts hr, ht.not_mem_path, fun m hm => IsTarget.isPlain (hm ▸ ht),
    Scheme.range_of_readTexts_standard hr⟩

private theorem isWritable_iff_of_read {text : String} (h : parseText Scheme.standard text = .ok p) :
    p.IsWritable ↔ p.StartsPlain := by
  obtain ⟨-, hpath, hplain, hmask⟩ := parts_of_read h
  exact ⟨fun hw m hm => (hw.attributes m hm).starts, fun hs => ⟨hpath, fun m hm => ⟨hplain m hm, hs m hm⟩, hmask⟩⟩

private theorem startsPlain_of_text_eq {text : String} (h : parseText Scheme.standard text = .ok p)
    (hq : parseText Scheme.standard p.text = .ok q) (heq : q.text = p.text) : p.StartsPlain := by
  intro m hm
  obtain ⟨hps, hppath, hpplain, -⟩ := parts_of_read h
  obtain ⟨hqs, hqpath, -⟩ := parts_of_read hq
  have hqw : q.IsWritable := isWritable_of_parseText hqs (heq ▸ hq) (same_refl q)
  have htarget := cutLast_text hqs
  rw [heq, cutLast_text hps] at htarget
  obtain ⟨htarget, -⟩ := Prod.mk.inj (Option.some.inj htarget)
  -- both have the same query, and that of a writable permission starts with no question mark
  have hcut := cutFirst_targetText hppath hm
  rw [htarget] at hcut
  cases hn : q.attributes with
  | none => simp [cutFirst_targetText_of_none hqpath hn] at hcut
  | some n =>
    rw [cutFirst_targetText hqpath hn] at hcut
    obtain ⟨-, htext⟩ := Prod.mk.inj (Option.some.inj hcut)
    have hnw := hqw.attributes n hn
    have hne := (parseText_wellFormed hq).attributes_ne_empty n hn
    rw [Attributes.startsPlain_iff ((parseText_wellFormed h).attributes_ne_empty m hm) (hpplain m hm), ← htext]
    exact (Attributes.startsPlain_iff hne hnw.plain).1 hnw.starts

/-- A permission that was read under the standard scheme is read back from its written form, and the form is
written again for what is read from it, if and only if the first key does not start with a question mark. -/
theorem parse_text_of_parse {text : String} {explicit : Option Scheme} {active : Scheme}
    (hc : explicit.getD active = Scheme.standard) (h : parse (.text text) explicit active = .ok p) :
    (parse (.text p.text) explicit active = .ok p ↔ p.StartsPlain) ∧
      ((∃ q, parse (.text p.text) explicit active = .ok q ∧ q.text = p.text) ↔ p.StartsPlain) := by
  simp only [parse_eq_parseText, hc] at h ⊢
  have hback : p.StartsPlain → parseText Scheme.standard p.text = .ok p := fun hp =>
    parseText_text (parseText_wellFormed h) (parts_of_read h).1 ((isWritable_iff_of_read h).2 hp)
  refine ⟨⟨fun hp => ?_, hback⟩, ⟨?_, fun hp => ⟨p, hback hp, rfl⟩⟩⟩
  · exact (isWritable_iff_of_read h).1 (isWritable_of_parseText (parts_of_read h).1 hp (same_refl p))
  · rintro ⟨q, hq, heq⟩
    exact startsPlain_of_text_eq h hq heq

/-- Of two question marks before a key the reader drops one, and the writer puts none there. -/
theorem not_parse_text_of_marked_first_key :
    ∃ p, parse (.text "/a???k=v:r") none Scheme.standard = .ok p ∧
      p.attributes = some (.ofList [("?k", ["v"])]) ∧ p.text = "/a??k=v:r" ∧
      ∀ q, parse (.text p.text) none Scheme.standard = .ok q → p.same q = false ∧ q.text ≠ p.text := by
  refine ⟨⟨"/a", some (.ofList [("?k", ["v"])]), ⟨Mask.bit 1, .standard⟩⟩, eq_ok_of_toOption (by decide +kernel), rfl,
    by decide +kernel, ?_⟩
  intro q hq
  have hlost : parse (.text "/a??k=v:r") none Scheme.standard =
      .ok ⟨"/a", some (.ofList [("k", ["v"])]), ⟨Mask.bit 1, .standard⟩⟩ := eq_ok_of_toOption (by decide +kernel)
  obtain rfl := Except.ok.inj (hlost.symm.trans hq)
  exact ⟨by decide +kernel, by decide +kernel⟩

/-- Question marks in values and before other keys are read back. -/
theorem parse_text_of_parse_for_marks_in_values :
    let p : Permission := ⟨"/a", some (.ofList [("x", ["1", "?"]), ("?k", [""])]), ⟨⟨15⟩, Scheme.standard⟩⟩
    parse (.text "/a??x=0&?k=&x=1,?:all") none Scheme.standard = .ok p ∧
      parse (.text p.text) none Scheme.standard = .ok p := by
  intro p
  have hread : parse (.text "/a??x=0&?k=&x=1,?:all") none Scheme.standard = .ok p :=
    eq_ok_of_toOption (by decide +kernel)
  refine ⟨hread, (parse_text_of_parse rfl hread).1.2 ?_⟩
  rintro m hm key hkey
  obtain rfl := Option.some.inj hm
  obtain rfl : "x" = key := Option.some.inj hkey
  decide

end PathAccess.Permission
