import PathAccess.Privileges.Basic
import PathAccess.Proofs.Privileges.Reading
import PathAccess.Proofs.Scheme.Coherence
import PathAccess.Proofs.Text.Pieces

/-!
# Tokens

A text without a separator is a single token, or none if it is blank, and so is each of several that are joined by
separators (`Scheme.tokens_join`).  Trimming leaves characters of the text (`Text.sublist_trim`), and all of it if none of
them is blank.

Two kinds of texts are read here.  A list of tokens is read as the union of what they stand for
(`Scheme.readTokens_map`).  A run of identifiers that is no name, no alias and no number is read identifier by identifier
(`Scheme.readToken_run`, `Scheme.readIdentifiers_labels`).
-/

namespace PathAccess

/-! ### Trimmed texts -/

namespace Text

theorem sublist_trim (s : String) : (trim s).toList.Sublist s.toList := by
  rw [trim, String.toList_ofList, trimBy, ← List.reverse_sublist, List.reverse_reverse]
  exact (List.dropWhile_sublist _).trans (List.reverse_sublist.2 (List.dropWhile_sublist _))

theorem trim_eq_self {s : String} (h : ∀ i ∈ s.toList, isBlank i = false) : trim s = s := by
  have hdrop : ∀ l : List Char, (∀ i ∈ l, isBlank i = false) → l.dropWhile isBlank = l := by
    intro l hl
    cases l with
    | nil => rfl
    | cons i l => simp [hl i (by simp)]
  rw [trim, trimBy, hdrop _ h, hdrop _ (by simpa using h)]
  simp

end Text

namespace Scheme

variable {c : Scheme}

/-! ### The tokens of a text -/

/-- Texts without a separator that are joined by separators are the tokens, trimmed and unless they are blank. -/
theorem tokens_join {texts : List String} (hne : texts ≠ []) (h : ∀ t ∈ texts, ',' ∉ t.toList) :
    tokens [Text.join "," texts] = (texts.map Text.trim).filter fun t => !t.isEmpty := by
  have hsplit : texts = Text.split ',' (Text.join "," texts) := Text.isSplit_iff.1 ⟨hne, rfl, h⟩
  rw [tokens, List.flatMap_singleton, ← hsplit]

theorem tokens_singleton {s : String} (h : ',' ∉ s.toList) :
    tokens [s] = [Text.trim s].filter fun t => !t.isEmpty := by
  have hjoin : Text.join "," [s] = s := by simp [Text.join]
  have htokens := tokens_join (List.cons_ne_nil s []) (by simpa using h)
  rwa [hjoin] at htokens

/-- A text without a separator that is not blank is read as its only token. -/
theorem readTexts_singleton (c : Scheme) {s : String} (h : ',' ∉ s.toList) (hne : Text.trim s ≠ "") :
    c.readTexts [s] = (c.readToken (Text.trim s)).map fun m => ⟨m, c⟩ := by
  have htokens : tokens [s] = [Text.trim s] := by simp [tokens_singleton h, hne]
  have hzero : ∀ m : Mask, (0 : Mask) ||| m = m := fun m => Mask.ext_testBit fun k => by simp
  rw [readTexts, htokens]
  simp only [readTokens]
  cases c.readToken (Text.trim s) with
  | error fault => rfl
  | ok m => simp [Except.map, hzero]

/-- A text without a separator is read as a mask if it is not blank and its only token is. -/
theorem readTexts_singleton_eq_ok_iff {s : String} (h : ',' ∉ s.toList) {m : Mask} :
    c.readTexts [s] = .ok ⟨m, c⟩ ↔ Text.trim s ≠ "" ∧ c.readToken (Text.trim s) = .ok m := by
  by_cases hne : Text.trim s = ""
  · have htokens : tokens [s] = [] := by simp [tokens_singleton h, hne]
    simp [readTexts, htokens, hne]
  · rw [readTexts_singleton c h hne]
    cases c.readToken (Text.trim s) <;> simp [Except.map, hne]

theorem readTexts_of_readTokens {texts : List String} {m : Mask} (hne : tokens texts ≠ [])
    (h : c.readTokens (tokens texts) 0 = .ok m) : c.readTexts texts = .ok ⟨m, c⟩ := by
  unfold readTexts
  split
  · contradiction
  · simp [h]

/-- Tokens that are all read give the union of what they stand for. -/
theorem readTokens_map {α : Type} {as : List α} {token : α → String} {mask : α → Mask}
    (h : ∀ a ∈ as, c.readToken (token a) = .ok (mask a)) (m : Mask) :
    c.readTokens (as.map token) m = .ok ((as.map mask).foldl (· ||| ·) m) := by
  induction as generalizing m with
  | nil => rfl
  | cons a as ih =>
    rw [List.forall_mem_cons] at h
    rw [List.map_cons, readTokens, h.1]
    exact ih h.2 _

/-! ### Names and aliases -/

theorem Coherent.readToken_of_answersTo (hc : c.Coherent) {p : Privilege} (hp : p ∈ c.privileges) {token : String}
    (h : p.answersTo token = true) : c.readToken token = .ok p.bit :=
  readToken_eq_ok_iff.2 (.named (hc.bitFor_eq p hp token h))

theorem Coherent.bitFor_of_aliasMask (hc : c.Coherent) {token : String} {mask : Mask}
    (h : c.aliasMask token = some mask) : c.bitFor token = none := by
  have hmem : (token, mask) ∈ c.aliases.entries := OrderedMap.mem_entries.2 h
  rw [Option.eq_none_iff_forall_ne_some]
  intro bit hbit
  obtain ⟨p, hp, hanswers, -⟩ := exists_of_bitFor hbit
  rw [hc.alias_fresh _ hmem p hp] at hanswers
  exact Bool.noConfusion hanswers

theorem Coherent.readToken_of_aliasMask (hc : c.Coherent) {token : String} {mask : Mask}
    (h : c.aliasMask token = some mask) : c.readToken token = .ok mask :=
  readToken_eq_ok_iff.2 (.aliased (hc.bitFor_of_aliasMask h) h)

/-- Privileges with the same bit are the same. -/
theorem Coherent.eq_of_bit_eq (hc : c.Coherent) {p q : Privilege} (hp : p ∈ c.privileges) (hq : q ∈ c.privileges)
    (h : p.bit = q.bit) : p = q :=
  List.inj_on_of_nodup_map hc.nodup_bits hp hq h

/-! ### Runs of identifiers -/

/-- A token that starts with no digit and is no name and no alias is a run of identifiers, if there are any. -/
theorem readToken_run (hi : c.isIdentified = true) (hsingle : ∀ p ∈ c.privileges, p.label.toList.length = 1)
    {s : String} (hdigits : Text.isDigitRun s = false) (hname : ∀ p ∈ c.privileges, p.name ≠ s)
    (halias : c.aliasMask s = none) : c.readToken s = c.readIdentifiers s.toList 0 := by
  unfold readToken
  cases hbit : c.bitFor s with
  | none => simp [halias, hdigits, hi]
  | some bit =>
    -- a single identifier is found as it stands, with the same result
    obtain ⟨p, hp, hps, -⟩ := exists_of_bitFor hbit
    have hident : p.identifier = some s := (Privilege.answersTo_iff.1 hps).resolve_left (hname p hp)
    have hlen := hsingle p hp
    rw [Privilege.label, hident, Option.getD_some] at hlen
    obtain ⟨i, hi⟩ := List.length_eq_one_iff.1 hlen
    obtain rfl : s = String.singleton i := by rw [← String.toList_inj, hi, String.toList_singleton]
    rw [hi, readIdentifiers, hbit]
    exact congrArg Except.ok (Mask.ext_testBit fun k => by simp)

theorem readIdentifiers_labels {ps : List Privilege} (hsingle : ∀ p ∈ ps, p.label.toList.length = 1)
    (hlabel : ∀ p ∈ ps, c.bitFor p.label = some p.bit) (m : Mask) :
    c.readIdentifiers (ps.flatMap (·.label.toList)) m = .ok ((ps.map Privilege.bit).foldl (· ||| ·) m) := by
  induction ps generalizing m with
  | nil => rfl
  | cons p ps ih =>
    rw [List.forall_mem_cons] at hsingle hlabel
    obtain ⟨i, hi⟩ := List.length_eq_one_iff.1 hsingle.1
    have hp : p.label = String.singleton i := by rw [← String.toList_inj, hi, String.toList_singleton]
    have hbit := hlabel.1
    rw [hp] at hbit
    rw [List.flatMap_cons, hi, List.singleton_append, readIdentifiers, hbit]
    exact ih hsingle.2 hlabel.2 _

/-- The run of identifiers that privileges are written as. -/
theorem toList_text (hi : c.isIdentified = true) (m : Mask) :
    (Privileges.text ⟨m, c⟩).toList = (c.within m).flatMap (·.label.toList) := by
  have hflatten : ∀ ls : List (List Char), List.intercalate [] ls = ls.flatten := by
    intro ls
    induction ls with
    | nil => rfl
    | cons l ls ih => cases ls <;> simp_all [List.intercalate_cons_cons]
  simp [Privileges.text, hi, Text.join, hflatten, Privileges.labels, labels, List.flatMap, Function.comp_def]

/-- Identifier by identifier, known privileges are read back from the run that they are written as. -/
theorem Labelled.readIdentifiers_text (hl : c.Labelled) (hi : c.isIdentified = true)
    (hsingle : ∀ p ∈ c.privileges, p.label.toList.length = 1) {m : Mask} (hcov : c.fullMask.covers m = true) :
    c.readIdentifiers (Privileges.text ⟨m, c⟩).toList 0 = .ok m := by
  have hwithin : ∀ p ∈ c.within m, p ∈ c.privileges := fun p hp => List.mem_of_mem_filter hp
  rw [toList_text hi, readIdentifiers_labels (fun p hp => hsingle p (hwithin p hp))
    (fun p hp => hl.bitFor_label p (hwithin p hp))]
  have hunion := hl.unions_within m
  rw [Mask.and_eq_left_of_covers hcov] at hunion
  exact congrArg Except.ok hunion

end Scheme

end PathAccess
