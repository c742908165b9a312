import PathAccess.Proofs.Privileges.Tokens
import PathAccess.Proofs.Validity

/-!
# Privileges as a union of tokens

Privileges that are read from texts are the union of what the tokens stand for (`Scheme.readTexts_eq_ok_iff`).  So it
makes no difference how the tokens are spread over texts (`Scheme.tokens_joined`), in which order they come, or how
often (`Scheme.IsUnionOf.congr`).  Only the fault of tokens that cannot be read depends on the order: it is that of the
first one (`Scheme.readTexts_eq_error_iff`).
-/

namespace PathAccess

namespace Scheme

variable {c : Scheme} {ts us : List String} {m n r : Mask} {e : Fault}

/-- Whether nothing but blanks stands between the commas of a text. -/
def IsBlank (text : String) : Prop := ∀ piece ∈ Text.split ',' text, Text.trim piece = ""

/-- What a text adds to a union: what it is read as, or nothing if it is blank. -/
inductive Adds (c : Scheme) (text : String) : Mask → Prop
  | blank (h : IsBlank text) : Adds c text 0
  | read {m : Mask} (h : c.readTexts [text] = .ok ⟨m, c⟩) : Adds c text m

/-- All tokens are read, and the mask is the union of what they stand for. -/
structure IsUnionOf (c : Scheme) (ts : List String) (m : Mask) : Prop where
  read : ∀ t ∈ ts, ∃ n, c.readToken t = .ok n
  testBit_iff : ∀ k, m.testBit k = true ↔ ∃ t ∈ ts, ∃ n, c.readToken t = .ok n ∧ n.testBit k = true

/-! ### Tokens of several texts -/

theorem tokens_append (xs ys : List String) : tokens (xs ++ ys) = tokens xs ++ tokens ys := by
  simp [tokens]

theorem tokens_comma (x y : String) : tokens [x ++ "," ++ y] = tokens [x] ++ tokens [y] := by
  have hsplit : Text.split ',' (x ++ "," ++ y) = Text.split ',' x ++ Text.split ',' y := Text.split_append ',' x y
  simp [tokens, hsplit]

/-- Texts that are joined by commas have the tokens of all of them. -/
theorem tokens_joined (texts : List String) : tokens [Text.join "," texts] = tokens texts := by
  induction texts with
  | nil => rfl
  | cons t texts ih =>
    cases texts with
    | nil => simp [Text.join]
    | cons u texts => rw [Text.join_cons_cons, tokens_comma, ih, ← tokens_append, List.singleton_append]

theorem isBlank_iff {text : String} : IsBlank text ↔ tokens [text] = [] := by
  simp [IsBlank, tokens]

/-! ### Tokens that are all read -/

/-- Reading tokens adds what they stand for to what was there before. -/
theorem readTokens_eq_ok_iff :
    c.readTokens ts m = .ok r ↔ (∀ t ∈ ts, ∃ n, c.readToken t = .ok n) ∧
      ∀ k, r.testBit k = true ↔ m.testBit k = true ∨ ∃ t ∈ ts, ∃ n, c.readToken t = .ok n ∧ n.testBit k = true := by
  induction ts generalizing m with
  | nil =>
    have hext : m = r ↔ ∀ k, r.testBit k = m.testBit k :=
      ⟨fun h k => by rw [h], fun h => Mask.ext_testBit fun k => (h k).symm⟩
    simpa [readTokens] using hext
  | cons t ts ih =>
    rw [readTokens]
    cases ht : c.readToken t with
    | error e => simp [ht]
    | ok n => simp [ih, ht, or_assoc]

theorem isUnionOf_iff : c.IsUnionOf ts m ↔ c.readTokens ts 0 = .ok m := by
  rw [readTokens_eq_ok_iff]
  simp only [Mask.testBit_zero, Bool.false_eq_true, false_or]
  exact ⟨fun h => ⟨h.read, h.testBit_iff⟩, fun h => ⟨h.1, h.2⟩⟩

theorem IsUnionOf.unique (hm : c.IsUnionOf ts m) (hn : c.IsUnionOf ts n) : m = n :=
  Mask.ext_testBit fun k => Bool.eq_iff_iff.2 ((hm.testBit_iff k).trans (hn.testBit_iff k).symm)

/-- Neither the order of the tokens nor their number matters. -/
theorem IsUnionOf.congr (h : ∀ t, t ∈ ts ↔ t ∈ us) (hm : c.IsUnionOf ts m) : c.IsUnionOf us m where
  read := fun t ht => hm.read t ((h t).2 ht)
  testBit_iff := fun k => by simp only [hm.testBit_iff, h]

theorem IsUnionOf.append (hm : c.IsUnionOf ts m) (hn : c.IsUnionOf us n) : c.IsUnionOf (ts ++ us) (m ||| n) where
  read := List.forall_mem_append.2 ⟨hm.read, hn.read⟩
  testBit_iff := fun k => by
    rw [Mask.testBit_or, Bool.or_eq_true, hm.testBit_iff, hn.testBit_iff]
    simp only [List.mem_append, or_and_right, exists_or]

/-- Tokens that are all read have a union. -/
theorem exists_isUnionOf (h : ∀ t ∈ ts, ∃ n, c.readToken t = .ok n) : ∃ m, c.IsUnionOf ts m := by
  induction ts with
  | nil => exact ⟨0, isUnionOf_iff.2 rfl⟩
  | cons t ts ih =>
    rw [List.forall_mem_cons] at h
    obtain ⟨⟨n, hn⟩, hts⟩ := h
    obtain ⟨m, hm⟩ := ih hts
    have ht : c.IsUnionOf [t] n := ⟨by simp [hn], by simp [hn]⟩
    exact ⟨n ||| m, ht.append hm⟩

theorem isUnionOf_append_iff :
    c.IsUnionOf (ts ++ us) r ↔ ∃ m n, c.IsUnionOf ts m ∧ c.IsUnionOf us n ∧ r = m ||| n := by
  constructor
  · intro hr
    obtain ⟨hts, hus⟩ := List.forall_mem_append.1 hr.read
    obtain ⟨m, hm⟩ := exists_isUnionOf hts
    obtain ⟨n, hn⟩ := exists_isUnionOf hus
    exact ⟨m, n, hm, hn, hr.unique (hm.append hn)⟩
  · rintro ⟨m, n, hm, hn, rfl⟩
    exact hm.append hn

/-! ### Tokens that are not all read -/

/-- The fault of tokens is that of the first one that is not read. -/
theorem readTokens_eq_error_iff :
    c.readTokens ts m = .error e ↔ ∃ token, c.IsFirstUnread ts token ∧ c.readToken token = .error e := by
  induction ts generalizing m with
  | nil => simp [readTokens, IsFirstUnread]
  | cons t ts ih =>
    simp only [readTokens, isFirstUnread_cons_iff]
    cases ht : c.readToken t with
    | error e' => simp [ht]
    | ok n => simp [ih]

/-! ### Texts -/

/-- Privileges are read from texts as the union of the tokens, if there are any. -/
theorem readTexts_eq_ok_iff {texts : List String} {s : Privileges} :
    c.readTexts texts = .ok s ↔ s.scheme = c ∧ tokens texts ≠ [] ∧ c.IsUnionOf (tokens texts) s.mask := by
  rw [isUnionOf_iff]
  constructor
  · intro h
    obtain ⟨hne, hread, hs⟩ := readTexts_eq_ok h
    exact ⟨hs, hne, hread⟩
  · rintro ⟨rfl, hne, hread⟩
    exact readTexts_of_readTokens hne hread

theorem readTexts_eq_error_iff {texts : List String} :
    c.readTexts texts = .error e ↔ (tokens texts = [] ∧ e = .malformed .noPrivilege) ∨
      ∃ token, c.IsFirstUnread (tokens texts) token ∧ c.readToken token = .error e := by
  rw [← readTokens_eq_error_iff (m := 0), readTexts]
  cases tokens texts with
  | nil => simp [readTokens, eq_comm]
  | cons t ts =>
    dsimp only
    cases c.readTokens (t :: ts) 0 <;> simp

/-- Only the tokens matter, however they are spread over texts. -/
theorem readTexts_congr {xs ys : List String} (h : tokens xs = tokens ys) : c.readTexts xs = c.readTexts ys := by
  rw [readTexts, readTexts, h]

theorem adds_iff {text : String} : c.Adds text m ↔ c.IsUnionOf (tokens [text]) m := by
  constructor
  · rintro (hblank | hread)
    · rw [isBlank_iff.1 hblank]
      exact isUnionOf_iff.2 rfl
    · exact (readTexts_eq_ok_iff.1 hread).2.2
  · intro hm
    by_cases hnone : tokens [text] = []
    · rw [hnone] at hm
      obtain rfl := hm.unique (isUnionOf_iff.2 rfl)
      exact .blank (isBlank_iff.2 hnone)
    · exact .read (readTexts_eq_ok_iff.2 ⟨rfl, hnone, hm⟩)

/-- Two texts with a comma between them are read as the union of what they add, unless both are blank. -/
theorem readTexts_comma_eq_ok_iff {x y : String} {s : Privileges} :
    c.readTexts [x ++ "," ++ y] = .ok s ↔ s.scheme = c ∧ ¬ (IsBlank x ∧ IsBlank y) ∧
      ∃ m n, c.Adds x m ∧ c.Adds y n ∧ s.mask = m ||| n := by
  simp only [readTexts_eq_ok_iff, tokens_comma, isUnionOf_append_iff, adds_iff, isBlank_iff, ne_eq,
    List.append_eq_nil_iff]

theorem readTexts_comma_eq_error_iff {x y : String} :
    c.readTexts [x ++ "," ++ y] = .error e ↔ (IsBlank x ∧ IsBlank y ∧ e = .malformed .noPrivilege) ∨
      ∃ token, c.IsFirstUnread (tokens [x] ++ tokens [y]) token ∧ c.readToken token = .error e := by
  simp only [readTexts_eq_error_iff, tokens_comma, isBlank_iff, List.append_eq_nil_iff, and_assoc]

/-- Permuted or repeated tokens are read as the same privileges. -/
theorem readTexts_eq_ok_congr {xs ys : List String} (h : ∀ t, t ∈ tokens xs ↔ t ∈ tokens ys) {s : Privileges}
    (hs : c.readTexts xs = .ok s) : c.readTexts ys = .ok s := by
  obtain ⟨hscheme, hne, hm⟩ := readTexts_eq_ok_iff.1 hs
  have hne' : tokens ys ≠ [] := by
    obtain ⟨t, ht⟩ := List.exists_mem_of_ne_nil _ hne
    exact List.ne_nil_of_mem ((h t).1 ht)
  exact readTexts_eq_ok_iff.2 ⟨hscheme, hne', hm.congr h⟩

end Scheme

namespace Privileges

open Scheme

/-- **Privileges as a union.**  Texts are read as the union of what their tokens stand for, and as if they were joined
by commas.  Two texts with a comma between them are read as the union of what they add, or fail with the fault of the
first token that is not read, or because both are blank.  So tokens may be permuted and repeated without a change of
what is read. -/
theorem resolve_union (explicit : Option Scheme) (active : Scheme) :
    (∀ item texts s, item.IsTexts texts → (resolve item explicit active = .ok s ↔
        s.scheme = explicit.getD active ∧ tokens texts ≠ [] ∧
          (explicit.getD active).IsUnionOf (tokens texts) s.mask)) ∧
      (∀ item texts, item.IsTexts texts →
        resolve item explicit active = resolve (.text (Text.join "," texts)) explicit active) ∧
      (∀ x y s, resolve (.text (x ++ "," ++ y)) explicit active = .ok s ↔
        s.scheme = explicit.getD active ∧ ¬ (IsBlank x ∧ IsBlank y) ∧
          ∃ m n, (explicit.getD active).Adds x m ∧ (explicit.getD active).Adds y n ∧ s.mask = m ||| n) ∧
      (∀ x y e, resolve (.text (x ++ "," ++ y)) explicit active = .error e ↔
        (IsBlank x ∧ IsBlank y ∧ e = .malformed .noPrivilege) ∨
          ∃ token, (explicit.getD active).IsFirstUnread (tokens [x] ++ tokens [y]) token ∧
            (explicit.getD active).readToken token = .error e) ∧
      ∀ item item' xs ys, item.IsTexts xs → item'.IsTexts ys → (∀ t, t ∈ tokens xs ↔ t ∈ tokens ys) →
        ∀ s, resolve item explicit active = .ok s ↔ resolve item' explicit active = .ok s := by
  have hresolve : ∀ {item : Item} {texts : List String}, item.IsTexts texts →
      resolve item explicit active = (explicit.getD active).readTexts texts := fun h => readPrivileges_of_isTexts h
  refine ⟨fun item texts s h => ?_, fun item texts h => ?_, fun x y s => ?_, fun x y e => ?_,
    fun item item' xs ys hxs hys h s => ?_⟩
  · rw [hresolve h]
    exact readTexts_eq_ok_iff
  · rw [hresolve h, hresolve (.text _)]
    exact readTexts_congr (tokens_joined texts).symm
  · rw [hresolve (.text _)]
    exact readTexts_comma_eq_ok_iff
  · rw [hresolve (.text _)]
    exact readTexts_comma_eq_error_iff
  · rw [hresolve hxs, hresolve hys]
    exact ⟨readTexts_eq_ok_congr h, readTexts_eq_ok_congr fun t => (h t).symm⟩

/-- Repeated tokens in another order are read as the same privileges; behind a blank text the fault is that of the first
token that is not read, and two blank texts name no privilege. -/
theorem resolve_union_of_repeated_tokens :
    resolve (.tuple [.text "u,, ur", .text "manager"]) none Scheme.standard = .ok ⟨⟨47⟩, Scheme.standard⟩ ∧
      resolve (.list [.text "manager,ur,u", .text " ur\t"]) none Scheme.standard = .ok ⟨⟨47⟩, Scheme.standard⟩ ∧
      resolve (.text "manager,ur,u, ur\t") none Scheme.standard = .ok ⟨⟨47⟩, Scheme.standard⟩ ∧
      resolve (.text " ,\t,u, x , ²") none Scheme.standard = .error (.unknownPrivilege "x") ∧
      resolve (.text " ,\t,") none Scheme.standard = .error (.malformed .noPrivilege) := by
  obtain ⟨-, hjoined, -, hfault, hpermuted⟩ := resolve_union none Scheme.standard
  have htuple : Item.IsTexts (.tuple [.text "u,, ur", .text "manager"]) ["u,, ur", "manager"] :=
    .tuple ["u,, ur", "manager"]
  have hlist : Item.IsTexts (.list [.text "manager,ur,u", .text " ur\t"]) ["manager,ur,u", " ur\t"] :=
    .list ["manager,ur,u", " ur\t"]
  have hread : resolve (.tuple [.text "u,, ur", .text "manager"]) none Scheme.standard =
      .ok ⟨⟨47⟩, Scheme.standard⟩ := eq_ok_of_toOption (by decide +kernel)
  have hsame : ∀ t, t ∈ tokens ["u,, ur", "manager"] ↔ t ∈ tokens ["manager,ur,u", " ur\t"] := by
    have hfirst : tokens ["u,, ur", "manager"] = ["u", "ur", "manager"] := by decide +kernel
    have hsecond : tokens ["manager,ur,u", " ur\t"] = ["manager", "ur", "u", "ur"] := by decide +kernel
    intro t
    simp only [hfirst, hsecond, List.mem_cons, List.not_mem_nil, or_false]
    grind
  have hpermuted := (hpermuted _ _ _ _ htuple hlist hsame _).1 hread
  have hblank : IsBlank " ,\t" := isBlank_iff.2 (by decide +kernel)
  have hunknown : Scheme.standard.IsFirstUnread (tokens [" ,\t"] ++ tokens ["u, x , ²"]) "x" := by
    have htokens : tokens [" ,\t"] ++ tokens ["u, x , ²"] = ["u"] ++ "x" :: ["²"] := by decide +kernel
    have hread : Scheme.standard.readToken "u" = .ok (Mask.bit 2) := eq_ok_of_toOption (by decide +kernel)
    have hunread : (Scheme.standard.readToken "x").toOption = none := by decide +kernel
    refine ⟨["u"], ["²"], htokens, by simp [hread], fun m hm => ?_⟩
    simp [hm, Except.toOption] at hunread
  refine ⟨hread, hpermuted, (hjoined _ _ hlist).symm.trans hpermuted, ?_, ?_⟩
  · exact (hfault " ,\t" "u, x , ²" _).2 (Or.inr ⟨"x", hunknown, by rfl⟩)
  · exact (hfault " ,\t" "" _).2 (Or.inl ⟨hblank, isBlank_iff.2 (by decide +kernel), rfl⟩)

end Privileges

end PathAccess
