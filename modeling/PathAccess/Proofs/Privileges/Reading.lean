import PathAccess.Privileges.Resolve
import PathAccess.Proofs.Scheme.Validation

/-!
# Privileges read under a scheme

A token is read in one of four ways: as a name, as an alias, as a number or as a run of identifiers (`Scheme.Reads`).
Under a well-formed scheme no token stands for the empty mask, so privileges that were read from texts are never empty
(`Scheme.WellFormed.readTexts_ne_zero`).  Other values give a number, whose range is checked; so nothing that privileges
are read from gives the empty mask (`Scheme.WellFormed.readPrivileges_ne_zero`).
-/

namespace PathAccess

namespace Item

/-- A mask that is given as such: a number, or a set of privileges of whatever scheme. -/
inductive IsNumber : Item → Int → Prop
  | int (n : Int) : IsNumber (.int n) n
  | privileges (s : Privileges) : IsNumber (ofPrivileges s) s.mask.value

/-- A text, or a sequence of texts. -/
inductive IsTexts : Item → List String → Prop
  | text (s : String) : IsTexts (.text s) [s]
  | list (texts : List String) : IsTexts (.list (texts.map .text)) texts
  | tuple (texts : List String) : IsTexts (.tuple (texts.map .text)) texts

end Item

namespace Scheme

variable {c : Scheme}

theorem resolve_some (c : Scheme) (value : Item) (active : Scheme) :
    Privileges.resolve value (some c) active = c.readPrivileges value := rfl

theorem checkRange_eq_ok {m n : Mask} :
    c.checkRange m = .ok n ↔ n = m ∧ 1 ≤ m.value ∧ m.value ≤ c.fullMask.value := by
  unfold checkRange
  split
  · rename_i hr
    simp [hr, eq_comm]
  · rename_i hr
    have hno : ¬(n = m ∧ 1 ≤ m.value ∧ m.value ≤ c.fullMask.value) := fun h => hr h.2
    split <;> simp [hno]

theorem WellFormed.bitFor_ne_zero (hc : c.WellFormed) {token : String} {bit : Mask} (h : c.bitFor token = some bit) :
    bit ≠ 0 := by
  obtain ⟨p, hp, -, rfl⟩ := exists_of_bitFor h
  exact hc.bit_ne_zero p hp

/-- Identifiers only add to a mask, and the first of them makes it non-empty. -/
theorem WellFormed.readIdentifiers_ne_zero (hc : c.WellFormed) {is : List Char} {mask result : Mask}
    (h : c.readIdentifiers is mask = .ok result) (hne : is ≠ [] ∨ mask ≠ 0) : result ≠ 0 := by
  induction is generalizing mask with
  | nil =>
    rw [← Except.ok.inj h]
    exact hne.resolve_left (by simp)
  | cons i is ih =>
    unfold readIdentifiers at h
    split at h
    · rename_i bit hbit
      exact ih h (Or.inr (Mask.or_ne_zero_right _ (hc.bitFor_ne_zero hbit)))
    · simp at h

/-- What a token is read as: the first of its readings. -/
inductive Reads (c : Scheme) (token : String) (m : Mask) : Prop
  | named (h : c.bitFor token = some m)
  | aliased (hname : c.bitFor token = none) (h : c.aliasMask token = some m)
  | number {n : Nat} (hname : c.bitFor token = none) (halias : c.aliasMask token = none)
      (hdigits : Text.isDigitRun token = true) (hvalue : Decimal.bounded? token.toList = some n)
      (h : c.checkRange ⟨n⟩ = .ok m)
  | run (hname : c.bitFor token = none) (halias : c.aliasMask token = none)
      (hdigits : Text.isDigitRun token = false) (hi : c.isIdentified = true)
      (h : c.readIdentifiers token.toList 0 = .ok m)

theorem readToken_eq_ok_iff {token : String} {m : Mask} : c.readToken token = .ok m ↔ c.Reads token m := by
  constructor
  · intro h
    unfold readToken at h
    split at h
    · rename_i bit hname
      exact .named (hname.trans (congrArg some (Except.ok.inj h)))
    · rename_i mask hname halias
      exact .aliased hname (halias.trans (congrArg some (Except.ok.inj h)))
    rename_i hname halias
    split at h
    · rename_i hdigits
      split at h
      · rename_i n hvalue
        exact .number hname halias hdigits hvalue h
      · simp at h
    · rename_i hdigits
      split at h
      · rename_i hi
        exact .run hname halias (Bool.eq_false_iff.2 hdigits) hi h
      · simp at h
  · rintro (hname | ⟨hname, halias⟩ | ⟨hname, halias, hdigits, hvalue, h⟩ | ⟨hname, halias, hdigits, hi, h⟩)
    · simp [readToken, hname]
    · simp [readToken, hname, halias]
    · simp [readToken, hname, halias, hdigits, hvalue, h]
    · simp [readToken, hname, halias, hdigits, hi, h]

theorem WellFormed.readToken_ne_zero (hc : c.WellFormed) {token : String} {mask : Mask} (ht : token ≠ "")
    (h : c.readToken token = .ok mask) : mask ≠ 0 := by
  cases readToken_eq_ok_iff.1 h with
  | named hname => exact hc.bitFor_ne_zero hname
  | aliased _ halias => exact hc.alias_ne_zero token mask halias
  | number _ _ _ _ hrange =>
    obtain ⟨rfl, hlow, -⟩ := checkRange_eq_ok.1 hrange
    intro hz
    rw [hz] at hlow
    exact absurd hlow (by decide)
  | run _ _ _ _ hrun => exact hc.readIdentifiers_ne_zero hrun (Or.inl (by simpa using ht))

theorem WellFormed.readTokens_ne_zero (hc : c.WellFormed) {ts : List String} {mask result : Mask}
    (ht : ∀ t ∈ ts, t ≠ "") (h : c.readTokens ts mask = .ok result) (hne : ts ≠ [] ∨ mask ≠ 0) : result ≠ 0 := by
  induction ts generalizing mask with
  | nil =>
    rw [← Except.ok.inj h]
    exact hne.resolve_left (by simp)
  | cons t ts ih =>
    rw [List.forall_mem_cons] at ht
    unfold readTokens at h
    split at h
    · rename_i m hm
      exact ih ht.2 h (Or.inr (Mask.or_ne_zero_right _ (hc.readToken_ne_zero ht.1 hm)))
    · simp at h

theorem tokens_ne_empty {texts : List String} : ∀ t ∈ tokens texts, t ≠ "" := by
  intro t ht
  simpa using (List.mem_filter.1 ht).2

/-- Privileges that were read from texts are the union of what the tokens stand for, and there is a token. -/
theorem readTexts_eq_ok {texts : List String} {s : Privileges} (h : c.readTexts texts = .ok s) :
    tokens texts ≠ [] ∧ c.readTokens (tokens texts) 0 = .ok s.mask ∧ s.scheme = c := by
  unfold readTexts at h
  split at h
  · simp at h
  · rename_i hne
    split at h
    · rename_i mask hm
      obtain rfl := Except.ok.inj h
      exact ⟨hne, hm, rfl⟩
    · simp at h

theorem scheme_of_readTexts {texts : List String} {s : Privileges} (h : c.readTexts texts = .ok s) : s.scheme = c :=
  (readTexts_eq_ok h).2.2

/-- Privileges that were read from texts are not empty. -/
theorem WellFormed.readTexts_ne_zero (hc : c.WellFormed) {texts : List String} {s : Privileges}
    (h : c.readTexts texts = .ok s) : s.mask ≠ 0 := by
  obtain ⟨hne, htokens, -⟩ := readTexts_eq_ok h
  exact hc.readTokens_ne_zero tokens_ne_empty htokens (Or.inl hne)

/-! ### Values of any shape -/

variable {item : Item} {s : Privileges}

theorem checkRange_of_map {m : Mask} (h : (c.checkRange m).map (fun m => (⟨m, c⟩ : Privileges)) = .ok s) :
    c.checkRange m = .ok s.mask ∧ s.scheme = c := by
  cases hr : c.checkRange m with
  | error e => simp [hr, Except.map] at h
  | ok n =>
    obtain rfl : ⟨n, c⟩ = s := by simpa [hr, Except.map] using h
    exact ⟨rfl, rfl⟩

theorem readPrivileges_of_isNumber {n : Int} (hi : item.IsNumber n) :
    c.readPrivileges item = (c.checkRange ⟨n⟩).map fun m => ⟨m, c⟩ := by
  cases hi <;> rfl

private theorem textsOf_map (texts : List String) : textsOf (texts.map .text) = .ok texts := by
  induction texts with
  | nil => rfl
  | cons t texts ih => rw [List.map_cons, textsOf, ih]

private theorem eq_map_of_textsOf {items : List Item} {texts : List String} (h : textsOf items = .ok texts) :
    items = texts.map .text := by
  induction items generalizing texts with
  | nil =>
    obtain rfl := Except.ok.inj h
    rfl
  | cons item items ih =>
    unfold textsOf at h
    split at h
    · rename_i hnil
      simp at hnil
    · rename_i hcons
      obtain ⟨rfl, rfl⟩ := List.cons_eq_cons.1 hcons
      split at h
      · rename_i htexts
        obtain rfl := Except.ok.inj h
        rw [ih htexts, List.map_cons]
      · simp at h
    · simp at h

theorem readPrivileges_of_isTexts {texts : List String} (hi : item.IsTexts texts) :
    c.readPrivileges item = c.readTexts texts := by
  have hlist : (textsOf (texts.map .text) >>= c.readTexts) = c.readTexts texts := by
    rw [textsOf_map]
    rfl
  cases hi with
  | text s => rfl
  | list => exact hlist
  | tuple => exact hlist

private theorem readTexts_of_textsOf {items : List Item} (h : textsOf items >>= c.readTexts = .ok s) :
    ∃ texts, items = texts.map .text ∧ c.readTexts texts = .ok s := by
  obtain ⟨texts, htexts, h⟩ := exists_of_bind_ok h
  exact ⟨texts, eq_map_of_textsOf htexts, h⟩

/-- Privileges that were read are a number that passed the check of its range, or the union of some tokens. -/
theorem readPrivileges_ok (h : c.readPrivileges item = .ok s) :
    (∃ n, item.IsNumber n ∧ c.checkRange ⟨n⟩ = .ok s.mask ∧ s.scheme = c) ∨
      ∃ texts, item.IsTexts texts ∧ c.readTexts texts = .ok s := by
  unfold readPrivileges at h
  split at h
  · exact Or.inl ⟨_, .privileges _, checkRange_of_map h⟩
  · exact Or.inl ⟨_, .int _, checkRange_of_map h⟩
  · exact Or.inr ⟨_, .text _, h⟩
  · obtain ⟨texts, rfl, ht⟩ := readTexts_of_textsOf h
    exact Or.inr ⟨texts, .list texts, ht⟩
  · obtain ⟨texts, rfl, ht⟩ := readTexts_of_textsOf h
    exact Or.inr ⟨texts, .tuple texts, ht⟩
  · simp at h

theorem scheme_of_readPrivileges (h : c.readPrivileges item = .ok s) : s.scheme = c := by
  rcases readPrivileges_ok h with ⟨_, -, -, hs⟩ | ⟨_, -, ht⟩
  · exact hs
  · exact scheme_of_readTexts ht

theorem WellFormed.readPrivileges_ne_zero (hc : c.WellFormed) (h : c.readPrivileges item = .ok s) : s.mask ≠ 0 := by
  rcases readPrivileges_ok h with ⟨n, -, hr, -⟩ | ⟨_, -, ht⟩
  · obtain ⟨hm, hle, -⟩ := checkRange_eq_ok.1 hr
    intro hz
    rw [← hm, hz] at hle
    exact absurd hle (by decide)
  · exact hc.readTexts_ne_zero ht

end Scheme

end PathAccess
