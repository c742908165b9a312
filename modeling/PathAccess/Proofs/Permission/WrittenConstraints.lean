import PathAccess.Proofs.Permission.Grammar

/-!
# Constraints that can be written

The written form of constraints knows no way to set off a separator that belongs to a key or to a value.  So the form
is read back only where no separator is among them (`Attributes.IsPlain`), and where the first key does not start with
the question mark that a query may start with (`Attributes.StartsPlain`).

Reading undoes writing for such constraints (`parse_text`) and for no others (`isWritable_of_parse`): whatever is read
is plain (`isPlain_of_parse`), and reading drops a question mark that the first key starts with, after which no other
key can take the place of that key.
-/

namespace PathAccess

namespace Attributes

/-- A key and its values in which nothing is taken for a separator. -/
structure IsPlain (e : String × List String) : Prop where
  key_ne_empty : e.1 ≠ ""
  equals_not_mem_key : '=' ∉ e.1.toList
  ampersand_not_mem_key : '&' ∉ e.1.toList
  comma_not_mem_value : ∀ v ∈ e.2, ',' ∉ v.toList
  ampersand_not_mem_value : ∀ v ∈ e.2, '&' ∉ v.toList

/-- Whether the first key does not start with a question mark. -/
def StartsPlain (m : Attributes) : Prop := ∀ key, m.keys.head? = some key → key.toList.head? ≠ some '?'

/-- Constraints whose written form means them. -/
structure IsWritable (m : Attributes) : Prop where
  plain : ∀ e ∈ m.entries, IsPlain e
  starts : m.StartsPlain

def valuesText (e : String × List String) : String := Text.join "," e.2

/-- The written form of pairs of keys and values. -/
def textOf (es : List (String × List String)) : String := Text.join "&" (es.map fun e => e.1 ++ "=" ++ valuesText e)

theorem text_eq_textOf (m : Attributes) : m.text = textOf m.entries := rfl

/-! ### Queries made of pairs -/

/-- A key and the text of its values, between which and beside which nothing else is taken for a separator. -/
structure IsSeparable (pair : String × String) : Prop where
  key_ne_empty : pair.1 ≠ ""
  equals_not_mem_key : '=' ∉ pair.1.toList
  ampersand_not_mem_key : '&' ∉ pair.1.toList
  ampersand_not_mem_text : '&' ∉ pair.2.toList

/-- The pairs as the parts of a query. -/
def queryText (pairs : List (String × String)) : String := Text.join "&" (pairs.map fun e => e.1 ++ "=" ++ e.2)

theorem isSplit_queryText {pairs : List (String × String)} (hne : pairs ≠ [])
    (hkey : ∀ e ∈ pairs, '&' ∉ e.1.toList) (htext : ∀ e ∈ pairs, '&' ∉ e.2.toList) :
    Text.IsSplit '&' (queryText pairs) (pairs.map fun e => e.1 ++ "=" ++ e.2) := by
  refine ⟨by simpa using hne, rfl, ?_⟩
  rintro piece hp
  obtain ⟨e, he, rfl⟩ := List.mem_map.1 hp
  simp [hkey e he, htext e he]

/-- A query made of separable pairs is read as these pairs, with or without one more question mark before it. -/
theorem parse_queryText {pairs : List (String × String)} {query : String} (hne : pairs ≠ [])
    (hpairs : ∀ e ∈ pairs, IsSeparable e)
    (hquery : query = "?" ++ queryText pairs ∨ query = queryText pairs ∧ query.toList.head? ≠ some '?') :
    parse query = .ok (written pairs) := by
  have hsplit := isSplit_queryText hne (fun e he => (hpairs e he).ampersand_not_mem_key)
    fun e he => (hpairs e he).ampersand_not_mem_text
  have hparts : List.Forall₂ IsPart (pairs.map fun e => e.1 ++ "=" ++ e.2) pairs := by
    rw [List.forall₂_map_left_iff, List.forall₂_same]
    exact fun e he => ⟨rfl, (hpairs e he).key_ne_empty, (hpairs e he).equals_not_mem_key⟩
  refine parse_eq_ok.2 ⟨_, _, ⟨queryText pairs, ?_, hsplit⟩, hparts, isMapOf_iff.2 rfl⟩
  rcases hquery with h | ⟨rfl, h⟩
  · exact Or.inl h
  · exact Or.inr ⟨rfl, h⟩

private theorem queryText_append_cons (s key text : String) (pairs : List (String × String)) :
    queryText ((s ++ key, text) :: pairs) = s ++ queryText ((key, text) :: pairs) := by
  simp only [queryText, List.map_cons, String.append_assoc]
  exact Text.join_append_cons "&" s _ _

/-- A query starts with the first key. -/
theorem head?_queryText {pair : String × String} (pairs : List (String × String)) (hkey : pair.1 ≠ "") :
    (queryText (pair :: pairs)).toList.head? = pair.1.toList.head? := by
  have htext : queryText (pair :: pairs) = pair.1 ++ queryText (("", pair.2) :: pairs) := by
    rw [← queryText_append_cons, String.append_empty]
  rw [htext, String.toList_append, List.head?_append_of_ne_nil _ (by simpa using hkey)]

/-! ### Reading what was written -/

private theorem textOf_eq (es : List (String × List String)) :
    textOf es = queryText (es.map fun e => (e.1, valuesText e)) := by
  rw [textOf, queryText, List.map_map]
  rfl

private theorem not_mem_valuesText {e : String × List String} {c : Char} (hc : c ≠ ',')
    (h : ∀ v ∈ e.2, c ∉ v.toList) : c ∉ (valuesText e).toList := by
  intro hmem
  rcases Text.mem_toList_join hmem with h' | ⟨v, hv, h'⟩
  · exact hc (by simpa using h')
  · exact h v hv h'

private theorem IsPlain.isSeparable {e : String × List String} (h : IsPlain e) : IsSeparable (e.1, valuesText e) :=
  ⟨h.key_ne_empty, h.equals_not_mem_key, h.ampersand_not_mem_key,
    not_mem_valuesText (by decide) h.ampersand_not_mem_value⟩

private theorem isSplit_textOf {es : List (String × List String)} (hne : es ≠ [])
    (hkey : ∀ e ∈ es, '&' ∉ e.1.toList) (hvalue : ∀ e ∈ es, ∀ v ∈ e.2, '&' ∉ v.toList) :
    Text.IsSplit '&' (textOf es) (es.map fun e => e.1 ++ "=" ++ valuesText e) := by
  have hvalues : ∀ e ∈ es, '&' ∉ (valuesText e).toList := fun e he => not_mem_valuesText (by decide) (hvalue e he)
  have hparts : es.map (fun e => e.1 ++ "=" ++ valuesText e) =
      (es.map fun e => (e.1, valuesText e)).map fun e => e.1 ++ "=" ++ e.2 := by
    rw [List.map_map]
    rfl
  rw [textOf_eq, hparts]
  exact isSplit_queryText (by simpa using hne) (List.forall_mem_map.2 hkey) (List.forall_mem_map.2 hvalues)

private theorem split_valuesText {e : String × List String} (h : IsPlain e) (hne : e.2 ≠ []) :
    Text.split ',' (valuesText e) = e.2 :=
  (Text.isSplit_iff.1 ⟨hne, rfl, h.comma_not_mem_value⟩).symm

/-- The written form of plain pairs is read as these pairs, with or without one more question mark before it. -/
theorem parse_of_textOf {es : List (String × List String)} {query : String} (hne : es ≠ [])
    (hplain : ∀ e ∈ es, IsPlain e) (hvalues : ∀ e ∈ es, e.2 ≠ [])
    (hquery : query = "?" ++ textOf es ∨ query = textOf es ∧ query.toList.head? ≠ some '?') :
    parse query = .ok (.ofList es) := by
  have hwritten : written (es.map fun e => (e.1, valuesText e)) = .ofList es := by
    have hmap : es.map (fun e => (e.1, Text.split ',' (valuesText e))) = es.map id := by
      apply List.map_congr_left
      intro e he
      exact Prod.ext rfl (split_valuesText (hplain e he) (hvalues e he))
    rw [written, List.map_map]
    exact congrArg OrderedMap.ofList (hmap.trans (List.map_id es))
  rw [textOf_eq] at hquery
  rw [← hwritten]
  exact parse_queryText (by simpa using hne) (List.forall_mem_map.2 fun e he => (hplain e he).isSeparable) hquery

private theorem textOf_append_cons (s : String) (e : String × List String) (es : List (String × List String)) :
    textOf ((s ++ e.1, e.2) :: es) = s ++ textOf (e :: es) := by
  rw [textOf_eq, textOf_eq, List.map_cons, List.map_cons]
  exact queryText_append_cons s e.1 (valuesText e) _

/-- The written form starts with the first key. -/
theorem startsPlain_iff {m : Attributes} (hm : m.entries ≠ []) (hplain : ∀ e ∈ m.entries, IsPlain e) :
    m.StartsPlain ↔ m.text.toList.head? ≠ some '?' := by
  obtain ⟨e, es, he⟩ := List.exists_cons_of_ne_nil hm
  have hkey : e.1 ≠ "" := (hplain e (by simp [he])).key_ne_empty
  have hhead : m.text.toList.head? = e.1.toList.head? := by
    rw [text_eq_textOf, he, textOf_eq, List.map_cons]
    exact head?_queryText _ hkey
  rw [hhead]
  simp [StartsPlain, OrderedMap.keys, he]

theorem parse_text {m : Attributes} (hm : m.Complete) (hw : m.IsWritable) : parse m.text = .ok m := by
  have hhead := (startsPlain_iff hm.entries_ne_nil hw.plain).1 hw.starts
  have := parse_of_textOf hm.entries_ne_nil hw.plain hm.values_ne_nil (Or.inr ⟨text_eq_textOf m, hhead⟩)
  rwa [OrderedMap.ofList_entries] at this

/-! ### Only such constraints are read back -/

private theorem isPlain_of_part {piece : String} {pair : String × String} (h : IsPart piece pair)
    (hpiece : '&' ∉ piece.toList) : IsPlain (pair.1, Text.split ',' pair.2) := by
  have hsplit := Text.isSplit_iff.2 (rfl : Text.split ',' pair.2 = Text.split ',' pair.2)
  have hparts : '&' ∉ pair.1.toList ∧ '&' ∉ pair.2.toList := by simpa [h.text_eq] using hpiece
  refine ⟨h.key_ne_empty, h.not_mem, hparts.1, hsplit.not_mem, fun v hv hc => hparts.2 ?_⟩
  rw [← hsplit.join_eq]
  exact Text.mem_toList_join_of_mem hv hc

theorem isPlain_of_parse {query : String} {m : Attributes} (h : parse query = .ok m) :
    ∀ e ∈ m.entries, IsPlain e := by
  obtain ⟨pieces, pairs, ⟨body, -, hsplit⟩, hparts, hm⟩ := parse_eq_ok.1 h
  obtain rfl := isMapOf_iff.1 hm
  have hpairs : ∀ pair ∈ pairs, IsPlain (pair.1, Text.split ',' pair.2) := by
    have hpieces := hsplit.not_mem
    clear hsplit h hm
    induction hparts with
    | nil => simp
    | cons hpart _ ih =>
      rw [List.forall_mem_cons] at hpieces ⊢
      exact ⟨isPlain_of_part hpart hpieces.1, ih hpieces.2⟩
  intro e he
  have hmem : e ∈ pairs.map fun e => (e.1, Text.split ',' e.2) :=
    OrderedMap.mem_of_get?_ofList (OrderedMap.mem_entries.1 he)
  obtain ⟨pair, hpair, rfl⟩ := List.mem_map.1 hmem
  exact hpairs pair hpair

private theorem key_of_isPart {key text : String} {pair : String × String} (h : IsPart (key ++ "=" ++ text) pair)
    (hkey : '=' ∉ key.toList) : pair.1 = key := by
  have hown : Text.cutFirst '=' (key ++ "=" ++ text) = some (key, text) := Text.cutFirst_eq_some.2 ⟨rfl, hkey⟩
  have hpair : Text.cutFirst '=' (key ++ "=" ++ text) = some (pair.1, pair.2) :=
    Text.cutFirst_eq_some.2 ⟨h.text_eq, h.not_mem⟩
  rw [hown, Option.some.injEq] at hpair
  exact (congrArg Prod.fst hpair).symm

/-- A question mark before a query is dropped, so no key of what is read has it. -/
private theorem keys_of_parse_marked {es : List (String × List String)} {n : Attributes}
    (h : parse ("?" ++ textOf es) = .ok n) (hne : es ≠ []) (hequals : ∀ e ∈ es, '=' ∉ e.1.toList)
    (hampersand : ∀ e ∈ es, '&' ∉ e.1.toList) (hvalues : ∀ e ∈ es, ∀ v ∈ e.2, '&' ∉ v.toList) :
    ∀ key ∈ n.keys, key ∈ es.map Prod.fst := by
  obtain ⟨pieces, pairs, hquery, hparts, hm⟩ := parse_eq_ok.1 h
  have hdrop : Text.dropOne '?' ("?" ++ textOf es) = textOf es := Text.dropOne_eq_iff.2 (Or.inl rfl)
  rw [isQuery_iff, hdrop, ← Text.isSplit_iff.1 (isSplit_textOf hne hampersand hvalues)] at hquery
  subst hquery
  have hkeys : pairs.map Prod.fst = es.map Prod.fst := by
    rw [List.forall₂_map_left_iff] at hparts
    clear hm hne hampersand hvalues h hdrop
    induction hparts with
    | nil => rfl
    | cons hpart _ ih =>
      rw [List.forall_mem_cons] at hequals
      simp only [List.map_cons, key_of_isPart hpart hequals.1, ih hequals.2]
  intro key hkey
  rw [hm.keys_eq, List.mem_eraseDups, hkeys] at hkey
  exact hkey

/-- Constraints that are read back from what they are written as have no separator in them and do not start with a
question mark. -/
theorem isWritable_of_parse {m n : Attributes} (h : parse m.text = .ok n) (hs : m.same n = true) :
    m.IsWritable := by
  simp only [same, Bool.and_eq_true, decide_eq_true_eq, List.all_eq_true] at hs
  have hmem : ∀ e ∈ m.entries, e ∈ n.entries := fun e he => OrderedMap.mem_entries.2 (hs.2 e he)
  have hplain : ∀ e ∈ m.entries, IsPlain e := fun e he => isPlain_of_parse h e (hmem e he)
  refine ⟨hplain, fun key hkey hmark => ?_⟩
  obtain ⟨values, es, hes⟩ : ∃ values es, m.entries = (key, values) :: es := by
    cases hm : m.entries with
    | nil => simp [OrderedMap.keys, hm] at hkey
    | cons e es =>
      obtain rfl : e.1 = key := by simpa [OrderedMap.keys, hm] using hkey
      exact ⟨e.2, es, rfl⟩
  -- without its question mark the key is shorter, and the other keys are none but themselves
  obtain ⟨rest, rfl⟩ : ∃ rest, key = "?" ++ rest := by
    cases hk : key.toList with
    | nil => simp [hk] at hmark
    | cons c r =>
      obtain rfl : c = '?' := by simpa [hk] using hmark
      exact ⟨String.ofList r, by simp [← String.toList_inj, hk]⟩
  have hmarked : parse ("?" ++ textOf ((rest, values) :: es)) = .ok n := by
    rw [← textOf_append_cons, ← hes]
    exact h
  rw [hes, List.forall_mem_cons] at hplain
  have hkeys := keys_of_parse_marked hmarked (by simp)
    (List.forall_mem_cons.2 ⟨by simpa using hplain.1.equals_not_mem_key, fun e he =>
      (hplain.2 e he).equals_not_mem_key⟩)
    (List.forall_mem_cons.2 ⟨by simpa using hplain.1.ampersand_not_mem_key, fun e he =>
      (hplain.2 e he).ampersand_not_mem_key⟩)
    (List.forall_mem_cons.2 ⟨hplain.1.ampersand_not_mem_value, fun e he =>
      (hplain.2 e he).ampersand_not_mem_value⟩)
  have hown : "?" ++ rest ∈ n.keys := List.mem_map.2 ⟨("?" ++ rest, values), hmem _ (by simp [hes]), rfl⟩
  have hnodup := m.nodup
  rw [hes, List.map_cons, List.nodup_cons] at hnodup
  rcases List.mem_cons.1 (hkeys _ hown) with hsame | hother
  · have := congrArg (·.toList.length) hsame
    simp at this
  · exact hnodup.1 hother

end Attributes

end PathAccess
