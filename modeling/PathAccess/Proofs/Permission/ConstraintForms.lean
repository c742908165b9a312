import Mathlib.Data.List.TakeWhile
import PathAccess.Proofs.Permission.Constraints
import PathAccess.Proofs.Permission.Making
import PathAccess.Proofs.Permission.WrittenConstraints

/-!
# Constraints from a query and from a map

The same pairs of keys and texts may be given as a query or as a map.  The query is cut at its separators and writes the
pairs one after the other.  The map has been written before, so that each of its keys is read once.  Both ways a key
stays where it first came, with the values that came last, and so the two are read alike (`Attributes.readAlike_of_pairs`).

What is read, from whatever argument, is a map from keys to values, and it is read as itself (`Attributes.ofItem_toItem`).
-/

namespace PathAccess.Attributes

/-- The pairs as a map that is written one pair after the other. -/
def pairsItem (pairs : List (String × String)) : Item := .ofPairs (pairs.map fun e => (.text e.1, .text e.2))

/-! ### Queries -/

theorem equals_mem_of_parse {query : String} {m : Attributes} (h : parse query = .ok m) : '=' ∈ query.toList := by
  obtain ⟨pieces, pairs, ⟨body, hbody, hsplit⟩, hparts, -⟩ := parse_eq_ok.1 h
  have hmem : '=' ∈ body.toList := by
    cases hparts with
    | nil => exact absurd rfl hsplit.ne_nil
    | @cons piece pair _ _ hpart _ =>
      have hpiece : '=' ∈ piece.toList := by simp [hpart.text_eq]
      rw [← hsplit.join_eq]
      exact Text.mem_toList_join_of_mem (by simp) hpiece
  rcases hbody with rfl | ⟨rfl, -⟩
  · simp [hmem]
  · exact hmem

/-- A query that is read is more than question marks. -/
theorem ofItem_of_parse {query : String} {m : Attributes} (h : parse query = .ok m) :
    ofItem (.text query) = .ok (some m) := by
  have hrest : (Text.dropAll '?' query).isEmpty = false := by
    rw [Bool.eq_false_iff]
    intro hempty
    have hall : ∀ c ∈ query.toList, c = '?' := by simpa [Text.dropAll, List.dropWhile_eq_nil_iff] using hempty
    exact absurd (hall '=' (equals_mem_of_parse h)) (by decide)
  rw [ofItem, hrest, h]
  rfl

/-! ### Maps -/

theorem readValues_text (key s : String) : readValues (.text key) (.text s) = .ok (Text.split ',' s) := by
  obtain ⟨v, vs, hsplit⟩ := List.exists_cons_of_ne_nil (Text.split_ne_nil ',' s)
  simp [readValues, hsplit]

theorem readPairs_texts (pairs : List (String × String)) (m : Attributes) :
    readPairs (pairs.map fun e => (.text e.1, .text e.2)) m =
      .ok ((pairs.map fun e => (e.1, Text.split ',' e.2)).foldl (fun m e => m.put e.1 e.2) m) := by
  induction pairs generalizing m with
  | nil => rfl
  | cons e pairs ih =>
    rw [List.map_cons, readPairs, readValues_text]
    exact ih _

/-- The last text of every key has been written already, and its values are those that were written last. -/
theorem isMapOf_written_ofList (pairs : List (String × String)) :
    IsMapOf pairs (written (OrderedMap.ofList pairs).entries) := by
  have hnodup : (((OrderedMap.ofList pairs).entries.map fun e => (e.1, Text.split ',' e.2)).map Prod.fst).Nodup := by
    rw [List.map_map]
    exact (OrderedMap.ofList pairs).nodup
  rw [written, OrderedMap.ofList_of_nodup hnodup]
  refine ⟨?_, fun before key text after hpairs hafter => ?_⟩
  · rw [← OrderedMap.keys_ofList, OrderedMap.keys, List.map_map]
    rfl
  · have hlast : (OrderedMap.ofList pairs).get? key = some text := by
      rw [hpairs]
      exact OrderedMap.get?_ofList before after text hafter
    refine ⟨Text.split ',' text, ?_, Text.isSplit_iff.2 rfl⟩
    rw [← OrderedMap.mem_entries]
    exact List.mem_map.2 ⟨(key, text), OrderedMap.mem_entries.2 hlast, rfl⟩

theorem ofItem_pairsItem {pairs : List (String × String)} (hne : pairs ≠ []) :
    ofItem (pairsItem pairs) = .ok (some (written pairs)) := by
  have hread : readPairs ((OrderedMap.ofList pairs).entries.map fun e => (.text e.1, .text e.2)) ∅ =
      .ok (written (OrderedMap.ofList pairs).entries) := readPairs_texts _ ∅
  have hwritten : written (OrderedMap.ofList pairs).entries = written pairs :=
    isMapOf_iff.1 (isMapOf_written_ofList pairs)
  have hentries : (written pairs).entries ≠ [] := by
    obtain ⟨e, he⟩ := List.exists_mem_of_ne_nil _ hne
    have hkey : e.1 ∈ (written pairs).keys := by
      rw [(isMapOf_iff.2 rfl : IsMapOf pairs _).keys_eq, List.mem_eraseDups]
      exact List.mem_map_of_mem he
    intro hnil
    simp [OrderedMap.keys, hnil] at hkey
  rw [pairsItem, Value.ofPairs_texts, ofItem, hread]
  change Except.ok (nonEmpty (written (OrderedMap.ofList pairs).entries)) = _
  rw [hwritten, nonEmpty_eq hentries]

/-! ### What was read -/

/-- Constraints with a value for every key are read as they are. -/
theorem Complete.ofItem_toItem {m : Attributes} (hm : m.Complete) : ofItem (toItem (some m)) = .ok (some m) :=
  (ofItem_toItem_eq_check (some m)).trans (check_eq hm)

/-- What is read from an argument is read as itself. -/
theorem ofItem_toItem {item : Item} {constraints : Option Attributes} (h : ofItem item = .ok constraints) :
    ofItem (toItem constraints) = .ok constraints := by
  cases constraints with
  | none => rfl
  | some m => exact (complete_of_ofItem h).ofItem_toItem

/-- **A query and a map of the same pairs are read alike.**  The pairs may repeat a key; then it stays where it first
came and has the values that came last.  And what is read from any argument is read again as it is. -/
theorem readAlike_of_pairs {pairs : List (String × String)} (hne : pairs ≠ []) (hpairs : ∀ e ∈ pairs, IsSeparable e)
    (hfirst : ∀ e, pairs.head? = some e → e.1.toList.head? ≠ some '?') :
    ofItem (.text (queryText pairs)) = ofItem (pairsItem pairs) ∧
      ofItem (.text ("?" ++ queryText pairs)) = ofItem (pairsItem pairs) ∧
      (∃ m, ofItem (pairsItem pairs) = .ok (some m) ∧ IsMapOf pairs m) ∧
      ∀ item constraints, ofItem item = .ok constraints → ofItem (toItem constraints) = .ok constraints := by
  have hmap := ofItem_pairsItem hne
  have hhead : (queryText pairs).toList.head? ≠ some '?' := by
    obtain ⟨e, es, rfl⟩ := List.exists_cons_of_ne_nil hne
    rw [head?_queryText es (hpairs e (by simp)).key_ne_empty]
    exact hfirst e rfl
  have hplain := ofItem_of_parse (parse_queryText hne hpairs (Or.inr ⟨rfl, hhead⟩))
  have hmarked := ofItem_of_parse (parse_queryText hne hpairs (Or.inl rfl))
  exact ⟨hplain.trans hmap.symm, hmarked.trans hmap.symm, ⟨_, hmap, isMapOf_iff.2 rfl⟩, fun _ _ => ofItem_toItem⟩

/-- A key that comes back without a value, signs in the values, and a map with two keys of one text. -/
theorem readAlike_of_pairs_with_repeated_key :
    let pairs := [("k", "1,2"), ("?j", "a=b?,"), ("k", "")]
    let item : Item := .map [(.int 1, .set [.text "x"]), (.text "1", .text "y,z")]
    let m : Attributes := .ofList [("1", ["y", "z"])]
    (∀ e ∈ pairs, IsSeparable e) ∧ queryText pairs = "k=1,2&?j=a=b?,&k=" ∧
      ofItem (.text "k=1,2&?j=a=b?,&k=") = ofItem (pairsItem pairs) ∧
      ofItem (.text "?k=1,2&?j=a=b?,&k=") = ofItem (pairsItem pairs) ∧
      ofItem (pairsItem pairs) = .ok (some (.ofList [("k", [""]), ("?j", ["a=b?", ""])])) ∧
      ofItem item = .ok (some m) ∧ ofItem (toItem (some m)) = .ok (some m) := by
  intro pairs item m
  have hpairs : ∀ e ∈ pairs, IsSeparable e := by
    simp only [pairs, List.forall_mem_cons, List.not_mem_nil, false_implies, implies_true, and_true]
    exact ⟨⟨by decide, by decide, by decide, by decide⟩, ⟨by decide, by decide, by decide, by decide⟩,
      ⟨by decide, by decide, by decide, by decide⟩⟩
  obtain ⟨hplain, hmarked, ⟨n, hn, hmap⟩, hagain⟩ := readAlike_of_pairs (by simp [pairs]) hpairs (by simp [pairs])
  have hwritten : n = .ofList [("k", [""]), ("?j", ["a=b?", ""])] := (isMapOf_iff.1 hmap).trans (by decide +kernel)
  have hitem : ofItem item = .ok (some m) := by rfl
  exact ⟨hpairs, by decide, hplain, hmarked, hwritten ▸ hn, hitem, hagain item _ hitem⟩

end PathAccess.Attributes
