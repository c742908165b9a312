import Mathlib.Data.List.Forall2
import PathAccess.Proofs.OrderedMap
import PathAccess.Proofs.Permission.WellFormed
import PathAccess.Proofs.Privileges.Reading
import PathAccess.Proofs.Text.Pieces

/-!
# The grammar of permissions

The written form of a permission, said without the cuts that reading makes: which texts are parts of a query, queries,
targets and permissions, and what they stand for (`Permission.Reading`).  It covers the texts that are refused as
well, each with the fault that counts for it.

Reading gives exactly what the grammar says (`Permission.parse_eq_iff_reading`).  The privileges of a text are never
empty under a validated scheme, so the check for that, which comes last, never fails.
-/

namespace PathAccess

namespace Attributes

/-- A part of a query: a key, and behind the first equals sign the text of its values. -/
structure IsPart (piece : String) (pair : String × String) : Prop where
  text_eq : piece = pair.1 ++ "=" ++ pair.2
  key_ne_empty : pair.1 ≠ ""
  not_mem : '=' ∉ pair.1.toList

/-- The pieces of a query, which come after at most one question mark. -/
def IsQuery (query : String) (pieces : List String) : Prop :=
  ∃ body, (query = "?" ++ body ∨ (query = body ∧ query.toList.head? ≠ some '?')) ∧ Text.IsSplit '&' body pieces

/-- The map has every key where it first appears, with the values that were written for it last. -/
structure IsMapOf (pairs : List (String × String)) (m : Attributes) : Prop where
  keys_eq : m.keys = (pairs.map Prod.fst).eraseDups
  last_values : ∀ before key text after, pairs = before ++ (key, text) :: after → key ∉ after.map Prod.fst →
    ∃ values, m.get? key = some values ∧ Text.IsSplit ',' text values

/-! ### Parts -/

theorem readPiece_eq_ok {piece key : String} {values : List String} :
    readPiece piece = .ok (key, values) ↔ ∃ text, IsPart piece (key, text) ∧ values = Text.split ',' text := by
  unfold readPiece
  constructor
  · intro h
    split at h
    · rename_i key' text hcut
      split at h
      · simp at h
      · rename_i hne
        obtain ⟨rfl, rfl⟩ := Prod.mk.inj (Except.ok.inj h)
        obtain ⟨heq, hmem⟩ := Text.cutFirst_eq_some.1 hcut
        exact ⟨text, ⟨heq, by simpa using hne, hmem⟩, rfl⟩
    · simp at h
  · rintro ⟨text, hp, rfl⟩
    have hcut : Text.cutFirst '=' piece = some (key, text) := Text.cutFirst_eq_some.2 ⟨hp.text_eq, hp.not_mem⟩
    have hne : key ≠ "" := hp.key_ne_empty
    simp [hcut, hne]

private theorem error_of_readPiece {piece : String} {e : Fault} (h : readPiece piece = .error e) :
    e = .malformed (.attributeForm piece) := by
  unfold readPiece at h
  split at h
  · split at h
    · exact (Except.error.inj h).symm
    · simp at h
  · exact (Except.error.inj h).symm

theorem readPiece_eq_error {piece : String} {e : Fault} :
    readPiece piece = .error e ↔ (∀ pair, ¬IsPart piece pair) ∧ e = .malformed (.attributeForm piece) := by
  constructor
  · intro h
    refine ⟨fun ⟨key, text⟩ hp => ?_, error_of_readPiece h⟩
    rw [readPiece_eq_ok.2 ⟨text, hp, rfl⟩] at h
    simp at h
  · rintro ⟨hbad, rfl⟩
    cases h : readPiece piece with
    | ok p =>
      obtain ⟨text, hp, -⟩ := readPiece_eq_ok.1 h
      exact absurd hp (hbad _)
    | error e => rw [error_of_readPiece h]

/-- The constraints that result from writing the pairs one after the other. -/
def written (pairs : List (String × String)) : Attributes := .ofList (pairs.map fun e => (e.1, Text.split ',' e.2))

theorem readPieces_eq_ok {pieces : List String} {m n : Attributes} :
    readPieces pieces m = .ok n ↔ ∃ pairs, List.Forall₂ IsPart pieces pairs ∧
      n = (pairs.map fun e => (e.1, Text.split ',' e.2)).foldl (fun m e => m.put e.1 e.2) m := by
  induction pieces generalizing m with
  | nil => simp [readPieces, eq_comm]
  | cons piece pieces ih =>
    unfold readPieces
    constructor
    · intro h
      split at h
      · rename_i key values hp
        obtain ⟨text, hpart, rfl⟩ := readPiece_eq_ok.1 hp
        obtain ⟨pairs, hpairs, rfl⟩ := ih.1 h
        exact ⟨(key, text) :: pairs, .cons hpart hpairs, rfl⟩
      · simp at h
    · rintro ⟨pairs, hpairs, rfl⟩
      cases hpairs with
      | @cons _ pair _ pairs hpart hrest =>
        rw [readPiece_eq_ok.2 ⟨pair.2, hpart, rfl⟩]
        exact ih.2 ⟨pairs, hrest, rfl⟩

/-- The first part without the right form is the one that is refused. -/
theorem readPieces_eq_error {pieces : List String} {m : Attributes} {e : Fault} :
    readPieces pieces m = .error e ↔ ∃ before piece after pairs, pieces = before ++ piece :: after ∧
      List.Forall₂ IsPart before pairs ∧ (∀ pair, ¬IsPart piece pair) ∧ e = .malformed (.attributeForm piece) := by
  induction pieces generalizing m with
  | nil => simp [readPieces]
  | cons piece pieces ih =>
    unfold readPieces
    constructor
    · intro h
      split at h
      · rename_i key values hp
        obtain ⟨text, hpart, -⟩ := readPiece_eq_ok.1 hp
        obtain ⟨before, bad, after, pairs, rfl, hbefore, hbad⟩ := ih.1 h
        exact ⟨piece :: before, bad, after, (key, text) :: pairs, rfl, .cons hpart hbefore, hbad⟩
      · rename_i hp
        obtain rfl := Except.error.inj h
        exact ⟨[], piece, pieces, [], rfl, .nil, readPiece_eq_error.1 hp⟩
    · rintro ⟨before, bad, after, pairs, hpieces, hbefore, hbad⟩
      cases hbefore with
      | nil =>
        obtain ⟨rfl, rfl⟩ := List.cons_eq_cons.1 hpieces
        rw [readPiece_eq_error.2 hbad]
      | @cons _ pair _ pairs hpart hrest =>
        obtain ⟨rfl, rfl⟩ := List.cons_eq_cons.1 hpieces
        rw [readPiece_eq_ok.2 ⟨pair.2, hpart, rfl⟩]
        exact ih.2 ⟨_, bad, after, pairs, rfl, hrest, hbad⟩

/-! ### Queries -/

theorem isQuery_iff {query : String} {pieces : List String} :
    IsQuery query pieces ↔ pieces = Text.split '&' (Text.dropOne '?' query) := by
  constructor
  · rintro ⟨body, hbody, hsplit⟩
    have hdrop : Text.dropOne '?' query = body := Text.dropOne_eq_iff.2 hbody
    rw [hdrop]
    exact Text.isSplit_iff.1 hsplit
  · rintro rfl
    have hbody := (Text.dropOne_eq_iff (c := '?') (s := query)).1 rfl
    exact ⟨_, hbody, Text.isSplit_iff.2 rfl⟩

private theorem map_fst_written (pairs : List (String × String)) :
    (pairs.map fun e => (e.1, Text.split ',' e.2)).map Prod.fst = pairs.map Prod.fst := by
  simp [Function.comp_def]

/-- The map that the pairs write is the one that has the last values of every key. -/
theorem isMapOf_iff {pairs : List (String × String)} {m : Attributes} : IsMapOf pairs m ↔ m = written pairs := by
  have hkeys : (written pairs).keys = (pairs.map Prod.fst).eraseDups := by
    rw [written, OrderedMap.keys_ofList, map_fst_written]
  have hlast : ∀ before key text after, pairs = before ++ (key, text) :: after → key ∉ after.map Prod.fst →
      (written pairs).get? key = some (Text.split ',' text) := by
    rintro before key text after rfl hafter
    rw [written, List.map_append, List.map_cons]
    exact OrderedMap.get?_ofList _ _ _ (by rwa [map_fst_written])
  constructor
  · intro hm
    apply OrderedMap.ext_get? (hm.keys_eq.trans hkeys.symm)
    intro key
    -- a key that is written has a last pair, and one that is not is in neither map
    by_cases hk : key ∈ pairs.map Prod.fst
    · obtain ⟨before, text, after, hpairs, hafter⟩ := OrderedMap.exists_last hk
      obtain ⟨values, hv, hsplit⟩ := hm.last_values before key text after hpairs hafter
      rw [hv, hlast before key text after hpairs hafter, Text.isSplit_iff.1 hsplit]
    · have hnone : ∀ n : Attributes, n.keys = (pairs.map Prod.fst).eraseDups → n.get? key = none := by
        intro n hn
        rw [OrderedMap.get?_eq_none_iff, hn, List.mem_eraseDups]
        exact hk
      rw [hnone m hm.keys_eq, hnone _ hkeys]
  · rintro rfl
    refine ⟨hkeys, fun before key text after hpairs hafter => ?_⟩
    exact ⟨_, hlast before key text after hpairs hafter, Text.isSplit_iff.2 rfl⟩

theorem parse_eq_ok {query : String} {m : Attributes} :
    parse query = .ok m ↔
      ∃ pieces pairs, IsQuery query pieces ∧ List.Forall₂ IsPart pieces pairs ∧ IsMapOf pairs m := by
  simp only [parse, readPieces_eq_ok, isQuery_iff, isMapOf_iff]
  constructor
  · rintro ⟨pairs, hparts, hm⟩
    exact ⟨_, pairs, rfl, hparts, hm⟩
  · rintro ⟨_, pairs, rfl, hparts, hm⟩
    exact ⟨pairs, hparts, hm⟩

theorem parse_eq_error {query : String} {e : Fault} :
    parse query = .error e ↔ ∃ before piece after pairs, IsQuery query (before ++ piece :: after) ∧
      List.Forall₂ IsPart before pairs ∧ (∀ pair, ¬IsPart piece pair) ∧ e = .malformed (.attributeForm piece) := by
  simp only [parse, readPieces_eq_error, isQuery_iff]
  simp only [eq_comm (b := Text.split '&' (Text.dropOne '?' query))]

end Attributes

namespace Permission

open Attributes (IsPart IsQuery IsMapOf)

/-- What stands before the privileges: a path, perhaps with a query behind the first question mark. -/
inductive IsTarget : String → String → Option Attributes → Prop
  | plain {path : String} (hpath : '?' ∉ path.toList) : IsTarget path path none
  | constrained {path query : String} {pieces : List String} {pairs : List (String × String)} {m : Attributes}
      (hpath : '?' ∉ path.toList) (hquery : IsQuery query pieces) (hparts : List.Forall₂ IsPart pieces pairs)
      (hm : IsMapOf pairs m) : IsTarget (path ++ "?" ++ query) path (some m)

/-- The first piece of the query that is no part. -/
inductive HasBadPart : String → String → Prop
  | mk {path query piece : String} {before after : List String} {pairs : List (String × String)}
      (hpath : '?' ∉ path.toList) (hquery : IsQuery query (before ++ piece :: after))
      (hbefore : List.Forall₂ IsPart before pairs) (hbad : ∀ pair, ¬IsPart piece pair) :
      HasBadPart (path ++ "?" ++ query) piece

/-- What a text is read as, given what the texts of privileges are read as. -/
inductive Reading (resolve : String → Except Fault Privileges) : String → Except Fault Permission → Prop
  | noDelimiter {text : String} (h : ':' ∉ text.toList) : Reading resolve text (.error (.malformed .noDelimiter))
  | badPrivileges {target privileges : String} {e : Fault} (hp : ':' ∉ privileges.toList)
      (hr : resolve privileges = .error e) : Reading resolve (target ++ ":" ++ privileges) (.error e)
  | badPart {target privileges piece : String} {s : Privileges} (hp : ':' ∉ privileges.toList)
      (hr : resolve privileges = .ok s) (ht : HasBadPart target piece) :
      Reading resolve (target ++ ":" ++ privileges) (.error (.malformed (.attributeForm piece)))
  | emptyPath {target privileges : String} {s : Privileges} {attributes : Option Attributes}
      (hp : ':' ∉ privileges.toList) (hr : resolve privileges = .ok s) (ht : IsTarget target "" attributes) :
      Reading resolve (target ++ ":" ++ privileges) (.error (.malformed .emptyPath))
  | permission {target privileges path : String} {s : Privileges} {attributes : Option Attributes}
      (hp : ':' ∉ privileges.toList) (hr : resolve privileges = .ok s) (ht : IsTarget target path attributes)
      (hpath : path ≠ "") : Reading resolve (target ++ ":" ++ privileges) (.ok ⟨path, attributes, s⟩)

theorem readTarget_eq_ok {target path : String} {attributes : Option Attributes} :
    readTarget target = .ok (path, attributes) ↔ IsTarget target path attributes := by
  unfold readTarget
  constructor
  · intro h
    split at h
    · rename_i path' query hcut
      obtain ⟨rfl, hmem⟩ := Text.cutFirst_eq_some.1 hcut
      cases hq : Attributes.parse query with
      | error e => simp [hq, Except.map] at h
      | ok m =>
        simp only [hq, Except.map, Except.ok.injEq, Prod.mk.injEq] at h
        obtain ⟨rfl, rfl⟩ := h
        obtain ⟨pieces, pairs, hquery, hparts, hm⟩ := Attributes.parse_eq_ok.1 hq
        exact .constrained hmem hquery hparts hm
    · rename_i hcut
      obtain ⟨rfl, rfl⟩ := Prod.mk.inj (Except.ok.inj h)
      exact .plain (Text.cutFirst_eq_none.1 hcut)
  · intro h
    cases h with
    | plain hpath => rw [Text.cutFirst_eq_none.2 hpath]
    | @constrained _ query _ _ _ hpath hquery hparts hm =>
      have hcut : Text.cutFirst '?' (path ++ "?" ++ query) = some (path, query) :=
        Text.cutFirst_eq_some.2 ⟨rfl, hpath⟩
      rw [hcut]
      dsimp only
      rw [Attributes.parse_eq_ok.2 ⟨_, _, hquery, hparts, hm⟩]
      rfl

theorem readTarget_eq_error {target : String} {e : Fault} :
    readTarget target = .error e ↔ ∃ piece, HasBadPart target piece ∧ e = .malformed (.attributeForm piece) := by
  unfold readTarget
  constructor
  · intro h
    split at h
    · rename_i path query hcut
      obtain ⟨rfl, hmem⟩ := Text.cutFirst_eq_some.1 hcut
      cases hq : Attributes.parse query with
      | ok m => simp [hq, Except.map] at h
      | error e' =>
        simp only [hq, Except.map, Except.error.injEq] at h
        subst h
        obtain ⟨before, piece, after, pairs, hquery, hbefore, hbad, rfl⟩ := Attributes.parse_eq_error.1 hq
        exact ⟨piece, .mk hmem hquery hbefore hbad, rfl⟩
    · simp at h
  · rintro ⟨piece, h, rfl⟩
    cases h with
    | @mk path query _ _ _ _ hpath hquery hbefore hbad =>
      have hcut : Text.cutFirst '?' (path ++ "?" ++ query) = some (path, query) :=
        Text.cutFirst_eq_some.2 ⟨rfl, hpath⟩
      rw [hcut]
      dsimp only
      rw [Attributes.parse_eq_error.2 ⟨_, _, _, _, hquery, hbefore, hbad, rfl⟩]
      rfl

/-! ### Permissions -/

variable {c : Scheme} {text : String} {r : Except Fault Permission}

private theorem reading_of_parseText (hc : c.WellFormed) (h : parseText c text = r) :
    Reading (fun privileges => c.readTexts [privileges]) text r := by
  rw [parseText_eq] at h
  split at h
  · rename_i hcut
    subst h
    exact .noDelimiter (Text.cutLast_eq_none.1 hcut)
  · rename_i target privileges hcut
    obtain ⟨rfl, hp⟩ := Text.cutLast_eq_some.1 hcut
    split at h
    · rename_i hr
      subst h
      exact .badPrivileges hp hr
    · rename_i hr ht
      obtain ⟨piece, hbad, rfl⟩ := readTarget_eq_error.1 ht
      subst h
      exact .badPart hp hr hbad
    · rename_i s path attributes hr ht
      have htarget := readTarget_eq_ok.1 ht
      -- the check for an empty mask stands last and never fails
      rw [if_neg (hc.readTexts_ne_zero hr)] at h
      split at h
      · rename_i hpath
        subst h hpath
        exact .emptyPath hp hr htarget
      · rename_i hpath
        subst h
        exact .permission hp hr htarget hpath

private theorem parseText_of_reading (hc : c.WellFormed)
    (h : Reading (fun privileges => c.readTexts [privileges]) text r) : parseText c text = r := by
  rw [parseText_eq]
  have hcut : ∀ {target privileges : String}, ':' ∉ privileges.toList →
      Text.cutLast ':' (target ++ ":" ++ privileges) = some (target, privileges) :=
    fun hp => Text.cutLast_eq_some.2 ⟨rfl, hp⟩
  cases h with
  | noDelimiter h => rw [Text.cutLast_eq_none.2 h]
  | badPrivileges hp hr => simp only [hcut hp, hr]
  | badPart hp hr ht => simp only [hcut hp, hr, readTarget_eq_error.2 ⟨_, ht, rfl⟩]
  | emptyPath hp hr ht => simp only [hcut hp, hr, readTarget_eq_ok.2 ht, ↓reduceIte]
  | permission hp hr ht hpath =>
    simp only [hcut hp, hr, readTarget_eq_ok.2 ht, hpath, hc.readTexts_ne_zero hr, ↓reduceIte]

/-- Under a validated scheme, reading a text as a permission gives what the grammar says, and for a text that is not
in the grammar the fault that counts. -/
theorem parse_eq_iff_reading (explicit : Option Scheme) (active : Scheme) (hc : (explicit.getD active).IsValidated)
    (text : String) (r : Except Fault Permission) :
    parse (.text text) explicit active = r ↔
      Reading (fun privileges => Privileges.resolve (.text privileges) explicit active) text r := by
  have hparse : parse (.text text) explicit active = parseText (explicit.getD active) text := rfl
  have hresolve : (fun privileges => Privileges.resolve (.text privileges) explicit active) =
      fun privileges => (explicit.getD active).readTexts [privileges] := rfl
  rw [hparse, hresolve]
  exact ⟨reading_of_parseText hc.wellFormed, parseText_of_reading hc.wellFormed⟩

/-- A key that is written twice has the values written last, at the place of the first. -/
theorem reading_of_repeated_key :
    Scheme.standard.IsValidated ∧
      Reading (fun privileges => Privileges.resolve (.text privileges) none Scheme.standard) "/a?x=1&y=4&x=2,3:r"
        (.ok ⟨"/a", some (.ofList [("x", ["2", "3"]), ("y", ["4"])]), ⟨Mask.bit 1, .standard⟩⟩) := by
  refine ⟨Scheme.standard_isValidated, ?_⟩
  apply (parse_eq_iff_reading none Scheme.standard Scheme.standard_isValidated _ _).1
  exact eq_ok_of_toOption (by decide +kernel)

end Permission

end PathAccess
