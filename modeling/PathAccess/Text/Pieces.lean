/-!
# Cutting and joining text

A permission text is taken apart at single separator characters: at every one of them (`split`), at the first
(`cutFirst`) or at the last (`cutLast`).  A text with `n` separators has `n + 1` pieces, so no text has none, and
`join` puts the pieces together again.
-/

namespace PathAccess.Text

/-- The pieces of `s` between the separators. -/
def split (sep : Char) (s : String) : List String :=
  (s.toList.splitOn sep).map String.ofList

/-- Puts pieces together with `sep` between neighbours. -/
def join (sep : String) (pieces : List String) : String :=
  String.ofList (List.intercalate sep.toList (pieces.map String.toList))

/-- What stands before and after the first `sep`, if there is one. -/
def cutAtFirst (sep : Char) : List Char → Option (List Char × List Char)
  | [] => none
  | c :: s => if c = sep then some ([], s) else (cutAtFirst sep s).map fun p => (c :: p.1, p.2)

/-- What stands before and after the last `sep`, if there is one. -/
def cutAtLast (sep : Char) : List Char → Option (List Char × List Char)
  | [] => none
  | c :: s =>
    match cutAtLast sep s with
    | some p => some (c :: p.1, p.2)
    | none => if c = sep then some ([], s) else none

/-- What stands before and after the first `sep` of a text. -/
def cutFirst (sep : Char) (s : String) : Option (String × String) :=
  (cutAtFirst sep s.toList).map fun p => (String.ofList p.1, String.ofList p.2)

/-- What stands before and after the last `sep` of a text. -/
def cutLast (sep : Char) (s : String) : Option (String × String) :=
  (cutAtLast sep s.toList).map fun p => (String.ofList p.1, String.ofList p.2)

/-- The text without its first character, if that is `c`. -/
def dropOne (c : Char) (s : String) : String :=
  match s.toList with
  | d :: r => if d = c then String.ofList r else s
  | [] => s

/-- The text without the run of `c` at its start. -/
def dropAll (c : Char) (s : String) : String := String.ofList (s.toList.dropWhile (· = c))

theorem split_ne_nil (sep : Char) (s : String) : split sep s ≠ [] := by
  simp [split]

/-- Joining undoes splitting. -/
theorem join_split (sep : Char) (s : String) : join (String.singleton sep) (split sep s) = s := by
  simp [join, split, Function.comp_def, List.intercalate_splitOn]

theorem cutAtFirst_eq_some {sep : Char} {s l r : List Char} :
    cutAtFirst sep s = some (l, r) ↔ s = l ++ sep :: r ∧ sep ∉ l := by
  induction s generalizing l with
  | nil => simp [cutAtFirst]
  | cons c s ih =>
    unfold cutAtFirst
    split
    · rename_i h
      subst h
      cases l with
      | nil => simp [eq_comm]
      | cons a l => simp; intro h; simp [h]
    · rename_i h
      cases l with
      | nil => simp [h]
      | cons a l => simp [ih]; grind

theorem cutAtFirst_eq_none {sep : Char} {s : List Char} : cutAtFirst sep s = none ↔ sep ∉ s := by
  induction s with
  | nil => simp [cutAtFirst]
  | cons c s ih =>
    unfold cutAtFirst
    split
    · grind
    · rw [Option.map_eq_none_iff]
      grind

theorem cutAtLast_eq_none {sep : Char} {s : List Char} : cutAtLast sep s = none ↔ sep ∉ s := by
  induction s with
  | nil => simp [cutAtLast]
  | cons c s ih =>
    unfold cutAtLast
    split <;> grind

theorem cutAtLast_eq_some {sep : Char} {s l r : List Char} :
    cutAtLast sep s = some (l, r) ↔ s = l ++ sep :: r ∧ sep ∉ r := by
  induction s generalizing l with
  | nil => simp [cutAtLast]
  | cons c s ih =>
    cases h : cutAtLast sep s with
    | none =>
      have hs : sep ∉ s := cutAtLast_eq_none.1 h
      simp only [cutAtLast, h]
      cases l with
      | nil => grind
      | cons a l => grind
    | some p =>
      have hp := (ih (l := p.1)).1
      simp only [cutAtLast, h]
      cases l with
      | nil =>
        have hm : sep ∈ s := by
          by_cases hn : sep ∈ s
          · exact hn
          · rw [cutAtLast_eq_none.2 hn] at h; simp at h
        simp
        grind
      | cons a l =>
        have := ih (l := l)
        rw [h] at this
        grind

end PathAccess.Text
