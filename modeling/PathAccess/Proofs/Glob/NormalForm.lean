import Mathlib.Data.List.Basic
import PathAccess.Proofs.Glob.Compilation

/-!
# The normal form of a pattern

Of a run of stars only two things count: whether there are two stars or more, and whether the run is a whole segment.
So every run may be cut short, to two stars where both are the case and to one star anywhere else (`Glob.normalForm`).
What stands beside a run is not changed by this, so that the next run is cut as it would have been, and the second time
nothing is left to be cut.

The tokens of a pattern and of its normal form are the same (`Glob.tokensAfter_normalAfter`), and so are their last
characters.  So the two compile to the same expression, open or exact (`Glob.toRegex_normalForm`).
-/

namespace PathAccess.Glob

instance (before after : List Char) : Decidable (IsFlanked before after) :=
  inferInstanceAs (Decidable ((_ ∨ _) ∧ (_ ∨ _)))

/-- How many stars a run of stars comes to. -/
def normalCount (before : List Char) (count : Nat) (after : List Char) : Nat :=
  if 2 ≤ count ∧ IsFlanked before after then 2 else 1

/-- The rest of a pattern, with `before` behind it, in which every maximal run of stars is replaced by as many stars as
it comes to.  They take the place of its first star. -/
def normalAfter (before : List Char) : List Char → List Char
  | [] => []
  | c :: rest =>
    if c ≠ '*' then c :: normalAfter (before ++ [c]) rest
    else if before.getLast? = some '*' then normalAfter (before ++ [c]) rest
    else
      stars (normalCount before ((c :: rest).takeWhile (· = '*')).length ((c :: rest).dropWhile (· = '*'))) ++
        normalAfter (before ++ [c]) rest

/-- The pattern in which every run of stars is as short as it can be. -/
def normalForm (pattern : List Char) : List Char := normalAfter [] pattern

variable {before before' rest after after' : List Char} {n : Nat}

/-! ### The length of a run -/

theorem isFlanked_congr (hb : before.getLast? = before'.getLast?) (ha : after.head? = after'.head?) :
    IsFlanked before after ↔ IsFlanked before' after' := by
  have hbefore : before = [] ↔ before' = [] := by
    rw [← List.getLast?_eq_none_iff, hb, List.getLast?_eq_none_iff]
  have hafter : after = [] ↔ after' = [] := by
    rw [← List.head?_eq_none_iff, ha, List.head?_eq_none_iff]
  rw [IsFlanked, IsFlanked, hbefore, hafter, hb, ha]

theorem normalCount_congr (n : Nat) (hb : before.getLast? = before'.getLast?) (ha : after.head? = after'.head?) :
    normalCount before n after = normalCount before' n after' := by
  simp only [normalCount, isFlanked_congr hb ha]

theorem normalCount_pos (before : List Char) (n : Nat) (after : List Char) : 0 < normalCount before n after := by
  unfold normalCount
  split <;> omega

/-- A run is still a whole segment of two stars or more if it was one. -/
theorem two_le_normalCount_iff :
    2 ≤ normalCount before n after ∧ IsFlanked before after ↔ 2 ≤ n ∧ IsFlanked before after := by
  unfold normalCount
  split
  · rename_i h
    simp [h.1, h.2]
  · rename_i h
    simp [h]

theorem normalCount_normalCount :
    normalCount before (normalCount before n after) after = normalCount before n after := by
  conv => lhs; rw [normalCount]
  simp only [two_le_normalCount_iff]
  rfl

/-! ### Characters and runs -/

theorem normalAfter_literal {c : Char} (hc : c ≠ '*') :
    normalAfter before (c :: rest) = c :: normalAfter (before ++ [c]) rest := by
  rw [normalAfter, if_pos hc]

private theorem normalAfter_inside (hb : before.getLast? = some '*') :
    normalAfter before (stars n ++ after) = normalAfter (before ++ stars n) after := by
  induction n generalizing before with
  | zero => simp [stars]
  | succ n ih =>
    have hcons : stars (n + 1) ++ after = '*' :: (stars n ++ after) := rfl
    have hmore : before ++ ['*'] ++ stars n = before ++ stars (n + 1) := by
      rw [List.append_assoc]
      rfl
    rw [hcons, normalAfter, if_neg (by simp), if_pos hb, ih (by simp), hmore]

private theorem takeWhile_stars (ha : after.head? ≠ some '*') :
    (stars n ++ after).takeWhile (· = '*') = stars n ∧ (stars n ++ after).dropWhile (· = '*') = after := by
  have hall : ∀ c ∈ stars n, decide (c = '*') = true := by
    intro c hc
    simp [List.eq_of_mem_replicate hc]
  rw [List.takeWhile_append_of_pos hall, List.dropWhile_append_of_pos hall]
  cases after with
  | nil => simp
  | cons c after =>
    have hc : c ≠ '*' := by simpa using ha
    simp [hc]

/-- A run is replaced as a whole. -/
theorem normalAfter_run (hn : IsRun before n after) :
    normalAfter before (stars n ++ after) =
      stars (normalCount before n after) ++ normalAfter (before ++ stars n) after := by
  obtain ⟨m, rfl⟩ : ∃ m, n = m + 1 := ⟨n - 1, by have := hn.count_pos; omega⟩
  obtain ⟨htake, hdrop⟩ := takeWhile_stars (n := m + 1) hn.after_ne
  have hcons : stars (m + 1) ++ after = '*' :: (stars m ++ after) := rfl
  have hmore : before ++ ['*'] ++ stars m = before ++ stars (m + 1) := by
    rw [List.append_assoc]
    rfl
  have hlength : (stars (m + 1)).length = m + 1 := by simp [stars]
  rw [hcons] at htake hdrop ⊢
  rw [normalAfter, if_neg (by simp), if_neg hn.before_ne, htake, hdrop, hlength, normalAfter_inside (by simp), hmore]

/-- Of what is behind, only the last character counts. -/
theorem normalAfter_congr (hb : before.getLast? = before'.getLast?) :
    normalAfter before rest = normalAfter before' rest := by
  induction rest generalizing before before' with
  | nil => rfl
  | cons c rest ih =>
    have hnext : normalAfter (before ++ [c]) rest = normalAfter (before' ++ [c]) rest := ih (by simp)
    simp only [normalAfter, hnext, hb, normalCount_congr _ hb rfl]

theorem head?_normalAfter (h : rest.head? ≠ some '*') : (normalAfter before rest).head? = rest.head? := by
  cases rest with
  | nil => rfl
  | cons c rest =>
    have hc : c ≠ '*' := by simpa using h
    rw [normalAfter_literal hc]
    rfl

/-- The run that a run is replaced by. -/
theorem IsRun.normal (hn : IsRun before n after) :
    IsRun before (normalCount before n after) (normalAfter (before ++ stars n) after) where
  count_pos := normalCount_pos before n after
  before_ne := hn.before_ne
  after_ne := by
    rw [head?_normalAfter hn.after_ne]
    exact hn.after_ne

theorem getLast?_normalAfter (hb : before.getLast? = some '*' → rest.head? ≠ some '*') :
    (normalAfter before rest).getLast? = rest.getLast? := by
  induction rest using runs_induction generalizing before with
  | nil => rfl
  | literal c rest hc ih =>
    rw [normalAfter_literal hc, List.getLast?_cons, List.getLast?_cons, ih (by simp [hc])]
  | run n after hn ha ih =>
    have hlast : ∀ m, 0 < m → (stars m).getLast? = some '*' := fun m hm => getLast?_stars [] hm
    rw [normalAfter_run (isRun_of_next hn ha hb), List.getLast?_append, List.getLast?_append, ih fun _ => ha,
      hlast n hn, hlast _ (normalCount_pos before n after)]

/-! ### The same tokens -/

/-- The token of a run.  A globstar takes the token of the slash behind it along. -/
theorem tokensAfter_isRun (hn : IsRun before n after) :
    tokensAfter before.getLast? (pieces (stars n ++ after)) =
      if 2 ≤ n ∧ IsFlanked before after then .globstar :: (tokensAfter (some '*') (pieces after)).tail
      else .star :: tokensAfter (some '*') (pieces after) := by
  split
  · rename_i hflank
    rw [tokensAfter_segments hn hflank]
    cases after with
    | nil => rfl
    | cons c after =>
      have hc : c ≠ '*' := by simpa using hn.after_ne
      rw [tokensAfter_literal _ hc]
      simp
  · rename_i hflank
    exact tokensAfter_run hn hflank

theorem tokensAfter_normalAfter (hb : before.getLast? = some '*' → rest.head? ≠ some '*') :
    tokensAfter before.getLast? (pieces (normalAfter before rest)) = tokensAfter before.getLast? (pieces rest) := by
  induction rest using runs_induction generalizing before with
  | nil => rfl
  | literal c rest hc ih =>
    have hrest : tokensAfter (some c) (pieces (normalAfter (before ++ [c]) rest)) =
        tokensAfter (some c) (pieces rest) := by
      simpa using @ih (before ++ [c]) (by simp [hc])
    rw [normalAfter_literal hc, tokensAfter_literal _ hc, tokensAfter_literal _ hc, hrest]
  | run n after hn ha ih =>
    have hrun := isRun_of_next hn ha hb
    have hafter := @ih (before ++ stars n) fun _ => ha
    rw [getLast?_stars before hn] at hafter
    have hflank : IsFlanked before (normalAfter (before ++ stars n) after) ↔ IsFlanked before after :=
      isFlanked_congr rfl (head?_normalAfter ha)
    rw [normalAfter_run hrun, tokensAfter_isRun hrun.normal, tokensAfter_isRun hrun, hafter]
    simp only [hflank, two_le_normalCount_iff]

theorem tokens_normalForm (pattern : List Char) : tokens (normalForm pattern) = tokens pattern :=
  @tokensAfter_normalAfter [] pattern (by simp)

theorem toRegex_normalForm (pattern : List Char) (isOpen : Bool) :
    toRegex (normalForm pattern) isOpen = toRegex pattern isOpen := by
  have hlast : (normalForm pattern).getLast? = pattern.getLast? := getLast?_normalAfter (by simp)
  simp only [toRegex, openEnding, hlast, tokens_normalForm]

/-! ### Nothing is left to be cut -/

theorem normalAfter_normalAfter (hb : before.getLast? = some '*' → rest.head? ≠ some '*') :
    normalAfter before (normalAfter before rest) = normalAfter before rest := by
  induction rest using runs_induction generalizing before with
  | nil => rfl
  | literal c rest hc ih => rw [normalAfter_literal hc, normalAfter_literal hc, ih (by simp [hc])]
  | run n after hn ha ih =>
    have hrun := isRun_of_next hn ha hb
    -- behind the shorter run the rest is cut as behind the longer one
    have hrest : normalAfter (before ++ stars (normalCount before n after)) (normalAfter (before ++ stars n) after) =
        normalAfter (before ++ stars n) (normalAfter (before ++ stars n) after) := by
      apply normalAfter_congr
      rw [getLast?_stars before hn, getLast?_stars before (normalCount_pos before n after)]
    rw [normalAfter_run hrun, normalAfter_run hrun.normal, hrest, ih fun _ => ha,
      normalCount_congr _ rfl (head?_normalAfter ha), normalCount_normalCount]

/-- What stands before a run is cut as it is without the run. -/
theorem normalAfter_append (hb : before.getLast? = some '*' → rest.head? ≠ some '*')
    (hrest : rest.getLast? ≠ some '*') :
    normalAfter before (rest ++ after) = normalAfter before rest ++ normalAfter (before ++ rest) after := by
  induction rest using runs_induction generalizing before with
  | nil => simp [normalAfter]
  | literal c rest hc ih =>
    have hlast : rest.getLast? ≠ some '*' := by
      intro h
      simp [List.getLast?_cons, h] at hrest
    rw [List.cons_append, normalAfter_literal hc, normalAfter_literal hc, ih (by simp [hc]) hlast]
    simp
  | run n s hn hs ih =>
    have hlast : s.getLast? ≠ some '*' := by
      intro h
      simp [h] at hrest
    have hne : s ≠ [] := by
      rintro rfl
      simp [stars, List.getLast?_replicate, Nat.ne_of_gt hn] at hrest
    have hhead : (s ++ after).head? = s.head? := List.head?_append_of_ne_nil s hne
    have hrun := isRun_of_next hn hs hb
    have hrun' : IsRun before n (s ++ after) := ⟨hn, hrun.before_ne, by rwa [hhead]⟩
    rw [List.append_assoc, normalAfter_run hrun, normalAfter_run hrun', ih (fun _ => hs) hlast,
      normalCount_congr n rfl hhead]
    simp

/-- **Star runs have a normal form.**  A pattern and its normal form compile to the same expression, open or exact, and
a normal form is its own normal form.  It comes from the pattern by replacing every maximal run of stars, by two stars
if the run is two stars or more between slashes or ends of the pattern, and by one star otherwise. -/
theorem compile_normalForm (pattern : String) (isOpen : Bool) :
    (toRegex (normalForm pattern.toList) isOpen).text = (toRegex pattern.toList isOpen).text ∧
      normalForm (normalForm pattern.toList) = normalForm pattern.toList ∧
      ∀ before n after, pattern.toList = before ++ (stars n ++ after) → IsRun before n after →
        normalForm pattern.toList = normalForm before ++
          (stars (if 2 ≤ n ∧ IsFlanked before after then 2 else 1) ++ normalAfter (before ++ stars n) after) := by
  refine ⟨congrArg Regex.text (toRegex_normalForm _ _), normalAfter_normalAfter (by simp), ?_⟩
  intro before n after hpattern hn
  rw [hpattern, normalForm, normalAfter_append (by simp) hn.before_ne, List.nil_append, normalAfter_run hn]
  rfl

/-- Longer runs, of which only the second and the last are whole segments. -/
theorem compile_normalForm_of_mixed_runs :
    let pattern := "a***/****/**b**/***"
    normalForm pattern.toList = "a*/**/*b*/**".toList ∧
      (toRegex "a*/**/*b*/**".toList true).text = (toRegex pattern.toList true).text ∧
      normalForm "a*/**/*b*/**".toList = "a*/**/*b*/**".toList ∧
      IsRun "a***/".toList 4 "/**b**/***".toList ∧
      normalForm pattern.toList = normalForm "a***/".toList ++
        ("**".toList ++ normalAfter "a***/****".toList "/**b**/***".toList) := by
  intro pattern
  have hform : normalForm pattern.toList = "a*/**/*b*/**".toList := by decide +kernel
  have hrun : IsRun "a***/".toList 4 "/**b**/***".toList := ⟨by decide, by decide, by decide⟩
  obtain ⟨htext, hagain, hruns⟩ := compile_normalForm pattern true
  have hcut := hruns "a***/".toList 4 "/**b**/***".toList (by decide) hrun
  rw [hform] at htext hagain
  exact ⟨hform, htext, hagain, hrun, hcut⟩

end PathAccess.Glob
