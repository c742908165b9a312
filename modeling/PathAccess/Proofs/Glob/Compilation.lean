import PathAccess.Glob.Match
import PathAccess.Proofs.Glob.RegexMeaning

/-!
# The compiler of path patterns

What a pattern matches is said here on its characters alone (`Fits`): a position in the pattern splits it into what
comes before and what is left, and a position in the text is what is left of the text.  The written expression of
every pattern is well formed, and it accepts exactly the texts that the pattern matches, and so does the matcher that
goes by tokens (`compile_preserves_meaning`).

Both go through the tokens.  The characters before a position and the tokens still to come are related by `Reached`,
which every step of `Fits` preserves, and which says at the end of the pattern how the pattern ends.
-/

namespace PathAccess.Glob

/-- A run of stars. -/
def stars (count : Nat) : List Char := List.replicate count '*'

theorem getLast?_stars (before : List Char) {n : Nat} (hn : 0 < n) :
    (before ++ stars n).getLast? = some '*' := by
  simp [stars, List.getLast?_replicate, Nat.ne_of_gt hn]

/-- Between what is before and what is after there are so many stars, and no star beside them. -/
structure IsRun (before : List Char) (count : Nat) (after : List Char) : Prop where
  count_pos : 0 < count
  before_ne : before.getLast? ≠ some '*'
  after_ne : after.head? ≠ some '*'

/-- Where stars come next that no star follows, they are a run. -/
theorem isRun_of_next {before after : List Char} {n : Nat} (hn : 0 < n) (ha : after.head? ≠ some '*')
    (hb : before.getLast? = some '*' → (stars n ++ after).head? ≠ some '*') : IsRun before n after where
  count_pos := hn
  before_ne := by
    intro hstar
    obtain ⟨n, rfl⟩ : ∃ m, n = m + 1 := ⟨n - 1, by omega⟩
    exact hb hstar rfl
  after_ne := ha

/-- A slash, or an end of the pattern, on both sides. -/
def IsFlanked (before after : List Char) : Prop :=
  (before = [] ∨ before.getLast? = some '/') ∧ (after = [] ∨ after.head? = some '/')

/-- With `before` behind it, the rest of a pattern, open or exact, matches a text up to a permitted ending.  The flag
says whether the last character was a slash that stood for itself. -/
inductive Fits (isOpen : Bool) : List Char → List Char → Bool → List Char → Prop
  /-- A character that is no star matches itself. -/
  | literal {before rest : List Char} {c : Char} {slash : Bool} {t : List Char} (hc : c ≠ '*')
      (h : Fits isOpen (before ++ [c]) rest (c = '/') t) : Fits isOpen before (c :: rest) slash (c :: t)
  /-- Other stars match any text without a slash. -/
  | run {before rest after : List Char} {n : Nat} {slash : Bool} {s u t : List Char} (hn : IsRun before n after)
      (hrest : rest = stars n ++ after) (hflank : ¬(2 ≤ n ∧ IsFlanked before after)) (hu : '/' ∉ u) (hs : s = u ++ t)
      (h : Fits isOpen (before ++ stars n) after false t) : Fits isOpen before rest slash s
  /-- Two or more stars between slashes, with the slash behind them, match a text that is empty or ends in a slash or
  at the end. -/
  | segments {before rest after : List Char} {n : Nat} {slash : Bool} {s u t : List Char} (hn : IsRun before n after)
      (hrest : rest = stars n ++ after) (hflank : 2 ≤ n ∧ IsFlanked before after)
      (hu : u = [] ∨ u.getLast? = some '/' ∨ IsFinal t) (hs : s = u ++ t)
      (h : Fits isOpen (before ++ stars n ++ after.take 1) (after.drop 1) false t) : Fits isOpen before rest slash s
  | finish {before : List Char} {slash : Bool} {t : List Char} (ht : IsFinal t) : Fits isOpen before [] slash t
  /-- An open pattern without a star at its end also matches below its paths. -/
  | beneath {before : List Char} {slash : Bool} {t : List Char} (ho : isOpen = true)
      (hb : before.getLast? ≠ some '*') (ht : t.head? = some '/') : Fits isOpen before [] slash t
  /-- After a slash that stands for itself, an open pattern matches anything. -/
  | anything {before t : List Char} (ho : isOpen = true) : Fits isOpen before [] true t

/-! ### The tokens of a pattern, from left to right -/

private theorem pieces_cons {c : Char} (hc : c ≠ '*') (rest : List Char) :
    pieces (c :: rest) = .char c :: pieces rest := by
  simp [pieces, hc]

private theorem pieces_stars {n : Nat} (hn : 0 < n) {after : List Char} (ha : after.head? ≠ some '*') :
    pieces (stars n ++ after) = .stars n :: pieces after := by
  induction n with
  | zero => omega
  | succ n ih =>
    have hcons : stars (n + 1) ++ after = '*' :: (stars n ++ after) := rfl
    rw [hcons, pieces, if_pos rfl]
    rcases Nat.eq_zero_or_pos n with rfl | hn
    · cases after with
      | nil => rfl
      | cons c after =>
        have hc : c ≠ '*' := by simpa using ha
        simp [stars, pieces_cons hc]
    · rw [ih hn]

private theorem nextChar_pieces {after : List Char} (ha : after.head? ≠ some '*') :
    nextChar (pieces after) = after.head? := by
  cases after with
  | nil => rfl
  | cons c after =>
    have hc : c ≠ '*' := by simpa using ha
    rw [pieces_cons hc]
    rfl

private theorem isEdge_iff (neighbour : Option Char) :
    isEdge neighbour = true ↔ neighbour = none ∨ neighbour = some '/' := by
  cases neighbour <;> simp [isEdge]

theorem tokensAfter_literal (before : Option Char) {c : Char} (hc : c ≠ '*') (rest : List Char) :
    tokensAfter before (pieces (c :: rest)) = .literal c :: tokensAfter (some c) (pieces rest) := by
  rw [pieces_cons hc, tokensAfter]

private theorem isGlobstar_iff {before after : List Char} {n : Nat} (hn : IsRun before n after) :
    (2 ≤ n && isEdge before.getLast? && isEdge (nextChar (pieces after))) = true ↔
      2 ≤ n ∧ IsFlanked before after := by
  rw [nextChar_pieces hn.after_ne]
  simp only [Bool.and_eq_true, decide_eq_true_eq, and_assoc, isEdge_iff, List.getLast?_eq_none_iff,
    List.head?_eq_none_iff, IsFlanked]

theorem tokensAfter_stars (before : Option Char) (n : Nat) (ps : List Piece) :
    tokensAfter before (.stars n :: ps) =
      if 2 ≤ n && isEdge before && isEdge (nextChar ps) then
        .globstar :: tokensAfter (nextChar (ps.take 1)) (ps.drop 1)
      else .star :: tokensAfter (some '*') ps := by
  cases ps <;> rfl

/-- Stars that are no whole segment become a star. -/
theorem tokensAfter_run {before after : List Char} {n : Nat} (hn : IsRun before n after)
    (hflank : ¬(2 ≤ n ∧ IsFlanked before after)) :
    tokensAfter before.getLast? (pieces (stars n ++ after)) = .star :: tokensAfter (some '*') (pieces after) := by
  rw [pieces_stars hn.count_pos hn.after_ne, tokensAfter_stars, if_neg (mt (isGlobstar_iff hn).1 hflank)]

/-- Stars that are a whole segment become a globstar, which takes the slash behind them along. -/
theorem tokensAfter_segments {before after : List Char} {n : Nat} (hn : IsRun before n after)
    (hflank : 2 ≤ n ∧ IsFlanked before after) :
    tokensAfter before.getLast? (pieces (stars n ++ after)) =
      .globstar :: tokensAfter (before ++ stars n ++ after.take 1).getLast? (pieces (after.drop 1)) := by
  rw [pieces_stars hn.count_pos hn.after_ne, tokensAfter_stars, if_pos ((isGlobstar_iff hn).2 hflank)]
  cases after with
  | nil => rfl
  | cons c after =>
    have hc : c ≠ '*' := by simpa using hn.after_ne
    rw [pieces_cons hc]
    simp [nextChar]

/-! ### Positions in a pattern -/

/-- A position in a pattern, and how the tokens before it and the ones still to come make up its tokens. -/
structure Reached (pattern before rest : List Char) (slash : Bool) (done : List Token) : Prop where
  split : before ++ rest = pattern
  tokens_eq : done ++ tokensAfter before.getLast? (pieces rest) = tokens pattern
  slash_iff : slash = true ↔ done.getLast? = some (.literal '/')
  last_of_slash : slash = true → before.getLast? = some '/'
  next_ne : before.getLast? = some '*' → rest.head? ≠ some '*'

namespace Reached

variable {pattern before rest after : List Char} {slash : Bool} {done : List Token}

theorem initial (pattern : List Char) : Reached pattern [] pattern false [] where
  split := rfl
  tokens_eq := rfl
  slash_iff := by simp
  last_of_slash := by simp
  next_ne := by simp

theorem literal {c : Char} (h : Reached pattern before (c :: rest) slash done) (hc : c ≠ '*') :
    Reached pattern (before ++ [c]) rest (c = '/') (done ++ [.literal c]) where
  split := by simpa using h.split
  tokens_eq := by simpa [tokensAfter_literal _ hc] using h.tokens_eq
  slash_iff := by simp
  last_of_slash := by simp
  next_ne := by simp [hc]

theorem run {n : Nat} (h : Reached pattern before (stars n ++ after) slash done) (hn : IsRun before n after)
    (hflank : ¬(2 ≤ n ∧ IsFlanked before after)) :
    Reached pattern (before ++ stars n) after false (done ++ [.star]) where
  split := by simpa using h.split
  tokens_eq := by
    rw [getLast?_stars before hn.count_pos, ← h.tokens_eq, tokensAfter_run hn hflank, List.append_assoc]
    rfl
  slash_iff := by simp
  last_of_slash := by simp
  next_ne := fun _ => hn.after_ne

theorem segments {n : Nat} (h : Reached pattern before (stars n ++ after) slash done) (hn : IsRun before n after)
    (hflank : 2 ≤ n ∧ IsFlanked before after) :
    Reached pattern (before ++ stars n ++ after.take 1) (after.drop 1) false (done ++ [.globstar]) where
  split := by rw [List.append_assoc, List.take_append_drop, List.append_assoc, h.split]
  tokens_eq := by
    rw [← h.tokens_eq, tokensAfter_segments hn hflank, List.append_assoc]
    rfl
  slash_iff := by simp
  last_of_slash := by simp
  next_ne := by
    rcases hflank.2.2 with rfl | ha
    · simp
    · obtain ⟨after, rfl⟩ := List.head?_eq_some_iff.1 ha
      simp

end Reached

/-! ### The tokens match what the pattern matches -/

private theorem endingOf_closed {pattern : List Char} (h : pattern.getLast? = some '*') (isOpen : Bool) :
    endingOf pattern isOpen = .closed := by
  simp [endingOf, openEnding, h]

/-- At the end of an open pattern, the flag and the last character say how it ends. -/
theorem Reached.openEnding_eq {pattern before : List Char} {slash : Bool} {done : List Token}
    (h : Reached pattern before [] slash done) (hb : before.getLast? ≠ some '*') :
    openEnding pattern = if slash then .anything else .below := by
  have hp : before = pattern := by simpa using h.split
  have hd : done = tokens pattern := by simpa [pieces, tokensAfter] using h.tokens_eq
  subst hp
  rw [openEnding, if_neg hb, ← hd]
  simp only [← h.slash_iff]

variable {pattern before rest : List Char} {isOpen slash : Bool} {done : List Token} {s : List Char}

private theorem accepts_nil (e : Ending) (s : List Char) : accepts e [] s = e.accepts s := by cases s <;> rfl

/-- Every step of a match is taken by the next token. -/
theorem accepts_of_fits (hf : Fits isOpen before rest slash s) (h : Reached pattern before rest slash done) :
    accepts (endingOf pattern isOpen) (tokensAfter before.getLast? (pieces rest)) s = true := by
  induction hf generalizing done with
  | literal hc _ ih =>
    rw [tokensAfter_literal _ hc, accepts_cons]
    exact ⟨_, rfl, by simpa using ih (h.literal hc)⟩
  | @run before rest after n _ s u t hn hrest hflank hu hs _ ih =>
    subst hrest
    rw [tokensAfter_run hn hflank, accepts_cons, ← getLast?_stars before hn.count_pos]
    exact ⟨t, ⟨u, hu, hs⟩, ih (h.run hn hflank)⟩
  | segments hn hrest hflank hu hs _ ih =>
    subst hrest
    rw [tokensAfter_segments hn hflank, accepts_cons]
    exact ⟨_, ⟨_, hu, hs⟩, ih (h.segments hn hflank)⟩
  | @finish _ _ t ht =>
    rw [pieces, tokensAfter, accepts_nil]
    cases endingOf pattern isOpen with
    | closed => exact atEnd_iff.2 ht
    | below => simp [Ending.accepts, atEnd_iff.2 ht]
    | anything => rfl
  | beneath ho hb ht =>
    rw [pieces, tokensAfter, accepts_nil, endingOf, if_pos ho, h.openEnding_eq hb]
    split <;> simp [Ending.accepts, ht]
  | anything ho =>
    -- a pattern that ends in a slash of its own does not end in a star
    have hb := h.last_of_slash rfl
    rw [pieces, tokensAfter, accepts_nil, endingOf, if_pos ho, h.openEnding_eq (by simp [hb])]
    rfl

private theorem fits_of_ending (h : Reached pattern before [] slash done)
    (ha : (endingOf pattern isOpen).accepts s = true) : Fits isOpen before [] slash s := by
  have hfinal : Ending.closed.accepts s = true → Fits isOpen before [] slash s := fun ha => .finish (atEnd_iff.1 ha)
  cases isOpen with
  | false => exact hfinal ha
  | true =>
    by_cases hb : before.getLast? = some '*'
    · have hp : before = pattern := by simpa using h.split
      rw [endingOf_closed (hp ▸ hb)] at ha
      exact hfinal ha
    · rw [endingOf, if_pos rfl, h.openEnding_eq hb] at ha
      cases slash with
      | true => exact .anything rfl
      | false =>
        simp only [Bool.false_eq_true, ↓reduceIte, Ending.accepts, Bool.or_eq_true, decide_eq_true_eq] at ha
        rcases ha with ha | ha
        · exact hfinal ha
        · exact .beneath rfl hb ha

/-- What is left of a pattern begins with a run of stars, perhaps of none, that ends where the stars end. -/
theorem exists_stars (rest : List Char) :
    ∃ n after, rest = stars n ++ after ∧ after.head? ≠ some '*' := by
  induction rest with
  | nil => exact ⟨0, [], rfl, by simp⟩
  | cons c rest ih =>
    by_cases hc : c = '*'
    · obtain ⟨n, after, rfl, ha⟩ := ih
      exact ⟨n + 1, after, by rw [hc]; rfl, ha⟩
    · exact ⟨0, c :: rest, rfl, by simpa using hc⟩

/-- What holds of the empty text, and of a text with one more character or run of stars in front, holds of every
text. -/
theorem runs_induction {motive : List Char → Prop} (nil : motive [])
    (literal : ∀ d s, d ≠ '*' → motive s → motive (d :: s))
    (run : ∀ n s, 0 < n → s.head? ≠ some '*' → motive s → motive (stars n ++ s)) (s : List Char) : motive s := by
  induction hlen : s.length using Nat.strongRecOn generalizing s with
  | ind len ih =>
    obtain ⟨n, after, rfl, hafter⟩ := exists_stars s
    rcases Nat.eq_zero_or_pos n with rfl | hn
    · cases after with
      | nil => exact nil
      | cons d after =>
        have hlt : after.length < len := by simp [stars] at hlen; omega
        exact literal d after (by simpa using hafter) (ih _ hlt after rfl)
    · have hlt : after.length < len := by simp [stars] at hlen; omega
      exact run n after hn hafter (ih _ hlt after rfl)

/-- What the next token takes is a step of a match. -/
theorem fits_of_accepts (size : Nat) (hsize : rest.length ≤ size) (h : Reached pattern before rest slash done)
    (ha : accepts (endingOf pattern isOpen) (tokensAfter before.getLast? (pieces rest)) s = true) :
    Fits isOpen before rest slash s := by
  -- every token stands for at least one character, so the rest of the pattern gets shorter
  induction size generalizing before rest slash done s with
  | zero =>
    obtain rfl : rest = [] := List.length_eq_zero_iff.1 (by omega)
    rw [pieces, tokensAfter, accepts_nil] at ha
    exact fits_of_ending h ha
  | succ size ih =>
    obtain ⟨n, after, rfl, hafter⟩ := exists_stars rest
    rcases Nat.eq_zero_or_pos n with rfl | hpos
    · cases after with
      | nil =>
        exact fits_of_ending h (by simpa [stars, pieces, tokensAfter, accepts_nil] using ha)
      | cons c after =>
        have hc : c ≠ '*' := by simpa using hafter
        change accepts _ (tokensAfter _ (pieces (c :: after))) s = true at ha
        rw [tokensAfter_literal _ hc, accepts_cons] at ha
        obtain ⟨t, rfl, ha⟩ := ha
        exact .literal hc (ih (by simpa [stars] using hsize) (h.literal hc) (by simpa using ha))
    · have hn : IsRun before n after := isRun_of_next hpos hafter h.next_ne
      have hlen : (stars n ++ after).length = n + after.length := by simp [stars]
      by_cases hflank : 2 ≤ n ∧ IsFlanked before after
      · rw [tokensAfter_segments hn hflank, accepts_cons] at ha
        obtain ⟨t, ⟨u, hu, rfl⟩, ha⟩ := ha
        exact .segments hn rfl hflank hu rfl (ih (by simp; omega) (h.segments hn hflank) ha)
      · rw [tokensAfter_run hn hflank, accepts_cons, ← getLast?_stars before hpos] at ha
        obtain ⟨t, ⟨u, hu, rfl⟩, ha⟩ := ha
        exact .run hn rfl hflank hu rfl (ih (by omega) (h.run hn hflank) ha)

/-- The tokens of a pattern accept the texts that it matches. -/
theorem accepts_tokens_iff (pattern : List Char) (isOpen : Bool) (s : List Char) :
    accepts (endingOf pattern isOpen) (tokens pattern) s = true ↔ Fits isOpen [] pattern false s :=
  ⟨fits_of_accepts pattern.length (Nat.le_refl _) (Reached.initial pattern),
    fun hf => accepts_of_fits hf (Reached.initial pattern)⟩

/-- The text that a pattern compiles to is a well-formed expression, and it accepts exactly the texts that the pattern
matches from the start.  The matcher that goes by tokens accepts the same ones. -/
theorem compile_preserves_meaning (pattern candidate : String) (isOpen : Bool) :
    ∃ r, Regex.read (toRegex pattern.toList isOpen).text.toList = some r ∧
      (r.Accepts candidate.toList ↔ Fits isOpen [] pattern.toList false candidate.toList) ∧
      (matchesText pattern.toList isOpen candidate.toList = true ↔
        Fits isOpen [] pattern.toList false candidate.toList) := by
  have hfits := accepts_tokens_iff pattern.toList isOpen candidate.toList
  have hread : Regex.read (toRegex pattern.toList isOpen).text.toList = some (Regex.joined (.start ::
      (tokens pattern.toList).map Token.toRegex ++ ((endingOf pattern.toList isOpen).parts ++ [.finish]))) := by
    rw [Regex.text, String.toList_ofList]
    exact read_toRegex pattern.toList isOpen
  refine ⟨_, hread, ?_, ?_⟩
  · rw [accepts_joined, hfits]
  · rw [matchesText_eq]
    exact hfits

end PathAccess.Glob
