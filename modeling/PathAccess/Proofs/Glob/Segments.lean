import PathAccess.Proofs.Glob.Compilation

/-!
# Segments of patterns

A pattern and a text are split at their slashes, and the segments of the pattern are laid over those of the text
(`Laid`): a globstar takes any number of segments, and every other segment of the pattern takes the one that it fits
(`SegmentFits`).

How the first segment of a pattern is laid is then said of the text itself (`laid_last_iff`, `laid_segment_iff`,
`laid_globstar_iff`).  Segments of a pattern that fit the empty text, or any text of other characters, fit every text
(`Laid.stretch`).
-/

namespace PathAccess.Glob

/-- The segments of a pattern or a text. -/
def segments (s : List Char) : List (List Char) := s.splitOn '/'

/-- Nothing but two or more stars. -/
def IsGlobstar (p : List Char) : Prop := 2 ≤ p.length ∧ ∀ c ∈ p, c = '*'

instance (p : List Char) : Decidable (IsGlobstar p) :=
  decidable_of_iff (2 ≤ p.length ∧ p.all (· = '*') = true) (by simp [IsGlobstar])

/-- In one segment, every maximal run of stars stands for any text, and every other character for itself. -/
inductive SegmentFits : List Char → List Char → Prop
  | nil : SegmentFits [] []
  | literal {c : Char} {p s : List Char} (hc : c ≠ '*') (h : SegmentFits p s) : SegmentFits (c :: p) (c :: s)
  | run {n : Nat} {p rest s u t : List Char} (hn : 0 < n) (hrest : rest.head? ≠ some '*') (hp : p = stars n ++ rest)
      (hs : s = u ++ t) (h : SegmentFits rest t) : SegmentFits p s

/-- No segments, or the empty one that a slash at the end leaves. -/
def IsTrailing (ps : List (List Char)) : Prop := ps = [] ∨ ps = [[]]

/-- The segments of a pattern are laid, in order, over all segments of a text. -/
inductive Laid : List (List Char) → List (List Char) → Prop
  | nil : Laid [] []
  /-- A segment that is no globstar takes one segment. -/
  | segment {p x : List Char} {ps xs : List (List Char)} (hp : ¬IsGlobstar p) (hx : SegmentFits p x) (h : Laid ps xs) :
      Laid (p :: ps) (x :: xs)
  /-- A globstar before other segments takes any number of segments. -/
  | globstar {p : List Char} {ps xs taken ys : List (List Char)} (hp : IsGlobstar p) (hps : ¬IsTrailing ps)
      (hxs : xs = taken ++ ys) (h : Laid ps ys) : Laid (p :: ps) xs
  /-- The last globstar, perhaps with a slash behind it, takes what remains, at least one segment. -/
  | remainder {p : List Char} {ps xs : List (List Char)} (hp : IsGlobstar p) (hps : IsTrailing ps) (hxs : xs ≠ []) :
      Laid (p :: ps) xs

/-! ### Texts and their segments -/

theorem segments_ne_nil (s : List Char) : segments s ≠ [] := List.splitOn_ne_nil '/' s

theorem segments_slash (s t : List Char) : segments (s ++ '/' :: t) = segments s ++ segments t :=
  List.splitOn_append_cons_self s t

theorem segments_of_not_mem {s : List Char} (hs : '/' ∉ s) : segments s = [s] := List.splitOn_eq_singleton hs

theorem segments_cons {s : List Char} (hs : '/' ∉ s) (t : List Char) : segments (s ++ '/' :: t) = s :: segments t :=
  List.splitOn_append_cons_self_of_not_mem hs t

theorem segments_injective {s t : List Char} (h : segments s = segments t) : s = t := by
  have hs : ['/'].intercalate (segments s) = s := List.intercalate_splitOn '/'
  rw [h] at hs
  exact hs.symm.trans (List.intercalate_splitOn '/')

/-- What holds of texts without a slash, and of a text with one more segment in front, holds of every text. -/
theorem segments_induction {motive : List Char → Prop} (last : ∀ s, '/' ∉ s → motive s)
    (slash : ∀ s t, '/' ∉ s → motive t → motive (s ++ '/' :: t)) (s : List Char) : motive s := by
  induction hn : s.length using Nat.strongRecOn generalizing s with
  | ind n ih =>
    by_cases hs : '/' ∈ s
    · obtain ⟨u, t, rfl, hu⟩ := List.eq_append_cons_of_mem hs
      have hlt : t.length < n := by simp at hn; omega
      exact slash u t hu (ih _ hlt t rfl)
    · exact last s hs

theorem segments_eq_cons {s x : List Char} {xs : List (List Char)} (h : segments s = x :: xs) :
    '/' ∉ x ∧ (xs = [] ∧ s = x ∨ ∃ t, s = x ++ '/' :: t ∧ segments t = xs) := by
  by_cases hs : '/' ∈ s
  · obtain ⟨u, t, rfl, hu⟩ := List.eq_append_cons_of_mem hs
    rw [segments_cons hu] at h
    obtain ⟨rfl, rfl⟩ := List.cons_eq_cons.1 h
    exact ⟨hu, Or.inr ⟨t, rfl, rfl⟩⟩
  · rw [segments_of_not_mem hs] at h
    obtain ⟨rfl, rfl⟩ := List.cons_eq_cons.1 h
    exact ⟨hs, Or.inl ⟨rfl, rfl⟩⟩

/-- The start of a text, or right behind a slash. -/
def AtSegmentStart (before : List Char) : Prop := before = [] ∨ before.getLast? = some '/'

theorem AtSegmentStart.no_run {before : List Char} (h : AtSegmentStart before) {p : List Char} :
    before.getLast? = some '*' → p.head? ≠ some '*' := by
  rcases h with rfl | h <;> simp [*]

/-- A text is cut between any two of its segments. -/
theorem segments_eq_append {s : List Char} {xs ys : List (List Char)} (h : segments s = xs ++ ys) (hys : ys ≠ []) :
    ∃ u t, s = u ++ t ∧ AtSegmentStart u ∧ segments t = ys := by
  induction xs generalizing s with
  | nil => exact ⟨[], s, rfl, Or.inl rfl, h⟩
  | cons x xs ih =>
    rcases segments_eq_cons h with ⟨-, ⟨hxs, -⟩ | ⟨t, rfl, ht⟩⟩
    · exact absurd (List.append_eq_nil_iff.1 hxs).2 hys
    · obtain ⟨u, v, rfl, hu, hv⟩ := ih ht
      refine ⟨x ++ '/' :: u, v, by simp, Or.inr ?_, hv⟩
      rcases hu with rfl | hu
      · simp
      · simp [List.getLast?_cons, hu]

theorem segments_append {u : List Char} (hu : AtSegmentStart u) (t : List Char) :
    ∃ xs, segments (u ++ t) = xs ++ segments t := by
  rcases hu with rfl | hu
  · exact ⟨[], rfl⟩
  · obtain ⟨u, rfl⟩ := List.getLast?_eq_some_iff.1 hu
    refine ⟨segments u, ?_⟩
    rw [List.append_assoc]
    exact segments_slash u t

theorem exists_last_segment (s : List Char) :
    ∃ u t, s = u ++ t ∧ AtSegmentStart u ∧ '/' ∉ t ∧ (segments s).getLast? = some t := by
  have hsplit := (List.dropLast_concat_getLast (segments_ne_nil s)).symm
  have hlast := List.getLast?_eq_some_iff.2 ⟨_, hsplit⟩
  obtain ⟨u, t, rfl, hu, ht⟩ := segments_eq_append hsplit (by simp)
  rcases segments_eq_cons ht with ⟨hslash, ⟨-, hx⟩ | ⟨t', -, ht'⟩⟩
  · rw [← hx] at hlast hslash
    exact ⟨u, t, rfl, hu, hslash, hlast⟩
  · exact absurd ht' (segments_ne_nil t')

theorem mem_of_mem_segments {s p : List Char} {d : Char} (hp : p ∈ segments s) (hd : d ∈ p) : d ∈ s := by
  induction s using segments_induction with
  | last s hs =>
    rw [segments_of_not_mem hs, List.mem_singleton] at hp
    exact hp ▸ hd
  | slash s t hs ih =>
    rw [segments_cons hs, List.mem_cons] at hp
    rcases hp with rfl | hp
    · simp [hd]
    · simp [ih hp]

theorem not_isTrailing {s : List Char} (hs : s ≠ []) : ¬IsTrailing (segments s) := by
  rintro (h | h)
  · exact segments_ne_nil s h
  · exact hs (segments_injective (h.trans (segments_of_not_mem (by simp)).symm))

/-! ### One segment -/

theorem isGlobstar_stars {n : Nat} : IsGlobstar (stars n) ↔ 2 ≤ n := by
  simp [IsGlobstar, stars]

theorem IsGlobstar.eq_stars {p : List Char} (h : IsGlobstar p) : p = stars p.length :=
  List.eq_replicate_iff.2 ⟨rfl, h.2⟩

theorem stars_append_inj {m n : Nat} {s t : List Char} (hs : s.head? ≠ some '*') (ht : t.head? ≠ some '*')
    (h : stars m ++ s = stars n ++ t) : m = n ∧ s = t := by
  induction m generalizing n with
  | zero =>
    cases n with
    | zero => exact ⟨rfl, h⟩
    | succ n =>
      obtain rfl : s = '*' :: (stars n ++ t) := h
      simp at hs
  | succ m ih =>
    cases n with
    | zero =>
      obtain rfl : '*' :: (stars m ++ s) = t := h
      simp at ht
    | succ n =>
      obtain ⟨rfl, rfl⟩ := ih (List.cons_eq_cons.1 h).2
      exact ⟨rfl, rfl⟩

theorem segmentFits_nil {s : List Char} : SegmentFits [] s ↔ s = [] := by
  constructor
  · intro h
    cases h with
    | nil => rfl
    | run hn _ hp => simp [stars, Nat.ne_of_gt hn] at hp
  · rintro rfl
    exact .nil

theorem eq_star_of_cons {c : Char} {p rest : List Char} {n : Nat} (hn : 0 < n) (h : c :: p = stars n ++ rest) :
    c = '*' := by
  obtain ⟨n, rfl⟩ : ∃ m, n = m + 1 := ⟨n - 1, by omega⟩
  exact (List.cons_eq_cons.1 h).1

theorem segmentFits_literal {c : Char} (hc : c ≠ '*') {p s : List Char} :
    SegmentFits (c :: p) s ↔ ∃ t, s = c :: t ∧ SegmentFits p t := by
  constructor
  · intro h
    cases h with
    | literal _ h => exact ⟨_, rfl, h⟩
    | run hn _ hp => exact absurd (eq_star_of_cons hn hp) hc
  · rintro ⟨t, rfl, h⟩
    exact .literal hc h

theorem segmentFits_run {n : Nat} (hn : 0 < n) {p : List Char} (hp : p.head? ≠ some '*') {s : List Char} :
    SegmentFits (stars n ++ p) s ↔ ∃ u t, s = u ++ t ∧ SegmentFits p t := by
  constructor
  · intro h
    generalize hq : stars n ++ p = q at h
    cases h with
    | nil => simp [stars, Nat.ne_of_gt hn] at hq
    | literal hc => exact absurd (eq_star_of_cons hn hq.symm) hc
    | run _ hrest hq' hs h =>
      obtain ⟨-, rfl⟩ := stars_append_inj hp hrest (hq.trans hq')
      exact ⟨_, _, hs, h⟩
  · rintro ⟨u, t, rfl, h⟩
    exact .run hn hp rfl rfl h

/-- Every star of a run may take a part of what the run stands for. -/
theorem segmentFits_star {p s : List Char} :
    SegmentFits ('*' :: p) s ↔ ∃ u t, s = u ++ t ∧ SegmentFits p t := by
  obtain ⟨n, rest, rfl, hrest⟩ := exists_stars p
  have hcons : '*' :: (stars n ++ rest) = stars (n + 1) ++ rest := rfl
  rw [hcons, segmentFits_run (by omega) hrest]
  rcases Nat.eq_zero_or_pos n with rfl | hn
  · exact Iff.rfl
  · simp only [segmentFits_run hn hrest]
    constructor
    · rintro ⟨u, t, rfl, h⟩
      exact ⟨u, t, rfl, [], t, rfl, h⟩
    · rintro ⟨u, _, rfl, v, t, rfl, h⟩
      exact ⟨u ++ v, t, by simp, h⟩

private theorem segmentFits_of_stars {p : List Char} (hp : ∀ c ∈ p, c = '*') : SegmentFits p [] := by
  induction p with
  | nil => exact .nil
  | cons c p ih =>
    rw [List.forall_mem_cons] at hp
    obtain rfl := hp.1
    exact segmentFits_star.2 ⟨[], [], rfl, ih hp.2⟩

/-- Only stars can stand for characters that are not in the pattern. -/
private theorem SegmentFits.stars_of_fresh {p s : List Char} (h : SegmentFits p s) (hs : ∀ c ∈ s, c ∉ p) :
    ∀ c ∈ p, c = '*' := by
  induction p generalizing s with
  | nil => simp
  | cons c p ih =>
    rw [List.forall_mem_cons]
    by_cases hc : c = '*'
    · subst hc
      obtain ⟨u, t, rfl, ht⟩ := segmentFits_star.1 h
      have hfresh : ∀ d ∈ t, d ∉ p := fun d hd hp => hs d (by simp [hd]) (by simp [hp])
      exact ⟨rfl, ih ht hfresh⟩
    · obtain ⟨t, rfl, -⟩ := (segmentFits_literal hc).1 h
      exact absurd (by simp) (hs c (by simp))

/-! ### Laying segments over a text -/

theorem Laid.ne_nil {ps xs : List (List Char)} (h : Laid ps xs) (hps : ps ≠ []) : xs ≠ [] := by
  induction h with
  | nil => exact absurd rfl hps
  | segment => simp
  | globstar _ htr hxs _ ih =>
    have hys := ih fun he => htr (Or.inl he)
    rw [hxs]
    exact fun he => hys (List.append_eq_nil_iff.1 he).2
  | remainder _ _ hxs => exact hxs

theorem laid_nil {xs : List (List Char)} : Laid [] xs ↔ xs = [] := by
  constructor
  · intro h
    cases h
    rfl
  · rintro rfl
    exact .nil

/-- Segments that fit a text of other characters fit any text: they are globstars, and perhaps one run of stars. -/
theorem Laid.stretch {ps : List (List Char)} {x : List Char} (h : Laid ps [x]) (hps : ps ≠ [[]])
    (hx : ∀ p ∈ ps, ∀ c ∈ x, c ∉ p) (y : List Char) : Laid ps [y] := by
  generalize hxs : [x] = xs at h
  induction h with
  | nil => simp at hxs
  | @segment p _ ps _ hp hfits h _ =>
    obtain ⟨rfl, rfl⟩ := List.cons_eq_cons.1 hxs
    obtain rfl : ps = [] := Classical.byContradiction fun hne => h.ne_nil hne rfl
    have hstars := hfits.stars_of_fresh (hx p (by simp))
    cases p with
    | nil => exact absurd rfl hps
    | cons c p =>
      rw [List.forall_mem_cons] at hstars
      obtain rfl := hstars.1
      exact .segment hp (segmentFits_star.2 ⟨y, [], by simp, segmentFits_of_stars hstars.2⟩) h
  | @globstar p ps _ taken ys hp htr hall h ih =>
    have hys : ys ≠ [] := h.ne_nil fun he => htr (Or.inl he)
    subst hxs
    cases taken with
    | nil =>
      have hlaid := ih (fun he => htr (Or.inr he)) (fun q hq => hx q (List.mem_cons_of_mem _ hq)) hall
      exact .globstar hp htr (show [y] = [] ++ [y] from rfl) hlaid
    | cons t taken =>
      have hnil := (List.cons_eq_cons.1 hall).2.symm
      exact absurd (List.append_eq_nil_iff.1 hnil).2 hys
  | remainder hp htr _ => exact .remainder hp htr (by simp)

variable {p s : List Char} {ps : List (List Char)}

theorem laid_last_iff (hp : ¬IsGlobstar p) : Laid [p] (segments s) ↔ '/' ∉ s ∧ SegmentFits p s := by
  constructor
  · intro h
    generalize hxs : segments s = xs at h
    cases h with
    | segment _ hx h =>
      obtain rfl := laid_nil.1 h
      rcases segments_eq_cons hxs with ⟨hslash, ⟨-, rfl⟩ | ⟨t, -, ht⟩⟩
      · exact ⟨hslash, hx⟩
      · exact absurd ht (segments_ne_nil t)
    | globstar hg => exact absurd hg hp
    | remainder hg => exact absurd hg hp
  · rintro ⟨hs, h⟩
    rw [segments_of_not_mem hs]
    exact .segment hp h .nil

theorem laid_segment_iff (hp : ¬IsGlobstar p) (hps : ps ≠ []) :
    Laid (p :: ps) (segments s) ↔
      ∃ u t, s = u ++ '/' :: t ∧ '/' ∉ u ∧ SegmentFits p u ∧ Laid ps (segments t) := by
  constructor
  · intro h
    generalize hxs : segments s = xs at h
    cases h with
    | segment _ hx h =>
      rcases segments_eq_cons hxs with ⟨hslash, ⟨hnil, -⟩ | ⟨t, rfl, rfl⟩⟩
      · exact absurd hnil (h.ne_nil hps)
      · exact ⟨_, t, rfl, hslash, hx, h⟩
    | globstar hg => exact absurd hg hp
    | remainder hg => exact absurd hg hp
  · rintro ⟨u, t, rfl, hu, hx, h⟩
    rw [segments_cons hu]
    exact .segment hp hx h

theorem laid_globstar_iff (hp : IsGlobstar p) (hps : ¬IsTrailing ps) :
    Laid (p :: ps) (segments s) ↔ ∃ u t, s = u ++ t ∧ AtSegmentStart u ∧ Laid ps (segments t) := by
  constructor
  · intro h
    generalize hxs : segments s = xs at h
    cases h with
    | segment hg => exact absurd hp hg
    | globstar _ _ hall h =>
      have hys := h.ne_nil fun he => hps (Or.inl he)
      obtain ⟨u, t, rfl, hu, rfl⟩ := segments_eq_append (hxs.trans hall) hys
      exact ⟨u, t, rfl, hu, h⟩
    | remainder _ htr => exact absurd htr hps
  · rintro ⟨u, t, rfl, hu, h⟩
    obtain ⟨xs, hxs⟩ := segments_append hu t
    exact .globstar hp hps hxs h

end PathAccess.Glob
