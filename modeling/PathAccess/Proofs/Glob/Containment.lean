import PathAccess.Proofs.Glob.Alignment

/-!
# Containment of patterns

Whether a pattern covers another one is asked of the text of the other (`Glob.covers`), with its stars as characters.
If an outer pattern covers the text of an inner one, it also covers what the inner one covers, up to three exceptions
(`TextSuffices.covers_trans`): a star in the outer pattern takes the stars of a globstar in the inner one for a text, an
outer pattern that ends in a star stops where the inner one is open below, and a line break at the end of the inner
pattern may be taken for the end.  `TextSuffices` rules them out by the shape of the two patterns, and with them some
pairs that are no exception.

Segments may be laid twice, over a pattern and with it over a text (`Laid.trans`).  Behind the part of the text that
the segments take, the outer pattern has to be open as well (`fits_beyond`).
-/

namespace PathAccess.Glob

/-! ### Laying a pattern over a pattern -/

theorem SegmentFits.refl (p : List Char) : SegmentFits p p := by
  induction p with
  | nil => exact .nil
  | cons c p ih =>
    by_cases hc : c = '*'
    · subst hc
      exact segmentFits_star.2 ⟨['*'], p, rfl, ih⟩
    · exact .literal hc ih

theorem SegmentFits.exists_of_append {u t x : List Char} (h : SegmentFits (u ++ t) x) :
    ∃ y z, x = y ++ z ∧ SegmentFits t z := by
  induction u generalizing x with
  | nil => exact ⟨[], x, rfl, h⟩
  | cons c u ih =>
    by_cases hc : c = '*'
    · subst hc
      obtain ⟨v, w, rfl, hw⟩ := segmentFits_star.1 h
      obtain ⟨y, z, rfl, hz⟩ := ih hw
      exact ⟨v ++ y, z, by simp, hz⟩
    · obtain ⟨w, rfl, hw⟩ := (segmentFits_literal hc).1 h
      obtain ⟨y, z, rfl, hz⟩ := ih hw
      exact ⟨c :: y, z, rfl, hz⟩

theorem SegmentFits.trans {p q x : List Char} (h : SegmentFits p q) (h' : SegmentFits q x) : SegmentFits p x := by
  induction p generalizing q x with
  | nil =>
    obtain rfl := segmentFits_nil.1 h
    exact h'
  | cons c p ih =>
    by_cases hc : c = '*'
    · subst hc
      obtain ⟨u, t, rfl, ht⟩ := segmentFits_star.1 h
      obtain ⟨y, z, rfl, hz⟩ := h'.exists_of_append
      exact segmentFits_star.2 ⟨y, z, rfl, ih ht hz⟩
    · obtain ⟨t, rfl, ht⟩ := (segmentFits_literal hc).1 h
      obtain ⟨y, rfl, hy⟩ := (segmentFits_literal hc).1 h'
      exact .literal hc (ih ht hy)

private theorem SegmentFits.all_stars {p q : List Char} (h : SegmentFits p q) (hq : ∀ c ∈ q, c = '*') :
    ∀ c ∈ p, c = '*' := by
  induction p generalizing q with
  | nil => simp
  | cons c p ih =>
    by_cases hc : c = '*'
    · subst hc
      obtain ⟨u, t, rfl, ht⟩ := segmentFits_star.1 h
      exact List.forall_mem_cons.2 ⟨rfl, ih ht fun d hd => hq d (List.mem_append_right u hd)⟩
    · obtain ⟨t, rfl, -⟩ := (segmentFits_literal hc).1 h
      exact absurd (hq c (by simp)) hc

/-- Besides a globstar, only a single star has the text of a globstar. -/
private theorem eq_star_of_globstar {p q : List Char} (hp : ¬IsGlobstar p) (hq : IsGlobstar q) (h : SegmentFits p q) :
    p = ['*'] := by
  have hstars := h.all_stars hq.2
  match p with
  | [] =>
    obtain rfl := segmentFits_nil.1 h
    exact absurd hq.1 (by simp)
  | [c] =>
    rw [hstars c (by simp)]
  | c :: d :: p => exact absurd ⟨by simp, hstars⟩ hp

theorem Laid.refl (ps : List (List Char)) : Laid ps ps := by
  induction ps with
  | nil => exact .nil
  | cons p ps ih =>
    by_cases hp : IsGlobstar p
    · by_cases hps : IsTrailing ps
      · exact .remainder hp hps (by simp)
      · exact .globstar hp hps (show p :: ps = [p] ++ ps from rfl) ih
    · exact .segment hp (.refl p) ih

/-- The last segments take an end of the text; the empty one behind a globstar leaves its last segment to them. -/
private theorem Laid.exists_of_append {taken qs xs : List (List Char)} (h : Laid (taken ++ qs) xs) (hqs : qs ≠ []) :
    ∃ ys zs, xs = ys ++ zs ∧ (Laid qs zs ∨ qs = [[]] ∧ ∃ x, zs = [x]) := by
  induction taken generalizing xs with
  | nil => exact ⟨[], xs, rfl, Or.inl h⟩
  | cons q taken ih =>
    cases h with
    | @segment _ x _ xs _ _ h =>
      obtain ⟨ys, zs, rfl, hz⟩ := ih h
      exact ⟨x :: ys, zs, rfl, hz⟩
    | @globstar _ _ _ skipped _ _ _ hxs h =>
      obtain ⟨ys, zs, rfl, hz⟩ := ih h
      exact ⟨skipped ++ ys, zs, by simp [hxs], hz⟩
    | remainder _ htr hxs =>
      have hlast : taken ++ qs = [[]] := htr.resolve_left fun h => hqs (List.append_eq_nil_iff.1 h).2
      have hq : qs = [[]] := by
        cases taken with
        | nil => exact hlast
        | cons t taken =>
          have hnil := (List.cons_eq_cons.1 hlast).2
          exact absurd (List.append_eq_nil_iff.1 hnil).2 hqs
      exact ⟨_, _, (List.dropLast_concat_getLast hxs).symm, Or.inr ⟨hq, _, rfl⟩⟩

/-- There is no single star in one pattern, or no globstar in the other. -/
def NoStarForGlobstar (ps qs : List (List Char)) : Prop := (∀ p ∈ ps, p ≠ ['*']) ∨ ∀ q ∈ qs, ¬IsGlobstar q

private theorem NoStarForGlobstar.mono {ps ps' qs qs' : List (List Char)} (h : NoStarForGlobstar ps qs)
    (hps : ps' ⊆ ps) (hqs : qs' ⊆ qs) : NoStarForGlobstar ps' qs' :=
  h.imp (fun h p hp => h p (hps hp)) (fun h q hq => h q (hqs hq))

/-- What is laid over the text of a pattern is also laid over what the pattern is laid over, unless a star stands for
a globstar. -/
theorem Laid.trans {ps qs xs : List (List Char)} (h : Laid ps qs) (h' : Laid qs xs)
    (hstar : NoStarForGlobstar ps qs) : Laid ps xs := by
  induction h generalizing xs with
  | nil => exact h'
  | @segment p q ps qs hp hq h ih =>
    have hg : ¬IsGlobstar q := by
      intro hg
      have hp' := eq_star_of_globstar hp hg hq
      rcases hstar with hstar | hstar
      · exact hstar p (by simp) hp'
      · exact hstar q (by simp) hg
    have htail := hstar.mono (List.subset_cons_self p ps) (List.subset_cons_self q qs)
    cases h' with
    | segment _ hx h' => exact .segment hp (hq.trans hx) (ih h' htail)
    | globstar hg' => exact absurd hg' hg
    | remainder hg' => exact absurd hg' hg
  | @globstar p ps qs taken rs hp hps hqs h ih =>
    subst hqs
    have htail := hstar.mono (List.subset_cons_self p ps) (List.subset_append_right taken rs)
    obtain ⟨ys, zs, rfl, hz⟩ := h'.exists_of_append (h.ne_nil fun he => hps (Or.inl he))
    rcases hz with hz | ⟨rfl, x, rfl⟩
    · exact .globstar hp hps rfl (ih hz htail)
    · exact .globstar hp hps rfl (h.stretch (fun he => hps (Or.inr he)) (by simp) x)
  | remainder hp hps hqs => exact .remainder hp hps (h'.ne_nil hqs)

/-! ### Beyond what the segments take -/

/-- The last segment is a globstar, perhaps with a slash or with single stars for segments behind it. -/
inductive EndsOpenly : List (List Char) → Prop
  | slash {p : List Char} (hp : IsGlobstar p) : EndsOpenly [p, []]
  | stars {p : List Char} (hp : IsGlobstar p) (n : Nat) : EndsOpenly (p :: List.replicate n ['*'])
  | cons {p : List Char} {ps : List (List Char)} (h : EndsOpenly ps) : EndsOpenly (p :: ps)

theorem endsOpenly_of_getLast? {ps : List (List Char)} {p : List Char} (h : ps.getLast? = some p)
    (hp : IsGlobstar p) : EndsOpenly ps := by
  obtain ⟨qs, rfl⟩ := List.getLast?_eq_some_iff.1 h
  induction qs with
  | nil => exact .stars hp 0
  | cons q qs ih => exact .cons (ih (by simp))

private theorem laid_stars_iff {n : Nat} {xs : List (List Char)} :
    Laid (List.replicate n ['*']) xs ↔ xs.length = n := by
  have hstar : ¬IsGlobstar ['*'] := by decide
  induction n generalizing xs with
  | zero => simp [laid_nil]
  | succ n ih =>
    rw [List.replicate_succ]
    constructor
    · intro h
      cases h with
      | segment _ _ h => simp [ih.1 h]
      | globstar hg => exact absurd hg hstar
      | remainder hg => exact absurd hg hstar
    · intro h
      cases xs with
      | nil => simp at h
      | cons x xs =>
        have hx : SegmentFits ['*'] x := segmentFits_star.2 ⟨x, [], by simp, .nil⟩
        exact .segment hstar hx (ih.2 (by simpa using h))

/-- A globstar at the end may take any other segments instead of the last one. -/
theorem Laid.extend {ps xs ys : List (List Char)} {x : List Char} (h : Laid ps (xs ++ [x])) (hps : EndsOpenly ps)
    (hys : ys ≠ []) : Laid ps (xs ++ ys) := by
  generalize hall : xs ++ [x] = all at h
  induction h generalizing xs with
  | nil => simp at hall
  | segment hp hx h ih =>
    cases hps with
    | slash hg | stars hg => exact absurd hg hp
    | cons hps =>
      cases xs with
      | nil =>
        obtain ⟨-, rfl⟩ := List.cons_eq_cons.1 hall
        exact absurd rfl (h.ne_nil (by rintro rfl; cases hps))
      | cons y xs =>
        obtain ⟨rfl, htail⟩ := List.cons_eq_cons.1 hall
        exact .segment hp hx (ih hps htail)
  | @globstar p ps _ taken zs hp htr hxs h ih =>
    cases hps with
    | slash => exact absurd (Or.inr rfl) htr
    | stars _ n =>
      have hlength := congrArg List.length (hall.trans hxs)
      have hzs := laid_stars_iff.1 h
      have hpos := List.length_pos_iff.2 hys
      simp only [List.length_append, List.length_singleton] at hlength
      have hdrop : ((xs ++ ys).drop (xs.length + ys.length - n)).length = n := by
        simp only [List.length_drop, List.length_append]
        omega
      exact .globstar hp htr (List.take_append_drop _ _).symm (laid_stars_iff.2 hdrop)
    | cons hps =>
      have hsplit := (List.dropLast_concat_getLast (h.ne_nil fun he => htr (Or.inl he))).symm
      rw [hsplit, ← List.append_assoc] at hxs
      obtain ⟨rfl, hx⟩ := List.append_inj' (hall.trans hxs) rfl
      rw [List.append_assoc]
      exact .globstar hp htr rfl (ih hps (by rw [hx]; exact hsplit.symm))
  | remainder hp htr _ => exact .remainder hp htr (by simp [hys])

/-- A pattern with a slash of its own at the end takes a slash at the end of the text. -/
private theorem getLast?_of_slashAfter {ps xs : List (List Char)} {slash : Bool} (h : Laid ps xs)
    (hs : slashAfter slash ps = true) : xs.getLast? = some [] ∧ (slash = true ∨ 2 ≤ xs.length) := by
  induction h generalizing slash with
  | nil => simp [slashAfter] at hs
  | @segment p x ps xs hp hx h ih =>
    by_cases hps : ps = []
    · subst hps
      obtain rfl := laid_nil.1 h
      simp only [slashAfter, Bool.and_eq_true, List.isEmpty_iff] at hs
      obtain ⟨hslash, rfl⟩ := hs
      rw [segmentFits_nil.1 hx]
      exact ⟨rfl, Or.inl hslash⟩
    · have hxs := h.ne_nil hps
      rw [slashAfter_cons p hps] at hs
      obtain ⟨hlast, -⟩ := ih hs
      refine ⟨by simp [List.getLast?_cons, hlast], Or.inr ?_⟩
      have := List.length_pos_iff.2 hxs
      simp only [List.length_cons]
      omega
  | @globstar p ps _ taken ys hp htr hxs h ih =>
    have hps : ps ≠ [] := fun he => htr (Or.inl he)
    rw [slashAfter_cons p hps, decide_eq_true hp] at hs
    obtain ⟨hlast, hlength⟩ := ih hs
    rw [hxs]
    refine ⟨by simp [hlast], Or.inr ?_⟩
    simp only [Bool.not_true, Bool.false_eq_true, false_or] at hlength
    simp only [List.length_append]
    omega
  | @remainder p ps _ hp htr _ =>
    have hne : p ≠ [] := fun he => absurd hp.1 (by simp [he])
    rcases htr with rfl | rfl
    · simp [slashAfter, hne] at hs
    · simp [slashAfter, hp] at hs

theorem last_slash_of_slashAfter {ps : List (List Char)} {s : List Char} (h : Laid ps (segments s))
    (hs : slashAfter false ps = true) : s.getLast? = some '/' := by
  obtain ⟨hlast, hlength⟩ := getLast?_of_slashAfter h hs
  obtain ⟨u, t, rfl, hu, -, ht⟩ := exists_last_segment s
  obtain rfl : [] = t := Option.some.inj (hlast.symm.trans ht)
  rcases hu with rfl | hu
  · simp [segments_of_not_mem] at hlength
  · simpa using hu

private theorem eq_nil_of_segmentFits_nil {p : List Char} (h : SegmentFits p []) (hp : p.getLast? ≠ some '*') :
    p = [] := by
  cases hlast : p.getLast? with
  | none => exact List.getLast?_eq_none_iff.1 hlast
  | some c =>
    rw [h.all_stars (by simp) c (List.mem_of_getLast? hlast)] at hlast
    exact absurd hlast hp

/-- Over a text with a slash at the end, a pattern that does not end in a star ends in a slash of its own, or with a
globstar. -/
private theorem slashAfter_or_endsOpenly {ps xs : List (List Char)} {slash : Bool} (h : Laid ps xs)
    (hlast : xs.getLast? = some []) (hps : ∀ p, ps.getLast? = some p → p.getLast? ≠ some '*')
    (hslash : slash = true ∨ ps ≠ [[]]) : slashAfter slash ps = true ∨ EndsOpenly ps := by
  induction h generalizing slash with
  | nil => simp at hlast
  | @segment p x ps xs hp hx h ih =>
    by_cases hne : ps = []
    · subst hne
      obtain rfl := laid_nil.1 h
      obtain rfl : x = [] := by simpa using hlast
      obtain rfl := eq_nil_of_segmentFits_nil hx (hps p rfl)
      exact Or.inl (by simpa [slashAfter] using hslash)
    · rw [List.getLast?_cons_of_ne_nil (h.ne_nil hne)] at hlast
      rw [List.getLast?_cons_of_ne_nil hne] at hps
      rw [slashAfter_cons p hne, decide_eq_false hp]
      exact (ih hlast hps (Or.inl rfl)).imp_right .cons
  | @globstar p ps _ taken ys hp htr hxs h ih =>
    have hne : ps ≠ [] := fun he => htr (Or.inl he)
    rw [hxs, List.getLast?_append, List.getLast?_eq_some_getLast (h.ne_nil hne), Option.some_or,
      ← List.getLast?_eq_some_getLast] at hlast
    rw [List.getLast?_cons_of_ne_nil hne] at hps
    rw [slashAfter_cons p hne, decide_eq_true hp]
    exact (ih hlast hps (Or.inr fun he => htr (Or.inr he))).imp_right .cons
  | remainder hp htr _ =>
    rcases htr with rfl | rfl
    · exact Or.inr (.stars hp 0)
    · exact Or.inr (.slash hp)

variable {p s t : List Char}

/-- The segments of a pattern end where the pattern ends. -/
private theorem getLast?_of_segments {q : List Char} (hp : p.getLast? ≠ some '*')
    (hq : (segments p).getLast? = some q) : q.getLast? ≠ some '*' := by
  obtain ⟨u, t, rfl, -, -, ht⟩ := exists_last_segment p
  obtain rfl : t = q := Option.some.inj (ht.symm.trans hq)
  intro hstar
  exact hp (by simp [hstar])

/-- An open pattern matches beyond the part that its segments take, unless it ends in a star that is no globstar. -/
theorem fits_beyond (hp : p.getLast? ≠ some '*' ∨ EndsOpenly (segments p)) (h : Laid (segments p) (segments s))
    (ht : IsFinal t ∨ t.head? = some '/' ∨ s.getLast? = some '/') : Fits true [] p false (s ++ t) := by
  refine fits_of_laid (Or.inl rfl) ?_
  rcases ht with ht | ht | hs
  · exact ⟨s, t, rfl, h, .finish ht⟩
  · rcases hp with hp | hp
    · exact ⟨s, t, rfl, h, .beneath rfl hp ht⟩
    · obtain ⟨t, rfl⟩ := List.head?_eq_some_iff.1 ht
      have hsplit := (List.dropLast_concat_getLast (segments_ne_nil s)).symm
      rw [hsplit] at h
      refine ⟨s ++ '/' :: t, [], by simp, ?_, fits_end_nil⟩
      rw [segments_slash, hsplit, List.append_assoc]
      exact h.extend hp (by simp)
  · obtain ⟨u, rfl⟩ := List.getLast?_eq_some_iff.1 hs
    have hempty : segments (u ++ ['/']) = segments u ++ [[]] := segments_slash u []
    have hne : segments p ≠ [[]] := by
      intro he
      rw [he] at h
      exact ((laid_last_iff (by decide)).1 h).1 (by simp)
    rw [hempty] at h
    have hlast : slashAfter false (segments p) = true ∨ EndsOpenly (segments p) := by
      rcases hp with hp | hp
      · exact slashAfter_or_endsOpenly h (by simp) (fun q hq => getLast?_of_segments hp hq) (Or.inr hne)
      · exact Or.inr hp
    rcases hlast with hlast | hlast
    · exact ⟨u ++ ['/'], t, rfl, by rwa [hempty], by rw [hlast]; exact .anything rfl⟩
    · refine ⟨u ++ '/' :: t, [], by simp, ?_, fits_end_nil⟩
      rw [segments_slash]
      exact h.extend hlast (segments_ne_nil t)

/-! ### Patterns without a star -/

/-- Without a star, a pattern is the start of what it matches. -/
theorem fits_literal_text_iff {before rest c : List Char} {isOpen slash : Bool} (hrest : '*' ∉ rest) :
    Fits isOpen before rest slash c ↔ ∃ t, c = rest ++ t ∧
      Fits isOpen (before ++ rest) [] (if rest = [] then slash else rest.getLast? = some '/') t := by
  induction rest generalizing before slash c with
  | nil => simp
  | cons d rest ih =>
    simp only [List.mem_cons, not_or] at hrest
    have hflag : (if rest = [] then decide (d = '/') else decide (rest.getLast? = some '/')) =
        decide ((d :: rest).getLast? = some '/') := by
      cases rest <;> simp
    rw [fits_literal_iff (Ne.symm hrest.1)]
    simp only [ih hrest.2, hflag, reduceCtorEq, ↓reduceIte]
    constructor
    · rintro ⟨_, rfl, t, rfl, h⟩
      exact ⟨t, rfl, by simpa using h⟩
    · rintro ⟨t, rfl, h⟩
      exact ⟨rest ++ t, rfl, t, rfl, by simpa using h⟩

/-! ### Patterns as texts -/

/-- A pattern matches its own text: every run of stars takes itself, and a globstar the slash behind it as well. -/
theorem fits_self {before rest : List Char} {isOpen slash : Bool}
    (hnext : before.getLast? = some '*' → rest.head? ≠ some '*') : Fits isOpen before rest slash rest := by
  induction hlen : rest.length using Nat.strongRecOn generalizing before rest slash with
  | ind len ih =>
    obtain ⟨n, after, rfl, hafter⟩ := exists_stars rest
    rw [List.length_append, stars, List.length_replicate] at hlen
    rcases Nat.eq_zero_or_pos n with rfl | hn
    · cases after with
      | nil => exact fits_end_nil
      | cons d after =>
        have hd : d ≠ '*' := by simpa using hafter
        exact .literal hd (ih after.length (by simp at hlen; omega) (by simp [hd]) rfl)
    · have hrun : IsRun before n after := isRun_of_next hn hafter hnext
      by_cases hflank : 2 ≤ n ∧ IsFlanked before after
      · rcases hflank.2.2 with rfl | hslash
        · exact .segments hrun rfl hflank (Or.inr (Or.inr (Or.inl rfl))) (List.append_nil _).symm fits_end_nil
        · obtain ⟨after, rfl⟩ := List.head?_eq_some_iff.1 hslash
          refine .segments (u := stars n ++ ['/']) (t := after) hrun rfl hflank (Or.inr (Or.inl (by simp))) (by simp) ?_
          exact ih after.length (by simp at hlen; omega) (by simp) rfl
      · have hstars : '/' ∉ stars n := by simp [stars]
        exact .run hrun rfl hflank hstars rfl (ih after.length (by omega) (fun _ => hafter) rfl)

/-! ### Covering -/

theorem covers_iff {pattern path : String} :
    covers pattern path = true ↔
      Fits (!path.toList.contains '*') [] pattern.toList false path.toList := by
  rw [covers, matchesText_eq]
  exact accepts_tokens_iff pattern.toList _ path.toList

theorem covers_self (pattern : String) : covers pattern pattern = true := covers_iff.2 (fits_self (by simp))

theorem covers_iff_of_literal {pattern path : String} (hpath : '*' ∉ path.toList) :
    covers pattern path = true ↔ Fits true [] pattern.toList false path.toList := by
  have hopen : (!path.toList.contains '*') = true := by simpa using hpath
  rw [covers_iff, hopen]

/-- What is left of a path behind a part of it is nothing, or goes on at a slash. -/
def GoesOn (p t : List Char) : Prop := t = [] ∨ t.head? = some '/' ∨ p.getLast? = some '/'

/-- Without stars, a path is covered if it is the pattern or goes on from it at a slash, or ends in a line break right
behind it. -/
theorem covers_literal_iff {pattern path : String} (hpattern : '*' ∉ pattern.toList) (hpath : '*' ∉ path.toList) :
    covers pattern path = true ↔
      ∃ t, path.toList = pattern.toList ++ t ∧ (GoesOn pattern.toList t ∨ t = ['\n']) := by
  have hlast : pattern.toList.getLast? ≠ some '*' := fun h => hpattern (List.mem_of_getLast? h)
  have hflag : (if pattern.toList = [] then false else decide (pattern.toList.getLast? = some '/')) =
      decide (pattern.toList.getLast? = some '/') := by
    split
    · rename_i hnil
      rw [hnil]
      rfl
    · rfl
  rw [covers_iff_of_literal hpath, fits_literal_text_iff hpattern, hflag]
  simp only [fits_end_iff, List.nil_append, ne_eq, hlast, not_false_eq_true, true_and, decide_eq_true_eq, IsFinal,
    GoesOn]
  exact exists_congr fun t => and_congr_right fun _ => or_right_comm

section Literal

variable {x y n : String}

private theorem exists_goesOn (hx : '*' ∉ x.toList) (hn : '*' ∉ n.toList) (hline : n.toList.getLast? ≠ some '\n')
    (h : covers x n = true) : ∃ t, n.toList = x.toList ++ t ∧ GoesOn x.toList t := by
  obtain ⟨t, hxt, ht | rfl⟩ := (covers_literal_iff hx hn).1 h
  · exact ⟨t, hxt, ht⟩
  · exact absurd (by simp [hxt]) hline

private theorem covers_of_goesOn (hx : '*' ∉ x.toList) (hy : '*' ∉ y.toList) {t : List Char}
    (h : y.toList = x.toList ++ t) (ht : GoesOn x.toList t) : covers x y = true :=
  (covers_literal_iff hx hy).2 ⟨t, h, Or.inl ht⟩

private theorem goesOn_left {p t u : List Char} (h : GoesOn p (t ++ u)) : GoesOn p t := by
  rcases h with h | h | h
  · exact Or.inl (List.append_eq_nil_iff.1 h).1
  · cases t with
    | nil => exact Or.inl rfl
    | cons d t => exact Or.inr (Or.inl h)
  · exact Or.inr (Or.inr h)

private theorem goesOn_append {p t u : List Char} (h : GoesOn p t) (h' : GoesOn (p ++ t) u ∨ u = ['\n']) :
    GoesOn p (t ++ u) ∨ t ++ u = ['\n'] := by
  rcases h with rfl | h | h
  · simpa using h'
  · exact Or.inl (Or.inr (Or.inl (by simp [List.head?_append, h])))
  · exact Or.inl (Or.inr (Or.inr h))

/-- Of two paths that lie above one path, one lies above the other. -/
private theorem overlap_of_above (hx : '*' ∉ x.toList) (hy : '*' ∉ y.toList) (hn : '*' ∉ n.toList)
    (hline : n.toList.getLast? ≠ some '\n') (hxn : covers x n = true) (hyn : covers y n = true) :
    overlap x y = true := by
  obtain ⟨t, ht, hgo⟩ := exists_goesOn hx hn hline hxn
  obtain ⟨u, hu, hgo'⟩ := exists_goesOn hy hn hline hyn
  rw [overlap, Bool.or_eq_true]
  rcases List.append_eq_append_iff.1 (ht.symm.trans hu) with ⟨v, hv, rfl⟩ | ⟨v, hv, rfl⟩
  · exact Or.inl (covers_of_goesOn hx hy hv (goesOn_left hgo))
  · exact Or.inr (covers_of_goesOn hy hx hv (goesOn_left hgo'))

/-- Paths without stars overlap if one of them lies above a path that the other overlaps. -/
theorem overlap_of_covers (hx : '*' ∉ x.toList) (hy : '*' ∉ y.toList) (hn : '*' ∉ n.toList)
    (hline : n.toList.getLast? ≠ some '\n') (hxn : covers x n = true) (hyn : overlap y n = true) :
    overlap x y = true := by
  rw [overlap, Bool.or_eq_true] at hyn
  rcases hyn with hyn | hny
  · exact overlap_of_above hx hy hn hline hxn hyn
  · obtain ⟨t, ht, hgo⟩ := exists_goesOn hx hn hline hxn
    obtain ⟨u, hu, hgo'⟩ := (covers_literal_iff hn hy).1 hny
    rw [ht] at hu hgo'
    have hxy : covers x y = true :=
      (covers_literal_iff hx hy).2 ⟨t ++ u, by rw [hu, List.append_assoc], goesOn_append hgo hgo'⟩
    rw [overlap, hxy, Bool.true_or]

end Literal

/-- What an outer pattern covers as a text, it covers as a pattern. -/
structure TextSuffices (outer inner : String) : Prop where
  /-- No star of the outer pattern stands for the stars of a globstar. -/
  no_star_for_globstar : NoStarForGlobstar (segments outer.toList) (segments inner.toList)
  /-- The outer pattern is open at its end, or the inner one is not. -/
  open_below : outer.toList.getLast? ≠ some '*' ∨ EndsOpenly (segments outer.toList) ∨
    inner.toList.getLast? = some '*'
  no_line_break : '\n' ∉ inner.toList

variable {outer inner path : String}

/-- What the inner pattern matches, the outer one matches if its segments are laid over those of the inner one. -/
private theorem TextSuffices.fits_of_laid (h : TextSuffices outer inner)
    (hlaid : Laid (segments outer.toList) (segments inner.toList)) {c : List Char}
    (hc : Fits true [] inner.toList false c) : Fits true [] outer.toList false c := by
  obtain ⟨s, t, rfl, hs, hend⟩ := laid_of_fits (Or.inl rfl) (Or.inl h.no_line_break) hc
  have hwhole := hlaid.trans hs h.no_star_for_globstar
  rcases fits_end_iff.1 hend with ht | ⟨-, ⟨hlast, ht⟩ | hslash⟩
  · exact Glob.fits_of_laid (Or.inl rfl) ⟨s, t, rfl, hwhole, .finish ht⟩
  · have hopen := h.open_below.imp_right fun ho => ho.resolve_right hlast
    exact fits_beyond hopen hwhole (Or.inr (Or.inl ht))
  · have hlast : inner.toList.getLast? = some '/' := last_slash_of_slashAfter (.refl _) hslash
    have hopen := h.open_below.imp_right fun ho => ho.resolve_right (by simp [hlast])
    exact fits_beyond hopen hwhole (Or.inr (Or.inr (last_slash_of_slashAfter hs hslash)))

/-- The inner pattern's text is covered by the outer pattern, and what the inner one covers is as well. -/
theorem TextSuffices.covers_trans (h : TextSuffices outer inner) (hpath : '*' ∉ path.toList)
    (hinner : covers outer inner = true) (h' : covers inner path = true) : covers outer path = true := by
  rw [covers_iff_of_literal hpath] at h' ⊢
  by_cases hstar : '*' ∈ inner.toList
  · have hexact : (!inner.toList.contains '*') = false := by simpa using hstar
    rw [covers_iff, hexact] at hinner
    exact h.fits_of_laid ((fits_exact_iff h.no_line_break).1 hinner) h'
  · rw [covers_iff_of_literal hstar] at hinner
    obtain ⟨s, t, hs, hlaid, hend⟩ := laid_of_fits (Or.inl rfl) (Or.inr h.no_line_break) hinner
    have hline := h.no_line_break
    obtain ⟨t', ht', -⟩ := (fits_literal_text_iff hstar).1 h'
    rcases fits_end_iff.1 hend with (rfl | rfl) | ⟨-, hbeyond⟩
    · rw [List.append_nil] at hs
      exact h.fits_of_laid (hs ▸ hlaid) h'
    · simp [hs] at hline
    · rw [ht', hs, List.append_assoc]
      refine Glob.fits_of_laid (Or.inl rfl) ⟨s, t ++ t', rfl, hlaid, fits_end_iff.2 (Or.inr ⟨rfl, ?_⟩)⟩
      exact hbeyond.imp_left fun ⟨hlast, ht⟩ => ⟨hlast, by simp [List.head?_append, ht]⟩

-- a star at the end stops where a path without one is open below
example : covers "/a/*" "/a/b" = true ∧ covers "/a/b" "/a/b/c" = true ∧ covers "/a/*" "/a/b/c" = false := by decide

-- a star stands for the text of a globstar
example : covers "*" "**" = true ∧ covers "**" "a/b" = true ∧ covers "*" "a/b" = false := by decide

end PathAccess.Glob
