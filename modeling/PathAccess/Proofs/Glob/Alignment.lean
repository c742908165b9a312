import PathAccess.Proofs.Glob.Segments

/-!
# Matching, segment by segment

For texts without a line break, what an exact pattern matches is what its segments can be laid over
(`exact_accepts_iff_laid`).

The two sides differ in the slash behind a globstar, which the compiler gives to the globstar: so a globstar may take
the end of the text as well, and leave nothing to the segments after it.  These match nothing only if they fit any text,
and then they may as well have the last segment.  Where the segments of a pattern stop, what is left of the text is up
to its ending (`fits_of_laid`, `laid_of_fits`).
-/

namespace PathAccess.Glob

/-! ### The steps of a match -/

variable {isOpen slash : Bool} {before rest p s c : List Char} {ps : List (List Char)}

private theorem IsRun.ne_nil {n : Nat} (hn : IsRun before n rest) : stars n ++ rest ≠ [] := by
  have hpos := hn.count_pos
  simp only [stars, ne_eq, List.append_eq_nil_iff, List.replicate_eq_nil_iff]
  omega

theorem fits_literal_iff {d : Char} (hd : d ≠ '*') :
    Fits isOpen before (d :: rest) slash c ↔
      ∃ t, c = d :: t ∧ Fits isOpen (before ++ [d]) rest (d = '/') t := by
  constructor
  · intro h
    cases h with
    | literal _ h => exact ⟨_, rfl, h⟩
    | run hn hrest => exact absurd (eq_star_of_cons hn.count_pos hrest) hd
    | segments hn hrest => exact absurd (eq_star_of_cons hn.count_pos hrest) hd
  · rintro ⟨t, rfl, h⟩
    exact .literal hd h

private theorem fits_run_iff {n : Nat} (hn : IsRun before n rest) (hflank : ¬(2 ≤ n ∧ IsFlanked before rest)) :
    Fits isOpen before (stars n ++ rest) slash c ↔
      ∃ u t, c = u ++ t ∧ '/' ∉ u ∧ Fits isOpen (before ++ stars n) rest false t := by
  constructor
  · intro h
    generalize hp : stars n ++ rest = p at h
    cases h with
    | literal hd => exact absurd (eq_star_of_cons hn.count_pos hp.symm) hd
    | run hn' hp' _ hu hs h =>
      obtain ⟨rfl, rfl⟩ := stars_append_inj hn.after_ne hn'.after_ne (hp.trans hp')
      exact ⟨_, _, hs, hu, h⟩
    | segments hn' hp' hflank' =>
      obtain ⟨rfl, rfl⟩ := stars_append_inj hn.after_ne hn'.after_ne (hp.trans hp')
      exact absurd hflank' hflank
    | finish | beneath | anything => exact absurd hp hn.ne_nil
  · rintro ⟨u, t, rfl, hu, h⟩
    exact .run hn rfl hflank hu rfl h

private theorem fits_globstar_iff {n : Nat} (hn : IsRun before n rest) (hflank : 2 ≤ n ∧ IsFlanked before rest) :
    Fits isOpen before (stars n ++ rest) slash c ↔
      ∃ u t, c = u ++ t ∧ (AtSegmentStart u ∨ IsFinal t) ∧
        Fits isOpen (before ++ stars n ++ rest.take 1) (rest.drop 1) false t := by
  constructor
  · intro h
    generalize hp : stars n ++ rest = p at h
    cases h with
    | literal hd => exact absurd (eq_star_of_cons hn.count_pos hp.symm) hd
    | run hn' hp' hflank' =>
      obtain ⟨rfl, rfl⟩ := stars_append_inj hn.after_ne hn'.after_ne (hp.trans hp')
      exact absurd hflank hflank'
    | segments hn' hp' _ hu hs h =>
      obtain ⟨rfl, rfl⟩ := stars_append_inj hn.after_ne hn'.after_ne (hp.trans hp')
      exact ⟨_, _, hs, or_assoc.2 hu, h⟩
    | finish | beneath | anything => exact absurd hp hn.ne_nil
  · rintro ⟨u, t, rfl, hu, h⟩
    exact .segments hn rfl hflank (or_assoc.1 hu) rfl h

/-- What an ending permits. -/
theorem fits_end_iff :
    Fits isOpen before [] slash c ↔
      IsFinal c ∨ (isOpen = true ∧ ((before.getLast? ≠ some '*' ∧ c.head? = some '/') ∨ slash = true)) := by
  constructor
  · intro h
    cases h with
    | run hn hp | segments hn hp => exact absurd hp.symm hn.ne_nil
    | finish hc => exact Or.inl hc
    | beneath ho hb hc => exact Or.inr ⟨ho, Or.inl ⟨hb, hc⟩⟩
    | anything ho => exact Or.inr ⟨ho, Or.inr rfl⟩
  · rintro (hc | ⟨ho, ⟨hb, hc⟩ | rfl⟩)
    · exact .finish hc
    · exact .beneath ho hb hc
    · exact .anything ho

theorem fits_end_nil : Fits isOpen before [] slash [] := .finish (Or.inl rfl)

/-! ### One segment of a pattern -/

private theorem isRun_of_segment {n : Nat} (hn : 0 < n) (hp : p.head? ≠ some '*')
    (hrest : rest = [] ∨ rest.head? = some '/')
    (hbefore : before.getLast? = some '*' → (stars n ++ p).head? ≠ some '*') : IsRun before n (p ++ rest) where
  count_pos := hn
  before_ne := (isRun_of_next hn hp hbefore).before_ne
  after_ne := by
    cases p with
    | nil => rcases hrest with rfl | hrest <;> simp [*]
    | cons d p => simpa using hp

/-- The rest of a segment that is no globstar matches what it fits. -/
private theorem fits_segment_iff (hp : '/' ∉ p) (hrest : rest = [] ∨ rest.head? = some '/')
    (hstart : AtSegmentStart before → ¬IsGlobstar p) (hbefore : before.getLast? = some '*' → p.head? ≠ some '*') :
    Fits isOpen before (p ++ rest) slash c ↔
      ∃ u t, c = u ++ t ∧ '/' ∉ u ∧ SegmentFits p u ∧ Fits isOpen (before ++ p) rest (slash && p.isEmpty) t := by
  induction p using runs_induction generalizing before slash c with
  | nil =>
    constructor
    · exact fun h => ⟨[], c, rfl, by simp, .nil, by simpa using h⟩
    · rintro ⟨u, t, rfl, -, hu, h⟩
      rw [segmentFits_nil.1 hu]
      simpa using h
  | literal d p hd ih =>
    simp only [List.mem_cons, not_or] at hp
    have hnext : AtSegmentStart (before ++ [d]) → ¬IsGlobstar p := by
      rintro (h | h)
      · simp at h
      · exact absurd (by simpa using h) (Ne.symm hp.1)
    rw [List.cons_append, fits_literal_iff hd, decide_eq_false (Ne.symm hp.1)]
    simp only [ih hp.2 hnext (by simp [hd]), segmentFits_literal hd]
    constructor
    · rintro ⟨_, rfl, u, t, rfl, hu, hfits, h⟩
      exact ⟨d :: u, t, rfl, by simp [hu, hp.1], ⟨u, rfl, hfits⟩, by simpa using h⟩
    · rintro ⟨_, t, rfl, hu, ⟨u, rfl, hfits⟩, h⟩
      exact ⟨u ++ t, rfl, u, t, rfl, fun h => hu (List.mem_cons_of_mem _ h), hfits, by simpa using h⟩
  | run n p hn hhead ih =>
    have hslash : '/' ∉ p := fun h => hp (List.mem_append_right _ h)
    have hrun : IsRun before n (p ++ rest) := isRun_of_segment hn hhead hrest hbefore
    have hflank : ¬(2 ≤ n ∧ IsFlanked before (p ++ rest)) := by
      rintro ⟨h2, hleft, hright⟩
      cases p with
      | nil => exact hstart hleft (by simpa using isGlobstar_stars.2 h2)
      | cons d p =>
        obtain rfl : d = '/' := by simpa using hright
        exact hslash (by simp)
    have hnext : AtSegmentStart (before ++ stars n) → ¬IsGlobstar p := by
      have hlast := getLast?_stars before hn
      rintro (h | h) <;> simp [h] at hlast
    have hempty : (stars n ++ p).isEmpty = false := by simp [stars, Nat.ne_of_gt hn]
    rw [List.append_assoc, fits_run_iff hrun hflank]
    simp only [ih hslash hnext (fun _ => hhead), segmentFits_run hn hhead]
    constructor
    · rintro ⟨u, _, rfl, hu, v, t, rfl, hv, hfits, h⟩
      exact ⟨u ++ v, t, by simp, by simp [hu, hv], ⟨u, v, rfl, hfits⟩, by simpa [hempty] using h⟩
    · rintro ⟨_, t, rfl, huv, ⟨u, v, rfl, hfits⟩, h⟩
      simp only [List.mem_append, not_or] at huv
      exact ⟨u, v ++ t, by simp, huv.1, v, t, rfl, huv.2, hfits, by simpa [hempty] using h⟩

/-! ### All segments of a pattern -/

/-- The flag that a match ends with: whether the last character of the pattern is a slash that stands for itself. -/
def slashAfter : Bool → List (List Char) → Bool
  | _, [] => false
  | slash, [p] => slash && p.isEmpty
  | _, p :: ps => slashAfter (!decide (IsGlobstar p)) ps

theorem slashAfter_cons (p : List Char) (hps : ps ≠ []) :
    slashAfter slash (p :: ps) = slashAfter (!decide (IsGlobstar p)) ps := by
  cases ps with
  | nil => exact absurd rfl hps
  | cons q ps => rfl

private theorem IsGlobstar.isRun (hp : IsGlobstar p) (hbefore : AtSegmentStart before)
    (hrest : rest.head? ≠ some '*') : IsRun before p.length rest :=
  ⟨Nat.lt_of_lt_of_le Nat.zero_lt_two hp.1, fun h => hbefore.no_run h (p := ['*']) rfl, hrest⟩

/-- A globstar takes the slash behind it along. -/
private theorem fits_globstar_slash_iff (hp : IsGlobstar p) (hbefore : AtSegmentStart before) {r : List Char} :
    Fits isOpen before (p ++ '/' :: r) slash c ↔
      ∃ u t, c = u ++ t ∧ (AtSegmentStart u ∨ IsFinal t) ∧ Fits isOpen (before ++ p ++ ['/']) r false t := by
  have hrun : IsRun before p.length ('/' :: r) := hp.isRun hbefore (by simp)
  rw [hp.eq_stars]
  exact fits_globstar_iff hrun ⟨hp.1, hbefore, Or.inr rfl⟩

/-- A globstar at the end takes whatever is left. -/
private theorem fits_globstar_last (hp : IsGlobstar p) (hbefore : AtSegmentStart before) :
    Fits isOpen before p slash c := by
  have hrun : IsRun before p.length [] := hp.isRun hbefore (by simp)
  have hlast : Fits isOpen before (stars p.length ++ []) slash c :=
    (fits_globstar_iff hrun ⟨hp.1, hbefore, Or.inl rfl⟩).2 ⟨c, [], by simp, Or.inr (Or.inl rfl), fits_end_nil⟩
  rwa [List.append_nil, ← hp.eq_stars] at hlast

/-- Before the end of a text, a globstar has the last segment to spare. -/
private theorem laid_globstar_of_fresh (hp : IsGlobstar p) (hps : ¬IsTrailing ps) (hs : '/' ∉ s)
    (hfresh : ∀ q ∈ ps, ∀ d ∈ s, d ∉ q) (h : Laid ps (segments s)) (u : List Char) :
    Laid (p :: ps) (segments (u ++ s)) := by
  obtain ⟨v, w, rfl, hv, hw, -⟩ := exists_last_segment u
  have hws : '/' ∉ w ++ s := by simp [hw, hs]
  rw [segments_of_not_mem hs] at h
  have hstretch := h.stretch (fun he => hps (Or.inr he)) hfresh (w ++ s)
  rw [← segments_of_not_mem hws] at hstretch
  exact (laid_globstar_iff hp hps).2 ⟨v, w ++ s, by simp, hv, hstretch⟩

/-- The segments of the rest of a pattern are laid over a part of the text, and its ending permits what is left. -/
def FitsLaid (isOpen : Bool) (before rest : List Char) (slash : Bool) (c : List Char) : Prop :=
  ∃ s t, c = s ++ t ∧ Laid (segments rest) (segments s) ∧
    Fits isOpen (before ++ rest) [] (slashAfter slash (segments rest)) t

private theorem fitsLaid_last_iff (hslash : '/' ∉ p) (hp : ¬IsGlobstar p) :
    FitsLaid isOpen before p slash c ↔
      ∃ u t, c = u ++ t ∧ '/' ∉ u ∧ SegmentFits p u ∧ Fits isOpen (before ++ p) [] (slash && p.isEmpty) t := by
  rw [FitsLaid, segments_of_not_mem hslash]
  simp only [laid_last_iff hp, and_assoc]
  rfl

private theorem fitsLaid_slash_iff {r : List Char} (hslash : '/' ∉ p) :
    FitsLaid isOpen before (p ++ '/' :: r) slash c ↔ ∃ s t, c = s ++ t ∧ Laid (p :: segments r) (segments s) ∧
      Fits isOpen (before ++ p ++ ['/'] ++ r) [] (slashAfter (!decide (IsGlobstar p)) (segments r)) t := by
  have hbefore : before ++ (p ++ '/' :: r) = before ++ p ++ ['/'] ++ r := by simp
  rw [FitsLaid, segments_cons hslash, slashAfter_cons p (segments_ne_nil r), hbefore]

private theorem fitsLaid_segment_iff {r : List Char} (hslash : '/' ∉ p) (hp : ¬IsGlobstar p) :
    FitsLaid isOpen before (p ++ '/' :: r) slash c ↔
      ∃ u t, c = u ++ '/' :: t ∧ '/' ∉ u ∧ SegmentFits p u ∧ FitsLaid isOpen (before ++ p ++ ['/']) r true t := by
  rw [fitsLaid_slash_iff hslash, decide_eq_false hp]
  constructor
  · rintro ⟨w, t, rfl, hlaid, hend⟩
    obtain ⟨u, s, rfl, hu, hfits, hlaid⟩ := (laid_segment_iff hp (segments_ne_nil r)).1 hlaid
    exact ⟨u, s ++ t, by simp, hu, hfits, s, t, rfl, hlaid, hend⟩
  · rintro ⟨u, _, rfl, hu, hfits, s, t, rfl, hlaid, hend⟩
    have hwhole := (laid_segment_iff hp (segments_ne_nil r)).2 ⟨u, s, rfl, hu, hfits, hlaid⟩
    exact ⟨u ++ '/' :: s, t, by simp, hwhole, hend⟩

private theorem fitsLaid_remainder (hp : IsGlobstar p) (hps : IsTrailing ps) (hrest : segments rest = p :: ps) :
    FitsLaid isOpen before rest slash c :=
  ⟨c, [], by simp, hrest ▸ .remainder hp hps (segments_ne_nil c), fits_end_nil⟩

private theorem fitsLaid_globstar_iff {r : List Char} (hslash : '/' ∉ p) (hp : IsGlobstar p) (hr : r ≠ []) :
    FitsLaid isOpen before (p ++ '/' :: r) slash c ↔
      ∃ u t, c = u ++ t ∧ AtSegmentStart u ∧ FitsLaid isOpen (before ++ p ++ ['/']) r false t := by
  rw [fitsLaid_slash_iff hslash, decide_eq_true hp]
  constructor
  · rintro ⟨w, t, rfl, hlaid, hend⟩
    obtain ⟨u, s, rfl, hu, hlaid⟩ := (laid_globstar_iff hp (not_isTrailing hr)).1 hlaid
    exact ⟨u, s ++ t, by simp, hu, s, t, rfl, hlaid, hend⟩
  · rintro ⟨u, _, rfl, hu, s, t, rfl, hlaid, hend⟩
    exact ⟨u ++ s, t, by simp, (laid_globstar_iff hp (not_isTrailing hr)).2 ⟨u, s, rfl, hu, hlaid⟩, hend⟩

/-- A globstar that takes the end of the text as well may leave the last segment to the segments after it. -/
private theorem fitsLaid_globstar_of_final {r u : List Char} (hslash : '/' ∉ p) (hp : IsGlobstar p) (hr : r ≠ [])
    (hline : '\n' ∉ r ∨ '\n' ∉ c) (hc : IsFinal c) (h : FitsLaid isOpen (before ++ p ++ ['/']) r false c) :
    FitsLaid isOpen before (p ++ '/' :: r) slash (u ++ c) := by
  rw [fitsLaid_slash_iff hslash, decide_eq_true hp]
  obtain ⟨s, t, rfl, hlaid, hend⟩ := h
  refine ⟨u ++ s, t, by simp, ?_, hend⟩
  have hmem : ∀ d ∈ s, d = '\n' := by
    intro d hd
    have hd' : d ∈ s ++ t := List.mem_append_left t hd
    rcases hc with hc | hc <;> rw [hc] at hd'
    · simp at hd'
    · exact List.mem_singleton.1 hd'
  have hfresh : ∀ q ∈ segments r, ∀ d ∈ s, d ∉ q := by
    intro q hq d hd hdq
    obtain rfl := hmem d hd
    have hr := mem_of_mem_segments hq hdq
    simp [hd, hr] at hline
  exact laid_globstar_of_fresh hp (not_isTrailing hr) (fun h => absurd (hmem _ h) (by decide)) hfresh hlaid u

/-- Segments that are laid over a part of the text match it, up to the ending. -/
theorem fits_of_laid (hbefore : AtSegmentStart before) (h : FitsLaid isOpen before rest slash c) :
    Fits isOpen before rest slash c := by
  induction rest using segments_induction generalizing before slash c with
  | last p hp =>
    by_cases hg : IsGlobstar p
    · exact fits_globstar_last hg hbefore
    · rw [fitsLaid_last_iff hp hg, ← fits_segment_iff hp (Or.inl rfl) (fun _ => hg) hbefore.no_run,
        List.append_nil] at h
      exact h
  | slash p r hp ih =>
    have hnext : AtSegmentStart (before ++ p ++ ['/']) := Or.inr (by simp)
    by_cases hg : IsGlobstar p
    · rw [fits_globstar_slash_iff hg hbefore]
      by_cases hr : r = []
      · subst hr
        exact ⟨c, [], by simp, Or.inr (Or.inl rfl), fits_end_nil⟩
      · obtain ⟨u, t, hc, hu, h⟩ := (fitsLaid_globstar_iff hp hg hr).1 h
        exact ⟨u, t, hc, Or.inl hu, ih hnext h⟩
    · obtain ⟨u, t, hc, hu, hfits, h⟩ := (fitsLaid_segment_iff hp hg).1 h
      rw [fits_segment_iff hp (Or.inr rfl) (fun _ => hg) hbefore.no_run]
      exact ⟨u, '/' :: t, hc, hu, hfits, (fits_literal_iff (by decide)).2 ⟨t, rfl, ih hnext h⟩⟩

/-- A match lays the segments of the pattern over the part of the text that they take.  A line break at the end of the
text matters only to patterns with line breaks. -/
theorem laid_of_fits (hbefore : AtSegmentStart before) (hline : '\n' ∉ rest ∨ '\n' ∉ c)
    (h : Fits isOpen before rest slash c) : FitsLaid isOpen before rest slash c := by
  induction rest using segments_induction generalizing before slash c with
  | last p hp =>
    by_cases hg : IsGlobstar p
    · exact fitsLaid_remainder hg (Or.inl rfl) (segments_of_not_mem hp)
    · rw [fitsLaid_last_iff hp hg, ← fits_segment_iff hp (Or.inl rfl) (fun _ => hg) hbefore.no_run, List.append_nil]
      exact h
  | slash p r hp ih =>
    have hnext : AtSegmentStart (before ++ p ++ ['/']) := Or.inr (by simp)
    have hrest : '\n' ∉ r ∨ '\n' ∉ c := hline.imp_left fun hr h => hr (by simp [h])
    by_cases hg : IsGlobstar p
    · rw [fits_globstar_slash_iff hg hbefore] at h
      by_cases hr : r = []
      · subst hr
        exact fitsLaid_remainder hg (Or.inr rfl) (segments_cons hp [])
      · obtain ⟨u, t, rfl, hu, h⟩ := h
        have hline' : '\n' ∉ r ∨ '\n' ∉ t := hrest.imp_right fun h ht => h (by simp [ht])
        have hlaid := ih hnext hline' h
        rcases hu with hu | hfinal
        · exact (fitsLaid_globstar_iff hp hg hr).2 ⟨u, t, rfl, hu, hlaid⟩
        · exact fitsLaid_globstar_of_final hp hg hr hline' hfinal hlaid
    · rw [fits_segment_iff hp (Or.inr rfl) (fun _ => hg) hbefore.no_run] at h
      obtain ⟨u, _, rfl, hu, hfits, h⟩ := h
      obtain ⟨t, rfl, hnextFits⟩ := (fits_literal_iff (by decide)).1 h
      have hlaid := ih hnext (hrest.imp_right fun h ht => h (by simp [ht])) hnextFits
      exact (fitsLaid_segment_iff hp hg).2 ⟨u, t, rfl, hu, hfits, hlaid⟩

/-- An exact pattern matches a text without a line break as a whole. -/
theorem fits_exact_iff (hline : '\n' ∉ c) : Fits false [] p slash c ↔ Laid (segments p) (segments c) := by
  constructor
  · intro h
    obtain ⟨s, t, rfl, hlaid, hend⟩ := laid_of_fits (Or.inl rfl) (Or.inr hline) h
    rcases fits_end_iff.1 hend with (rfl | rfl) | ⟨ho, -⟩
    · rwa [List.append_nil]
    · simp at hline
    · simp at ho
  · exact fun h => fits_of_laid (Or.inl rfl) ⟨c, [], by simp, h, fits_end_nil⟩

/-- The expression of an exact pattern accepts a text without a line break if and only if the segments of the pattern
can be laid over those of the text. -/
theorem exact_accepts_iff_laid (pattern candidate : String) (hline : '\n' ∉ candidate.toList) :
    ∃ r, Regex.read (toRegex pattern.toList false).text.toList = some r ∧
      (r.Accepts candidate.toList ↔ Laid (segments pattern.toList) (segments candidate.toList)) := by
  have hread := read_toRegex pattern.toList false
  refine ⟨_, by rwa [Regex.text, String.toList_ofList], ?_⟩
  rw [accepts_joined, ← fits_exact_iff hline]
  exact accepts_tokens_iff pattern.toList false candidate.toList

/-- A globstar takes two segments, and a star the rest of another one. -/
theorem exact_accepts_two_below :
    '\n' ∉ "/a/x/y/bc".toList ∧ ∃ r, Regex.read (toRegex "/a/**/b*".toList false).text.toList = some r ∧
      r.Accepts "/a/x/y/bc".toList := by
  have hline : '\n' ∉ "/a/x/y/bc".toList := by decide
  have hpattern : segments "/a/**/b*".toList = [[], ['a'], ['*', '*'], ['b', '*']] := by decide
  have htext : segments "/a/x/y/bc".toList = [] :: ['a'] :: ([['x'], ['y']] ++ [['b', 'c']]) := by decide
  have hlast : SegmentFits ['b', '*'] ['b', 'c'] :=
    .literal (by decide) (segmentFits_star.2 ⟨['c'], [], rfl, .nil⟩)
  have hlaid : Laid (segments "/a/**/b*".toList) (segments "/a/x/y/bc".toList) := by
    have htail : Laid [['*', '*'], ['b', '*']] ([['x'], ['y']] ++ [['b', 'c']]) :=
      .globstar (by decide) (by simp [IsTrailing]) rfl (.segment (by decide) hlast .nil)
    rw [hpattern, htext]
    exact .segment (by decide) .nil (.segment (by decide) (.literal (by decide) .nil) htail)
  obtain ⟨r, hread, haccepts⟩ := exact_accepts_iff_laid "/a/**/b*" "/a/x/y/bc" hline
  exact ⟨hline, r, hread, haccepts.2 hlaid⟩

end PathAccess.Glob
