import PathAccess.Proofs.Glob.Containment

/-!
# Open patterns

An open pattern accepts what the exact one accepts, and everything below it: the same texts as an exact pattern with a
globstar behind it (`open_accepts_iff`).  The ending of an open pattern depends on its last token.  A slash at the end
of the pattern is this token, unless a globstar has taken it along, and in both cases the ending lets everything pass
that the tokens lead to (`accepts_open_of_slash`).

So whatever a pattern covers, it covers with the paths below it, unless it ends in a star that is no globstar
(`covers_below`).
-/

namespace PathAccess.Glob

/-! ### Tokens one after the other -/

/-- Tokens lead, one after the other, from the rest `s` to the rest `t`. -/
def TakesAll : List Token → List Char → List Char → Prop
  | [], s, t => s = t
  | k :: ts, s, t => ∃ m, k.Takes s m ∧ TakesAll ts m t

variable {ts us : List Token} {s t : List Char}

theorem takesAll_append : TakesAll (ts ++ us) s t ↔ ∃ m, TakesAll ts s m ∧ TakesAll us m t := by
  induction ts generalizing s with
  | nil => simp [TakesAll]
  | cons k ts ih =>
    simp only [List.cons_append, TakesAll, ih]
    constructor
    · rintro ⟨n, hn, m, hm, ht⟩
      exact ⟨m, ⟨n, hn, hm⟩, ht⟩
    · rintro ⟨m, ⟨n, hn, hm⟩, ht⟩
      exact ⟨n, hn, m, hm, ht⟩

theorem accepts_iff_takesAll {e : Ending} :
    accepts e ts s = true ↔ ∃ t, TakesAll ts s t ∧ e.accepts t = true := by
  induction ts generalizing s with
  | nil =>
    have hnil : accepts e [] s = e.accepts s := by cases s <;> rfl
    simp [TakesAll, hnil]
  | cons k ts ih =>
    rw [accepts_cons]
    simp only [ih, TakesAll]
    constructor
    · rintro ⟨m, hk, t, ht, he⟩
      exact ⟨t, ⟨m, hk, ht⟩, he⟩
    · rintro ⟨t, ⟨m, hk, ht⟩, he⟩
      exact ⟨m, hk, t, ht, he⟩

/-- A globstar may take all that is left. -/
private theorem exists_takesAll_globstar :
    (∃ t, TakesAll (ts ++ [.globstar]) s t ∧ IsFinal t) ↔ ∃ t, TakesAll ts s t := by
  simp only [takesAll_append]
  constructor
  · rintro ⟨_, ⟨m, hm, -⟩, -⟩
    exact ⟨m, hm⟩
  · rintro ⟨m, hm⟩
    have hall : Token.globstar.Takes m [] := ⟨m, Or.inr (Or.inr (Or.inl rfl)), (List.append_nil m).symm⟩
    exact ⟨[], ⟨m, hm, [], hall, rfl⟩, Or.inl rfl⟩

private theorem accepts_globstar_iff :
    accepts .closed (ts ++ [.globstar]) s = true ↔ ∃ t, TakesAll ts s t := by
  rw [accepts_iff_takesAll, ← exists_takesAll_globstar]
  simp only [Ending.accepts, atEnd_iff]

private theorem accepts_slash_globstar_iff :
    accepts .closed (ts ++ [.literal '/'] ++ [.globstar]) s = true ↔ ∃ t, TakesAll ts s ('/' :: t) := by
  rw [accepts_globstar_iff]
  simp [takesAll_append, TakesAll, Token.Takes]

/-! ### The tokens around a character -/

private theorem pieces_append_cons {c : Char} (hc : c ≠ '*') (l t : List Char) :
    pieces (l ++ c :: t) = pieces l ++ .char c :: pieces t := by
  induction l with
  | nil => simp [pieces, hc]
  | cons d l ih =>
    rw [List.cons_append, pieces, pieces, ih]
    by_cases hd : d = '*'
    · simp only [hd, ↓reduceIte]
      cases pieces l with
      | nil => rfl
      | cons p ps => cases p <;> rfl
    · simp [hd]

private theorem nextChar_cons (p : Piece) (ps : List Piece) : nextChar (p :: ps) = nextChar [p] := by
  cases p <;> rfl

private theorem exists_tokensAfter (c : Char) : ∀ (before : Option Char) (ps : List Piece),
    ∃ ts k, (k = .literal c ∨ k = .globstar) ∧
      ∀ qs, tokensAfter before (ps ++ .char c :: qs) = ts ++ [k] ++ tokensAfter (some c) qs
  | _, [] => ⟨[], .literal c, Or.inl rfl, fun _ => rfl⟩
  | _, .char d :: ps => by
    obtain ⟨ts, k, hk, h⟩ := exists_tokensAfter c (some d) ps
    exact ⟨.literal d :: ts, k, hk, fun qs => by simp [tokensAfter, h]⟩
  | before, [.stars n] => by
    by_cases hflank : (2 ≤ n && isEdge before && isEdge (some c)) = true
    · exact ⟨[], .globstar, Or.inr rfl, fun qs => by simp [tokensAfter, nextChar, hflank]⟩
    · exact ⟨[.star], .literal c, Or.inl rfl, fun qs => by simp [tokensAfter, nextChar, hflank]⟩
  | before, .stars n :: p :: ps => by
    by_cases hflank : (2 ≤ n && isEdge before && isEdge (nextChar [p])) = true
    · obtain ⟨ts, k, hk, h⟩ := exists_tokensAfter c (nextChar [p]) ps
      exact ⟨.globstar :: ts, k, hk, fun qs => by simp [tokensAfter, nextChar_cons p, hflank, h]⟩
    · obtain ⟨ts, k, hk, h⟩ := exists_tokensAfter c (some '*') (p :: ps)
      simp only [List.cons_append] at h
      exact ⟨.star :: ts, k, hk, fun qs => by simp [tokensAfter_stars, nextChar_cons p, hflank, h]⟩

/-- A character that is no star is a token, or a globstar has taken it along, and the tokens behind it depend on nothing
else before them. -/
theorem exists_tokens_append_cons {c : Char} (hc : c ≠ '*') (l : List Char) :
    ∃ ts k, (k = .literal c ∨ k = .globstar) ∧
      ∀ t, tokens (l ++ c :: t) = ts ++ [k] ++ tokensAfter (some c) (pieces t) := by
  obtain ⟨ts, k, hk, h⟩ := exists_tokensAfter c none (pieces l)
  refine ⟨ts, k, hk, fun t => ?_⟩
  rw [tokens, pieces_append_cons hc, h]

theorem tokens_append_cons {c : Char} (hc : c ≠ '*') (l t : List Char) :
    tokens (l ++ c :: t) = tokens (l ++ [c]) ++ tokensAfter (some c) (pieces t) := by
  obtain ⟨ts, k, -, h⟩ := exists_tokens_append_cons hc l
  rw [h t, h []]
  simp [pieces, tokensAfter]

theorem exists_tokens_concat {c : Char} (hc : c ≠ '*') (l : List Char) :
    ∃ ts k, (k = .literal c ∨ k = .globstar) ∧ tokens (l ++ [c]) = ts ++ [k] := by
  obtain ⟨ts, k, hk, h⟩ := exists_tokens_append_cons hc l
  exact ⟨ts, k, hk, by simpa [pieces, tokensAfter] using h []⟩

/-! ### A globstar behind a pattern -/

variable {pattern : List Char}

private theorem tokens_slash (hstar : pattern.getLast? ≠ some '*') :
    tokens (pattern ++ ['/']) = tokens pattern ++ [.literal '/'] := by
  cases hlast : pattern.getLast? with
  | none =>
    rw [List.getLast?_eq_none_iff.1 hlast]
    rfl
  | some c =>
    obtain ⟨l, rfl⟩ := List.getLast?_eq_some_iff.1 hlast
    have hc : c ≠ '*' := by simpa using hstar
    rw [List.append_assoc]
    exact tokens_append_cons hc l ['/']

private theorem tokens_slash_globstar (hstar : pattern.getLast? ≠ some '*') :
    tokens (pattern ++ "/**".toList) = tokens pattern ++ [.literal '/'] ++ [.globstar] := by
  rw [← tokens_slash hstar]
  exact tokens_append_cons (by decide) pattern "**".toList

private theorem tokens_globstar (l : List Char) :
    tokens (l ++ ['/'] ++ "**".toList) = tokens (l ++ ['/']) ++ [.globstar] := by
  rw [List.append_assoc]
  exact tokens_append_cons (by decide) l "**".toList

/-! ### What an open pattern accepts -/

/-- With a slash at its end, an open pattern accepts whatever its tokens lead through. -/
private theorem accepts_open_of_slash (l : List Char) :
    accepts (openEnding (l ++ ['/'])) (tokens (l ++ ['/'])) s = true ↔ ∃ t, TakesAll (tokens (l ++ ['/'])) s t := by
  obtain ⟨ts, k, hk, htokens⟩ := exists_tokens_concat (c := '/') (by decide) l
  rw [openEnding, if_neg (by simp), htokens, List.getLast?_concat, accepts_iff_takesAll]
  rcases hk with rfl | rfl
  · simp [Ending.accepts]
  · -- the globstar that has taken the slash along takes the rest of the text as well
    constructor
    · rintro ⟨t, ht, -⟩
      exact ⟨t, ht⟩
    · rintro ⟨t, ht⟩
      obtain ⟨m, hm, -⟩ := takesAll_append.1 ht
      obtain ⟨t, ht, hend⟩ := exists_takesAll_globstar.2 ⟨m, hm⟩
      exact ⟨t, ht, by simp [Ending.accepts, atEnd_iff.2 hend]⟩

private theorem openEnding_of_no_slash (hstar : pattern.getLast? ≠ some '*') (hslash : pattern.getLast? ≠ some '/') :
    openEnding pattern = .below := by
  rw [openEnding, if_neg hstar, if_neg]
  cases hlast : pattern.getLast? with
  | none =>
    rw [List.getLast?_eq_none_iff.1 hlast]
    simp [tokens, pieces, tokensAfter]
  | some c =>
    obtain ⟨l, rfl⟩ := List.getLast?_eq_some_iff.1 hlast
    have hc : c ≠ '*' := by simpa using hstar
    have hne : c ≠ '/' := by simpa using hslash
    obtain ⟨ts, k, hk, htokens⟩ := exists_tokens_concat hc l
    rcases hk with rfl | rfl <;> simp [htokens, hne]

private theorem accepts_below_iff :
    accepts .below ts s = true ↔
      accepts .closed ts s = true ∨ accepts .closed (ts ++ [.literal '/'] ++ [.globstar]) s = true := by
  rw [accepts_slash_globstar_iff, accepts_iff_takesAll, accepts_iff_takesAll]
  simp only [Ending.accepts, Bool.or_eq_true, decide_eq_true_eq, List.head?_eq_some_iff]
  constructor
  · rintro ⟨t, ht, hend | ⟨t, rfl⟩⟩
    · exact Or.inl ⟨t, ht, hend⟩
    · exact Or.inr ⟨t, ht⟩
  · rintro (⟨t, ht, hend⟩ | ⟨t, ht⟩)
    · exact ⟨t, ht, Or.inl hend⟩
    · exact ⟨'/' :: t, ht, Or.inr ⟨t, rfl⟩⟩

/-- The written expression of a pattern, open or exact, is well formed and accepts the text. -/
def ExpressionAccepts (pattern : String) (isOpen : Bool) (candidate : String) : Prop :=
  ∃ r, Regex.read (toRegex pattern.toList isOpen).text.toList = some r ∧ r.Accepts candidate.toList

theorem expressionAccepts_iff {pattern candidate : String} {isOpen : Bool} :
    ExpressionAccepts pattern isOpen candidate ↔
      accepts (endingOf pattern.toList isOpen) (tokens pattern.toList) candidate.toList = true := by
  rw [ExpressionAccepts, Regex.text, String.toList_ofList, read_toRegex, ← accepts_joined]
  simp

/-- **Open patterns.**  Unless it ends in a star, an open pattern accepts what the exact one accepts, and what the exact
one with a slash and a globstar behind it accepts.  If it ends in a slash, it accepts what the exact one with a globstar
behind it accepts. -/
theorem open_accepts_iff (pattern candidate : String) (hstar : pattern.toList.getLast? ≠ some '*') :
    (pattern.toList.getLast? ≠ some '/' → (ExpressionAccepts pattern true candidate ↔
      ExpressionAccepts pattern false candidate ∨ ExpressionAccepts (pattern ++ "/**") false candidate)) ∧
    (pattern.toList.getLast? = some '/' → (ExpressionAccepts pattern true candidate ↔
      ExpressionAccepts (pattern ++ "**") false candidate)) ∧
    (ExpressionAccepts pattern false candidate → ExpressionAccepts pattern true candidate) := by
  simp only [expressionAccepts_iff, String.toList_append, endingOf, Bool.false_eq_true, ↓reduceIte]
  by_cases hslash : pattern.toList.getLast? = some '/'
  · obtain ⟨l, hl⟩ := List.getLast?_eq_some_iff.1 hslash
    refine ⟨fun hno => absurd hslash hno, fun _ => ?_, fun h => ?_⟩
    · rw [hl, tokens_globstar, accepts_globstar_iff, accepts_open_of_slash]
    · rw [hl, accepts_iff_takesAll] at h
      obtain ⟨t, ht, -⟩ := h
      rw [hl]
      exact (accepts_open_of_slash l).2 ⟨t, ht⟩
  · rw [openEnding_of_no_slash hstar hslash, tokens_slash_globstar hstar]
    exact ⟨fun _ => accepts_below_iff, fun hyes => absurd hyes hslash, fun h => accepts_below_iff.2 (Or.inl h)⟩

/-- The slash at the end went with a globstar, and the text has two lines. -/
theorem open_accepts_iff_behind_globstar :
    "/a/**/".toList.getLast? ≠ some '*' ∧ ExpressionAccepts "/a/**/" true "/a/b\nc" := by
  have hstar : "/a/**/".toList.getLast? ≠ some '*' := by decide
  have hbelow : ExpressionAccepts ("/a/**/" ++ "**") false "/a/b\nc" := expressionAccepts_iff.2 (by decide +kernel)
  exact ⟨hstar, ((open_accepts_iff "/a/**/" "/a/b\nc" hstar).2.1 (by decide)).2 hbelow⟩

/-! ### What lies below a covered path -/

/-- **Coverage of what lies below.**  A pattern covers whatever lies below a path that it covers, if it does not end in
a star, or if its last segment is a globstar.  The path has no line break, which might be taken for its end. -/
theorem covers_below {pattern path rest : String}
    (hpattern : pattern.toList.getLast? ≠ some '*' ∨
      ∃ p, (segments pattern.toList).getLast? = some p ∧ IsGlobstar p)
    (hpath : '*' ∉ path.toList) (hline : '\n' ∉ path.toList) (hrest : '*' ∉ rest.toList)
    (h : covers pattern path = true) : covers pattern (path ++ "/" ++ rest) = true := by
  have hlonger : '*' ∉ (path ++ "/" ++ rest).toList := by simp [hpath, hrest]
  have hopen : pattern.toList.getLast? ≠ some '*' ∨ EndsOpenly (segments pattern.toList) :=
    hpattern.imp_right fun ⟨_, hp, hg⟩ => endsOpenly_of_getLast? hp hg
  rw [covers_iff_of_literal hpath] at h
  rw [covers_iff_of_literal hlonger]
  obtain ⟨s, t, hs, hlaid, hend⟩ := laid_of_fits (Or.inl rfl) (Or.inr hline) h
  have hsplit : (path ++ "/" ++ rest).toList = s ++ (t ++ '/' :: rest.toList) := by simp [hs]
  rw [hsplit]
  rcases fits_end_iff.1 hend with (rfl | rfl) | ⟨-, ⟨-, ht⟩ | hslash⟩
  · exact fits_beyond hopen hlaid (Or.inr (Or.inl rfl))
  · exact absurd (by simp [hs]) hline
  · exact fits_beyond hopen hlaid (Or.inr (Or.inl (by simp [List.head?_append, ht])))
  · exact fits_beyond hopen hlaid (Or.inr (Or.inr (last_slash_of_slashAfter hlaid hslash)))

/-- A star before the last segment, which is a globstar of three stars. -/
theorem covers_below_last_globstar :
    (segments "/a*/***".toList).getLast? = some "***".toList ∧ IsGlobstar "***".toList ∧
      covers "/a*/***" "/ab/c" = true ∧ covers "/a*/***" ("/ab/c" ++ "/" ++ "d\ne") = true := by
  have hlast : (segments "/a*/***".toList).getLast? = some "***".toList := by decide
  have hglobstar : IsGlobstar "***".toList := by decide
  have hcovers : covers "/a*/***" "/ab/c" = true := by decide +kernel
  refine ⟨hlast, hglobstar, hcovers, ?_⟩
  exact covers_below (Or.inr ⟨_, hlast, hglobstar⟩) (by decide) (by decide) (by decide) hcovers

-- a line break at the end of a path counts for nothing, and in the middle of a longer one it counts
example : covers "/a" "/a\n" = true ∧ covers "/a" "/a\n/b" = false := by decide

end PathAccess.Glob
