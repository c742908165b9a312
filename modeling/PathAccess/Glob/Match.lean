import PathAccess.Glob.Basic

/-!
# Matching a path against a pattern

`Glob.accepts` tries every way to lay the tokens over the text.  `verdicts` finds the answer for every end piece of
the text at once, token by token from the last to the first, in a number of steps proportional to the two lengths
multiplied (`verdicts_eq`).  On it stand the two questions that permissions ask of paths: whether a pattern covers a
path (`covers`), and whether one of two patterns covers the other (`overlap`).
-/

namespace PathAccess.Glob

/-- The end pieces of a text, from the whole text to the empty one. -/
def endPieces : List Char → List (List Char)
  | [] => [[]]
  | c :: s => (c :: s) :: endPieces s

/-- Verdicts on the end pieces of a text turned into those of `afterRun`. -/
def runVerdicts : List Char → List Bool → List Bool
  | c :: s, b :: bs =>
    let rest := runVerdicts s bs
    (b || (c ≠ '/' && rest.headD false)) :: rest
  | _, bs => bs

/-- Verdicts on the end pieces of a text turned into those of `afterSegments`. -/
def segmentVerdicts : List Char → List Bool → List Bool
  | c :: s, _ :: bs =>
    let rest := segmentVerdicts s bs
    (((c = '/' || atEnd s) && bs.headD false) || rest.headD false) :: rest
  | _, _ => [false]

/-- Verdicts on the end pieces of a text turned into those with a literal before them. -/
def literalVerdicts (c : Char) : List Char → List Bool → List Bool
  | d :: s, _ :: bs => (c = d && bs.headD false) :: literalVerdicts c s bs
  | _, _ => [false]

/-- For every end piece of the text, whether the tokens match it. -/
def verdicts (ending : Ending) (s : List Char) : List Token → List Bool
  | [] => (endPieces s).map ending.accepts
  | .literal c :: ts => literalVerdicts c s (verdicts ending s ts)
  | .star :: ts => runVerdicts s (verdicts ending s ts)
  | .globstar :: ts =>
    let next := verdicts ending s ts
    List.zipWith (· || ·) next (segmentVerdicts s next)

private theorem headD_endPieces (f : List Char → Bool) (s : List Char) :
    ((endPieces s).map f).headD false = f s := by
  cases s <;> simp [endPieces]

private theorem runVerdicts_eq (f : List Char → Bool) (s : List Char) :
    runVerdicts s ((endPieces s).map f) = (endPieces s).map (afterRun f) := by
  induction s with
  | nil => simp [runVerdicts, endPieces, afterRun]
  | cons c s ih => simp only [endPieces, List.map_cons, runVerdicts, ih, headD_endPieces, afterRun]

private theorem segmentVerdicts_eq (f : List Char → Bool) (s : List Char) :
    segmentVerdicts s ((endPieces s).map f) = (endPieces s).map (afterSegments f) := by
  induction s with
  | nil => simp [segmentVerdicts, endPieces, afterSegments]
  | cons c s ih =>
    simp only [endPieces, List.map_cons, segmentVerdicts, ih, headD_endPieces, afterSegments]

private theorem literalVerdicts_eq (e : Ending) (c : Char) (ts : List Token) (s : List Char) :
    literalVerdicts c s ((endPieces s).map (accepts e ts)) =
      (endPieces s).map (accepts e (.literal c :: ts)) := by
  induction s with
  | nil => simp [literalVerdicts, endPieces, accepts]
  | cons d s ih => simp only [endPieces, List.map_cons, literalVerdicts, ih, headD_endPieces, accepts]

/-- The verdicts are those of `accepts`. -/
theorem verdicts_eq (e : Ending) (s : List Char) (ts : List Token) :
    verdicts e s ts = (endPieces s).map (accepts e ts) := by
  induction ts with
  | nil =>
    refine List.map_congr_left fun t _ => ?_
    cases t <;> rfl
  | cons t ts ih =>
    cases t with
    | literal c => rw [verdicts, ih, literalVerdicts_eq]
    | star =>
      rw [verdicts, ih, runVerdicts_eq]
      refine List.map_congr_left fun t _ => ?_
      cases t <;> rfl
    | globstar =>
      rw [verdicts, ih]
      simp only [segmentVerdicts_eq, List.zipWith_map_left, List.zipWith_map_right, List.zipWith_self]
      refine List.map_congr_left fun t _ => ?_
      cases t <;> rfl

/-- Whether the pattern, open or exact, matches the text. -/
def matchesText (pattern : List Char) (isOpen : Bool) (s : List Char) : Bool :=
  (verdicts (if isOpen then openEnding pattern else .closed) s (tokens pattern)).headD false

theorem matchesText_eq (pattern : List Char) (isOpen : Bool) (s : List Char) :
    matchesText pattern isOpen s =
      accepts (if isOpen then openEnding pattern else .closed) (tokens pattern) s := by
  rw [matchesText, verdicts_eq, headD_endPieces]

/-- Whether the pattern covers the path.  A path with a star in it has to match the exact pattern, star for star or
star under star. -/
def covers (pattern path : String) : Bool :=
  matchesText pattern.toList (!path.toList.contains '*') path.toList

/-- Whether one of two patterns covers the other. -/
def overlap (first second : String) : Bool := covers first second || covers second first

end PathAccess.Glob
