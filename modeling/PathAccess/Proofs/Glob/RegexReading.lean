import PathAccess.Glob.Basic

/-!
# Reading regular expressions

A written expression is read in two steps: its characters into signs (`readSigns`), and the signs into an expression
(`read`), with a stack of the groups that stand open (`Stack.step`).  The reader knows the signs that path patterns
need, and is strict: a backslash stands only before a character that is no letter and no digit, a character that is
used as a sign stands for itself only behind a backslash, every group is closed, and nothing is repeated that is
itself a repetition or an end of the text.

The written form of a pattern is read back (`read_toRegex`): the characters of a token are read as its signs, whatever
comes after them (`Writes`), and the signs of a token put its expression behind what was read before.
-/

namespace PathAccess

namespace Regex

/-- A sign of a written expression. -/
inductive Sign where
  /-- An expression by itself: a character, any character, any but one, or an end of the text. -/
  | atom (r : Regex)
  | opening (numbered : Bool)
  | closing
  | bar
  /-- What becomes of the expression before it. -/
  | repetition (f : Regex → Regex)

/-- Whether a backslash before the character makes it stand for itself. -/
def isEscapable (c : Char) : Bool := !c.isAlphanum

/-- The characters that are a sign by themselves. -/
def ownSigns : List (Char × Sign) :=
  [(')', .closing), ('|', .bar), ('*', .repetition .star), ('?', .repetition .optional), ('.', .atom .any),
    ('^', .atom .start), ('$', .atom .finish)]

/-- What a character is by itself. -/
def ownSign (c : Char) : Option Sign :=
  match ownSigns.lookup c with
  | some sign => some sign
  | none => if c ∈ signs then none else some (.atom (.char c))

/-- The signs of a written expression, if each of them is known. -/
def readSigns : List Char → Option (List Sign)
  | [] => some []
  | c :: s =>
    if c = '\\' then
      match s with
      | d :: s => if isEscapable d then (readSigns s).map (.atom (.char d) :: ·) else none
      | [] => none
    else if c = '[' then
      match s with
      | '^' :: d :: ']' :: s => if d = ']' || d = '\\' then none else (readSigns s).map (.atom (.other d) :: ·)
      | _ => none
    else if c = '(' then
      match s with
      | '?' :: ':' :: s => (readSigns s).map (.opening false :: ·)
      | '?' :: _ => none
      | s => (readSigns s).map (.opening true :: ·)
    else (ownSign c).bind fun sign => (readSigns s).map (sign :: ·)

/-- Expressions one after the other. -/
def joined : List Regex → Regex
  | [] => empty
  | [r] => r
  | r :: rs => seq r (joined rs)

/-- What has been read of a group, or of the whole. -/
structure Level where
  /-- The alternatives before the last bar, last first. -/
  alternatives : List Regex
  /-- The expressions behind it, last first. -/
  parts : List Regex
  /-- Whether a repetition may follow. -/
  canRepeat : Bool

namespace Level

def blank : Level := ⟨[], [], false⟩

def add (r : Regex) (canRepeat : Bool) (l : Level) : Level := ⟨l.alternatives, r :: l.parts, canRepeat⟩

/-- The expression that the level makes up when it is closed. -/
def whole (l : Level) : Regex := l.alternatives.foldl (fun r a => .alt a r) (joined l.parts.reverse)

end Level

/-- The level being read, and the levels around it, each with whether the group in it is numbered. -/
structure Stack where
  level : Level
  outer : List (Bool × Level)

namespace Stack

def step : Stack → Sign → Option Stack
  | ⟨l, outer⟩, .atom r => some ⟨l.add r (r ≠ .start && r ≠ .finish), outer⟩
  | ⟨l, outer⟩, .opening numbered => some ⟨.blank, (numbered, l) :: outer⟩
  | ⟨l, (numbered, up) :: outer⟩, .closing => some ⟨up.add (if numbered then .group l.whole else l.whole) true, outer⟩
  | ⟨_, []⟩, .closing => none
  | ⟨l, outer⟩, .bar => some ⟨⟨joined l.parts.reverse :: l.alternatives, [], false⟩, outer⟩
  | ⟨⟨alternatives, r :: parts, true⟩, outer⟩, .repetition f => some ⟨⟨alternatives, f r :: parts, false⟩, outer⟩
  | _, .repetition _ => none

/-- The expression that has been read, if no group stands open. -/
def finished : Stack → Option Regex
  | ⟨l, []⟩ => some l.whole
  | ⟨_, _ :: _⟩ => none

end Stack

/-- The expression that a text writes, if it is well formed. -/
def read (text : List Char) : Option Regex :=
  (readSigns text).bind fun ss => (ss.foldlM Stack.step ⟨.blank, []⟩).bind Stack.finished

/-! ### The signs of a pattern's expression -/

/-- The characters are read as the signs, whatever comes after them. -/
def Writes (u : List Char) (ss : List Sign) : Prop := ∀ s, readSigns (u ++ s) = (readSigns s).map (ss ++ ·)

namespace Writes

theorem nil : Writes [] [] := fun s => by simp

/-- Signs written one after the other are read one after the other. -/
theorem append {u v : List Char} {ss ss' : List Sign} (hu : Writes u ss) (hv : Writes v ss') :
    Writes (u ++ v) (ss ++ ss') := by
  intro s
  rw [List.append_assoc, hu, hv, Option.map_map]
  congr 1
  funext rest
  exact (List.append_assoc ss ss' rest).symm

theorem readSigns_eq {u : List Char} {ss : List Sign} (h : Writes u ss) : readSigns u = some ss := by
  have := h []
  simpa [readSigns] using this

theorem escape (c : Char) : Writes (escape c) [.atom (.char c)] := by
  intro s
  unfold Regex.escape
  by_cases hc : c ∈ signs
  · -- every sign may stand behind a backslash
    have hall : signs.all isEscapable = true := by decide
    have he : isEscapable c = true := List.all_eq_true.1 hall c hc
    simp [hc, readSigns, he]
  · have h₁ : c ≠ '\\' := by rintro rfl; exact hc (by decide)
    have h₂ : c ≠ '[' := by rintro rfl; exact hc (by decide)
    have h₃ : c ≠ '(' := by rintro rfl; exact hc (by decide)
    -- what is a sign by itself would have been escaped
    have hown : ownSigns.lookup c = none := by
      rw [List.lookup_eq_none_iff]
      intro e he
      have hall : (ownSigns.map Prod.fst).all signs.contains = true := by decide
      have hs := List.all_eq_true.1 hall e.1 (List.mem_map_of_mem he)
      rw [bne_iff_ne]
      rintro rfl
      exact hc (List.contains_iff_mem.1 hs)
    rw [if_neg hc, List.singleton_append, Regex.readSigns.eq_def]
    simp [hc, h₁, h₂, h₃, ownSign, hown]

end Writes

end Regex

namespace Glob

open Regex (Sign Stack Level Writes readSigns)

/-- The signs of a token. -/
def Token.signs : Token → List Sign
  | .literal c => [.atom (.char c)]
  | .star => [.atom (.other '/'), .repetition .star]
  | .globstar =>
    [.opening true, .atom (.other '/'), .repetition .star, .opening true, .atom (.char '/'), .bar, .atom .finish,
      .closing, .closing, .repetition .star]

/-- The signs of an ending. -/
def Ending.signs : Ending → List Sign
  | .closed => []
  | .below => [.opening false, .atom (.char '/'), .atom .any, .repetition .star, .closing, .repetition .optional]
  | .anything => [.opening false, .atom .any, .repetition .star, .closing, .repetition .optional]

/-- How a pattern, open or exact, ends. -/
def endingOf (pattern : List Char) (isOpen : Bool) : Ending := if isOpen then openEnding pattern else .closed

/-- The signs of a pattern. -/
def patternSigns (ts : List Token) (e : Ending) : List Sign :=
  .atom .start :: ts.flatMap Token.signs ++ (e.signs ++ [.atom .finish])

/-- The expressions of an ending: none where nothing may follow. -/
def Ending.parts : Ending → List Regex
  | .closed => []
  | .below => [Ending.below.toRegex]
  | .anything => [Ending.anything.toRegex]

private theorem writes_own {c : Char} {sign : Sign} (h : Regex.ownSign c = some sign) (hc : c ∉ ['\\', '[', '(']) :
    Writes [c] [sign] := by
  intro s
  simp only [List.mem_cons, List.not_mem_nil, or_false, not_or] at hc
  rw [List.singleton_append, Regex.readSigns.eq_def]
  simp [hc, h]

private theorem writes_star : Writes ['*'] [.repetition .star] := writes_own rfl (by decide)

private theorem writes_closing : Writes [')'] [.closing] := writes_own rfl (by decide)

private theorem writes_finish : Writes ['$'] [.atom .finish] := writes_own rfl (by decide)

private theorem escape_slash : Regex.escape '/' = ['/'] := by decide

private theorem writes_slash : Writes ['/'] [.atom (.char '/')] := by
  rw [← escape_slash]
  exact Writes.escape '/'

private theorem writes_slashFree : Writes slashFree.chars [.atom (.other '/'), .repetition .star] := by
  have hother : Writes ['[', '^', '/', ']'] [.atom (.other '/')] := by
    intro s
    simp [readSigns]
  exact hother.append writes_star

/-- A bracket opens a numbered group if no question mark comes after it. -/
private theorem writes_opening {c : Char} {u : List Char} {ss : List Sign} (h : Writes (c :: u) ss) (hc : c ≠ '?') :
    Writes ('(' :: c :: u) (.opening true :: ss) := by
  intro s
  have hu := h s
  rw [List.cons_append] at hu
  simp [readSigns, hc, hu, Function.comp_def]

private theorem writes_openingPlain {u : List Char} {ss : List Sign} (h : Writes u ss) :
    Writes ('(' :: '?' :: ':' :: u) (.opening false :: ss) := by
  intro s
  simp [readSigns, h s, Function.comp_def]

private theorem writes_token (t : Token) : Writes t.toRegex.chars t.signs := by
  cases t with
  | literal c => exact Writes.escape c
  | star => exact writes_slashFree
  | globstar =>
    have hends : Writes "/|$)".toList [.atom (.char '/'), .bar, .atom .finish, .closing] :=
      ((writes_slash.append (writes_own rfl (by decide))).append writes_finish).append writes_closing
    have hbody := writes_slashFree.append (writes_opening hends (by decide))
    have := (writes_opening hbody (by decide)).append (writes_closing.append writes_star)
    simp only [Token.toRegex, slashFree, Regex.chars, escape_slash]
    exact this

private theorem writes_ending (e : Ending) : Writes e.toRegex.chars e.signs := by
  have hany : Writes ['.', '*'] [.atom .any, .repetition .star] := (writes_own rfl (by decide)).append writes_star
  have hend : Writes [')', '?'] [.closing, .repetition .optional] :=
    writes_closing.append (writes_own rfl (by decide))
  cases e with
  | closed => exact Writes.nil
  | below =>
    have := (writes_openingPlain (writes_slash.append hany)).append hend
    simp only [Ending.toRegex, Regex.chars, escape_slash]
    exact this
  | anything => exact (writes_openingPlain hany).append hend

private theorem writes_tokens (ts : List Token) :
    Writes ((ts.map Token.toRegex).flatMap Regex.chars) (ts.flatMap Token.signs) := by
  induction ts with
  | nil => exact Writes.nil
  | cons t ts ih => exact (writes_token t).append ih

private theorem writes_concat (ts : List Token) (e : Ending) :
    Writes (Regex.concat (.start :: ts.map Token.toRegex ++ [e.toRegex, .finish])).chars (patternSigns ts e) := by
  have hstart : Writes ['^'] [.atom .start] := writes_own rfl (by decide)
  have := (hstart.append (writes_tokens ts)).append ((writes_ending e).append writes_finish)
  rw [Regex.chars_concat, List.flatMap_append]
  exact this

/-! ### Reading the signs of a pattern's expression -/

/-- The signs of a token put the token's expression behind what was read before. -/
private theorem step_token (t : Token) (l : Level) (outer : List (Bool × Level)) :
    ∃ b, t.signs.foldlM Stack.step ⟨l, outer⟩ = some ⟨l.add t.toRegex b, outer⟩ := by
  cases t with
  | literal c => exact ⟨_, rfl⟩
  | star => exact ⟨_, rfl⟩
  | globstar => exact ⟨_, rfl⟩

private theorem step_ending (e : Ending) (l : Level) (outer : List (Bool × Level)) :
    ∃ b, e.signs.foldlM Stack.step ⟨l, outer⟩ = some ⟨⟨l.alternatives, e.parts.reverse ++ l.parts, b⟩, outer⟩ := by
  cases e with
  | closed => exact ⟨_, rfl⟩
  | below => exact ⟨_, rfl⟩
  | anything => exact ⟨_, rfl⟩

private theorem step_tokens (ts : List Token) (l : Level) (outer : List (Bool × Level)) :
    ∃ b, (ts.flatMap Token.signs).foldlM Stack.step ⟨l, outer⟩ =
      some ⟨⟨l.alternatives, (ts.map Token.toRegex).reverse ++ l.parts, b⟩, outer⟩ := by
  induction ts generalizing l with
  | nil => exact ⟨_, rfl⟩
  | cons t ts ih =>
    obtain ⟨b, hb⟩ := step_token t l outer
    obtain ⟨b', hb'⟩ := ih (l.add t.toRegex b)
    refine ⟨b', ?_⟩
    rw [List.flatMap_cons, List.foldlM_append, hb]
    simpa [Level.add] using hb'

private theorem step_pattern (ts : List Token) (e : Ending) :
    (patternSigns ts e).foldlM Stack.step ⟨.blank, []⟩ =
      some ⟨⟨[], .finish :: (e.parts.reverse ++ ((ts.map Token.toRegex).reverse ++ [.start])), false⟩, []⟩ := by
  obtain ⟨b, hb⟩ := step_tokens ts ⟨[], [.start], false⟩ []
  obtain ⟨b', hb'⟩ := step_ending e ⟨[], (ts.map Token.toRegex).reverse ++ [.start], b⟩ []
  have hstart : (.atom .start :: ts.flatMap Token.signs : List Sign).foldlM Stack.step ⟨.blank, []⟩ =
      some ⟨⟨[], (ts.map Token.toRegex).reverse ++ [.start], b⟩, []⟩ := hb
  rw [patternSigns, List.foldlM_append, hstart, Option.bind_eq_bind, Option.bind_some, List.foldlM_append, hb']
  rfl

/-- The written form of a pattern is read as the sequence of its parts. -/
theorem read_toRegex (pattern : List Char) (isOpen : Bool) :
    Regex.read (toRegex pattern isOpen).chars =
      some (Regex.joined (.start :: (tokens pattern).map Token.toRegex ++
        ((endingOf pattern isOpen).parts ++ [.finish]))) := by
  have hsigns := (writes_concat (tokens pattern) (endingOf pattern isOpen)).readSigns_eq
  change readSigns (toRegex pattern isOpen).chars = _ at hsigns
  rw [Regex.read, hsigns, Option.bind_some, step_pattern]
  simp [Stack.finished, Level.whole]

end Glob

end PathAccess
