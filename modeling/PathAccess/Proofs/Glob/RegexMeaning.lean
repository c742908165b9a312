import Mathlib.Logic.Relation
import PathAccess.Proofs.Glob.RegexReading

/-!
# What regular expressions match

An expression takes a text from what is left of it to what is left later (`Regex.Matches`); a star repeats this any
number of times.  It accepts a text if it takes all of it to some rest, because the place where it has to end is part
of the expression.

Each token of a pattern takes the same texts as its expression (`matches_token`), so the tokens of a pattern accept
a text if and only if their expressions do, one after the other (`accepts_joined`).
-/

namespace PathAccess

/-- Nothing, or only a final line break, is left. -/
def IsFinal (s : List Char) : Prop := s = [] ∨ s = ['\n']

namespace Regex

/-- Within a text, the expression leads from the rest `s` to the rest `t`. -/
def Matches (text : List Char) : Regex → List Char → List Char → Prop
  | empty, s, t => s = t
  | start, s, t => s = text ∧ s = t
  | finish, s, t => IsFinal s ∧ s = t
  | char c, s, t => s = c :: t
  | any, s, t => ∃ d, s = d :: t
  | other c, s, t => ∃ d, d ≠ c ∧ s = d :: t
  | seq r r', s, t => ∃ m, Matches text r s m ∧ Matches text r' m t
  | alt r r', s, t => Matches text r s t ∨ Matches text r' s t
  | star r, s, t => Relation.ReflTransGen (Matches text r) s t
  | optional r, s, t => s = t ∨ Matches text r s t
  | group r, s, t => Matches text r s t

/-- The expression matches at the start of the text. -/
def Accepts (r : Regex) (text : List Char) : Prop := ∃ t, Matches text r text t

variable {text : List Char}

theorem matches_joined_cons (r : Regex) (rs : List Regex) (s t : List Char) :
    Matches text (joined (r :: rs)) s t ↔ ∃ m, Matches text r s m ∧ Matches text (joined rs) m t := by
  cases rs with
  | nil => simp [joined, Matches]
  | cons r' rs => rfl

/-- A star over characters of one kind takes any text of such characters. -/
theorem matches_star {r : Regex} {P : Char → Prop} (h : ∀ s t, Matches text r s t ↔ ∃ d, P d ∧ s = d :: t)
    (s t : List Char) : Matches text (.star r) s t ↔ ∃ u, (∀ d ∈ u, P d) ∧ s = u ++ t := by
  constructor
  · intro hs
    induction hs using Relation.ReflTransGen.head_induction_on with
    | refl => exact ⟨[], by simp, rfl⟩
    | head hstep _ ih =>
      obtain ⟨d, hd, rfl⟩ := (h _ _).1 hstep
      obtain ⟨u, hu, rfl⟩ := ih
      exact ⟨d :: u, List.forall_mem_cons.2 ⟨hd, hu⟩, rfl⟩
  · rintro ⟨u, hu, rfl⟩
    induction u with
    | nil => exact Relation.ReflTransGen.refl
    | cons d u ih =>
      rw [List.forall_mem_cons] at hu
      exact Relation.ReflTransGen.head ((h _ _).2 ⟨d, hu.1, rfl⟩) (ih hu.2)

end Regex

namespace Glob

open Regex (Matches Accepts matches_joined_cons matches_star)

variable {text : List Char}

/-- A token leads from the rest `s` to the rest `t`. -/
def Token.Takes : Token → List Char → List Char → Prop
  | .literal c, s, t => s = c :: t
  | .star, s, t => ∃ u, '/' ∉ u ∧ s = u ++ t
  | .globstar, s, t => ∃ u, (u = [] ∨ u.getLast? = some '/' ∨ IsFinal t) ∧ s = u ++ t

theorem atEnd_iff {s : List Char} : atEnd s = true ↔ IsFinal s := by
  match s with
  | [] => simp [atEnd, IsFinal]
  | [c] => simp [atEnd, IsFinal]
  | _ :: _ :: _ => simp [atEnd, IsFinal]

/-! ### The expression of a token -/

theorem matches_slashFree (s t : List Char) :
    Matches text slashFree s t ↔ ∃ u, '/' ∉ u ∧ s = u ++ t := by
  rw [slashFree, matches_star (P := (· ≠ '/')) fun _ _ => Iff.rfl]
  have : ∀ u : List Char, (∀ d ∈ u, d ≠ '/') ↔ '/' ∉ u := fun u =>
    ⟨fun h hm => h '/' hm rfl, fun h d hd he => h (he ▸ hd)⟩
  simp only [this]

/-- One segment, with the slash or the end of the text behind it. -/
def segment : Regex := .seq slashFree (.group (.alt (.char '/') .finish))

theorem matches_segment (s t : List Char) :
    Matches text segment s t ↔ ∃ u, '/' ∉ u ∧ (s = u ++ '/' :: t ∨ (IsFinal t ∧ s = u ++ t)) := by
  constructor
  · rintro ⟨m, hm, hend⟩
    obtain ⟨u, hu, rfl⟩ := (matches_slashFree _ _).1 hm
    rcases hend with rfl | ⟨hf, rfl⟩
    · exact ⟨u, hu, Or.inl rfl⟩
    · exact ⟨u, hu, Or.inr ⟨hf, rfl⟩⟩
  · rintro ⟨u, hu, rfl | ⟨hf, rfl⟩⟩
    · exact ⟨'/' :: t, (matches_slashFree _ _).2 ⟨u, hu, rfl⟩, Or.inl rfl⟩
    · exact ⟨t, (matches_slashFree _ _).2 ⟨u, hu, rfl⟩, Or.inr ⟨hf, rfl⟩⟩

private theorem takes_of_segments {s t : List Char} (h : Relation.ReflTransGen (Matches text segment) s t) :
    Token.globstar.Takes s t := by
  induction h using Relation.ReflTransGen.head_induction_on with
  | refl => exact ⟨[], Or.inl rfl, rfl⟩
  | head hstep _ ih =>
    obtain ⟨u', hu', rfl⟩ := ih
    obtain ⟨u, -, rfl | ⟨hf, rfl⟩⟩ := (matches_segment _ _).1 hstep
    · refine ⟨u ++ '/' :: u', ?_, by simp⟩
      rcases hu' with rfl | hu' | hf
      · exact Or.inr (Or.inl (by simp))
      · exact Or.inr (Or.inl (by simp [List.getLast?_cons, hu']))
      · exact Or.inr (Or.inr hf)
    · refine ⟨u ++ u', ?_, by simp⟩
      rcases hu' with rfl | hu' | hf
      · exact Or.inr (Or.inr hf)
      · exact Or.inr (Or.inl (by simp [hu']))
      · exact Or.inr (Or.inr hf)

/-- A text that ends in a slash, or at the end, is taken segment by segment. -/
private theorem segments_of_takes (n : Nat) {u t : List Char} (hn : u.length ≤ n)
    (h : u = [] ∨ u.getLast? = some '/' ∨ IsFinal t) :
    Relation.ReflTransGen (Matches text segment) (u ++ t) t := by
  -- up to its first slash the text is one segment, and what comes behind it ends as the whole does
  induction n generalizing u with
  | zero =>
    rw [List.length_eq_zero_iff.1 (by omega : u.length = 0)]
    exact Relation.ReflTransGen.refl
  | succ n ih =>
    by_cases hs : '/' ∈ u
    · obtain ⟨v, w, rfl, hv⟩ := List.eq_append_cons_of_mem hs
      have hw : w = [] ∨ w.getLast? = some '/' ∨ IsFinal t := by
        rcases h with h | h | h
        · simp at h
        · cases w with
          | nil => exact Or.inl rfl
          | cons d w => exact Or.inr (Or.inl (by simpa using h))
        · exact Or.inr (Or.inr h)
      have hstep : Matches text segment (v ++ '/' :: w ++ t) (w ++ t) :=
        (matches_segment _ _).2 ⟨v, hv, Or.inl (by simp)⟩
      exact Relation.ReflTransGen.head hstep (ih (by simp at hn; omega) hw)
    · rcases h with rfl | h | h
      · exact Relation.ReflTransGen.refl
      · exact absurd (List.mem_of_getLast? h) hs
      · exact Relation.ReflTransGen.single ((matches_segment _ _).2 ⟨u, hs, Or.inr ⟨h, rfl⟩⟩)

/-- A token and its expression take the same texts. -/
theorem matches_token (k : Token) (s t : List Char) : Matches text k.toRegex s t ↔ k.Takes s t := by
  cases k with
  | literal c => exact Iff.rfl
  | star => exact matches_slashFree s t
  | globstar =>
    constructor
    · exact takes_of_segments
    · rintro ⟨u, hu, rfl⟩
      exact segments_of_takes u.length (Nat.le_refl _) hu

/-! ### A whole pattern -/

/-- What is left after a run without a slash. -/
theorem afterRun_iff {next : List Char → Bool} {s : List Char} :
    afterRun next s = true ↔ ∃ t, Token.star.Takes s t ∧ next t = true := by
  induction s with
  | nil =>
    constructor
    · exact fun h => ⟨[], ⟨[], by simp, rfl⟩, h⟩
    · rintro ⟨t, ⟨u, -, hs⟩, h⟩
      rw [(List.append_eq_nil_iff.1 hs.symm).2] at h
      exact h
  | cons c s ih =>
    simp only [afterRun, Bool.or_eq_true, Bool.and_eq_true, decide_eq_true_eq, ih]
    constructor
    · rintro (h | ⟨hc, t, ⟨u, hu, rfl⟩, h⟩)
      · exact ⟨c :: s, ⟨[], by simp, rfl⟩, h⟩
      · exact ⟨t, ⟨c :: u, by simp [hu, Ne.symm hc], rfl⟩, h⟩
    · rintro ⟨t, ⟨u, hu, hs⟩, h⟩
      cases u with
      | nil =>
        rw [List.nil_append] at hs
        exact Or.inl (hs ▸ h)
      | cons d u =>
        obtain ⟨rfl, rfl⟩ := List.cons_eq_cons.1 hs
        simp only [List.mem_cons, not_or] at hu
        exact Or.inr ⟨Ne.symm hu.1, t, ⟨u, hu.2, rfl⟩, h⟩

/-- What is left after a text that ends in a slash or at the end. -/
theorem afterSegments_iff {next : List Char → Bool} {s : List Char} :
    afterSegments next s = true ↔
      ∃ t u, u ≠ [] ∧ (u.getLast? = some '/' ∨ IsFinal t) ∧ s = u ++ t ∧ next t = true := by
  induction s with
  | nil =>
    simp only [afterSegments, Bool.false_eq_true, false_iff]
    rintro ⟨t, u, hne, -, hs, -⟩
    exact hne (List.append_eq_nil_iff.1 hs.symm).1
  | cons c s ih =>
    simp only [afterSegments, Bool.or_eq_true, Bool.and_eq_true, decide_eq_true_eq, atEnd_iff, ih]
    constructor
    · rintro (⟨hc, h⟩ | ⟨t, u, -, hu, rfl, h⟩)
      · exact ⟨s, [c], by simp, by simpa using hc, rfl, h⟩
      · refine ⟨t, c :: u, by simp, ?_, rfl, h⟩
        rcases hu with hu | hf
        · exact Or.inl (by simp [List.getLast?_cons, hu])
        · exact Or.inr hf
    · rintro ⟨t, u, hne, hu, hs, h⟩
      obtain ⟨d, u, rfl⟩ := List.exists_cons_of_ne_nil hne
      obtain ⟨rfl, rfl⟩ := List.cons_eq_cons.1 hs
      cases u with
      | nil => exact Or.inl ⟨by simpa using hu, h⟩
      | cons d' u => exact Or.inr ⟨t, d' :: u, by simp, by simpa using hu, rfl, h⟩

/-- What the tokens accept, one token at a time. -/
theorem accepts_cons (e : Ending) (k : Token) (ts : List Token) (s : List Char) :
    accepts e (k :: ts) s = true ↔ ∃ t, k.Takes s t ∧ accepts e ts t = true := by
  cases k with
  | literal c =>
    cases s with
    | nil => simp [accepts, Token.Takes]
    | cons d s =>
      simp only [accepts, Bool.and_eq_true, decide_eq_true_eq, Token.Takes, List.cons_eq_cons]
      constructor
      · exact fun ⟨hc, h⟩ => ⟨s, ⟨hc.symm, rfl⟩, h⟩
      · rintro ⟨t, ⟨rfl, rfl⟩, h⟩
        exact ⟨rfl, h⟩
  | star => exact afterRun_iff
  | globstar =>
    simp only [accepts, Bool.or_eq_true, afterSegments_iff]
    constructor
    · rintro (h | ⟨t, u, -, hu, rfl, h⟩)
      · exact ⟨s, ⟨[], Or.inl rfl, rfl⟩, h⟩
      · exact ⟨t, ⟨u, Or.inr hu, rfl⟩, h⟩
    · rintro ⟨t, ⟨u, hu, rfl⟩, h⟩
      cases u with
      | nil => exact Or.inl h
      | cons d u => exact Or.inr ⟨t, d :: u, by simp, hu.resolve_left (by simp), rfl, h⟩

theorem matches_anything (s t : List Char) : Matches text (.star .any) s t ↔ ∃ u, s = u ++ t := by
  rw [matches_star (P := fun _ => True) fun s t => by simp [Matches]]
  simp

/-- What the ending accepts, and its expression with the end of the text behind it. -/
theorem matches_ending (e : Ending) (s : List Char) :
    (∃ t, Matches text (Regex.joined (e.parts ++ [.finish])) s t) ↔ e.accepts s = true := by
  cases e with
  | closed =>
    simp only [Ending.parts, List.nil_append, Regex.joined, Ending.accepts, atEnd_iff]
    exact ⟨fun ⟨_, h, _⟩ => h, fun h => ⟨s, h, rfl⟩⟩
  | below =>
    simp only [Ending.parts, Ending.accepts, Bool.or_eq_true, atEnd_iff, decide_eq_true_eq]
    constructor
    · rintro ⟨t, m, rfl | ⟨m', hm', -⟩, hf, -⟩
      · exact Or.inl hf
      · rw [show s = '/' :: m' from hm']
        exact Or.inr rfl
    · rintro (hf | h)
      · exact ⟨s, s, Or.inl rfl, hf, rfl⟩
      · obtain ⟨s, rfl⟩ : ∃ s', s = '/' :: s' := List.head?_eq_some_iff.1 h
        exact ⟨[], [], Or.inr ⟨s, rfl, (matches_anything _ _).2 ⟨s, by simp⟩⟩, Or.inl rfl, rfl⟩
  | anything =>
    simp only [Ending.parts, Ending.accepts, iff_true]
    exact ⟨[], [], Or.inr ((matches_anything _ _).2 ⟨s, by simp⟩), Or.inl rfl, rfl⟩

/-- The expressions of the tokens and the ending accept what the tokens accept up to the ending. -/
theorem exists_matches_iff (e : Ending) (ts : List Token) (s : List Char) :
    (∃ t, Matches text (Regex.joined (ts.map Token.toRegex ++ (e.parts ++ [.finish]))) s t) ↔
      accepts e ts s = true := by
  induction ts generalizing s with
  | nil =>
    have : accepts e [] s = e.accepts s := by cases s <;> rfl
    rw [this]
    exact matches_ending e s
  | cons k ts ih =>
    rw [accepts_cons, List.map_cons, List.cons_append]
    simp only [matches_joined_cons, matches_token, ← ih]
    constructor
    · rintro ⟨t, m, hk, hm⟩
      exact ⟨m, hk, t, hm⟩
    · rintro ⟨m, hk, t, hm⟩
      exact ⟨t, m, hk, hm⟩

/-- The expression of a pattern accepts what its tokens accept. -/
theorem accepts_joined (e : Ending) (ts : List Token) (s : List Char) :
    Accepts (Regex.joined (.start :: ts.map Token.toRegex ++ (e.parts ++ [.finish]))) s ↔ accepts e ts s = true := by
  simp only [Accepts, List.cons_append, matches_joined_cons, Matches]
  constructor
  · rintro ⟨t, _, ⟨-, rfl⟩, h⟩
    exact (exists_matches_iff e ts _).1 ⟨t, h⟩
  · intro h
    obtain ⟨t, ht⟩ : ∃ t, Matches s _ s t := (exists_matches_iff e ts s).2 h
    exact ⟨t, s, ⟨trivial, rfl⟩, ht⟩

end Glob

end PathAccess
