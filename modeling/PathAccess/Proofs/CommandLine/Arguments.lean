import PathAccess.CommandLine.Arguments
import PathAccess.Proofs.Text.Pieces

/-!
# Written invocations

An option may be written in four ways, and options and operands may stand in any order (`Arranged`).  The arguments
are taken apart into the same options and operands again (`split_of_arranged`), so long as no operand could be an
option itself.
-/

namespace PathAccess.CommandLine

/-- The ways to write an option with its value. -/
inductive Flag.Writes (f : Flag) (value : String) : List String → Prop
  | long : f.Writes value [f.long, value]
  | longJoined : f.Writes value [f.long ++ "=" ++ value]
  | short : f.Writes value [String.ofList ['-', f.short], value]
  | shortJoined : value ≠ "" → f.Writes value [String.ofList ('-' :: f.short :: value.toList)]

/-- Options and operands of a command written in any order, with no operand that starts with a dash. -/
inductive Arranged (v : Verb) : List (Flag × String) → List String → List String → Prop
  | nil : Arranged v [] [] []
  | option {f : Flag} {value : String} {written args operands : List String} {options : List (Flag × String)} :
    f ∈ v.flags → f.Writes value written → Arranged v options operands args →
      Arranged v ((f, value) :: options) operands (written ++ args)
  | operand {text : String} {args operands : List String} {options : List (Flag × String)} :
    text.toList.head? ≠ some '-' → Arranged v options operands args →
      Arranged v options (text :: operands) (text :: args)

variable {v : Verb} {f : Flag}

theorem find?_long (hf : f ∈ v.flags) : v.flags.find? (·.long = f.long) = some f := by
  revert hf
  cases v <;> cases f <;> decide

/-- Options of one command have different letters. -/
theorem find?_short (hf : f ∈ v.flags) : v.flags.find? (·.short = f.short) = some f := by
  revert hf
  cases v <;> cases f <;> decide

theorem flag?_long (hf : f ∈ v.flags) : flag? v.flags f.long = some (f, none) := by
  have hcut : Text.cutFirst '=' f.long = none := by cases f <;> rfl
  simp only [flag?, hcut, find?_long hf]

theorem flag?_longJoined (hf : f ∈ v.flags) (value : String) :
    flag? v.flags (f.long ++ "=" ++ value) = some (f, some value) := by
  have hcut : Text.cutFirst '=' (f.long ++ "=" ++ value) = some (f.long, value) :=
    Text.cutFirst_eq_some.2 ⟨rfl, by cases f <;> decide⟩
  simp only [flag?, hcut, find?_long hf]

theorem long_ne_of_letter {name : String} {rest : List Char} (hname : name.toList = '-' :: f.short :: rest)
    (flag : Flag) : flag.long ≠ name := by
  intro hlong
  rw [← hlong] at hname
  revert hname
  cases flag <;> cases f <;> simp [Flag.long, Flag.short]

/-- What stands before the first equals sign of an option of one letter still starts with the letter. -/
theorem letter_of_cutFirst {rest : List Char} {name value : String}
    (h : Text.cutFirst '=' (String.ofList ('-' :: f.short :: rest)) = some (name, value)) :
    ∃ rest', name.toList = '-' :: f.short :: rest' := by
  obtain ⟨htext, hname⟩ := Text.cutFirst_eq_some.1 h
  have hchars := congrArg String.toList htext
  have hshort : f.short ≠ '=' := by cases f <;> decide
  rcases hn : name.toList with _ | ⟨a, _ | ⟨b, rest'⟩⟩
  · simp [hn] at hchars
  · simp [hn, hshort] at hchars
  · simp only [hn, String.toList_ofList, String.toList_append, List.cons_append, List.cons.injEq] at hchars
    exact ⟨rest', by rw [hchars.1, hchars.2.1]⟩

/-- An option of one letter is not taken for a long one, whatever follows the letter. -/
theorem flag?_letter (hf : f ∈ v.flags) (rest : List Char) :
    flag? v.flags (String.ofList ('-' :: f.short :: rest)) =
      some (f, if rest.isEmpty then none else some (String.ofList rest)) := by
  have hdash : f.short ≠ '-' := by cases f <;> decide
  have hnone : ∀ {name : String} {rest' : List Char}, name.toList = '-' :: f.short :: rest' →
      v.flags.find? (·.long = name) = none := by
    intro name rest' hname
    exact List.find?_eq_none.2 fun flag _ => by simpa using long_ne_of_letter hname flag
  unfold flag?
  cases hcut : Text.cutFirst '=' (String.ofList ('-' :: f.short :: rest)) with
  | none =>
    dsimp only
    rw [hnone String.toList_ofList]
    simp [hdash, find?_short hf]
  | some cut =>
    -- the value has an equals sign, and what stands before it is tried as a long option first
    obtain ⟨name, value⟩ := cut
    obtain ⟨rest', hname⟩ := letter_of_cutFirst hcut
    simp [hnone hname, hdash, find?_short hf]

/-- Whether an argument is an option: more than a dash, and not the mark after which there are only operands. -/
theorem isOption_of_toList {arg : String} {c : Char} {rest : List Char} (harg : arg.toList = '-' :: c :: rest)
    (hmark : c = '-' → rest ≠ []) : arg ≠ "--" ∧ looksLikeFlag arg = true := by
  refine ⟨?_, ?_⟩
  · rintro rfl
    obtain ⟨rfl, rfl⟩ : '-' = c ∧ [] = rest := by simpa using harg
    exact hmark rfl rfl
  · have hdash : arg ≠ "-" := by
      rintro rfl
      simp at harg
    simp [looksLikeFlag, harg, hdash]

theorem split_option {arg value : String} (hoption : arg ≠ "--" ∧ looksLikeFlag arg = true) (args : List String) :
    (flag? v.flags arg = some (f, some value) →
      split v.flags (arg :: args) = (split v.flags args).map fun r => ((f, value) :: r.1, r.2)) ∧
    (flag? v.flags arg = some (f, none) →
      split v.flags (arg :: value :: args) = (split v.flags args).map fun r => ((f, value) :: r.1, r.2)) := by
  obtain ⟨hmark, hlooks⟩ := hoption
  constructor
  · intro hflag
    conv => lhs; unfold split
    simp only [if_neg hmark, if_pos hlooks, hflag]
  · intro hflag
    conv => lhs; unfold split
    simp only [if_neg hmark, if_pos hlooks, hflag]

theorem split_operand {text : String} (htext : text.toList.head? ≠ some '-') (args : List String) :
    split v.flags (text :: args) = (split v.flags args).map fun r => (r.1, text :: r.2) := by
  have hmark : text ≠ "--" := by
    rintro rfl
    simp at htext
  have hlooks : looksLikeFlag text = false := by simp [looksLikeFlag, htext]
  conv => lhs; unfold split
  simp [hmark, hlooks]

theorem split_written {value : String} {written : List String} (hf : f ∈ v.flags) (h : f.Writes value written)
    (args : List String) :
    split v.flags (written ++ args) = (split v.flags args).map fun r => ((f, value) :: r.1, r.2) := by
  have hdash : f.short ≠ '-' := by cases f <;> decide
  have hletter : ∀ rest : List Char, String.ofList ('-' :: f.short :: rest) ≠ "--" ∧
      looksLikeFlag (String.ofList ('-' :: f.short :: rest)) = true :=
    fun rest => isOption_of_toList String.toList_ofList fun h => absurd h hdash
  have hlong : ∀ rest : String, f.long ++ rest ≠ "--" ∧ looksLikeFlag (f.long ++ rest) = true := by
    intro rest
    obtain ⟨c, rest', hchars⟩ : ∃ c rest', f.long.toList = '-' :: '-' :: c :: rest' := by
      cases f <;> exact ⟨_, _, rfl⟩
    exact isOption_of_toList (by rw [String.toList_append, hchars]; rfl) (by simp)
  cases h with
  | long =>
    have hoption := hlong ""
    rw [String.append_empty] at hoption
    exact (split_option hoption args).2 (flag?_long hf)
  | longJoined =>
    refine (split_option ?_ args).1 (flag?_longJoined hf value)
    rw [String.append_assoc]
    exact hlong _
  | short => exact (split_option (hletter []) args).2 (flag?_letter hf [])
  | shortJoined hvalue =>
    refine (split_option (hletter _) args).1 ?_
    rw [flag?_letter hf, String.ofList_toList, if_neg (by simpa using hvalue)]

/-- Arguments are taken apart into what they were written from. -/
theorem split_of_arranged {options : List (Flag × String)} {operands args : List String}
    (h : Arranged v options operands args) : split v.flags args = some (options, operands) := by
  induction h with
  | nil => rfl
  | option hf hwritten _ ih => rw [split_written hf hwritten, ih, Option.map_some]
  | operand htext _ ih => rw [split_operand htext, ih, Option.map_some]

end PathAccess.CommandLine
