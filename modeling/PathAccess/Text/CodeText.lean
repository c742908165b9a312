import PathAccess.Text.Digit
import PathAccess.Text.Quoted

/-!
# Texts by their code points

An escape in a document can write a text with halves of surrogate pairs.  These are code points without a character,
so such a text is no `String`.  A `CodeText` is a list of code points; every `String` is one, and it can be had back
(`text_ofString`, `isSpelled_ofString`).
-/

namespace PathAccess

/-- A text as the list of its code points. -/
structure CodeText where
  codes : List Nat
  deriving DecidableEq

namespace CodeText

instance : Inhabited CodeText := ⟨⟨[]⟩⟩

def ofChars (s : List Char) : CodeText := ⟨s.map Char.toNat⟩

def ofString (s : String) : CodeText := ofChars s.toList

instance : Coe String CodeText := ⟨ofString⟩

/-- The character of a code point, if it has one. -/
def char? (n : Nat) : Option Char := if n.isValidChar then some (Char.ofNat n) else none

/-- Whether every code point has a character. -/
def isSpelled (t : CodeText) : Bool := t.codes.all fun n => (char? n).isSome

/-- The characters, with three replacement characters for a code point that has none. -/
def chars (t : CodeText) : List Char :=
  t.codes.flatMap fun n => match char? n with
    | some c => [c]
    | none => ['\ufffd', '\ufffd', '\ufffd']

/-- The characters as a text. -/
def text (t : CodeText) : String := String.ofList t.chars

def isEmpty (t : CodeText) : Bool := t.codes.isEmpty

def length (t : CodeText) : Nat := t.codes.length

def contains (t : CodeText) (c : Char) : Bool := t.codes.contains c.toNat

def isDigitLike (n : Nat) : Bool := (char? n).any Text.isDigitLike

/-- Whether the text is non-empty and all of it is digit-like. -/
def isDigitRun (t : CodeText) : Bool := !t.isEmpty && t.codes.all isDigitLike

/-- The text as a message quotes it; a code point without a character is written by its code. -/
def quoted (t : CodeText) : String :=
  let mark := Text.quoteMark (t.codes.filterMap char?)
  let part (n : Nat) : List Char := match char? n with
    | some c => Text.quotedChar Text.isPrintable mark c
    | none => Text.codeEscape n
  String.ofList (mark :: t.codes.flatMap part ++ [mark])

theorem char?_toNat (c : Char) : char? c.toNat = some c := by
  have h : c.toNat.isValidChar := c.valid
  simp [char?, h]

theorem chars_ofChars (s : List Char) : (ofChars s).chars = s := by
  induction s with
  | nil => rfl
  | cons c s ih =>
    simp only [chars, ofChars] at ih
    simp [chars, ofChars, char?_toNat, ih]

@[simp] theorem text_ofString (s : String) : (ofString s).text = s := by
  simp [text, ofString, chars_ofChars]

@[simp] theorem isSpelled_ofString (s : String) : (ofString s).isSpelled = true := by
  simp [isSpelled, ofString, ofChars, char?_toNat]

/-- Different texts have different code points. -/
theorem ofString_injective {s t : String} (h : ofString s = ofString t) : s = t := by
  rw [← text_ofString s, h, text_ofString]

private theorem toNat_of_char? {n : Nat} {c : Char} (h : char? n = some c) : c.toNat = n := by
  unfold char? at h
  split at h
  · rename_i hn
    obtain rfl := Option.some.inj h
    rw [Char.ofNat, dif_pos hn]
    rfl
  · simp at h

/-- A text whose code points all have characters is the text of these characters. -/
theorem ofString_text {t : CodeText} (h : t.isSpelled = true) : ofString t.text = t := by
  obtain ⟨codes⟩ := t
  simp only [ofString, ofChars, text, String.toList_ofList, CodeText.mk.injEq]
  simp only [isSpelled] at h
  induction codes with
  | nil => rfl
  | cons n codes ih =>
    simp only [List.all_cons, Bool.and_eq_true] at h
    obtain ⟨c, hc⟩ := Option.isSome_iff_exists.1 h.1
    simp only [chars] at ih
    simp [chars, hc, toNat_of_char? hc, ih h.2]

end CodeText

end PathAccess
