set_option autoImplicit false

/-!
# Blank characters and trimming

Settings, skip lists and rejection messages are trimmed of Unicode white space,
so blankness is the property `White_Space` of the Unicode standard and not the
four ASCII characters of `Char.isWhitespace`.  The main statement is that trimming
leaves no blank at either end.
-/

namespace Admission.Text

/-- The characters with the Unicode property `White_Space`. -/
def isBlank (c : Char) : Bool :=
  let n := c.toNat
  (0x9 ≤ n && n ≤ 0xD) || n == 0x20 || n == 0x85 || n == 0xA0 || n == 0x1680 ||
  (0x2000 ≤ n && n ≤ 0x200A) || n == 0x2028 || n == 0x2029 || n == 0x202F ||
  n == 0x205F || n == 0x3000

/-- Drop the blanks in front. -/
def trimStart (cs : List Char) : List Char :=
  cs.dropWhile isBlank

/-- Drop the blanks at the end. -/
def trimEnd (cs : List Char) : List Char :=
  (cs.reverse.dropWhile isBlank).reverse

/-- Drop the blanks at both ends. -/
def trim (cs : List Char) : List Char :=
  trimEnd (trimStart cs)

/-- Whether a text holds nothing but blanks. -/
def isAllBlank (cs : List Char) : Bool :=
  cs.all isBlank

/-- What is left after `trimStart` begins with no blank. -/
theorem head?_trimStart (cs : List Char) {c : Char} (h : (trimStart cs).head? = some c) :
    isBlank c = false := by
  have := List.head?_dropWhile_not isBlank cs
  rw [trimStart] at h
  rw [h] at this
  simpa using this

/-- What is left after `trimEnd` ends in no blank. -/
theorem getLast?_trimEnd (cs : List Char) {c : Char} (h : (trimEnd cs).getLast? = some c) :
    isBlank c = false := by
  rw [trimEnd, List.getLast?_reverse] at h
  exact head?_trimStart cs.reverse h

/-- A text that holds nothing but blanks is trimmed to nothing. -/
theorem trimStart_eq_nil_iff (cs : List Char) : trimStart cs = [] ↔ isAllBlank cs = true := by
  induction cs with
  | nil => simp [trimStart, isAllBlank]
  | cons c cs ih =>
    simp only [trimStart, isAllBlank, List.dropWhile_cons, List.all_cons] at ih ⊢
    by_cases h : isBlank c = true <;> simp [h, ih]

end Admission.Text
