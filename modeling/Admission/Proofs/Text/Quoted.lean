import Admission.Text.Escaped

set_option autoImplicit false

/-!
# Reading quoted text and plain runs

Between double quotes, two equal characters of a class side by side stand for one, and the
first quote that is not doubled closes the text.  Where the quote is in the class this is
read in one way only: the reader finds the closing quote of every text that is written so,
and reads nothing else.  What is written without quotes is a run of characters of one class,
and is over at the first character that is not of the class.
-/

namespace Admission.Text

/-! ## The rule -/

/-- What may stand between two quotes, and the text it is for: a character of the class
stands there twice, and any other once. -/
inductive Between (twice : Char → Bool) : List Char → List Char → Prop where
  | nil : Between twice [] []
  | once {c : Char} {written text : List Char} (hc : twice c = false)
      (h : Between twice written text) : Between twice (c :: written) (c :: text)
  | doubled {c : Char} {written text : List Char} (hc : twice c = true)
      (h : Between twice written text) : Between twice (c :: c :: written) (c :: text)

/-- The text behind an opening quote, and what follows its closing quote. -/
def quotedText? (twice : Char → Bool) : List Char → Option (List Char × List Char)
  | [] => none
  | [c] => if c = '"' then some ([], []) else none
  | c :: next :: rest =>
    if twice c = false then
      (quotedText? twice (next :: rest)).map fun (text, after) => (c :: text, after)
    else if next = c then
      (quotedText? twice rest).map fun (text, after) => (c :: text, after)
    else if c = '"' then some ([], next :: rest)
    else none

/-- Doubling writes a text by the rule. -/
theorem between_doubled (twice : Char → Bool) (text : List Char) :
    Between twice (doubled twice text) text := by
  induction text with
  | nil => exact .nil
  | cons c text ih =>
    rw [doubled, List.flatMap_cons]
    cases hc : twice c with
    | false => exact .once hc ih
    | true => exact .doubled hc ih

/-- Only the doubled text is written by the rule for a text. -/
theorem Between.eq_doubled {twice : Char → Bool} {written text : List Char}
    (h : Between twice written text) : written = Text.doubled twice text := by
  induction h with
  | nil => rfl
  | once hc _ ih => simpa [Text.doubled, hc] using ih
  | doubled hc _ ih => simpa [Text.doubled, hc] using ih

/-! ## The reader -/

variable {twice : Char → Bool}

theorem quotedText?_once {c : Char} (hc : twice c = false) (hquote : twice '"' = true)
    (cs : List Char) :
    quotedText? twice (c :: cs) =
      (quotedText? twice cs).map fun (text, after) => (c :: text, after) := by
  cases cs with
  | nil =>
    have hne : c ≠ '"' := by
      rintro rfl
      rw [hquote] at hc
      cases hc
    simp [quotedText?, hne]
  | cons next rest => rw [quotedText?, if_pos hc]

theorem quotedText?_doubled {c : Char} (hc : twice c = true) (cs : List Char) :
    quotedText? twice (c :: c :: cs) =
      (quotedText? twice cs).map fun (text, after) => (c :: text, after) := by
  rw [quotedText?, hc, if_neg (by decide), if_pos rfl]

/-- A quote that is not doubled closes the text. -/
theorem quotedText?_close (hquote : twice '"' = true) {rest : List Char}
    (hrest : rest.head? ≠ some '"') : quotedText? twice ('"' :: rest) = some ([], rest) := by
  cases rest with
  | nil => rfl
  | cons next rest =>
    have hnext : next ≠ '"' := by
      rintro rfl
      exact hrest rfl
    rw [quotedText?, hquote, if_neg (by decide), if_neg hnext, if_pos rfl]

/-- What is written by the rule is read back, and nothing behind the closing quote is
touched. -/
theorem quotedText?_complete (hquote : twice '"' = true) {written text rest : List Char}
    (h : Between twice written text) (hrest : rest.head? ≠ some '"') :
    quotedText? twice (written ++ '"' :: rest) = some (text, rest) := by
  induction h with
  | nil => exact quotedText?_close hquote hrest
  | once hc _ ih => rw [List.cons_append, quotedText?_once hc hquote, ih, Option.map_some]
  | doubled hc _ ih =>
    rw [List.cons_append, List.cons_append, quotedText?_doubled hc, ih, Option.map_some]

/-- What is read is written by the rule, and the quote that closes it is not doubled. -/
theorem quotedText?_sound {cs text rest : List Char}
    (h : quotedText? twice cs = some (text, rest)) :
    ∃ written : List Char, cs = written ++ '"' :: rest ∧ Between twice written text ∧
      rest.head? ≠ some '"' := by
  fun_induction quotedText? twice cs generalizing text rest with
  | case1 => cases h
  | case2 =>
    cases h
    exact ⟨[], rfl, .nil, nofun⟩
  | case3 c hc => cases h
  | case4 c next cs hc ih =>
    obtain ⟨⟨text, rest⟩, hread, heq⟩ := Option.map_eq_some_iff.mp h
    cases heq
    obtain ⟨written, hcs, hbetween, hclose⟩ := ih hread
    exact ⟨c :: written, by rw [hcs, List.cons_append], .once hc hbetween, hclose⟩
  | case5 c cs hc ih =>
    obtain ⟨⟨text, rest⟩, hread, heq⟩ := Option.map_eq_some_iff.mp h
    cases heq
    obtain ⟨written, hcs, hbetween, hclose⟩ := ih hread
    rw [Bool.not_eq_false] at hc
    exact ⟨c :: c :: written, by rw [hcs, List.cons_append, List.cons_append],
      .doubled hc hbetween, hclose⟩
  | case6 next cs hc hnext =>
    cases h
    exact ⟨[], rfl, .nil, by simpa using hnext⟩
  | case7 c next cs hc hnext hclose => cases h

/-! ## Plain runs -/

/-- A run is taken up to where it is over, and what follows is left. -/
theorem span_run {p : Char → Bool} {run rest : List Char} (hrun : ∀ c ∈ run, p c = true)
    (hrest : ∀ c, rest.head? = some c → p c = false) :
    (run ++ rest).takeWhile p = run ∧ (run ++ rest).dropWhile p = rest := by
  rw [List.takeWhile_append_of_pos hrun, List.dropWhile_append_of_pos hrun]
  cases rest with
  | nil => simp
  | cons c rest => simp [hrest c rfl]

end Admission.Text
