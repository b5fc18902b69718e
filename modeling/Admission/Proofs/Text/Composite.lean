import Admission.Proofs.Text.Quoted

set_option autoImplicit false

/-!
# Composite literals

A composite literal is fields between parentheses with commas between them.  A field is a
text between double quotes, in which a doubled quote or a doubled backslash stands for one,
or a run of other characters; a field with nothing in it, which stands for a null, is not
read here.  Commas and parentheses between quotes are part of the text.
The main statement is that the reader takes exactly these literals, and gives each the
fields that it has by the rules; so a literal has its fields in one way only.
-/

namespace Admission.Text.Composite

/-! ## The rules -/

/-- The characters that stand doubled between quotes. -/
def isPaired (c : Char) : Bool :=
  c = '"' || c = '\\'

/-- The characters of a field without quotes. -/
def isBare (c : Char) : Bool :=
  !(c = ',' || c = '(' || c = ')' || c = '"' || c = '\\')

/-- What may stand between two commas, and the text it is for. -/
inductive Field : List Char → List Char → Prop where
  /-- A text between double quotes. -/
  | quoted {written text : List Char} (h : Between isPaired written text) :
      Field ('"' :: written ++ ['"']) text
  /-- A run of other characters, for itself. -/
  | bare {run : List Char} (hne : run ≠ []) (h : ∀ c ∈ run, isBare c = true) : Field run run

/-- Fields with single commas between them, and their texts. -/
inductive Fields : List Char → List (List Char) → Prop where
  | last {written text : List Char} (h : Field written text) : Fields written [text]
  | more {written text rest : List Char} {texts : List (List Char)} (h : Field written text)
      (hrest : Fields rest texts) : Fields (written ++ ',' :: rest) (text :: texts)

/-- The literal is fields between parentheses, and has these texts. -/
def Literal (literal : List Char) (texts : List (List Char)) : Prop :=
  ∃ written : List Char, literal = '(' :: written ++ [')'] ∧ Fields written texts

/-- A field is over here: a comma follows, or the parenthesis at the end. -/
def Ends (rest : List Char) : Prop :=
  rest = [')'] ∨ ∃ more : List Char, rest = ',' :: more

theorem Ends.not_bare {rest : List Char} (h : Ends rest) :
    ∀ c, rest.head? = some c → isBare c = false := by
  rcases h with rfl | ⟨more, rfl⟩ <;> rintro c ⟨⟩ <;> rfl

theorem Ends.head?_ne_quote {rest : List Char} (h : Ends rest) : rest.head? ≠ some '"' := by
  rcases h with rfl | ⟨more, rfl⟩ <;> simp

/-! ## One field -/

/-- The text of the first field, and what follows the field. -/
def field? : List Char → Option (List Char × List Char)
  | '"' :: cs => quotedText? isPaired cs
  | cs =>
    if cs.takeWhile isBare = [] then none
    else some (cs.takeWhile isBare, cs.dropWhile isBare)

theorem field?_quoted (cs : List Char) : field? ('"' :: cs) = quotedText? isPaired cs := rfl

theorem field?_bare {cs : List Char} (h : cs.takeWhile isBare ≠ []) :
    field? cs = some (cs.takeWhile isBare, cs.dropWhile isBare) := by
  unfold field?
  split
  · exact absurd rfl h
  · rw [if_neg h]

/-- A field is read up to where it ends. -/
theorem field?_complete {written text rest : List Char} (h : Field written text)
    (hrest : Ends rest) : field? (written ++ rest) = some (text, rest) := by
  cases h with
  | quoted h =>
    rw [List.cons_append, List.cons_append, List.append_assoc, field?_quoted]
    exact quotedText?_complete rfl h hrest.head?_ne_quote
  | bare hne h =>
    obtain ⟨htake, hdrop⟩ := span_run h hrest.not_bare
    rw [field?_bare (by rwa [htake]), htake, hdrop]

/-- What is read as a field is one. -/
theorem field?_sound {cs text rest : List Char} (h : field? cs = some (text, rest)) :
    ∃ written : List Char, cs = written ++ rest ∧ Field written text := by
  unfold field? at h
  split at h
  · obtain ⟨written, rfl, hbetween, -⟩ := quotedText?_sound h
    exact ⟨'"' :: written ++ ['"'], by simp, .quoted hbetween⟩
  · rename_i cs _
    split at h
    · cases h
    · rename_i hne
      cases h
      exact ⟨_, List.takeWhile_append_dropWhile.symm,
        .bare hne (List.all_eq_true.mp List.all_takeWhile)⟩

/-- What follows a field is no longer than what it was read from. -/
theorem length_field?_le {cs text rest : List Char} (h : field? cs = some (text, rest)) :
    rest.length ≤ cs.length := by
  obtain ⟨written, rfl, -⟩ := field?_sound h
  simp

/-! ## All fields -/

/-- The texts of the fields up to the parenthesis at the end. -/
def fields? (cs : List Char) : Option (List (List Char)) :=
  match h : field? cs with
  | none => none
  | some (text, rest) =>
    match rest, length_field?_le h with
    | [], _ => none
    | c :: rest, hle =>
      have : rest.length < cs.length := by simp only [List.length_cons] at hle; omega
      if c = ',' then (fields? rest).map (text :: ·)
      else if c = ')' ∧ rest = [] then some [text]
      else none
termination_by cs.length

/-- The texts of the fields of a literal. -/
def literal? : List Char → Option (List (List Char))
  | '(' :: cs => fields? cs
  | _ => none

theorem fields?_last {cs text : List Char} (h : field? cs = some (text, [')'])) :
    fields? cs = some [text] := by
  rw [fields?]
  split
  · rename_i hnone
    rw [h] at hnone
    cases hnone
  · rename_i hread
    rw [h] at hread
    cases hread
    rfl

theorem fields?_more {cs text rest : List Char} (h : field? cs = some (text, ',' :: rest)) :
    fields? cs = (fields? rest).map (text :: ·) := by
  rw [fields?]
  split
  · rename_i hnone
    rw [h] at hnone
    cases hnone
  · rename_i hread
    rw [h] at hread
    cases hread
    rfl

theorem fields?_complete {written : List Char} {texts : List (List Char)}
    (h : Fields written texts) : fields? (written ++ [')']) = some texts := by
  induction h with
  | last h => exact fields?_last (field?_complete h (.inl rfl))
  | @more written text rest texts h _ ih =>
    have hread :
        field? (written ++ ',' :: rest ++ [')']) = some (text, ',' :: (rest ++ [')'])) := by
      rw [List.append_assoc, List.cons_append]
      exact field?_complete h (.inr ⟨_, rfl⟩)
    rw [fields?_more hread, ih, Option.map_some]

theorem fields?_sound {cs : List Char} {texts : List (List Char)} (h : fields? cs = some texts) :
    ∃ written : List Char, cs = written ++ [')'] ∧ Fields written texts := by
  fun_induction fields? cs generalizing texts with
  | case1 => cases h
  | case2 => cases h
  | case3 cs text rest _ hread _ _ ih =>
    obtain ⟨texts, hrest, rfl⟩ := Option.map_eq_some_iff.mp h
    obtain ⟨field, rfl, hfield⟩ := field?_sound hread
    obtain ⟨written, rfl, hfields⟩ := ih hrest
    exact ⟨field ++ ',' :: written, by simp, .more hfield hfields⟩
  | case4 cs text c rest _ hread _ _ hclose =>
    obtain ⟨rfl, rfl⟩ := hclose
    cases h
    obtain ⟨field, rfl, hfield⟩ := field?_sound hread
    exact ⟨field, rfl, .last hfield⟩
  | case5 => cases h

/-- The reader takes the literals of the rules, with their texts. -/
theorem literal?_eq_some_iff {literal : List Char} {texts : List (List Char)} :
    literal? literal = some texts ↔ Literal literal texts := by
  constructor
  · intro h
    unfold literal? at h
    split at h
    · obtain ⟨written, rfl, hfields⟩ := fields?_sound h
      exact ⟨written, rfl, hfields⟩
    · cases h
  · rintro ⟨written, rfl, hfields⟩
    exact fields?_complete hfields

/-- A literal has its texts in one way only. -/
theorem Literal.unique {literal : List Char} {texts texts' : List (List Char)}
    (h : Literal literal texts) (h' : Literal literal texts') : texts = texts' := by
  rw [← literal?_eq_some_iff] at h h'
  rw [h] at h'
  exact Option.some.inj h'

end Admission.Text.Composite
