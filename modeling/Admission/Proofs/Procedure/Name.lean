import Admission.Procedure.Name
import Admission.Proofs.Text.Quoted

set_option autoImplicit false

/-!
# Reading procedure names

A procedure is called by an identifier, a dot and another identifier.  An identifier is plain
or a text between double quotes, which the first quote that is not doubled closes; dots,
spaces and quotes may be in it.  However the two parts of a name are written, each plain or
quoted, the reader has them back from the whole text, so two names are written alike only if
they are the same.
-/

namespace Admission.QualifiedName

open Text (Between between_doubled quotedText? quotedText?_complete quotedText?_sound span_run)

/-! ## The rules -/

/-- The characters of a plain identifier. -/
def isWord (c : Char) : Bool :=
  c.isLower || c.isDigit || c = '_' || c = '$'

/-- Whether a plain identifier may start with this character of it. -/
def mayStart (c : Char) : Bool :=
  !c.isDigit && c ≠ '$'

/-- What is written for an identifier, and the name it is for. -/
inductive Identifier : List Char → List Char → Prop where
  /-- A run of word characters, for itself. -/
  | plain {c : Char} {cs : List Char} (hstart : mayStart c = true)
      (hword : ∀ d ∈ c :: cs, isWord d = true) : Identifier (c :: cs) (c :: cs)
  /-- A text between double quotes, not empty. -/
  | quoted {written name : List Char} (h : Between (· = '"') written name) (hne : name ≠ []) :
      Identifier ('"' :: written ++ ['"']) name

/-- The text is an identifier for the schema, a dot and an identifier for the name. -/
def Spells (text schema name : List Char) : Prop :=
  ∃ first second : List Char,
    text = first ++ '.' :: second ∧ Identifier first schema ∧ Identifier second name

/-! ## The reader -/

/-- The identifier at the front of a text, and what follows it. -/
def identifier? : List Char → Option (List Char × List Char)
  | [] => none
  | c :: cs =>
    if c = '"' then (quotedText? (· = '"') cs).filter fun (name, _) => name ≠ []
    else if mayStart c && isWord c then
      some ((c :: cs).takeWhile isWord, (c :: cs).dropWhile isWord)
    else none

/-- The schema and the name, if the whole text is read. -/
def readName? (text : List Char) : Option (List Char × List Char) :=
  match identifier? text with
  | some (schema, '.' :: second) =>
    match identifier? second with
    | some (name, []) => some (schema, name)
    | _ => none
  | _ => none

/-! ## One identifier -/

/-- An identifier is over here: the text ends, or a dot follows. -/
def Ends (rest : List Char) : Prop :=
  rest = [] ∨ ∃ more : List Char, rest = '.' :: more

theorem Ends.not_word {rest : List Char} (h : Ends rest) :
    ∀ c, rest.head? = some c → isWord c = false := by
  rcases h with rfl | ⟨more, rfl⟩ <;> rintro c ⟨⟩
  rfl

theorem Ends.head?_ne_quote {rest : List Char} (h : Ends rest) : rest.head? ≠ some '"' := by
  rcases h with rfl | ⟨more, rfl⟩ <;> simp

theorem ne_quote_of_isWord {c : Char} (h : isWord c = true) : c ≠ '"' := by
  rintro rfl
  cases h

/-- An identifier is read up to where it ends. -/
theorem identifier?_complete {written name rest : List Char} (h : Identifier written name)
    (hrest : Ends rest) : identifier? (written ++ rest) = some (name, rest) := by
  cases h with
  | @plain c cs hstart hword =>
    have hc : isWord c = true := hword c List.mem_cons_self
    obtain ⟨htake, hdrop⟩ := span_run hword hrest.not_word
    rw [List.cons_append] at htake hdrop ⊢
    rw [identifier?, if_neg (ne_quote_of_isWord hc), hstart, hc, htake, hdrop]
    rfl
  | @quoted written _ h hne =>
    rw [List.cons_append, List.cons_append, List.append_assoc, identifier?, if_pos rfl]
    have hread := quotedText?_complete (by rfl) h hrest.head?_ne_quote
    rw [List.cons_append, List.nil_append, hread, Option.filter_some, if_pos (by simpa using hne)]

/-- What is read as an identifier is one. -/
theorem identifier?_sound {cs name rest : List Char} (h : identifier? cs = some (name, rest)) :
    ∃ written : List Char, cs = written ++ rest ∧ Identifier written name := by
  cases cs with
  | nil => cases h
  | cons c cs =>
    rw [identifier?] at h
    split at h
    · rename_i hquote
      obtain ⟨hread, hne⟩ := Option.filter_eq_some_iff.mp h
      obtain ⟨written, rfl, hbetween, -⟩ := quotedText?_sound hread
      exact ⟨'"' :: written ++ ['"'], by simp [hquote], .quoted hbetween (by simpa using hne)⟩
    · split at h
      · rename_i hfirst
        rw [Bool.and_eq_true] at hfirst
        have hrun : (c :: cs).takeWhile isWord = c :: cs.takeWhile isWord := by
          rw [List.takeWhile_cons, hfirst.2, if_pos rfl]
        have hword : ∀ d ∈ (c :: cs).takeWhile isWord, isWord d = true :=
          List.all_eq_true.mp List.all_takeWhile
        cases h
        refine ⟨_, List.takeWhile_append_dropWhile.symm, ?_⟩
        rw [hrun] at hword ⊢
        exact .plain hfirst.1 hword
      · cases h

/-! ## The whole name -/

/-- The reader takes the texts of the rules, with their schema and name. -/
theorem readName?_eq_some_iff {text schema name : List Char} :
    readName? text = some (schema, name) ↔ Spells text schema name := by
  constructor
  · intro h
    unfold readName? at h
    split at h
    · rename_i schema' second hfirst
      split at h
      · rename_i name' hsecond
        cases h
        obtain ⟨first, rfl, hschema⟩ := identifier?_sound hfirst
        obtain ⟨second, rfl, hname⟩ := identifier?_sound hsecond
        exact ⟨first, second, by simp, hschema, hname⟩
      · cases h
    · cases h
  · rintro ⟨first, second, rfl, hschema, hname⟩
    have hfirst := identifier?_complete hschema (.inr ⟨second, rfl⟩)
    have hsecond := identifier?_complete hname (.inl rfl)
    rw [List.append_nil] at hsecond
    simp only [readName?, hfirst, hsecond]

/-! ## Writing -/

theorem isWord_of_isPlainRest {c : Char} (h : isPlainRest c = true) : isWord c = true := h

/-- Lower-case letters come after the digits and after `$`. -/
theorem mayStart_of_isLower {c : Char} (h : c.isLower = true) : mayStart c = true := by
  have hrange : 'a'.val.toNat ≤ c.val.toNat :=
    UInt32.le_iff_toNat_le.mp (of_decide_eq_true (Bool.and_eq_true_iff.mp h).1)
  have hdigit : c.isDigit = false := by
    rw [Char.isDigit, Bool.and_eq_false_iff]
    right
    rw [decide_eq_false_iff_not, UInt32.le_iff_toNat_le]
    intro hle
    exact absurd (Nat.le_trans hrange hle) (by decide)
  have hdollar : c ≠ '$' := by
    rintro rfl
    cases h
  simp [mayStart, hdigit, hdollar]

theorem isWord_of_isLower {c : Char} (h : c.isLower = true) : isWord c = true := by
  simp [isWord, h]

/-- What a plain identifier of the writer starts with, one of the rules may start with. -/
theorem isPlainStart_word {c : Char} (h : isPlainStart c = true) :
    mayStart c = true ∧ isWord c = true := by
  simp only [isPlainStart, Bool.or_eq_true, decide_eq_true_eq] at h
  rcases h with h | rfl
  · exact ⟨mayStart_of_isLower h, isWord_of_isLower h⟩
  · exact ⟨rfl, rfl⟩

/-- A part of a name is written as an identifier for it. -/
theorem identifier_quotePart {part : List Char} (h : part ≠ []) :
    Identifier (quotePart part) part := by
  unfold quotePart
  split
  · rename_i hplain
    cases part with
    | nil => cases hplain
    | cons c cs =>
      rw [isPlain, Bool.and_eq_true] at hplain
      obtain ⟨hstart, hword⟩ := isPlainStart_word hplain.1
      refine .plain hstart fun d hd => ?_
      rcases List.mem_cons.mp hd with rfl | hd
      · exact hword
      · exact isWord_of_isPlainRest (List.all_eq_true.mp hplain.2 d hd)
  · exact .quoted (between_doubled _ part) h

theorem toList_ne_nil {part : String} (h : NamePart.Present part) : part.toList ≠ [] := by
  intro hnil
  exact h (String.toList_eq_nil_iff.mp hnil)

theorem spells_quoted (n : QualifiedName) :
    Spells n.quoted.toList n.schema.toList n.name.toList := by
  rw [quoted, String.toList_ofList]
  exact ⟨_, _, rfl, identifier_quotePart (toList_ne_nil n.schema_ok.1),
    identifier_quotePart (toList_ne_nil n.name_ok.1)⟩

theorem readName?_quoted (n : QualifiedName) :
    readName? n.quoted.toList = some (n.schema.toList, n.name.toList) :=
  readName?_eq_some_iff.mpr n.spells_quoted

/-! ## Accepted names -/

theorem checkPart_of_ok (feature : Feature) {part : String}
    (h : NamePart.Present part ∧ NamePart.Safe part) : checkPart feature part = .ok ⟨h⟩ := by
  rw [checkPart, dif_pos h.1, dif_pos h.2]

/-- The names that entries of the catalog give are all names, each from its own parts. -/
theorem of?_eq_ok_iff {feature : Feature} {schema name : String} {n : QualifiedName} :
    of? feature schema name = .ok n ↔ n.schema = schema ∧ n.name = name := by
  constructor
  · intro h
    unfold of? at h
    cases hschema : checkPart feature schema with
    | error e =>
      rw [hschema] at h
      cases h
    | ok =>
      rw [hschema] at h
      cases hname : checkPart feature name with
      | error e =>
        rw [hname] at h
        cases h
      | ok =>
        rw [hname] at h
        cases h
        exact ⟨rfl, rfl⟩
  · rintro ⟨rfl, rfl⟩
    rw [of?, checkPart_of_ok feature n.schema_ok, checkPart_of_ok feature n.name_ok]
    rfl

/-! ## No two names alike -/

/-- The reader goes by the rules of identifiers.  Of every accepted name it reads the whole
text, as the schema and the name that were accepted, and two accepted names are written alike
exactly if their schemas and their names are equal. -/
theorem quoted_unambiguous :
    (∀ text schema name : List Char,
      readName? text = some (schema, name) ↔ Spells text schema name) ∧
    (∀ (feature : Feature) (schema name : String) (n : QualifiedName),
      of? feature schema name = .ok n →
        readName? n.quoted.toList = some (schema.toList, name.toList)) ∧
    ∀ (feature feature' : Feature) (schema name schema' name' : String) (n n' : QualifiedName),
      of? feature schema name = .ok n → of? feature' schema' name' = .ok n' →
        (n.quoted = n'.quoted ↔ schema = schema' ∧ name = name') := by
  refine ⟨fun _ _ _ => readName?_eq_some_iff, ?_, ?_⟩
  · intro feature schema name n hn
    obtain ⟨rfl, rfl⟩ := of?_eq_ok_iff.mp hn
    exact n.readName?_quoted
  · intro feature feature' schema name schema' name' n n' hn hn'
    obtain ⟨rfl, rfl⟩ := of?_eq_ok_iff.mp hn
    obtain ⟨rfl, rfl⟩ := of?_eq_ok_iff.mp hn'
    constructor
    · intro h
      have hread := n.readName?_quoted
      rw [h, n'.readName?_quoted] at hread
      simpa [eq_comm, String.toList_inj] using hread
    · rintro ⟨hschema, hname⟩
      rw [quoted, quoted, hschema, hname]

/-- A dot in the schema is not the dot before the name. -/
theorem quoted_unambiguous_dotted :
    ∃ n n' : QualifiedName,
      of? .clientauth "a.b" "c" = .ok n ∧ of? .clientauth "a" "b.c" = .ok n' ∧
        readName? n.quoted.toList = some ("a.b".toList, "c".toList) ∧
        ¬(n.quoted = n'.quoted) := by
  let n : QualifiedName := ⟨"a.b", "c", by decide +kernel, by decide +kernel⟩
  let n' : QualifiedName := ⟨"a", "b.c", by decide +kernel, by decide +kernel⟩
  have hn : of? .clientauth "a.b" "c" = .ok n := of?_eq_ok_iff.mpr ⟨rfl, rfl⟩
  have hn' : of? .clientauth "a" "b.c" = .ok n' := of?_eq_ok_iff.mpr ⟨rfl, rfl⟩
  refine ⟨n, n', hn, hn', quoted_unambiguous.2.1 _ _ _ n hn, ?_⟩
  rw [quoted_unambiguous.2.2 _ _ _ _ _ _ n n' hn hn']
  decide

end Admission.QualifiedName
