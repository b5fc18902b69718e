import Admission.Settings.Error
import Admission.Text.Blank

set_option autoImplicit false

/-!
# Skip lists

A skip list names the users or databases exempt from a hook.  It is written as
names separated by commas; a name in double quotes may hold commas and outer
blanks, and a quote in it is written twice.  Names match exactly.
-/

namespace Admission

/-- Names exempt from a hook. -/
structure SkipList where
  /-- The names, in the order they were written. -/
  entries : List String
  deriving DecidableEq, Repr, Inhabited

namespace SkipList

/-- The list that exempts nobody. -/
def empty : SkipList := ⟨[]⟩

/-- What can be wrong with a written list. -/
inductive Flaw where
  | unterminatedQuote
  | strayQuote
  | emptyName
  | expectedComma
  deriving DecidableEq, Repr

/-- The text shown for a flaw. -/
def Flaw.reason : Flaw → String
  | .unterminatedQuote => "unterminated quoted name"
  | .strayQuote => "quote inside an unquoted name"
  | .emptyName => "empty name in list"
  | .expectedComma => "expected ',' after quoted name"

/-- The body of a quoted name, behind its opening quote: the name, and what
follows its closing quote. -/
def quotedBody? : List Char → Option (List Char × List Char)
  | [] => none
  | '"' :: '"' :: cs => (quotedBody? cs).map fun (name, rest) => ('"' :: name, rest)
  | c :: cs =>
    if c = '"' then some ([], cs)
    else (quotedBody? cs).map fun (name, rest) => (c :: name, rest)

/-- The characters of a name without quotes: all up to the next comma. -/
def plainName (cs : List Char) : List Char :=
  cs.takeWhile (· ≠ ',')

/-- What follows a name without quotes: all from the next comma on. -/
def afterPlain (cs : List Char) : List Char :=
  cs.dropWhile (· ≠ ',')

/-- Read one name and the blanks around it. -/
def item (cs : List Char) : Except Flaw (List Char × List Char) :=
  match Text.trimStart cs with
  | '"' :: body =>
    match quotedBody? body with
    | none => .error .unterminatedQuote
    | some (name, rest) => .ok (name, Text.trimStart rest)
  | body =>
    if (plainName body).contains '"' then .error .strayQuote
    else .ok (Text.trimEnd (plainName body), afterPlain body)

theorem length_trimStart_le (cs : List Char) : (Text.trimStart cs).length ≤ cs.length :=
  (List.dropWhile_sublist _).length_le

theorem length_quotedBody?_le {cs name rest : List Char}
    (h : quotedBody? cs = some (name, rest)) : rest.length ≤ cs.length := by
  fun_induction quotedBody? cs generalizing name rest with
  | case1 => simp at h
  | case2 cs ih =>
    simp only [Option.map_eq_some_iff, Prod.exists, Prod.mk.injEq] at h
    obtain ⟨a, b, hab, -, rfl⟩ := h
    have := ih hab
    simp only [List.length_cons]; omega
  | case3 cs =>
    simp only [Option.some.injEq, Prod.mk.injEq] at h
    simp [h.2]
  | case4 c cs _ _ ih =>
    simp only [Option.map_eq_some_iff, Prod.exists, Prod.mk.injEq] at h
    obtain ⟨a, b, hab, -, rfl⟩ := h
    have := ih hab
    simp only [List.length_cons]; omega

/-- What follows an item is no longer than what it was read from. -/
theorem length_item_le {cs name rest : List Char} (h : item cs = .ok (name, rest)) :
    rest.length ≤ cs.length := by
  have ht := length_trimStart_le cs
  unfold item at h
  split at h
  · rename_i body hb
    split at h
    · simp at h
    · rename_i n r hq
      simp only [Except.ok.injEq, Prod.mk.injEq] at h
      have h1 := length_quotedBody?_le hq
      have h2 := length_trimStart_le r
      rw [h.2] at h2
      rw [hb, List.length_cons] at ht
      omega
  · split at h
    · simp at h
    · simp only [Except.ok.injEq, Prod.mk.injEq] at h
      have : (afterPlain (Text.trimStart cs)).length ≤ (Text.trimStart cs).length :=
        (List.dropWhile_sublist _).length_le
      rw [h.2] at this
      omega

/-- Read the names of a list that is not blank. -/
def items (cs : List Char) : Except Flaw (List (List Char)) :=
  match h : item cs with
  | .error flaw => .error flaw
  | .ok (name, rest) =>
    if name.isEmpty then .error .emptyName
    else
      match rest, length_item_le h with
      | [], _ => .ok [name]
      | c :: rest, hlt =>
        have : rest.length < cs.length := by simp only [List.length_cons] at hlt; omega
        if c = ',' then (items rest).map (name :: ·) else .error .expectedComma
termination_by cs.length

/-- Read a list; `setting` names the source in the error. -/
def parse (setting raw : String) : Except ConfigError SkipList :=
  if Text.isAllBlank raw.toList then .ok empty
  else
    match items raw.toList with
    | .ok names => .ok ⟨names.map String.ofList⟩
    | .error flaw => .error (.invalidSkipList setting flaw.reason)

/-- Whether a name is exempt: it equals one of the entries. -/
def contains (l : SkipList) (name : String) : Bool :=
  l.entries.any (· == name)

/-- Whether the list exempts nobody. -/
def isEmpty (l : SkipList) : Bool :=
  l.entries.isEmpty

theorem contains_iff {l : SkipList} {name : String} :
    l.contains name = true ↔ name ∈ l.entries := by
  simp [contains]

end SkipList

end Admission
