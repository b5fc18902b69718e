set_option autoImplicit false

/-!
# Dictionaries

A finite map as a list of entries.  What counts is `get?`; the main statements
say what each operation does to it.
-/

namespace Admission

/-- A finite map. -/
structure Dict (κ α : Type) where
  /-- The entries; the first one with a key holds its value. -/
  entries : List (κ × α)

namespace Dict

variable {κ α : Type} [DecidableEq κ]

/-- The map without entries. -/
def empty : Dict κ α := ⟨[]⟩

instance : Inhabited (Dict κ α) := ⟨empty⟩

/-- The value of a key. -/
def get? (d : Dict κ α) (key : κ) : Option α :=
  d.entries.lookup key

/-- Whether a key has a value. -/
def contains (d : Dict κ α) (key : κ) : Bool :=
  (d.get? key).isSome

/-- The map without a key. -/
def erase (d : Dict κ α) (key : κ) : Dict κ α :=
  ⟨d.entries.filter fun e => e.1 ≠ key⟩

/-- The map with a key set to a value. -/
def insert (d : Dict κ α) (key : κ) (value : α) : Dict κ α :=
  ⟨(key, value) :: (d.erase key).entries⟩

@[simp] theorem get?_empty (key : κ) : (empty : Dict κ α).get? key = none := rfl

theorem lookup_cons_ne {key other : κ} (h : other ≠ key) (value : α) (rest : List (κ × α)) :
    ((key, value) :: rest).lookup other = rest.lookup other := by
  have hb : (other == key) = false := by simpa using h
  simp [List.lookup_cons, hb]

theorem lookup_filter_ne (entries : List (κ × α)) (key other : κ) :
    (entries.filter fun e => e.1 ≠ key).lookup other =
      if other = key then none else entries.lookup other := by
  induction entries with
  | nil => simp
  | cons e rest ih =>
    obtain ⟨k, v⟩ := e
    by_cases hk : k = key
    · subst hk
      rw [List.filter_cons_of_neg (by simp), ih]
      by_cases ho : other = k
      · simp [ho]
      · rw [if_neg ho, if_neg ho, lookup_cons_ne ho]
    · rw [List.filter_cons_of_pos (by simp [hk])]
      by_cases ho : other = k
      · subst ho
        simp [hk]
      · rw [lookup_cons_ne ho, lookup_cons_ne ho, ih]

@[simp] theorem get?_erase (d : Dict κ α) (key other : κ) :
    (d.erase key).get? other = if other = key then none else d.get? other :=
  lookup_filter_ne d.entries key other

@[simp] theorem get?_insert (d : Dict κ α) (key : κ) (value : α) (other : κ) :
    (d.insert key value).get? other = if other = key then some value else d.get? other := by
  by_cases ho : other = key
  · subst ho
    simp [insert, get?]
  · have h := get?_erase d key other
    simp only [get?, insert] at h ⊢
    rw [lookup_cons_ne ho, h]
    simp [ho]

end Dict

end Admission
