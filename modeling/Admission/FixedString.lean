import Admission.Text.Utf8

set_option autoImplicit false

/-!
# Strings of fixed capacity

A `FixedString n` is a length word and `n` bytes, so the same bytes mean the
same text in every process that maps them.  Writing cuts a text at the last
character boundary that fits and leaves the bytes behind it as they were;
reading clamps the length to the capacity and keeps the well-formed head, so
that a copy torn by a crash is cut and never trusted.
-/

namespace Admission

/-- A text of at most `capacity` bytes as it lies in shared memory. -/
structure FixedString (capacity : Nat) where
  /-- The recorded length, which a crashed writer may leave beyond the capacity. -/
  len : UInt16
  /-- The stored bytes, those behind the length included. -/
  bytes : List UInt8
  /-- There are as many bytes as the capacity says. -/
  length_bytes : bytes.length = capacity

namespace FixedString

variable {n : Nat}

instance : DecidableEq (FixedString n) := fun a b =>
  decidable_of_iff (a.len = b.len ∧ a.bytes = b.bytes) <| by
    cases a; cases b; simp

/-- The empty string of an all-zero mapping. -/
def empty (n : Nat) : FixedString n :=
  ⟨0, List.replicate n 0, List.length_replicate⟩

instance : Inhabited (FixedString n) := ⟨empty n⟩

/-- The most bytes a value can hold: the capacity, and what the length word can say. -/
def limit (n : Nat) : Nat :=
  min n (UInt16.size - 1)

/-- The part of a text that a string of this capacity holds. -/
def kept (n : Nat) (s : String) : List Char :=
  Text.Utf8.fitting (limit n) s.toList

/-- `new` written over the front of `old`; the bytes behind it stay. -/
def overwrite (new old : List UInt8) : List UInt8 :=
  (new ++ old.drop new.length).take old.length

theorem length_overwrite (new old : List UInt8) :
    (overwrite new old).length = old.length := by
  simp only [overwrite, List.length_take, List.length_append, List.length_drop]
  omega

/-- Store a text, cut at the last character boundary that fits. -/
def set (f : FixedString n) (s : String) : FixedString n :=
  let new := Text.Utf8.encode (kept n s)
  ⟨new.length.toUInt16, overwrite new f.bytes, by rw [length_overwrite, f.length_bytes]⟩

/-- Whether storing a text in a string of this capacity loses a part of it. -/
def truncates (n : Nat) (s : String) : Bool :=
  (kept n s).length < s.toList.length

/-- A new string that holds as much of the text as fits. -/
def truncating (n : Nat) (s : String) : FixedString n :=
  (empty n).set s

/-- Forget the text; its bytes stay. -/
def clear (f : FixedString n) : FixedString n :=
  { f with len := 0 }

/-- The text of the string: the well-formed head of the bytes the length covers. -/
def toList (f : FixedString n) : List Char :=
  Text.Utf8.wellFormedHead (f.bytes.take (min f.len.toNat n))

/-- The text of the string. -/
def toString (f : FixedString n) : String :=
  String.ofList f.toList

/-- Whether the recorded length is zero. -/
def isEmpty (f : FixedString n) : Bool :=
  f.len == 0

/-- Bytes put in place without regard to the length, as an interrupted copy does. -/
def poke (f : FixedString n) (start : Nat) (new : List UInt8) : FixedString n :=
  ⟨f.len, f.bytes.take start ++ overwrite new (f.bytes.drop start), by
    have := f.length_bytes
    simp only [List.length_append, List.length_take, length_overwrite, List.length_drop]
    omega⟩

/-- A length put in place without regard to the bytes. -/
def pokeLength (f : FixedString n) (len : UInt16) : FixedString n :=
  { f with len := len }

end FixedString

end Admission
