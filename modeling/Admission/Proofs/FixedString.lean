import Admission.FixedString
import Admission.Proofs.Text.Utf8

set_option autoImplicit false

/-!
# What a string of fixed capacity keeps

A string reads back as the part of the text that fits, whatever was in it before.
-/

namespace Admission.FixedString

variable {n : Nat}

/-- The text that a string of this capacity keeps of `s`. -/
def cut (n : Nat) (s : String) : String :=
  String.ofList (kept n s)

theorem length_encode_kept_le (n : Nat) (s : String) :
    (Text.Utf8.encode (kept n s)).length ≤ limit n :=
  Text.Utf8.length_encode_fitting_le _ _

theorem take_overwrite {new old : List UInt8} (h : new.length ≤ old.length) :
    (overwrite new old).take new.length = new := by
  rw [overwrite, List.take_take, Nat.min_eq_left h, List.take_left]

/-- The length word can say how many bytes are kept. -/
theorem toNat_length_kept (n : Nat) (s : String) :
    (Text.Utf8.encode (kept n s)).length.toUInt16.toNat =
      (Text.Utf8.encode (kept n s)).length := by
  have hlen := length_encode_kept_le n s
  simp only [limit, UInt16.size] at hlen
  exact UInt16.toNat_ofNat_of_lt' (by simp only [UInt16.size]; omega)

/-- What is stored stands at the front. -/
theorem begins_set (f : FixedString n) (s : String) :
    Text.Utf8.encode (kept n s) <+: (f.set s).bytes := by
  have hfits : (Text.Utf8.encode (kept n s)).length ≤ f.bytes.length := by
    rw [f.length_bytes]
    exact Nat.le_trans (length_encode_kept_le n s) (Nat.min_le_left _ _)
  have htake := take_overwrite hfits
  rw [← htake]
  exact List.take_prefix _ _

/-- A text at the front is read, if the recorded length is its own. -/
theorem toList_of_begins {f : FixedString n} {cs : List Char}
    (hlen : f.len.toNat = (Text.Utf8.encode cs).length)
    (hbegins : Text.Utf8.encode cs <+: f.bytes) : f.toList = cs := by
  have hfits : (Text.Utf8.encode cs).length ≤ n := f.length_bytes ▸ hbegins.length_le
  rw [toList, hlen, Nat.min_eq_left hfits, ← List.prefix_iff_eq_take.mp hbegins,
    Text.Utf8.wellFormedHead_encode]

theorem toList_set (f : FixedString n) (s : String) : (f.set s).toList = kept n s :=
  toList_of_begins (toNat_length_kept n s) (begins_set f s)

@[simp] theorem toString_set (f : FixedString n) (s : String) : (f.set s).toString = cut n s := by
  rw [toString, toList_set, cut]

/-- What is forgotten reads as nothing, though its bytes are still there. -/
@[simp] theorem toString_clear (f : FixedString n) : f.clear.toString = "" := by
  have hnothing : f.clear.toList = Text.Utf8.wellFormedHead (Text.Utf8.encode []) := by
    simp [toList, clear, Text.Utf8.encode]
  rw [toString, hnothing, Text.Utf8.wellFormedHead_encode]

theorem length_encode_toList (s : String) :
    (Text.Utf8.encode s.toList).length = s.utf8ByteSize := by
  rw [← String.size_toByteArray, ← String.ofList_toList (s := s), String.toByteArray_ofList,
    String.toList_ofList, List.utf8Encode, List.size_toByteArray, Text.Utf8.encode]

/-- A text that takes few enough bytes is kept as a whole, and no other is. -/
theorem cut_eq_self_iff {s : String} : cut n s = s ↔ s.utf8ByteSize ≤ limit n := by
  rw [cut, ← length_encode_toList, ← Text.Utf8.fitting_eq_self_iff, kept]
  constructor
  · intro h
    simpa using congrArg String.toList h
  · intro h
    rw [h, String.ofList_toList]

/-- `front` is the longest beginning of `s`, a whole number of characters, that takes no
more bytes than it may. -/
structure LongestFront (limit : Nat) (s front : String) : Prop where
  begins : front.toList <+: s.toList
  fits : front.utf8ByteSize ≤ limit
  longest : ∀ other : String, other.toList <+: s.toList → other.utf8ByteSize ≤ limit →
    other.toList <+: front.toList

/-- What a string keeps of a text is the longest beginning that fits. -/
theorem longestFront_cut (n : Nat) (s : String) : LongestFront (limit n) s (cut n s) := by
  refine ⟨?_, ?_, fun other hbegins hfits => ?_⟩
  · rw [cut, String.toList_ofList]
    exact Text.Utf8.fitting_begins _ _
  · rw [← length_encode_toList, cut, String.toList_ofList]
    exact length_encode_kept_le n s
  · rw [← length_encode_toList] at hfits
    rw [cut, String.toList_ofList]
    exact Text.Utf8.fitting_longest hbegins hfits

/-! ## Storing again -/

/-- What is kept is kept as a whole. -/
theorem cut_cut (n : Nat) (s : String) : cut n (cut n s) = cut n s :=
  cut_eq_self_iff.mpr (longestFront_cut n s).fits

theorem overwrite_overwrite (new old : List UInt8) :
    overwrite new (overwrite new old) = overwrite new old := by
  have hrest : (overwrite new old).drop new.length = old.drop new.length := by
    rw [overwrite, List.drop_take, List.drop_left, List.take_of_length_le (by simp)]
  calc overwrite new (overwrite new old)
      = (new ++ (overwrite new old).drop new.length).take (overwrite new old).length := rfl
    _ = overwrite new old := by rw [hrest, length_overwrite, overwrite]

/-- To store what is kept already leaves every byte as it is. -/
@[simp] theorem set_cut (f : FixedString n) (s : String) :
    (f.set s).set (cut n s) = f.set s := by
  have hkept : kept n (cut n s) = kept n s := by
    have hcut := congrArg String.toList (cut_cut n s)
    simpa only [cut, String.toList_ofList] using hcut
  have hbytes := overwrite_overwrite (Text.Utf8.encode (kept n s)) f.bytes
  simp only [set, hkept, hbytes]

/-- A loss is reported exactly if another text than the given one is there afterwards. -/
theorem truncates_iff (f : FixedString n) (s : String) :
    truncates n s = true ↔ (f.set s).toString ≠ s := by
  have hbegins : kept n s <+: s.toList := Text.Utf8.fitting_begins _ _
  have hwhole : cut n s = s ↔ kept n s = s.toList := by
    rw [cut, ← String.toList_inj, String.toList_ofList]
  rw [truncates, decide_eq_true_iff, toString_set, Ne, hwhole]
  constructor
  · intro hlt heq
    rw [heq] at hlt
    exact Nat.lt_irrefl _ hlt
  · intro hne
    refine Nat.lt_of_le_of_ne hbegins.length_le fun hlength => hne ?_
    exact hbegins.eq_of_length hlength

end Admission.FixedString
