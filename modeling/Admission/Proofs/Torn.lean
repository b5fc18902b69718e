import Admission.Proofs.FixedString
import Admission.Proofs.Text.WellFormed
import Admission.Slot.Basic

set_option autoImplicit false

/-!
# Torn strings

A writer copies the bytes of a text and notes how many there are, and it may die at any
point of that.  Whoever reads the string then, with whatever length and bytes are in
it, has the longest beginning of the covered bytes that is text, which is the written
text once all of it has arrived.
-/

namespace Admission

namespace FixedString

variable {n : Nat}

/-- The bytes that the recorded length covers, as far as there are any. -/
def covered (f : FixedString n) : List UInt8 :=
  f.bytes.take (min f.len.toNat n)

/-- The text takes no more bytes than the capacity and is the longest one that the
covered bytes begin with. -/
structure Salvages (f : FixedString n) (t : String) : Prop where
  longest : Text.Utf8.LongestText f.covered (Text.Utf8.encode t.toList)
  fits : t.utf8ByteSize ≤ n

theorem length_covered_le (f : FixedString n) : f.covered.length ≤ n := by
  rw [covered, List.length_take]
  omega

/-- No length and no bytes are trusted. -/
theorem salvages_toString (f : FixedString n) : f.Salvages f.toString := by
  have hlongest : Text.Utf8.LongestText f.covered (Text.Utf8.encode f.toString.toList) := by
    rw [toString, String.toList_ofList]
    exact Text.Utf8.longestText_wellFormedHead f.covered
  refine ⟨hlongest, ?_⟩
  calc f.toString.utf8ByteSize
      = (Text.Utf8.encode f.toString.toList).length := (length_encode_toList _).symm
    _ ≤ f.covered.length := hlongest.begins.length_le
    _ ≤ n := f.length_covered_le

/-! ## What a writer leaves -/

/-- The bytes that a string of this capacity keeps of `s`. -/
def written (n : Nat) (s : String) : List UInt8 :=
  Text.Utf8.encode (kept n s)

/-- The second string is the first one while `s` is stored in it: pieces of the text
arrive in their places, in any order, and the length at any time. -/
inductive Writing (s : String) (f : FixedString n) : FixedString n → Prop where
  | begun : Writing s f f
  | copied {g : FixedString n} (start count : Nat) : Writing s f g →
    Writing s f (g.poke start (((written n s).drop start).take count))
  | measured {g : FixedString n} : Writing s f g →
    Writing s f (g.pokeLength (written n s).length.toUInt16)

/-- All that the string keeps of `s` is in place. -/
structure Arrived (s : String) (g : FixedString n) : Prop where
  len_eq : g.len = (written n s).length.toUInt16
  begins : written n s <+: g.bytes

theorem set_eq (f : FixedString n) (s : String) :
    f.set s = (f.poke 0 (written n s)).pokeLength (written n s).length.toUInt16 := rfl

/-- Storing is one way of writing, and by its end all has arrived. -/
theorem writing_set (f : FixedString n) (s : String) :
    Writing s f (f.set s) ∧ Arrived s (f.set s) := by
  refine ⟨?_, rfl, begins_set f s⟩
  have hcopied := Writing.begun.copied (s := s) (f := f) 0 (written n s).length
  rw [List.drop_zero, List.take_length] at hcopied
  rw [set_eq]
  exact hcopied.measured

theorem getElem?_overwrite (new old : List UInt8) (i : Nat) :
    (overwrite new old)[i]? = if i < new.length ∧ i < old.length then new[i]? else old[i]? := by
  rw [overwrite, List.getElem?_take]
  by_cases hold : i < old.length
  · by_cases hnew : i < new.length
    · rw [if_pos hold, if_pos ⟨hnew, hold⟩, List.getElem?_append_left hnew]
    · rw [if_pos hold, if_neg (fun h => hnew h.1), List.getElem?_append_right (by omega),
        List.getElem?_drop]
      congr 1
      omega
  · rw [if_neg hold, if_neg (fun h => hold h.2), List.getElem?_eq_none (by omega)]

theorem getElem?_poke (f : FixedString n) (start : Nat) (new : List UInt8) (i : Nat) :
    (f.poke start new).bytes[i]? =
      if start ≤ i ∧ i < start + new.length ∧ i < n then new[i - start]? else f.bytes[i]? := by
  have hlength := f.length_bytes
  have hpoked := (f.poke start new).length_bytes
  by_cases hn : i < n
  · by_cases hstart : start ≤ i
    · simp only [poke]
      rw [List.getElem?_append_right (by rw [List.length_take]; omega), List.length_take,
        Nat.min_eq_left (by omega), getElem?_overwrite, List.length_drop, List.getElem?_drop,
        Nat.add_sub_cancel' hstart]
      split
      · rw [if_pos (by omega)]
      · rw [if_neg (by omega)]
    · simp only [poke]
      rw [List.getElem?_append_left (by rw [List.length_take]; omega), List.getElem?_take,
        if_pos (by omega), if_neg (by omega)]
  · rw [if_neg (by omega), List.getElem?_eq_none (by omega), List.getElem?_eq_none (by omega)]

/-- The length of the third string, and every byte of it, is that of the first one or that
of the second one. -/
structure Mixes (f f' g : FixedString n) : Prop where
  len : g.len = f.len ∨ g.len = f'.len
  bytes : ∀ i : Nat, g.bytes[i]? = f.bytes[i]? ∨ g.bytes[i]? = f'.bytes[i]?

/-- While a text is stored, what is there mixes what was there with what will be. -/
theorem Writing.mixes {s : String} {f g : FixedString n} (h : Writing s f g) :
    Mixes f (f.set s) g := by
  induction h with
  | begun => exact ⟨Or.inl rfl, fun _ => Or.inl rfl⟩
  | @copied g start count _ ih =>
    refine ⟨ih.len, fun i => ?_⟩
    rw [getElem?_poke]
    split
    case isTrue hin =>
      right
      rw [set_eq]
      simp only [pokeLength, getElem?_poke, List.length_take, List.length_drop] at hin ⊢
      rw [if_pos (by omega), List.getElem?_take_of_lt (by omega), List.getElem?_drop]
      congr 1
      omega
    case isFalse => exact ih.bytes i
  | measured _ ih => exact ⟨Or.inr rfl, ih.bytes⟩

/-- What has arrived is read, whatever the string was before. -/
theorem Arrived.toString_eq {s : String} {g : FixedString n} (h : Arrived s g) :
    g.toString = cut n s := by
  have hlen : g.len.toNat = (written n s).length := by
    rw [h.len_eq]
    exact toNat_length_kept n s
  rw [toString, toList_of_begins hlen h.begins, cut]

/-- The string reads as what can be saved of it, whatever is in it, and so it does while a
text is stored in it; once all of the text has arrived, it reads as that text, cut at the
last character that fits. -/
structure Legible (f : FixedString n) : Prop where
  salvages : f.Salvages f.toString
  torn : ∀ (s : String) (g : FixedString n), Writing s f g →
    Mixes f (f.set s) g ∧ g.Salvages g.toString
  whole : ∀ (s : String) (g : FixedString n), Writing s f g → Arrived s g →
    LongestFront (limit n) s g.toString
  arrives : ∀ s : String, Writing s f (f.set s) ∧ Arrived s (f.set s)

end FixedString

namespace Slot

/-- Each text that a worker copies from the slot, and the message that a client reads, is
what can be saved of its string. -/
structure Legible (s : Slot) : Prop where
  host : s.connection.host.Salvages s.request.connection.host
  hostname : s.connection.hostname.Salvages s.request.connection.hostname
  database : s.connection.database.Salvages s.request.connection.database
  user : s.connection.user.Salvages s.request.connection.user
  message : ∀ reason : String, s.result? = some reason → s.message.Salvages reason

end Slot

/-- Strings of every capacity are legible, and so is every slot, whatever lies in it. -/
theorem torn_texts_cut :
    (∀ (n : Nat) (f : FixedString n), f.Legible) ∧ ∀ s : Slot, s.Legible := by
  refine ⟨fun n f => ⟨f.salvages_toString, ?torn, ?whole, f.writing_set⟩, fun s => ?slot⟩
  case torn =>
    intro s g hwriting
    exact ⟨hwriting.mixes, g.salvages_toString⟩
  case whole =>
    intro s g _ harrived
    rw [harrived.toString_eq]
    exact FixedString.longestFront_cut n s
  case slot =>
    have hmessage : ∀ reason : String, s.result? = some reason → s.message.Salvages reason := by
      intro reason h
      rw [Slot.result?] at h
      split at h
      case isTrue =>
        cases h
        exact s.message.salvages_toString
      case isFalse => cases h
    exact ⟨s.connection.host.salvages_toString, s.connection.hostname.salvages_toString,
      s.connection.database.salvages_toString, s.connection.user.salvages_toString, hmessage⟩

end Admission
