import Admission.Text.Utf8

set_option autoImplicit false

/-!
# Reading back what was written

`encode` followed by `wellFormedHead` gives the text back, and `fitting` keeps the
longest beginning of a text that takes no more bytes than it may.
-/

namespace Admission.Text.Utf8

/-! ## One character -/

theorem isScalar_toNat (c : Char) :
    c.toNat < 0xD800 ∨ (0xDFFF < c.toNat ∧ c.toNat ≤ 0x10FFFF) := by
  have h : c.toNat.isValidChar := c.valid
  simp only [Nat.isValidChar] at h
  omega

theorem scalar?_toNat {c : Char} {least : Nat} (h : least ≤ c.toNat) :
    scalar? least c.toNat = some c := by
  unfold scalar?
  rw [if_pos ⟨h, isScalar_toNat c⟩, Char.ofNat_toNat]

theorem payload?_zero (bits : Nat) (bs : List UInt8) : payload? 0 bits bs = some bits := rfl

/-- A continuation byte adds its six bits. -/
theorem payload?_continuation (count bits n : Nat) (rest : List UInt8) :
    payload? (count + 1) bits (UInt8.ofNat (n % 0x40 + 0x80) :: rest) =
      payload? count (bits * 0x40 + n % 0x40) rest := by
  have hb : (UInt8.ofNat (n % 0x40 + 0x80)).toNat = n % 0x40 + 0x80 := by
    rw [UInt8.toNat_ofNat']
    omega
  simp only [payload?, hb]
  rw [if_pos (by omega), Nat.add_sub_cancel]

/-- A written character is read back, whatever follows it. -/
theorem decodeChar?_encode (c : Char) (rest : List UInt8) :
    decodeChar? (String.utf8EncodeChar c ++ rest) = some c := by
  have hmax : c.toNat ≤ 0x10FFFF := by have := isScalar_toNat c; omega
  have hv : c.val.toNat = c.toNat := rfl
  -- One case for each length of the sequence; the lead byte tells it to the reader.
  unfold String.utf8EncodeChar
  simp only [hv]
  split
  · rename_i h
    have hb : (UInt8.ofNat c.toNat).toNat = c.toNat := by rw [UInt8.toNat_ofNat']; omega
    simp only [List.cons_append, List.nil_append, decodeChar?, hb]
    rw [if_pos (by omega), Char.ofNat_toNat]
  split
  · rename_i h
    have hb : (UInt8.ofNat (c.toNat / 64 % 0x20 + 0xc0)).toNat = c.toNat / 64 + 0xc0 := by
      rw [UInt8.toNat_ofNat']; omega
    simp only [List.cons_append, List.nil_append, decodeChar?, hb, payload?_continuation,
      payload?_zero]
    rw [if_neg (by omega), if_neg (by omega), if_pos (by omega), Option.bind_some,
      show (c.toNat / 64 + 0xc0 - 0xC0) * 0x40 + c.toNat % 0x40 = c.toNat by omega]
    exact scalar?_toNat (by omega)
  split
  · rename_i h
    have hb : (UInt8.ofNat (c.toNat / 4096 % 0x10 + 0xe0)).toNat = c.toNat / 4096 + 0xe0 := by
      rw [UInt8.toNat_ofNat']; omega
    simp only [List.cons_append, List.nil_append, decodeChar?, hb, payload?_continuation,
      payload?_zero]
    rw [if_neg (by omega), if_neg (by omega), if_neg (by omega), if_pos (by omega),
      Option.bind_some,
      show ((c.toNat / 4096 + 0xe0 - 0xE0) * 0x40 + c.toNat / 64 % 0x40) * 0x40 + c.toNat % 0x40 =
        c.toNat by omega]
    exact scalar?_toNat (by omega)
  · rename_i h
    have hb : (UInt8.ofNat (c.toNat / 262144 % 0x08 + 0xf0)).toNat = c.toNat / 262144 + 0xf0 := by
      rw [UInt8.toNat_ofNat']; omega
    simp only [List.cons_append, List.nil_append, decodeChar?, hb, payload?_continuation,
      payload?_zero]
    rw [if_neg (by omega), if_neg (by omega), if_neg (by omega), if_neg (by omega),
      if_pos (by omega), Option.bind_some,
      show (((c.toNat / 262144 + 0xf0 - 0xF0) * 0x40 + c.toNat / 4096 % 0x40) * 0x40 +
        c.toNat / 64 % 0x40) * 0x40 + c.toNat % 0x40 = c.toNat by omega]
    exact scalar?_toNat (by omega)

/-! ## Texts -/

@[simp] theorem encode_nil : encode [] = [] := rfl

@[simp] theorem encode_cons (c : Char) (cs : List Char) :
    encode (c :: cs) = String.utf8EncodeChar c ++ encode cs := rfl

theorem wellFormedHead_of_none {bs : List UInt8} (h : decodeChar? bs = none) :
    wellFormedHead bs = [] := by
  rw [wellFormedHead]
  split
  · rfl
  · rename_i c h'
    rw [h] at h'
    cases h'

theorem wellFormedHead_of_some {bs : List UInt8} {c : Char} (h : decodeChar? bs = some c) :
    wellFormedHead bs = c :: wellFormedHead (bs.drop c.utf8Size) := by
  rw [wellFormedHead]
  split
  · rename_i h'
    rw [h] at h'
    cases h'
  · rename_i c' h'
    rw [h] at h'
    cases h'
    rfl

/-- A written text is read back. -/
theorem wellFormedHead_encode (cs : List Char) : wellFormedHead (encode cs) = cs := by
  induction cs with
  | nil => exact wellFormedHead_of_none rfl
  | cons c cs ih =>
    have hdrop : (encode (c :: cs)).drop c.utf8Size = encode cs := by
      rw [encode_cons, ← String.length_utf8EncodeChar, List.drop_left]
    rw [encode_cons, wellFormedHead_of_some (decodeChar?_encode c (encode cs)), ← encode_cons,
      hdrop, ih]

/-! ## The part that fits -/

theorem length_encode_fitting_le (limit : Nat) (cs : List Char) :
    (encode (fitting limit cs)).length ≤ limit := by
  induction cs generalizing limit with
  | nil => simp [fitting]
  | cons c cs ih =>
    rw [fitting]
    split
    · have := ih (limit - c.utf8Size)
      rw [encode_cons, List.length_append, String.length_utf8EncodeChar]
      omega
    · simp

/-- A text that takes few enough bytes fits as a whole, and no other does. -/
theorem fitting_eq_self_iff {limit : Nat} {cs : List Char} :
    fitting limit cs = cs ↔ (encode cs).length ≤ limit := by
  constructor
  · intro h
    rw [← h]
    exact length_encode_fitting_le limit cs
  · induction cs generalizing limit with
    | nil => intro _; rfl
    | cons c cs ih =>
      intro h
      rw [encode_cons, List.length_append, String.length_utf8EncodeChar] at h
      rw [fitting, if_pos (by omega), ih (by omega)]

theorem fitting_begins (limit : Nat) (cs : List Char) : fitting limit cs <+: cs := by
  induction cs generalizing limit with
  | nil => exact List.prefix_rfl
  | cons c cs ih =>
    rw [fitting]
    split
    · exact List.cons_prefix_cons.mpr ⟨rfl, ih _⟩
    · exact List.nil_prefix

/-- No longer beginning of a text fits. -/
theorem fitting_longest {limit : Nat} {front cs : List Char} (h : front <+: cs)
    (hfits : (encode front).length ≤ limit) : front <+: fitting limit cs := by
  induction cs generalizing limit front with
  | nil => exact h
  | cons c cs ih =>
    cases front with
    | nil => exact List.nil_prefix
    | cons first front =>
      obtain ⟨rfl, hrest⟩ := List.cons_prefix_cons.mp h
      rw [encode_cons, List.length_append, String.length_utf8EncodeChar] at hfits
      rw [fitting, if_pos (by omega)]
      exact List.cons_prefix_cons.mpr ⟨rfl, ih hrest (by omega)⟩

theorem fitting_replicate {c : Char} (h : c.utf8Size = 1) (limit count : Nat) :
    fitting limit (List.replicate count c) = List.replicate (min limit count) c := by
  induction count generalizing limit with
  | zero => simp [fitting]
  | succ count ih =>
    rw [List.replicate_succ, fitting, h]
    split
    · rw [ih, ← List.replicate_succ]
      congr 1
      omega
    · rw [show min limit (count + 1) = 0 by omega, List.replicate_zero]

end Admission.Text.Utf8
