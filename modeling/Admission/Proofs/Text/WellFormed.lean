import Admission.Proofs.Text.Utf8

set_option autoImplicit false

/-!
# Which bytes are text

Well-formed bytes are told here by the ranges that their bytes lie in, without reading
a number out of them.  They are exactly the bytes that texts are written as, and who
reads up to where no character starts has the longest beginning of this kind.
-/

namespace Admission.Text.Utf8

/-! ## The ranges -/

/-- A byte that goes on with a character which another byte began. -/
def Continues (b : UInt8) : Prop :=
  0x80 ≤ b.toNat ∧ b.toNat < 0xC0

/-- The bytes of one character. -/
inductive Sequence : List UInt8 → Prop where
  | one {a : UInt8} : a.toNat < 0x80 → Sequence [a]
  /-- The leads 0xC0 and 0xC1 would begin longer forms of what takes one byte. -/
  | two {a b : UInt8} : 0xC2 ≤ a.toNat → a.toNat < 0xE0 → Continues b → Sequence [a, b]
  /-- Behind 0xE0 a small byte would make a longer form of what takes two bytes, and
  behind 0xED a large one a surrogate. -/
  | three {a b c : UInt8} : 0xE0 ≤ a.toNat → a.toNat < 0xF0 → Continues b → Continues c →
    (a.toNat = 0xE0 → 0xA0 ≤ b.toNat) → (a.toNat = 0xED → b.toNat < 0xA0) →
    Sequence [a, b, c]
  /-- Behind 0xF0 a small byte would make a longer form of what takes three bytes, and
  behind 0xF4 a large one a number above U+10FFFF, as every lead from 0xF5 on would. -/
  | four {a b c d : UInt8} : 0xF0 ≤ a.toNat → a.toNat < 0xF5 → Continues b → Continues c →
    Continues d → (a.toNat = 0xF0 → 0x90 ≤ b.toNat) → (a.toNat = 0xF4 → b.toNat < 0x90) →
    Sequence [a, b, c, d]

/-- Whole characters, one after another. -/
inductive WellFormed : List UInt8 → Prop where
  | nil : WellFormed []
  | cons {q rest : List UInt8} : Sequence q → WellFormed rest → WellFormed (q ++ rest)

/-- The longest beginning of some bytes that is well formed. -/
structure LongestText (bytes front : List UInt8) : Prop where
  begins : front <+: bytes
  wellFormed : WellFormed front
  longest : ∀ other : List UInt8, other <+: bytes → WellFormed other → other <+: front

/-! ## One character, written and read -/

theorem exists_toNat_eq {v : Nat} (h : v < 0xD800 ∨ (0xDFFF < v ∧ v ≤ 0x10FFFF)) :
    ∃ c : Char, c.toNat = v := by
  have hvalid : v.isValidChar := by
    simp only [Nat.isValidChar]
    omega
  refine ⟨Char.ofNat v, ?_⟩
  rw [Char.ofNat, dif_pos hvalid]
  rfl

theorem ofNat_eq {b : UInt8} {n : Nat} (h : n = b.toNat) : UInt8.ofNat n = b := by
  rw [h, UInt8.ofNat_toNat]

theorem encode_one {c : Char} {a : UInt8} (hv : c.toNat = a.toNat) (ha : a.toNat < 0x80) :
    String.utf8EncodeChar c = [a] := by
  have hc : c.val.toNat = c.toNat := rfl
  simp only [String.utf8EncodeChar, hc]
  rw [if_pos (by omega), ofNat_eq hv]

theorem encode_two {c : Char} {a b : UInt8} (ha : 0xC0 ≤ a.toNat) (ha' : a.toNat < 0xE0)
    (hb : Continues b) (hv : c.toNat = (a.toNat - 0xC0) * 0x40 + (b.toNat - 0x80))
    (hleast : 0x80 ≤ c.toNat) : String.utf8EncodeChar c = [a, b] := by
  have hc : c.val.toNat = c.toNat := rfl
  obtain ⟨hb, hb'⟩ := hb
  simp only [String.utf8EncodeChar, hc]
  rw [if_neg (by omega), if_pos (by omega), ofNat_eq (b := a) (by omega),
    ofNat_eq (b := b) (by omega)]

theorem encode_three {c : Char} {a b d : UInt8} (ha : 0xE0 ≤ a.toNat) (ha' : a.toNat < 0xF0)
    (hb : Continues b) (hd : Continues d)
    (hv : c.toNat = ((a.toNat - 0xE0) * 0x40 + (b.toNat - 0x80)) * 0x40 + (d.toNat - 0x80))
    (hleast : 0x800 ≤ c.toNat) : String.utf8EncodeChar c = [a, b, d] := by
  have hc : c.val.toNat = c.toNat := rfl
  obtain ⟨hb, hb'⟩ := hb
  obtain ⟨hd, hd'⟩ := hd
  simp only [String.utf8EncodeChar, hc]
  rw [if_neg (by omega), if_neg (by omega), if_pos (by omega), ofNat_eq (b := a) (by omega),
    ofNat_eq (b := b) (by omega), ofNat_eq (b := d) (by omega)]

theorem encode_four {c : Char} {a b d e : UInt8} (ha : 0xF0 ≤ a.toNat) (ha' : a.toNat < 0xF8)
    (hb : Continues b) (hd : Continues d) (he : Continues e)
    (hv : c.toNat = (((a.toNat - 0xF0) * 0x40 + (b.toNat - 0x80)) * 0x40 + (d.toNat - 0x80)) *
      0x40 + (e.toNat - 0x80))
    (hleast : 0x10000 ≤ c.toNat) : String.utf8EncodeChar c = [a, b, d, e] := by
  have hc : c.val.toNat = c.toNat := rfl
  obtain ⟨hb, hb'⟩ := hb
  obtain ⟨hd, hd'⟩ := hd
  obtain ⟨he, he'⟩ := he
  simp only [String.utf8EncodeChar, hc]
  rw [if_neg (by omega), if_neg (by omega), if_neg (by omega), ofNat_eq (b := a) (by omega),
    ofNat_eq (b := b) (by omega), ofNat_eq (b := d) (by omega), ofNat_eq (b := e) (by omega)]

/-- Every character is written as one sequence. -/
theorem sequence_encode (c : Char) : Sequence (String.utf8EncodeChar c) := by
  have hscalar := isScalar_toNat c
  have hc : c.val.toNat = c.toNat := rfl
  simp only [String.utf8EncodeChar, hc]
  split
  · apply Sequence.one
    rw [UInt8.toNat_ofNat']
    omega
  split
  · apply Sequence.two <;> simp only [Continues, UInt8.toNat_ofNat'] <;> omega
  split
  · apply Sequence.three <;> simp only [Continues, UInt8.toNat_ofNat'] <;> omega
  · apply Sequence.four <;> simp only [Continues, UInt8.toNat_ofNat'] <;> omega

/-- Every sequence is what some character is written as. -/
theorem Sequence.exists_eq {q : List UInt8} (h : Sequence q) :
    ∃ c : Char, String.utf8EncodeChar c = q := by
  cases h with
  | @one a ha =>
    obtain ⟨c, hv⟩ := exists_toNat_eq (v := a.toNat) (by omega)
    exact ⟨c, encode_one hv ha⟩
  | @two a b ha ha' hb =>
    have ⟨hblow, hbhigh⟩ := hb
    obtain ⟨c, hv⟩ := exists_toNat_eq
      (v := (a.toNat - 0xC0) * 0x40 + (b.toNat - 0x80)) (by omega)
    exact ⟨c, encode_two (by omega) ha' hb hv (by omega)⟩
  | @three a b d ha ha' hb hd hshort hsurrogate =>
    have ⟨hblow, hbhigh⟩ := hb
    have ⟨hdlow, hdhigh⟩ := hd
    obtain ⟨c, hv⟩ := exists_toNat_eq
      (v := ((a.toNat - 0xE0) * 0x40 + (b.toNat - 0x80)) * 0x40 + (d.toNat - 0x80)) (by omega)
    exact ⟨c, encode_three ha ha' hb hd hv (by omega)⟩
  | @four a b d e ha ha' hb hd he hshort hlarge =>
    have ⟨hblow, hbhigh⟩ := hb
    have ⟨hdlow, hdhigh⟩ := hd
    have ⟨helow, hehigh⟩ := he
    obtain ⟨c, hv⟩ := exists_toNat_eq
      (v := (((a.toNat - 0xF0) * 0x40 + (b.toNat - 0x80)) * 0x40 + (d.toNat - 0x80)) * 0x40 +
        (e.toNat - 0x80)) (by omega)
    exact ⟨c, encode_four ha (by omega) hb hd he hv (by omega)⟩

theorem scalar?_eq_some_iff {least v : Nat} {c : Char} :
    scalar? least v = some c ↔ least ≤ v ∧ c.toNat = v := by
  constructor
  · intro h
    rw [scalar?] at h
    split at h
    case isTrue hv =>
      obtain ⟨d, hd⟩ := exists_toNat_eq hv.2
      rw [← hd, Char.ofNat_toNat] at h
      cases h
      exact ⟨hv.1, hd⟩
    case isFalse => cases h
  · rintro ⟨hleast, rfl⟩
    exact scalar?_toNat hleast

/-- What continuation bytes spell is spelled by one after another. -/
theorem payload?_succ_eq_some {count bits v : Nat} {bs : List UInt8}
    (h : payload? (count + 1) bits bs = some v) :
    ∃ b rest, bs = b :: rest ∧ Continues b ∧
      payload? count (bits * 0x40 + (b.toNat - 0x80)) rest = some v := by
  cases bs with
  | nil => cases h
  | cons b rest =>
    rw [payload?] at h
    split at h
    case isTrue hb => exact ⟨b, rest, rfl, hb, h⟩
    case isFalse => cases h

theorem payload?_done {bits v : Nat} {bs : List UInt8} (h : payload? 0 bits bs = some v) :
    bits = v := by
  rw [payload?_zero] at h
  exact Option.some.inj h

theorem encode_begins {bs : List UInt8} {c : Char} (h : decodeChar? bs = some c) :
    String.utf8EncodeChar c <+: bs := by
  cases bs with
  | nil => cases h
  | cons a rest =>
    simp only [decodeChar?] at h
    split at h
    case isTrue ha =>
      obtain ⟨d, hv⟩ := exists_toNat_eq (v := a.toNat) (by omega)
      rw [← hv, Char.ofNat_toNat] at h
      cases h
      rw [encode_one hv ha]
      exact List.prefix_append [a] rest
    split at h
    case isTrue => cases h
    -- One case for each lead; the bytes behind it come out one after another.
    split at h
    case isTrue ha' =>
      obtain ⟨v, hpayload, hscalar⟩ := Option.bind_eq_some_iff.mp h
      obtain ⟨b, rest, rfl, hb, hpayload⟩ := payload?_succ_eq_some hpayload
      obtain ⟨hleast, hv⟩ := scalar?_eq_some_iff.mp hscalar
      cases payload?_done hpayload
      rw [encode_two (by omega) ha' hb hv (by omega)]
      exact List.prefix_append [a, b] rest
    split at h
    case isTrue ha' =>
      obtain ⟨v, hpayload, hscalar⟩ := Option.bind_eq_some_iff.mp h
      obtain ⟨b, rest, rfl, hb, hpayload⟩ := payload?_succ_eq_some hpayload
      obtain ⟨d, rest, rfl, hd, hpayload⟩ := payload?_succ_eq_some hpayload
      obtain ⟨hleast, hv⟩ := scalar?_eq_some_iff.mp hscalar
      cases payload?_done hpayload
      rw [encode_three (by omega) ha' hb hd hv (by omega)]
      exact List.prefix_append [a, b, d] rest
    split at h
    case isTrue ha' =>
      obtain ⟨v, hpayload, hscalar⟩ := Option.bind_eq_some_iff.mp h
      obtain ⟨b, rest, rfl, hb, hpayload⟩ := payload?_succ_eq_some hpayload
      obtain ⟨d, rest, rfl, hd, hpayload⟩ := payload?_succ_eq_some hpayload
      obtain ⟨e, rest, rfl, he, hpayload⟩ := payload?_succ_eq_some hpayload
      obtain ⟨hleast, hv⟩ := scalar?_eq_some_iff.mp hscalar
      cases payload?_done hpayload
      rw [encode_four (by omega) ha' hb hd he hv (by omega)]
      exact List.prefix_append [a, b, d, e] rest
    case isFalse => cases h

/-- A character is read exactly where it is written. -/
theorem decodeChar?_eq_some_iff {bs : List UInt8} {c : Char} :
    decodeChar? bs = some c ↔ String.utf8EncodeChar c <+: bs := by
  constructor
  · exact encode_begins
  · rintro ⟨rest, rfl⟩
    exact decodeChar?_encode c rest

/-! ## Texts -/

/-- Well formed is what texts are written as, and nothing else. -/
theorem wellFormed_iff {bs : List UInt8} : WellFormed bs ↔ ∃ cs, encode cs = bs := by
  constructor
  · intro h
    induction h with
    | nil => exact ⟨[], rfl⟩
    | cons hq _ ih =>
      obtain ⟨c, rfl⟩ := hq.exists_eq
      obtain ⟨cs, rfl⟩ := ih
      exact ⟨c :: cs, encode_cons c cs⟩
  · rintro ⟨cs, rfl⟩
    induction cs with
    | nil => exact WellFormed.nil
    | cons c cs ih =>
      rw [encode_cons]
      exact WellFormed.cons (sequence_encode c) ih

theorem encode_append (cs ds : List Char) : encode (cs ++ ds) = encode cs ++ encode ds := by
  simp only [encode, List.flatMap_append]

/-- What is read stands at the beginning. -/
theorem encode_wellFormedHead_begins (bs : List UInt8) : encode (wellFormedHead bs) <+: bs := by
  induction bs using wellFormedHead.induct with
  | case1 bs hnone =>
    rw [wellFormedHead_of_none hnone]
    exact List.nil_prefix
  | case2 bs c hsome _ ih =>
    obtain ⟨rest, rfl⟩ := decodeChar?_eq_some_iff.mp hsome
    rw [← String.length_utf8EncodeChar, List.drop_left] at ih
    rw [wellFormedHead_of_some hsome, encode_cons, ← String.length_utf8EncodeChar, List.drop_left]
    exact (List.prefix_append_right_inj _).mpr ih

/-- A text is read exactly where it is written. -/
theorem begins_wellFormedHead_iff {bs : List UInt8} {cs : List Char} :
    cs <+: wellFormedHead bs ↔ encode cs <+: bs := by
  constructor
  · rintro ⟨ds, hds⟩
    refine List.IsPrefix.trans ?_ (encode_wellFormedHead_begins bs)
    rw [← hds, encode_append]
    exact List.prefix_append _ _
  · intro h
    induction cs generalizing bs with
    | nil => exact List.nil_prefix
    | cons c cs ih =>
      obtain ⟨rest, rfl⟩ := h
      rw [encode_cons, List.append_assoc, wellFormedHead_of_some (decodeChar?_encode c _),
        ← String.length_utf8EncodeChar, List.drop_left]
      exact List.cons_prefix_cons.mpr ⟨rfl, ih (List.prefix_append _ _)⟩

/-- The reader keeps the longest beginning that is well formed. -/
theorem longestText_wellFormedHead (bs : List UInt8) :
    LongestText bs (encode (wellFormedHead bs)) where
  begins := encode_wellFormedHead_begins bs
  wellFormed := wellFormed_iff.mpr ⟨_, rfl⟩
  longest := by
    intro other hbegins hwell
    obtain ⟨cs, rfl⟩ := wellFormed_iff.mp hwell
    obtain ⟨ds, hds⟩ := begins_wellFormedHead_iff.mpr hbegins
    rw [← hds, encode_append]
    exact List.prefix_append _ _

/-- All of some bytes is read exactly if they are well formed. -/
theorem decode?_eq_some_iff {bs : List UInt8} {cs : List Char} :
    decode? bs = some cs ↔ encode cs = bs := by
  have hbegins := encode_wellFormedHead_begins bs
  simp only [decode?]
  constructor
  · intro h
    split at h
    case isTrue hlength =>
      cases h
      exact hbegins.eq_of_length hlength
    case isFalse => cases h
  · rintro rfl
    rw [wellFormedHead_encode, if_pos rfl]

end Admission.Text.Utf8
