set_option autoImplicit false

/-!
# UTF-8 on lists of bytes

Text crosses shared memory as bytes, and a writer that dies half way may leave
any bytes behind.  `encode` writes characters, `decodeChar?` reads one complete
well-formed sequence, and `wellFormedHead` keeps the characters read before the
first byte that starts none.  `fitting` is the part of a text that fits a number
of bytes without cutting a character in two.
-/

namespace Admission.Text.Utf8

/-- The bytes of a text. -/
def encode (cs : List Char) : List UInt8 :=
  cs.flatMap String.utf8EncodeChar

/-- The number spelled by `count` continuation bytes `10xxxxxx` after the bits
already read. -/
def payload? : Nat → Nat → List UInt8 → Option Nat
  | 0, bits, _ => some bits
  | _ + 1, _, [] => none
  | count + 1, bits, b :: rest =>
    if 0x80 ≤ b.toNat ∧ b.toNat < 0xC0 then
      payload? count (bits * 0x40 + (b.toNat - 0x80)) rest
    else
      none

/-- The character of a scalar value that is not below `least`, the smallest one
its length may spell. -/
def scalar? (least n : Nat) : Option Char :=
  if least ≤ n ∧ (n < 0xD800 ∨ (0xDFFF < n ∧ n ≤ 0x10FFFF)) then some (Char.ofNat n) else none

/-- Read one character: a complete sequence in its shortest form, no surrogate
and nothing above U+10FFFF. -/
def decodeChar? : List UInt8 → Option Char
  | [] => none
  | b :: rest =>
    let lead := b.toNat
    if lead < 0x80 then some (Char.ofNat lead)
    else if lead < 0xC0 then none
    else if lead < 0xE0 then (payload? 1 (lead - 0xC0) rest).bind (scalar? 0x80)
    else if lead < 0xF0 then (payload? 2 (lead - 0xE0) rest).bind (scalar? 0x800)
    else if lead < 0xF8 then (payload? 3 (lead - 0xF0) rest).bind (scalar? 0x10000)
    else none

/-- What follows a character that was read is shorter. -/
theorem length_sub_lt {bs : List UInt8} {c : Char} (h : decodeChar? bs = some c) :
    bs.length - c.utf8Size < bs.length := by
  cases bs with
  | nil => simp [decodeChar?] at h
  | cons b bs =>
    have := c.utf8Size_pos
    simp only [List.length_cons]
    omega

/-- The characters of a byte sequence up to the first byte that starts no
well-formed character. -/
def wellFormedHead (bs : List UInt8) : List Char :=
  match h : decodeChar? bs with
  | none => []
  | some c =>
    have : bs.length - c.utf8Size < bs.length := length_sub_lt h
    c :: wellFormedHead (bs.drop c.utf8Size)
termination_by bs.length

/-- The text of a byte sequence, if all of it is well formed. -/
def decode? (bs : List UInt8) : Option (List Char) :=
  let cs := wellFormedHead bs
  if (encode cs).length = bs.length then some cs else none

/-- The longest beginning of a text that takes at most `limit` bytes. -/
def fitting : Nat → List Char → List Char
  | _, [] => []
  | limit, c :: cs =>
    if c.utf8Size ≤ limit then c :: fitting (limit - c.utf8Size) cs else []

end Admission.Text.Utf8
